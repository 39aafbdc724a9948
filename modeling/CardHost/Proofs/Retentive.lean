import CardHost.Proofs.Latching
import CardHost.Proofs.SimulatedCommands

namespace CardHost

open Bus

def Register.isShared (offset : Nat) : Bool := offset == Register.mode || offset == Register.slot

theorem Register.shared_cases {offset : Nat} (shared : Register.isShared offset = true) :
    offset = Register.mode ∨ offset = Register.slot := by
  simpa [isShared] using shared

/-- The shared registers read back as they were written last. Besides, only a reset may change them. -/
class Retentive (H : Type) [Hardware H] : Prop where
  after_read (h : H) (offset : Nat) {r : Nat} (shared : Register.isShared r = true) :
    (Hardware.read (Hardware.read h offset).2 r).1 = (Hardware.read h r).1
  after_write (h : H) (mapped : Option Bytes) {offset : Nat} {value : UInt32}
    (steady : (Access.write offset value).resets = false) {r : Nat}
    (shared : Register.isShared r = true) :
    (Hardware.read (Hardware.write h mapped offset value).1 r).1 =
      if offset = r then value else (Hardware.read h r).1
  after_load (h : H) (loaded : Bool) (bytes : Bytes) (direction : Direction) {r : Nat}
    (shared : Register.isShared r = true) :
    (Hardware.read (Hardware.load h loaded bytes direction).2 r).1 = (Hardware.read h r).1
  after_sync (h : H) (point : SyncPoint) {r : Nat} (shared : Register.isShared r = true) :
    (Hardware.read (Hardware.sync h point) r).1 = (Hardware.read h r).1
  after_unload (h : H) {r : Nat} (shared : Register.isShared r = true) :
    (Hardware.read (Hardware.unload h) r).1 = (Hardware.read h r).1

namespace Scripted

theorem read_shared (s : Scripted) {r : Nat} (shared : Register.isShared r = true) :
    s.read r = s.registers.get r := by
  rcases Register.shared_cases shared with rfl | rfl <;> rfl

instance : Retentive Scripted where
  after_read _ _ _ _ := rfl
  after_write s mapped offset value _ r shared := by
    change (s.write offset value).read r = if offset = r then value else s.read r
    rw [read_shared _ shared, read_shared _ shared]
    have other : r ≠ Register.enable ∧ r ≠ Register.disable := by
      rcases Register.shared_cases shared with rfl | rfl <;> decide
    unfold write
    split
    · next h => rw [if_neg (h ▸ other.1.symm)]
    · split
      · next h => rw [if_neg (h ▸ other.2.symm)]
      · rw [RegisterFile.get_set]
        simp only [eq_comm]
  after_load s _ _ _ r shared := by
    change ((Hardware.load s _ _ _).2 : Scripted).read r = s.read r
    simp only [Hardware.load]
    split <;> rfl
  after_sync _ _ _ _ := rfl
  after_unload _ _ _ := rfl

end Scripted

namespace Simulator

section

variable {offset : Nat} (low : offset < Register.response)

include low

theorem Streams.register {s s' : Simulator} (h : s.Streams s') : s'.register offset = s.register offset := by
  induction h with
  | spend _ d _ ih =>
    have apart : offset ≠ d.count ∧ offset ≠ d.pointer := by
      cases d <;> exact ⟨Nat.ne_of_lt (Nat.lt_trans low (by decide)), Nat.ne_of_lt (Nat.lt_trans low (by decide))⟩
    rw [register_setRegister, if_neg apart.1, register_setRegister, if_neg apart.2, ih]
  | refl => rfl
  | hold _ _ _ _ _ ih => exact ih
  | read _ _ ih => exact ih
  | write _ _ ih => exact ih
  | latch _ _ ih => exact ih

theorem register_issue (s : Simulator) (word : UInt32) (mapped : Option Bytes) :
    (s.issue word mapped).1.register offset = s.register offset :=
  issue_induction (p := fun s' => s'.register offset = s.register offset)
    (fun _ _ responds => responds.register (.inl low)) mapped
    fun s' same => ((s'.streams_startData word mapped).register low).trans same

theorem register_switchChannels (s : Simulator) (value : UInt32) (mapped : Option Bytes) :
    (s.switchChannels value mapped).1.register offset = s.register offset :=
  switchChannels_induction (p := fun s' => s'.register offset = s.register offset) rfl (fun _ _ _ h => h)
    (fun _ _ streams h => (streams.register low).trans h) value mapped

end

theorem read_shared (s : Simulator) {r : Nat} (shared : Register.isShared r = true) :
    s.read r = s.register r := by
  rcases Register.shared_cases shared with rfl | rfl <;> rfl

theorem write_shared (s : Simulator) (mapped : Option Bytes) {offset : Nat} {value : UInt32}
    (steady : (Access.write offset value).resets = false) {r : Nat}
    (shared : Register.isShared r = true) :
    (s.write mapped offset value).1.register r = if offset = r then value else s.register r := by
  have low : r < Register.response := by
    rcases Register.shared_cases shared with rfl | rfl <;> decide
  by_cases own : Register.isShared offset = true
  · have stored : (s.write mapped offset value).1 = s.setRegister offset value := by
      rcases Register.shared_cases own with rfl | rfl <;> rfl
    rw [stored, register_setRegister]
    simp only [eq_comm]
  · have other : offset ≠ r := by
      rintro rfl
      exact own shared
    rw [if_neg other]
    have written := s.written mapped offset value
    generalize s.write mapped offset value = after at written ⊢
    cases written with
    | resets reset =>
      have resets : (Access.write Register.control value).resets = true := reset
      cases steady.symm.trans resets
    | issues => rw [register_issue low, register_setRegister, if_neg other.symm]
    | switches => exact register_switchChannels low s value mapped
    | stores => rw [register_setRegister, if_neg other.symm]
    | _ => rfl

instance : Retentive Simulator where
  after_read _ _ _ _ := rfl
  after_write s mapped offset value steady r shared := by
    change (s.write mapped offset value).1.read r = if offset = r then value else s.read r
    rw [read_shared _ shared, read_shared _ shared]
    exact s.write_shared mapped steady shared
  after_load s loaded bytes _ r shared := by
    change (s.load loaded bytes.length).2.read r = s.read r
    rw [read_shared _ shared, read_shared _ shared]
    unfold load
    split
    · rfl
    · split
      · rfl
      · split <;> rfl
  after_sync _ _ _ _ := rfl
  after_unload _ _ _ := rfl

end Simulator

def storedAfter (r : Nat) (value : UInt32) : Access → UInt32
  | .write offset written => if offset = r then written else value
  | _ => value

def Access.spares : Access → Bool
  | .write offset value => !Register.isShared offset && !(Access.write offset value).resets
  | _ => true

theorem spares_of_serves {l : List Access} (h : l.all Access.serves = true) :
    l.all Access.spares = true :=
  Access.all_of_serves (fun _ => rfl) (fun _ => rfl) rfl (fun _ _ => rfl) (fun _ _ _ => rfl)
    (fun _ => rfl) rfl h

theorem resets_of_spares {l : List Access} (spared : l.all Access.spares = true) :
    l.any Access.resets = false := by
  rw [List.any_eq_false]
  intro access member
  have kind := List.all_eq_true.mp spared access member
  cases access with
  | write offset value =>
    rw [Access.spares, Bool.and_eq_true, Bool.not_eq_true', Bool.not_eq_true'] at kind
    rw [kind.2]
    exact Bool.false_ne_true
  | _ => exact Bool.false_ne_true

theorem storedAfter_spared {access : Access} (spared : access.spares = true) {r : Nat}
    (shared : Register.isShared r = true) (value : UInt32) : storedAfter r value access = value := by
  cases access with
  | write offset written =>
    rw [Access.spares, Bool.and_eq_true, Bool.not_eq_true'] at spared
    refine if_neg ?_
    rintro rfl
    rw [shared] at spared
    cases spared.1
  | _ => rfl

theorem foldl_storedAfter_spared {l : List Access} (spared : l.all Access.spares = true) {r : Nat}
    (shared : Register.isShared r = true) (value : UInt32) : l.foldl (storedAfter r) value = value := by
  induction l with
  | nil => rfl
  | cons access rest ih =>
    obtain ⟨first, others⟩ := Bool.and_eq_true_iff.mp spared
    rw [List.foldl_cons, storedAfter_spared first shared]
    exact ih others

namespace Bus

variable {H : Type} [Hardware H] {b b' : Bus H} {l : List Access} {r : Nat}

def stored (b : Bus H) (r : Nat) : UInt32 := (b.read r).1

variable [Retentive H]

theorem stored_read (b : Bus H) (offset : Nat) (shared : Register.isShared r = true) :
    (b.read offset).2.stored r = b.stored r :=
  Retentive.after_read b.hardware offset shared

theorem stored_write (b : Bus H) {offset : Nat} {value : UInt32}
    (steady : (Access.write offset value).resets = false) (shared : Register.isShared r = true) :
    (b.write offset value).stored r = if offset = r then value else b.stored r := by
  rw [stored, read, (b.write_frame offset value).2.2]
  exact Retentive.after_write b.hardware b.mapped steady shared

namespace Performs

theorem stored (h : Performs b l b') (steady : l.any Access.resets = false)
    (shared : Register.isShared r = true) : b'.stored r = l.foldl (storedAfter r) (b.stored r) := by
  induction h with
  | done => rfl
  | @read b _ rest offset _ ih =>
    exact (ih steady).trans (congrArg (rest.foldl (storedAfter r)) (b.stored_read offset shared))
  | @write b _ _ offset value _ ih =>
    rw [List.any_cons, Bool.or_eq_false_iff] at steady
    rw [ih steady.2, b.stored_write steady.1 shared, List.foldl_cons, storedAfter]
  | @load b _ rest buffer length direction _ ih =>
    refine (ih steady).trans (congrArg (rest.foldl (storedAfter r)) ?_)
    rw [Bus.stored, Bus.read, b.load_hardware]
    exact Retentive.after_load _ _ _ _ shared
  | @sync b _ rest point _ ih =>
    exact (ih steady).trans
      (congrArg (rest.foldl (storedAfter r)) (Retentive.after_sync b.hardware point shared))
  | @unload b _ rest _ ih =>
    exact (ih steady).trans
      (congrArg (rest.foldl (storedAfter r)) (Retentive.after_unload b.hardware shared))
  | edit memory alike _ ih => exact ih steady

theorem stored_spared (h : Performs b l b') (spared : l.all Access.spares = true)
    (shared : Register.isShared r = true) : b'.stored r = b.stored r := by
  rw [h.stored (resets_of_spares spared) shared, foldl_storedAfter_spared spared shared]

omit [Retentive H] in
theorem read_stored {value : UInt32} (h : Performs b (.read r value :: l) b') : value = b.stored r := by
  generalize hall : Access.read r value :: l = all at h
  induction h with
  | edit memory alike _ ih => exact ih hall
  | read offset _ =>
    obtain ⟨hread, -⟩ := List.cons.inj hall
    cases hread
    rfl
  | done => cases hall
  | write => cases hall
  | load => cases hall
  | sync => cases hall
  | unload => cases hall

end Performs

end Bus

end CardHost
