import CardHost.Controller.Client
import CardHost.Hardware.Recorder
/-!
The accesses that lead from one state of a bus to another. Between two accesses the processor may work
on the memory, as long as it keeps the buffers at their lengths.
-/
namespace CardHost

namespace Memory

def Alike (m m' : Memory) : Prop :=
  m'.buffers.size = m.buffers.size ∧ ∀ id, (m'.get id).length = (m.get id).length

theorem Alike.refl (m : Memory) : m.Alike m := ⟨rfl, fun _ => rfl⟩

theorem Alike.trans {m m' m'' : Memory} (h : m.Alike m') (h' : m'.Alike m'') : m.Alike m'' :=
  ⟨h'.1.trans h.1, fun id => (h'.2 id).trans (h.2 id)⟩

theorem lt_of_length {m : Memory} {id : BufferId} (h : 0 < (m.get id).length) :
    id < m.buffers.size := by
  apply Decidable.byContradiction
  intro hle
  rw [get, Array.getElem?_eq_none (Nat.le_of_not_lt hle)] at h
  exact Nat.lt_irrefl 0 h

theorem alike_set (m : Memory) (id : BufferId) (bytes : Bytes)
    (h : bytes.length = (m.get id).length) : m.Alike (m.set id bytes) := by
  refine ⟨by simp [set], fun j => ?_⟩
  rw [get_set]
  split
  · next hj => rw [h, hj.1]
  · rfl

end Memory

namespace Bus

variable {H : Type} [Hardware H]

omit [Hardware H] in
theorem fill_frame {b b' : Bus H} {bytes : Bytes} {n : Nat} (h : b.fill bytes = some (n, b')) :
    b.memory.Alike b'.memory ∧ b'.mapping = b.mapping ∧ b'.hardware = b.hardware := by
  simp only [fill, Option.map_eq_some_iff] at h
  obtain ⟨m, -, hm⟩ := h
  obtain ⟨-, rfl⟩ := Prod.mk.inj hm
  exact ⟨Memory.alike_set _ _ _ (Bytes.length_overlay _ _), rfl, rfl⟩

theorem write_frame (b : Bus H) (offset : Nat) (value : UInt32) :
    b.memory.Alike (b.write offset value).memory ∧
      (b.write offset value).mapping = b.mapping ∧
      (b.write offset value).hardware = (Hardware.write b.hardware b.mapped offset value).1 := by
  unfold write
  dsimp only
  split
  · next hw =>
    obtain ⟨moved, -, hm⟩ := Option.bind_eq_some_iff.mp hw
    exact fill_frame hm
  · exact ⟨Memory.Alike.refl _, rfl, rfl⟩

theorem load_memory (b : Bus H) (buffer : BufferId) (length : Nat) (direction : Direction) :
    (b.load buffer length direction).2.memory = b.memory := by
  unfold load
  dsimp only
  split <;> rfl

theorem load_mapping (b : Bus H) (buffer : BufferId) (length : Nat) (direction : Direction) :
    (b.load buffer length direction).2.mapping =
      match (b.load buffer length direction).1 with
      | .ok _ => some ⟨buffer, length⟩
      | .error _ => b.mapping := by
  unfold load
  dsimp only
  cases Hardware.load b.hardware b.mapping.isSome ((b.memory.get buffer).take length) direction with
  | mk result hardware => cases result <;> rfl

theorem load_hardware (b : Bus H) (buffer : BufferId) (length : Nat) (direction : Direction) :
    (b.load buffer length direction).2.hardware =
      (Hardware.load b.hardware b.mapping.isSome ((b.memory.get buffer).take length) direction).2 := by
  unfold load
  dsimp only
  split <;> next h => rw [h]

inductive Performs : Bus H → List Access → Bus H → Prop
  | done (b : Bus H) : Performs b [] b
  | read {b b' : Bus H} {l : List Access} (offset : Nat) (next : Performs (b.read offset).2 l b') :
    Performs b (.read offset (b.read offset).1 :: l) b'
  | write {b b' : Bus H} {l : List Access} (offset : Nat) (value : UInt32)
    (next : Performs (b.write offset value) l b') : Performs b (.write offset value :: l) b'
  | load {b b' : Bus H} {l : List Access} (buffer : BufferId) (length : Nat) (direction : Direction)
    (next : Performs (b.load buffer length direction).2 l b') :
    Performs b (.load ((b.memory.get buffer).take length) direction
      (b.load buffer length direction).1 :: l) b'
  | sync {b b' : Bus H} {l : List Access} (point : SyncPoint) (next : Performs (b.sync point) l b') :
    Performs b (.sync point :: l) b'
  | unload {b b' : Bus H} {l : List Access} (next : Performs b.unload l b') :
    Performs b (.unload :: l) b'
  | edit {b b' : Bus H} {l : List Access} (memory : Memory) (alike : b.memory.Alike memory)
    (next : Performs { b with memory } l b') : Performs b l b'

namespace Performs

variable {b b' b'' : Bus H} {l l' : List Access}

theorem trans (h : Performs b l b') (h' : Performs b' l' b'') : Performs b (l ++ l') b'' := by
  induction h with
  | done => exact h'
  | read offset _ ih => exact .read offset (ih h')
  | write offset value _ ih => exact .write offset value (ih h')
  | load buffer length direction _ ih => exact .load buffer length direction (ih h')
  | sync point _ ih => exact .sync point (ih h')
  | unload _ ih => exact .unload (ih h')
  | edit memory alike _ ih => exact .edit memory alike (ih h')

theorem alike (h : Performs b l b') : b.memory.Alike b'.memory := by
  induction h with
  | done => exact Memory.Alike.refl _
  | read offset _ ih => exact ih
  | @write b _ _ offset value _ ih => exact (b.write_frame offset value).1.trans ih
  | @load b _ _ buffer length direction _ ih => rwa [b.load_memory] at ih
  | sync point _ ih => exact ih
  | unload _ ih => exact ih
  | edit memory alike _ ih => exact alike.trans ih

theorem head {access : Access} (h : Performs b (access :: l) b'') :
    ∃ b', Performs b [access] b' ∧ Performs b' l b'' := by
  generalize hall : access :: l = all at h
  induction h with
  | done => cases hall
  | edit memory alike _ ih =>
    obtain ⟨b', h, h'⟩ := ih hall
    exact ⟨b', .edit memory alike h, h'⟩
  | read offset next =>
    obtain ⟨rfl, rfl⟩ := List.cons.inj hall
    exact ⟨_, .read offset (.done _), next⟩
  | write offset value next =>
    obtain ⟨rfl, rfl⟩ := List.cons.inj hall
    exact ⟨_, .write offset value (.done _), next⟩
  | load buffer length direction next =>
    obtain ⟨rfl, rfl⟩ := List.cons.inj hall
    exact ⟨_, .load buffer length direction (.done _), next⟩
  | sync point next =>
    obtain ⟨rfl, rfl⟩ := List.cons.inj hall
    exact ⟨_, .sync point (.done _), next⟩
  | unload next =>
    obtain ⟨rfl, rfl⟩ := List.cons.inj hall
    exact ⟨_, .unload (.done _), next⟩

theorem split (h : Performs b (l ++ l') b'') : ∃ b', Performs b l b' ∧ Performs b' l' b'' := by
  induction l generalizing b with
  | nil => exact ⟨b, .done b, h⟩
  | cons access rest ih =>
    obtain ⟨between, hfirst, hrest⟩ := h.head
    obtain ⟨b', hl, hl'⟩ := ih hrest
    exact ⟨b', hfirst.trans hl, hl'⟩

theorem head_write {offset : Nat} {value : UInt32}
    (h : Performs b (.write offset value :: l) b'') :
    ∃ b' : Bus H, b'.hardware = b.hardware ∧ Performs (b'.write offset value) l b'' := by
  generalize hall : Access.write offset value :: l = all at h
  induction h with
  | edit memory alike _ ih => exact ih hall
  | write offset' value' next =>
    obtain ⟨hwrite, rfl⟩ := List.cons.inj hall
    cases hwrite
    exact ⟨_, rfl, next⟩
  | done => cases hall
  | read => cases hall
  | load => cases hall
  | sync => cases hall
  | unload => cases hall

theorem preserves {P : H → Prop} {kind : Access → Bool} (h : Performs b l b')
    (all : l.all kind = true) (start : P b.hardware)
    (read : ∀ h offset, P h → P (Hardware.read h offset).2)
    (write : ∀ h mapped offset value, kind (.write offset value) = true → P h →
      P (Hardware.write h mapped offset value).1)
    (load : ∀ h loaded bytes direction, P h → P (Hardware.load h loaded bytes direction).2)
    (sync : ∀ h point, P h → P (Hardware.sync h point))
    (unload : ∀ h, P h → P (Hardware.unload h)) : P b'.hardware := by
  induction h with
  | done => exact start
  | read offset _ ih => exact ih (Bool.and_eq_true_iff.mp all).2 (read _ offset start)
  | @write b _ _ offset value _ ih =>
    obtain ⟨hkind, hrest⟩ := Bool.and_eq_true_iff.mp all
    apply ih hrest
    rw [(b.write_frame offset value).2.2]
    exact write _ _ offset value hkind start
  | @load b _ _ buffer length direction _ ih =>
    apply ih (Bool.and_eq_true_iff.mp all).2
    rw [b.load_hardware]
    exact load _ _ _ direction start
  | sync point _ ih => exact ih (Bool.and_eq_true_iff.mp all).2 (sync _ point start)
  | unload _ ih => exact ih (Bool.and_eq_true_iff.mp all).2 (unload _ start)
  | edit memory alike _ ih => exact ih all start

end Performs

def mappedAfter (mapped : Bool) : Access → Bool
  | .load _ _ (.ok _) => true
  | .unload => false
  | _ => mapped

theorem Performs.mapped {b b' : Bus H} {l : List Access} (h : Performs b l b') :
    b'.mapping.isSome = l.foldl mappedAfter b.mapping.isSome := by
  induction h with
  | done => rfl
  | read offset _ ih => exact ih
  | @write b _ _ offset value _ ih =>
    rw [ih, (b.write_frame offset value).2.1]
    rfl
  | @load b _ _ buffer length direction _ ih =>
    rw [ih, b.load_mapping, List.foldl_cons]
    cases (b.load buffer length direction).1 <;> rfl
  | sync point _ ih => exact ih
  | unload _ ih => exact ih
  | edit memory alike _ ih => exact ih

end Bus

open Bus

def writes (l : List (Nat × UInt32)) : List Access := l.map fun w => .write w.1 w.2

@[simp] theorem writes_append (l l' : List (Nat × UInt32)) :
    writes (l ++ l') = writes l ++ writes l' :=
  List.map_append

@[simp] theorem writes_cons (w : Nat × UInt32) (l : List (Nat × UInt32)) :
    writes (w :: l) = .write w.1 w.2 :: writes l := rfl

@[simp] theorem writes_nil : writes [] = [] := rfl

namespace Bus

variable {H : Type} [Hardware H]

def writeAll (b : Bus H) (l : List (Nat × UInt32)) : Bus H := l.foldl (fun b w => b.write w.1 w.2) b

theorem performs_writeAll (b : Bus H) (l : List (Nat × UInt32)) :
    Performs b (writes l) (b.writeAll l) := by
  induction l generalizing b with
  | nil => exact .done b
  | cons w rest ih => exact .write w.1 w.2 (ih (b.write w.1 w.2))

@[simp] theorem writeAll_mapping (b : Bus H) (l : List (Nat × UInt32)) :
    (b.writeAll l).mapping = b.mapping := by
  induction l generalizing b with
  | nil => rfl
  | cons w rest ih => exact (ih _).trans (b.write_frame w.1 w.2).2.1

end Bus

theorem Controller.writeAll_eq {H : Type} [Hardware H] (c : Controller H)
    (l : List (Nat × UInt32)) : c.writeAll l = { c with bus := c.bus.writeAll l } := by
  induction l generalizing c with
  | nil => rfl
  | cons w rest ih => exact ih (c.write w.1 w.2)

namespace Recorder

variable {H : Type} [Hardware H]

theorem log_performs {b b' : Bus (Recorder H)} {l : List Access} (h : Performs b l b') :
    b'.hardware.log.toList = b.hardware.log.toList ++ l := by
  induction h with
  | done => simp
  | read offset _ ih => simp [ih, Bus.read, Hardware.read, note]
  | @write b _ _ offset value _ ih =>
    rw [ih, (b.write_frame offset value).2.2]
    simp [Hardware.write, note]
  | @load b _ _ buffer length direction _ ih =>
    rw [ih]
    simp only [Bus.load, Hardware.load, note]
    split <;> next h => simp at h; simp [← h]
  | sync point _ ih => simp [ih, Bus.sync, Hardware.sync, note]
  | unload _ ih => simp [ih, Bus.unload, Hardware.unload, note]
  | edit memory alike _ ih => exact ih

end Recorder

end CardHost
