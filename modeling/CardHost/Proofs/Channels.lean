import CardHost.Proofs.SimulatedBus

namespace CardHost

open Bus

namespace Direction

def on : Direction → UInt32
  | fromCard => Channel.receiveOn
  | toCard => Channel.transmitOn

def off : Direction → UInt32
  | fromCard => Channel.receiveOff
  | toCard => Channel.transmitOff

theorem stop_off (d : Direction) : anyBit Channel.stop d.off = true := by cases d <;> rfl

theorem isPlain_pointer (d : Direction) : Register.isPlain d.pointer = true := by cases d <;> rfl

theorem isPlain_count (d : Direction) : Register.isPlain d.count = true := by cases d <;> rfl

theorem pointer_ne_count (d : Direction) : d.pointer ≠ d.count := by cases d <;> decide

end Direction

namespace Access

def starts (d : Direction) : Access → Bool
  | .write offset value =>
    offset == Register.channelControl && anyBit value d.on && !anyBit value d.off
  | _ => false

def aims (d : Direction) : Access → Bool
  | .write offset _ => offset == d.pointer || offset == d.count
  | _ => false

def calm : Access → Bool
  | .write offset _ =>
    !List.contains [Register.channelControl, Register.receivePointer, Register.receiveCount,
      Register.transmitPointer, Register.transmitCount] offset
  | .load _ _ _ | .unload => false
  | _ => true

theorem not_starts_of_calm {access : Access} (h : access.calm = true) (d : Direction) :
    (!access.starts d) = true := by
  cases access with
  | write offset value =>
    simp only [calm, List.contains_cons, Bool.not_eq_true', Bool.or_eq_false_iff] at h
    simp only [starts, h.1, Bool.false_and, Bool.not_false]
  | _ => rfl

theorem not_aims_of_calm {access : Access} (h : access.calm = true) (d : Direction) :
    (!access.aims d) = true := by
  cases access with
  | write offset value =>
    simp only [calm, List.contains_cons, Bool.not_eq_true', Bool.or_eq_false_iff] at h
    cases d <;> simp only [aims, Direction.pointer, Direction.count, h, Bool.or_self, Bool.not_false]
  | _ => rfl

end Access

namespace Simulator

def isOn (s : Simulator) (d : Direction) : Bool := anyBit (s.read Register.channelStatus) d.on

def live (s : Simulator) (d : Direction) : Bool := s.isOn d && s.read d.count != 0

theorem isOn_fromCard (s : Simulator) : s.isOn .fromCard = s.receiveOn := by
  change anyBit ((if s.receiveOn then Channel.receiveOn else 0) |||
    (if s.transmitOn then Channel.transmitOn else 0)) Channel.receiveOn = s.receiveOn
  cases s.receiveOn <;> cases s.transmitOn <;> rfl

theorem isOn_toCard (s : Simulator) : s.isOn .toCard = s.transmitOn := by
  change anyBit ((if s.receiveOn then Channel.receiveOn else 0) |||
    (if s.transmitOn then Channel.transmitOn else 0)) Channel.transmitOn = s.transmitOn
  cases s.receiveOn <;> cases s.transmitOn <;> rfl

theorem read_count (s : Simulator) (d : Direction) : s.read d.count = s.register d.count := by
  cases d <;> rfl

theorem read_pointer (s : Simulator) (d : Direction) : s.read d.pointer = s.register d.pointer := by
  cases d <;> rfl

theorem live_iff (s : Simulator) (d : Direction) :
    s.live d = true ↔ s.isOn d = true ∧ s.register d.count ≠ 0 := by
  rw [live, read_count, Bool.and_eq_true, bne_iff_ne]

def Spends (s s' : Simulator) (d : Direction) : Prop :=
  s'.register d.count = 0 ∨
    s'.register d.count = s.register d.count ∧ s'.register d.pointer = s.register d.pointer

theorem Spends.refl (s : Simulator) (d : Direction) : s.Spends s d := .inr ⟨rfl, rfl⟩

theorem Spends.trans {s s' s'' : Simulator} {d : Direction} (h : s.Spends s' d)
    (h' : s'.Spends s'' d) : s.Spends s'' d := by
  obtain hzero | ⟨hcount, hpointer⟩ := h'
  · exact .inl hzero
  · rwa [Spends, hcount, hpointer]

structure Drains (s s' : Simulator) : Prop where
  on : ∀ d, s'.isOn d = s.isOn d
  spends : ∀ d, s.Spends s' d

theorem isOn_congr {s s' : Simulator} (receive : s'.receiveOn = s.receiveOn)
    (transmit : s'.transmitOn = s.transmitOn) (d : Direction) : s'.isOn d = s.isOn d := by
  cases d with
  | fromCard => rw [isOn_fromCard, isOn_fromCard, receive]
  | toCard => rw [isOn_toCard, isOn_toCard, transmit]

theorem Drains.refl (s : Simulator) : s.Drains s := ⟨fun _ => rfl, Spends.refl s⟩

theorem Drains.trans {s s' s'' : Simulator} (h : s.Drains s') (h' : s'.Drains s'') :
    s.Drains s'' :=
  ⟨fun d => (h'.on d).trans (h.on d), fun d => (h.spends d).trans (h'.spends d)⟩

theorem Drains.receiveOn {s s' : Simulator} (h : s.Drains s') : s'.receiveOn = s.receiveOn := by
  have hon := h.on .fromCard
  rwa [isOn_fromCard, isOn_fromCard] at hon

theorem Drains.transmitOn {s s' : Simulator} (h : s.Drains s') : s'.transmitOn = s.transmitOn := by
  have hon := h.on .toCard
  rwa [isOn_toCard, isOn_toCard] at hon

theorem drains_of_fields {s s' : Simulator} (receive : s'.receiveOn = s.receiveOn)
    (transmit : s'.transmitOn = s.transmitOn) (registers : s'.registers = s.registers) :
    s.Drains s' := by
  refine ⟨isOn_congr receive transmit, fun d => .inr ⟨?_, ?_⟩⟩ <;> simp only [register, registers]

theorem drains_moved (s : Simulator) (d : Direction) (address : UInt32) :
    s.Drains ((s.setRegister d.pointer address).setRegister d.count 0) := by
  refine ⟨isOn_congr rfl rfl, fun d' => ?_⟩
  simp only [Spends, register_setRegister]
  cases d <;> cases d' <;> simp [Direction.count, Direction.pointer, Register.receiveCount,
    Register.receivePointer, Register.transmitCount, Register.transmitPointer]

theorem drains_latch (s : Simulator) (bits : UInt32) : s.Drains (s.latch bits) :=
  drains_of_fields rfl rfl rfl

theorem Streams.drains {s s' : Simulator} (h : s.Streams s') : s.Drains s' := by
  induction h with
  | refl => exact .refl s
  | hold _ _ _ _ _ ih => exact ih.trans (drains_of_fields rfl rfl rfl)
  | spend _ d address ih => exact ih.trans (drains_moved _ d address)
  | read _ _ ih => exact ih.trans (drains_of_fields rfl rfl rfl)
  | write _ _ ih => exact ih.trans (drains_of_fields rfl rfl rfl)
  | latch _ _ ih => exact ih.trans (drains_latch _ _)

theorem Responds.drains {s s' : Simulator} {word : UInt32} {goesOn : Bool} (h : s.Responds word goesOn s') :
    s.Drains s' := by
  obtain ⟨latched, injected, card, registers, rfl, hregisters⟩ := h.frame
  refine ⟨fun d => isOn_congr rfl rfl d, fun d => .inr ⟨?_, ?_⟩⟩
  · exact hregisters _ (by cases d <;> decide)
  · exact hregisters _ (by cases d <;> decide)

theorem drains_issue (s : Simulator) (word : UInt32) (mapped : Option Bytes) :
    s.Drains (s.issue word mapped).1 :=
  issue_induction (fun _ _ responds => responds.drains) mapped
    fun _ drains => drains.trans (streams_startData _ word mapped).drains

theorem isOn_switchChannels (s : Simulator) (value : UInt32) (mapped : Option Bytes) (d : Direction) :
    (s.switchChannels value mapped).1.isOn d =
      (!anyBit value d.off && (anyBit value d.on || s.isOn d)) := by
  have receive : (s.switchReceive value mapped).1.receiveOn =
        (!anyBit value Channel.receiveOff && (anyBit value Channel.receiveOn || s.receiveOn)) ∧
      (s.switchReceive value mapped).1.transmitOn = s.transmitOn := by
    unfold switchReceive
    split
    · next h => exact ⟨by rw [h]; rfl, rfl⟩
    · next hoff =>
      rw [Bool.eq_false_iff.mpr hoff]
      split
      · next hon =>
        have hd := (streams_pumpReceive { s with receiveOn := true } mapped).drains
        rw [hon]
        exact ⟨hd.receiveOn, hd.transmitOn⟩
      · next hon =>
        rw [Bool.eq_false_iff.mpr hon]
        exact ⟨rfl, rfl⟩
  have transmit (s' : Simulator) (moved : Option Bytes) :
      (s'.switchTransmit value moved).receiveOn = s'.receiveOn ∧
      (s'.switchTransmit value moved).transmitOn =
        (!anyBit value Channel.transmitOff && (anyBit value Channel.transmitOn || s'.transmitOn)) := by
    unfold switchTransmit
    split
    · next h => exact ⟨rfl, by rw [h]; rfl⟩
    · next hoff =>
      rw [Bool.eq_false_iff.mpr hoff]
      split
      · next hon =>
        have hd := (streams_pumpTransmit { s' with transmitOn := true } moved).drains
        rw [hon]
        exact ⟨hd.receiveOn, hd.transmitOn⟩
      · next hon =>
        rw [Bool.eq_false_iff.mpr hon]
        exact ⟨rfl, rfl⟩
  rw [switchChannels_eq]
  cases d with
  | fromCard =>
    rw [isOn_fromCard, isOn_fromCard, (transmit _ _).1, receive.1]
    rfl
  | toCard =>
    rw [isOn_toCard, isOn_toCard, (transmit _ _).2, receive.2]
    rfl

theorem spends_switchChannels (s : Simulator) (value : UInt32) (mapped : Option Bytes)
    (d : Direction) : s.Spends (s.switchChannels value mapped).1 d :=
  switchChannels_induction (p := (s.Spends · d)) (.refl s d) (fun _ _ _ h => h.trans (.inr ⟨rfl, rfl⟩))
    (fun _ _ streams h => h.trans (streams.drains.spends d)) value mapped

theorem isOn_reset (s : Simulator) (d : Direction) : s.reset.isOn d = false := by
  cases d with
  | fromCard => exact s.reset.isOn_fromCard
  | toCard => exact s.reset.isOn_toCard

theorem isOn_write (s : Simulator) (mapped : Option Bytes) {offset : Nat} {value : UInt32}
    {d : Direction} (quiet : (Access.write offset value).starts d = false) (off : s.isOn d = false) :
    (s.write mapped offset value).1.isOn d = false := by
  have keeps {s' : Simulator} (receive : s'.receiveOn = s.receiveOn)
      (transmit : s'.transmitOn = s.transmitOn) : s'.isOn d = false :=
    (isOn_congr receive transmit d).trans off
  have written := s.written mapped offset value
  generalize s.write mapped offset value = after at written ⊢
  cases written with
  | resets reset enabled => exact (isOn_congr rfl rfl d).trans (s.isOn_reset d)
  | issues =>
    exact ((drains_issue (s.setRegister Register.command value) value mapped).on d).trans (keeps rfl rfl)
  | switches =>
    rw [isOn_switchChannels, off, Bool.or_false]
    simpa [Access.starts, Bool.and_comm] using quiet
  | _ => exact keeps rfl rfl

theorem spends_write (s : Simulator) (mapped : Option Bytes) {offset : Nat} {value : UInt32}
    {d : Direction} (quiet : (Access.write offset value).aims d = false) :
    s.Spends (s.write mapped offset value).1 d := by
  have stored (offset' : Nat) (aside : d.count ≠ offset' ∧ d.pointer ≠ offset') :
      s.Spends (s.setRegister offset' value) d :=
    .inr ⟨by rw [register_setRegister, if_neg aside.1], by rw [register_setRegister, if_neg aside.2]⟩
  have written := s.written mapped offset value
  generalize s.write mapped offset value = after at written ⊢
  cases written with
  | resets => exact .inl (by cases d <;> rfl)
  | issues =>
    exact (stored _ (by cases d <;> decide)).trans
      ((drains_issue (s.setRegister Register.command value) value mapped).spends d)
  | switches => exact s.spends_switchChannels value mapped d
  | stores =>
    simp only [Access.aims, Bool.or_eq_false_iff, beq_eq_false_iff_ne] at quiet
    exact stored offset ⟨quiet.2.symm, quiet.1.symm⟩
  | _ => exact .inr ⟨rfl, rfl⟩

end Simulator

namespace Bus

variable {b b' : Bus Simulator} {l : List Access} {d : Direction}

theorem Performs.isOff (h : Performs b l b') (quiet : l.all (!·.starts d) = true)
    (off : b.hardware.isOn d = false) : b'.hardware.isOn d = false := by
  refine h.keeps (P := fun s => s.isOn d = false) quiet off (fun s mapped offset value hquiet off => ?_)
    fun _ _ off => (Simulator.isOn_congr rfl rfl d).trans off
  rw [Bool.not_eq_true'] at hquiet
  exact s.isOn_write mapped hquiet off

theorem Performs.spends (h : Performs b l b') (quiet : l.all (!·.aims d) = true) :
    b.hardware.Spends b'.hardware d := by
  refine h.keeps (P := fun s => b.hardware.Spends s d) quiet (.refl _ d)
    (fun s mapped offset value hquiet hs => ?_) fun _ _ hs => hs.trans (.inr ⟨rfl, rfl⟩)
  rw [Bool.not_eq_true'] at hquiet
  exact hs.trans (s.spends_write mapped hquiet)

theorem Performs.stopped {before after : List Access} {value : UInt32}
    (h : Performs b (before ++ .write Register.channelControl value :: after) b')
    (stops : anyBit value d.off = true) (quiet : after.all (!·.starts d) = true) :
    b'.hardware.isOn d = false := by
  obtain ⟨b₁, -, h₁⟩ := h.split
  obtain ⟨b₂, hb₂, h₂⟩ := h₁.head_write
  refine h₂.isOff quiet ?_
  rw [(b₂.write_frame _ _).2.2]
  change (b₂.hardware.switchChannels value b₂.mapped).1.isOn d = false
  rw [Simulator.isOn_switchChannels, stops]
  rfl

theorem Performs.mapping_eq {H : Type} [Hardware H] {b b' : Bus H} (h : Performs b l b')
    (calm : l.all Access.calm = true) : b'.mapping = b.mapping := by
  induction h with
  | done => rfl
  | read offset _ ih => exact ih calm
  | @write b _ _ offset value _ ih =>
    exact (ih (Bool.and_eq_true_iff.mp calm).2).trans (b.write_frame offset value).2.1
  | load => simp [Access.calm] at calm
  | sync point _ ih => exact ih calm
  | unload => simp [Access.calm] at calm
  | edit memory alike _ ih => exact ih calm

def Covers (b : Bus Simulator) (d : Direction) : Prop :=
  ∃ m, b.mapping = some m ∧ Simulator.busBase.toNat ≤ (b.hardware.read d.pointer).toNat ∧
    (b.hardware.read d.pointer).toNat + 4 * (b.hardware.read d.count).toNat ≤
      Simulator.busBase.toNat + m.length

def Confined (b : Bus Simulator) : Prop := ∀ d, b.hardware.live d = true → b.Covers d

theorem confined_of_off (off : ∀ d, b.hardware.isOn d = false) : b.Confined := by
  intro d live
  have hon := (b.hardware.live_iff d).mp live
  rw [off d] at hon
  cases hon.1

theorem Performs.confined_of_stop {before after : List Access}
    (h : Performs b (before ++ .write Register.channelControl Channel.stop :: after) b')
    (quiet : ∀ d : Direction, after.all (!·.starts d) = true) : b'.Confined :=
  confined_of_off fun d => h.stopped d.stop_off (quiet d)

theorem Confined.performs (confined : b.Confined) (h : Performs b l b')
    (calm : l.all Access.calm = true) : b'.Confined := by
  intro d live
  have starts : l.all (!·.starts d) = true := List.all_eq_true.mpr fun access member =>
    Access.not_starts_of_calm (List.all_eq_true.mp calm access member) d
  have aims : l.all (!·.aims d) = true := List.all_eq_true.mpr fun access member =>
    Access.not_aims_of_calm (List.all_eq_true.mp calm access member) d
  obtain ⟨on, more⟩ := (b'.hardware.live_iff d).mp live
  obtain hzero | ⟨hcount, hpointer⟩ := h.spends aims
  · exact (more hzero).elim
  · have hon : b.hardware.isOn d = true := by
      cases hoff : b.hardware.isOn d with
      | true => rfl
      | false =>
        rw [h.isOff starts hoff] at on
        cases on
    obtain ⟨m, mapping, lower, upper⟩ := confined d ((b.hardware.live_iff d).mpr ⟨hon, hcount ▸ more⟩)
    refine ⟨m, (h.mapping_eq calm).trans mapping, ?_⟩
    simp only [Simulator.read_pointer, Simulator.read_count, hpointer, hcount] at lower upper ⊢
    exact ⟨lower, upper⟩

theorem write_hardware (b : Bus Simulator) {offset : Nat} (value : UInt32)
    (plain : Register.isPlain offset = true) :
    (b.write offset value).hardware = b.hardware.setRegister offset value :=
  (b.write_frame offset value).2.2.trans (congrArg Prod.fst (b.hardware.write_plain b.mapped value plain))

theorem load_address (b : Bus Simulator) {buffer : BufferId} {length : Nat} {direction : Direction}
    {address : UInt32} (h : (b.load buffer length direction).1 = .ok address) :
    address = Simulator.busBase := by
  simp only [load, Hardware.load, Simulator.load] at h
  split at h
  · next heq =>
    split at heq
    · cases heq
    · split at heq
      · cases heq
      · split at heq
        · cases heq
        · cases heq
          cases h
          rfl
  · cases h

theorem Performs.loaded_at {bytes : Bytes} {direction : Direction} {address : UInt32}
    (h : Performs b (.load bytes direction (.ok address) :: l) b') : address = Simulator.busBase := by
  generalize hall : Access.load bytes direction (.ok address) :: l = all at h
  induction h with
  | edit memory alike _ ih => exact ih hall
  | @load b _ _ buffer length direction _ =>
    obtain ⟨hload, -⟩ := List.cons.inj hall
    injection hload with _ _ hresult
    exact b.load_address hresult.symm
  | done => cases hall
  | read => cases hall
  | write => cases hall
  | sync => cases hall
  | unload => cases hall

theorem Performs.covers {length : Nat} {m : Mapping}
    (h : Performs b (.write d.pointer Simulator.busBase :: .write d.count (UInt32.ofNat (length / 4)) :: l) b')
    (quiet : l.all (!·.aims d) = true) (mapping : b'.mapping = some m) (length_eq : m.length = length)
    (live : b'.hardware.live d = true) : b'.Covers d := by
  obtain ⟨b₁, -, h₁⟩ := h.head_write
  obtain ⟨b₂, hb₂, h₂⟩ := h₁.head_write
  have aimed : (b₂.write d.count (UInt32.ofNat (length / 4))).hardware =
      (b₁.hardware.setRegister d.pointer Simulator.busBase).setRegister d.count
        (UInt32.ofNat (length / 4)) := by
    rw [b₂.write_hardware _ d.isPlain_count, hb₂, b₁.write_hardware _ d.isPlain_pointer]
  obtain ⟨-, more⟩ := (b'.hardware.live_iff d).mp live
  obtain hzero | ⟨hcount, hpointer⟩ := h₂.spends quiet
  · exact (more hzero).elim
  · refine ⟨m, mapping, ?_⟩
    rw [aimed, Simulator.register_setRegister, if_pos rfl] at hcount
    rw [aimed, Simulator.register_setRegister, if_neg d.pointer_ne_count,
      Simulator.register_setRegister, if_pos rfl] at hpointer
    rw [Simulator.read_pointer, Simulator.read_count, hpointer, hcount, length_eq,
      UInt32.toNat_ofNat']
    have hmod := Nat.mod_le (length / 4) (2 ^ 32)
    omega

end Bus

end CardHost
