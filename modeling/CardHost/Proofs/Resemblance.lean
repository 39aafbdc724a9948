import CardHost.Proofs.Bits
import CardHost.Proofs.DataPhases
import CardHost.Proofs.SimulatedBus
import CardHost.Proofs.StagedBytes
/-!
What a setup that comes to nothing leaves behind in a simulator: a block length, the bit of the channels, and
both channels off. The next setup replaces all of it, and until then nothing depends on it.
-/
namespace CardHost

open Bus

namespace RegisterFile

def without (r : RegisterFile) (offset : Nat) : RegisterFile := ⟨r.entries.filter (·.1 != offset)⟩

variable (r : RegisterFile) {offset other : Nat} (value : UInt32)

theorem get_without (h : other ≠ offset) : (r.without offset).get other = r.get other := by
  rw [get, without, lookup_filter_ne _ h, get]

theorem set_without (offset : Nat) : (r.without offset).set offset value = r.set offset value := by
  simp only [set, without, List.filter_filter, Bool.and_self]

theorem without_set_self (offset : Nat) : (r.set offset value).without offset = r.without offset := by
  simp only [set, without, List.filter_cons, bne_self_eq_false, Bool.false_eq_true, if_false,
    List.filter_filter, Bool.and_self]

theorem without_set (h : other ≠ offset) :
    (r.set other value).without offset = (r.without offset).set other value := by
  simp only [set, without, List.filter_cons, bne_iff_ne.mpr h, if_true, List.filter_filter, Bool.and_comm]

end RegisterFile

namespace Mode

def base (mode : UInt32) : UInt32 := (mode &&& ~~~blockLength) ||| channels

theorem base_blockMode (mode : UInt32) (length : Nat) : base (Controller.blockMode mode length) = base mode := by
  have fits : (UInt32.ofNat length <<< 16) &&& blockLength &&& blockLength =
      (UInt32.ofNat length <<< 16) &&& blockLength := by
    rw [UInt32.and_assoc, UInt32.and_self]
  have kept : channels &&& ~~~blockLength = channels := by decide
  rw [base, Controller.blockMode, Bits.or_and, Bits.rest_replace fits, kept, UInt32.or_assoc,
    UInt32.or_self, base]

theorem blockMode_congr {mode mode' : UInt32} (same : base mode' = base mode) (length : Nat) :
    Controller.blockMode mode' length = Controller.blockMode mode length := by
  have eq (mode : UInt32) : Controller.blockMode mode length =
      base mode ||| ((UInt32.ofNat length <<< 16) &&& blockLength) := by
    rw [Controller.blockMode, base, UInt32.or_assoc, UInt32.or_comm _ channels, ← UInt32.or_assoc]
  rw [eq, eq, same]

theorem base_divide {mode mode' : UInt32} (same : base mode' = base mode) (divider : UInt32) :
    base ((mode' &&& ~~~Mode.divider) ||| divider) = base ((mode &&& ~~~Mode.divider) ||| divider) := by
  have kept : channels &&& ~~~Mode.divider = channels := by decide
  have eq (mode : UInt32) : base ((mode &&& ~~~Mode.divider) ||| divider) =
      (base mode &&& ~~~Mode.divider) ||| (divider &&& ~~~blockLength) := by
    rw [base, base, Bits.or_and, Bits.or_and, kept, UInt32.and_assoc, UInt32.and_comm (~~~Mode.divider),
      ← UInt32.and_assoc, UInt32.or_assoc, UInt32.or_comm _ channels, ← UInt32.or_assoc]
  rw [eq, eq, same]

end Mode

namespace Simulator

variable {s s' : Simulator}

/-- A simulator without what the setup of a transfer replaces. -/
def relaxed (s : Simulator) : Simulator :=
  { s with registers := s.registers.without Register.mode, receiveOn := false, transmitOn := false }

theorem register_relaxed (s : Simulator) {offset : Nat} (other : offset ≠ Register.mode) :
    s.relaxed.register offset = s.register offset :=
  s.registers.get_without other

theorem relaxed_setRegister (s : Simulator) {offset : Nat} (other : offset ≠ Register.mode)
    (value : UInt32) : (s.setRegister offset value).relaxed = s.relaxed.setRegister offset value := by
  simp only [relaxed, setRegister, s.registers.without_set value other]

theorem relaxed_setMode (s : Simulator) (value : UInt32) :
    (s.setRegister Register.mode value).relaxed = s.relaxed := by
  simp only [relaxed, setRegister, s.registers.without_set_self value]

theorem status_relaxed (s : Simulator) : s.relaxed.status = s.status := by
  simp only [status, s.register_relaxed (show Register.receiveCount ≠ Register.mode by decide),
    s.register_relaxed (show Register.receiveNextCount ≠ Register.mode by decide),
    s.register_relaxed (show Register.transmitCount ≠ Register.mode by decide),
    s.register_relaxed (show Register.transmitNextCount ≠ Register.mode by decide)]
  rfl

theorem read_relaxed (s : Simulator) {offset : Nat} (mode : offset ≠ Register.mode)
    (channels : offset ≠ Register.channelStatus) : s.relaxed.read offset = s.read offset := by
  simp only [read, s.status_relaxed, channels, if_false, s.register_relaxed mode]
  rfl

theorem relaxed_setResponse (s : Simulator) (words : Response) :
    (s.setResponse words).relaxed = s.relaxed.setResponse words := by
  unfold setResponse
  rw [relaxed_setRegister _ (by decide), relaxed_setRegister _ (by decide),
    relaxed_setRegister _ (by decide), relaxed_setRegister _ (by decide)]

theorem relaxed_accept (s : Simulator) (reply : Reply) (expected : Bool) :
    (s.accept reply expected).relaxed = s.relaxed.accept reply expected := by
  cases reply with
  | none => rfl
  | short word => exact s.relaxed_setResponse _
  | shortNoCrc word => exact congrArg (latch · _) (s.relaxed_setResponse (.ofWord word))
  | long words => exact s.relaxed_setResponse _

theorem Responds.relaxed {word : UInt32} {goesOn : Bool} {t : Simulator} (h : s.Responds word goesOn t) :
    s.relaxed.Responds word goesOn t.relaxed := by
  have argument := s.register_relaxed (show Register.argument ≠ Register.mode by decide)
  cases h with
  | disabled enabled => exact .disabled enabled
  | fault enabled injected => exact .fault enabled injected
  | silent card enabled injected executes =>
    exact .silent card enabled injected (argument ▸ executes)
  | answers reply card enabled injected executes =>
    rw [show ∀ t : Simulator, (t.latch Status.commandReady).relaxed = t.relaxed.latch Status.commandReady
      from fun _ => rfl, relaxed_accept]
    exact .answers reply card enabled injected (argument ▸ executes)

theorem setControl_relaxed (s : Simulator) (value : UInt32) :
    (s.setControl value).relaxed = s.relaxed.setControl value ∧
      (s.setControl value).register Register.mode =
        if anyBit value Control.softReset then 0 else s.register Register.mode := by
  cases reset : anyBit value Control.softReset with
  | true =>
    rw [s.setControl_reset reset, s.relaxed.setControl_reset reset]
    exact ⟨rfl, rfl⟩
  | false =>
    rw [s.setControl_steady reset, s.relaxed.setControl_steady reset]
    exact ⟨rfl, rfl⟩

structure Resembles (s s' : Simulator) : Prop where
  relaxed : s'.relaxed = s.relaxed
  mode : Mode.base (s'.register Register.mode) = Mode.base (s.register Register.mode)

namespace Resembles

theorem refl (s : Simulator) : s.Resembles s := ⟨rfl, rfl⟩

theorem seen {α : Type} {f : Simulator → α} (blind : ∀ s, f s.relaxed = f s) (h : s.Resembles s') :
    f s' = f s := by
  rw [← blind s', h.relaxed, blind]

theorem change {f : Simulator → Simulator} (relaxed : ∀ s, (f s).relaxed = f s.relaxed)
    (mode : ∀ s, (f s).register Register.mode = s.register Register.mode) (h : s.Resembles s') :
    (f s).Resembles (f s') :=
  ⟨by rw [relaxed, relaxed, h.relaxed], by rw [mode, mode, h.mode]⟩

theorem issue {word : UInt32} (still : (word &&& CommandWord.transfer == CommandWord.startTransfer) = false)
    (h : s.Resembles s') : (s.issue word none).1.Resembles (s'.issue word none).1 := by
  have issued (s : Simulator) : ∃ t, s.Responds word false t ∧ (s.issue word none).1 = t ∧
      (s.relaxed.issue word none).1 = t.relaxed := by
    obtain ⟨goesOn, t, responds⟩ := s.responds word
    obtain rfl : goesOn = false := responds.quiet (bne_iff_ne.mp (congrArg not still))
    exact ⟨t, responds, congrArg Prod.fst (responds.issue none),
      congrArg Prod.fst (responds.relaxed.issue none)⟩
  refine h.change (f := fun s => (s.issue word none).1) (fun s => ?_) fun s => ?_
  · obtain ⟨t, -, here, there⟩ := issued s
    rw [here, there]
  · obtain ⟨t, responds, here, -⟩ := issued s
    obtain ⟨latched, injected, card, registers, rfl, same⟩ := responds.frame
    rw [here]
    exact same _ (.inl (by decide))

theorem setRegister {offset : Nat} (other : offset ≠ Register.mode) (value : UInt32)
    (h : s.Resembles s') : (s.setRegister offset value).Resembles (s'.setRegister offset value) := by
  refine h.change (f := (·.setRegister offset value)) (fun s => s.relaxed_setRegister other value) fun s => ?_
  rw [register_setRegister, if_neg other.symm]

theorem write {w : Nat × UInt32} (inert : isInert w = true) (h : s.Resembles s') :
    (s.write none w.1 w.2).1.Resembles (s'.write none w.1 w.2).1 := by
  obtain ⟨offset, value⟩ := w
  have mode : offset ≠ Register.mode := by
    rintro rfl
    cases inert
  unfold Simulator.write
  dsimp only
  by_cases control : offset = Register.control
  · rw [if_pos control, if_pos control]
    obtain ⟨relaxed, mode⟩ := s.setControl_relaxed value
    obtain ⟨relaxed', mode'⟩ := s'.setControl_relaxed value
    refine ⟨?_, ?_⟩
    · rw [relaxed, relaxed', h.relaxed]
    · rw [mode, mode']
      split
      · rfl
      · exact h.mode
  rw [if_neg control, if_neg control]
  by_cases enable : offset = Register.enable
  · rw [if_pos enable, if_pos enable]
    exact h.change (f := fun s => { s with mask := s.mask ||| value }) (fun _ => rfl) fun _ => rfl
  rw [if_neg enable, if_neg enable]
  by_cases disable : offset = Register.disable
  · rw [if_pos disable, if_pos disable]
    exact h.change (f := fun s => { s with mask := s.mask &&& ~~~value }) (fun _ => rfl) fun _ => rfl
  rw [if_neg disable, if_neg disable]
  by_cases command : offset = Register.command
  · rw [if_pos command, if_pos command]
    subst command
    exact (h.setRegister mode value).issue (still_of_inert inert)
  rw [if_neg command, if_neg command]
  by_cases channels : offset = Register.channelControl
  · rw [if_pos channels, if_pos channels]
    subst channels
    obtain ⟨receive, transmit⟩ := off_of_inert inert
    rw [switchChannels_off _ receive transmit, switchChannels_off _ receive transmit]
    exact ⟨h.relaxed, h.mode⟩
  rw [if_neg channels, if_neg channels]
  by_cases readOnly : isReadOnly offset = true
  · rwa [if_pos readOnly, if_pos readOnly]
  rw [if_neg readOnly, if_neg readOnly]
  by_cases stored : stores offset = true
  · rw [if_pos stored, if_pos stored]
    exact h.setRegister mode value
  · rwa [if_neg stored, if_neg stored]

end Resembles

theorem prepared_relaxed (s : Simulator) (length : Nat) :
    s.prepared length = s.relaxed.setRegister Register.mode
      (Controller.blockMode (s.register Register.mode) length) := by
  simp only [prepared, setRegister, relaxed, RegisterFile.set_without]

theorem resembles_prepared (s : Simulator) (length : Nat) : s.Resembles (s.prepared length) := by
  refine ⟨s.relaxed_setMode _, ?_⟩
  rw [show (s.prepared length).register Register.mode =
    (s.setRegister Register.mode _).register Register.mode from rfl, register_setRegister, if_pos rfl,
    Mode.base_blockMode]

theorem Resembles.prepared (h : s.Resembles s') (length : Nat) : s'.prepared length = s.prepared length := by
  rw [prepared_relaxed, prepared_relaxed, h.relaxed, Mode.blockMode_congr h.mode]

theorem Resembles.divide (h : s.Resembles s') (divider : UInt32) :
    (s.setRegister Register.mode ((s.register Register.mode &&& ~~~Mode.divider) ||| divider)).Resembles
      (s'.setRegister Register.mode ((s'.register Register.mode &&& ~~~Mode.divider) ||| divider)) := by
  refine ⟨?_, ?_⟩
  · rw [relaxed_setMode, relaxed_setMode, h.relaxed]
  · rw [register_setRegister, register_setRegister, if_pos rfl, if_pos rfl]
    exact Mode.base_divide h.mode divider

def likeness : Likeness Simulator where
  rests := Resembles
  poised s s' := s' = s
  rests_of_poised same := same ▸ .refl _
  quiet s mapped _ inert := congrArg Prod.snd (s.write_inert mapped inert)
  asserted := Resembles.seen fun s => by
    rw [show InterruptLine.asserted s.relaxed = anyBit s.relaxed.status s.mask from rfl, status_relaxed]
    rfl
  read h offset mode channels := ⟨h.seen (f := (·.read offset)) fun s => s.read_relaxed mode channels, h⟩
  write {s s'} h mapped mapped' w inert := by
    have here := congrArg Prod.fst (s.write_inert mapped (.inl inert))
    have there := congrArg Prod.fst (s'.write_inert mapped' (.inl inert))
    exact here ▸ there ▸ h.write inert
  divide h _ _ divider := h.divide divider
  sync h _ := h
  unload h := h
  prepare h _ _ length := h.prepared length
  load same _ _ _ := by rw [same]; exact ⟨rfl, rfl⟩
  handOver same _ := by rw [same]
  drive same _ _ := by rw [same]; exact ⟨rfl, rfl⟩

end Simulator

def Stimulus.event : Stimulus → Event Simulator
  | operate operation => .operate operation
  | serve limit => .serve limit
  | inject injected => .strike fun sim => { sim with injected }
  | failLoad => .strike fun sim => { sim with failNextLoad := true }
  | useCard call => .strike fun sim => { sim with card := sim.card.after call }

namespace System

theorem respond_meet (s : System Simulator) (stimulus : Stimulus) :
    s.respond stimulus = s.meet stimulus.event := by
  cases stimulus with
  | serve => cases s <;> rfl
  | _ => rfl

theorem afterStimuli_events (s : System Simulator) (stimuli : List Stimulus) :
    s.afterStimuli stimuli = s.afterEvents (stimuli.map (·.event)) := by
  rw [afterEvents, List.foldl_map, afterStimuli]
  exact congrArg (fun f => stimuli.foldl f s) (funext fun s => funext fun stimulus =>
    congrArg Prod.snd (s.respond_meet stimulus))

end System

theorem Stimulus.event_fair (stimulus : Stimulus) (change : Simulator → Simulator)
    (strikes : stimulus.event = .strike change) (sim sim' : Simulator) (h : sim.Resembles sim') :
    (change sim).Resembles (change sim') := by
  cases stimulus with
  | operate | serve => cases strikes
  | inject injected =>
    cases strikes
    exact h.change (f := fun sim => { sim with injected }) (fun _ => rfl) fun _ => rfl
  | failLoad =>
    cases strikes
    exact h.change (f := fun sim => { sim with failNextLoad := true }) (fun _ => rfl) fun _ => rfl
  | useCard call =>
    cases strikes
    exact h.change (f := fun sim => { sim with card := sim.card.after call }) (fun _ => rfl) fun _ => rfl

end CardHost
