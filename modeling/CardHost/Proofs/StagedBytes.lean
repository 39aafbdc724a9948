import CardHost.Hardware.Recorder
import CardHost.Proofs.ChipsAlike
import CardHost.Proofs.Indistinct
import CardHost.Proofs.Simulated

namespace CardHost

open Bus

theorem still_of_inert {word : UInt32} (inert : isInert (Register.command, word) = true) :
    (word &&& CommandWord.transfer == CommandWord.startTransfer) = false := by
  simpa [isInert] using inert

theorem off_of_inert {value : UInt32} (inert : isInert (Register.channelControl, value) = true) :
    anyBit value Channel.receiveOn = false ∧ anyBit value Channel.transmitOn = false := by
  simpa [isInert, Register.command, Register.channelControl] using inert

namespace Simulator

theorem issue_still (s : Simulator) {word : UInt32}
    (still : (word &&& CommandWord.transfer == CommandWord.startTransfer) = false) (mapped : Option Bytes) :
    s.issue word mapped = ((s.issue word none).1, none) := by
  obtain ⟨goesOn, s', responds⟩ := s.responds word
  obtain rfl := responds.quiet (beq_eq_false_iff_ne.mp still)
  rw [responds.issue mapped, responds.issue none]
  rfl

theorem switchChannels_off (s : Simulator) {value : UInt32} (receive : anyBit value Channel.receiveOn = false)
    (transmit : anyBit value Channel.transmitOn = false) (mapped : Option Bytes) :
    s.switchChannels value mapped =
      ({ s with
          receiveOn := s.receiveOn && !anyBit value Channel.receiveOff
          transmitOn := s.transmitOn && !anyBit value Channel.transmitOff }, none) := by
  simp only [switchChannels, receive, transmit, Bool.false_eq_true, if_false]
  cases anyBit value Channel.receiveOff <;> cases anyBit value Channel.transmitOff <;> simp

theorem write_inert (s : Simulator) (mapped : Option Bytes) {w : Nat × UInt32}
    (inert : isInert w = true ∨ w.1 = Register.mode) :
    s.write mapped w.1 w.2 = ((s.write none w.1 w.2).1, none) := by
  obtain ⟨offset, value⟩ := w
  dsimp only at inert ⊢
  by_cases command : offset = Register.command
  · subst command
    exact issue_still _ (still_of_inert (inert.resolve_right (by decide))) mapped
  by_cases channels : offset = Register.channelControl
  · subst channels
    obtain ⟨receive, transmit⟩ := off_of_inert (inert.resolve_right (by decide))
    have switched (mapped : Option Bytes) := s.switchChannels_off receive transmit mapped
    exact (switched mapped).trans (congrArg (fun r => (r.1, none)) (switched none).symm)
  · unfold write
    simp only [command, channels, if_false]
    repeat' split
    all_goals rfl

end Simulator

def Likeness.equality {H : Type} [Hardware H] [InterruptLine H]
    (blind : ∀ (h : H) (mapped : Option Bytes) (w : Nat × UInt32), isInert w = true ∨ w.1 = Register.mode →
      Hardware.write h mapped w.1 w.2 = ((Hardware.write h none w.1 w.2).1, none)) : Likeness H where
  rests h h' := h' = h
  poised h h' := h' = h
  rests_of_poised same := same
  quiet h mapped w inert := by rw [blind h mapped w inert]
  asserted same := by rw [same]
  read same _ _ _ := by rw [same]; exact ⟨rfl, rfl⟩
  write same mapped mapped' w inert := by
    rw [same, blind _ mapped w (.inl inert), blind _ mapped' w (.inl inert)]
  divide same mapped mapped' divider := by
    have moded (h : _) (mapped : Option Bytes) (value : UInt32) := blind h mapped (Register.mode, value) (.inr rfl)
    rw [same, remode, remode, moded _ mapped, moded _ mapped']
  sync same _ := by rw [same]
  unload same := by rw [same]
  prepare same mapped mapped' length := by
    have moded (h : _) (mapped : Option Bytes) (value : UInt32) := blind h mapped (Register.mode, value) (.inr rfl)
    have stopped (h : _) (mapped : Option Bytes) :=
      blind h mapped (Register.channelControl, Channel.stop) (.inl rfl)
    rw [same, remode, remode, moded _ mapped, moded _ mapped', stopped _ mapped, stopped _ mapped']
  load same _ _ _ := by rw [same]; exact ⟨rfl, rfl⟩
  handOver same _ := by rw [same]
  drive same _ _ := by rw [same]; exact ⟨rfl, rfl⟩

def Likeness.recorded : Likeness (Recorder Simulator) :=
  .equality fun h mapped w inert => by
    have inner := h.inner.write_inert mapped inert
    exact congrArg (fun r => (({ h with inner := r.1 } : Recorder Simulator).note (.write w.1 w.2), r.2)) inner

namespace Controller

variable {H : Type} [Hardware H] [InterruptLine H] {L : Likeness H}

omit [InterruptLine H] in
theorem attach_idle (unit : UInt32) (board : Board) (options : Options) (hardware : H) :
    (attach unit board options hardware).active = none ∧
      (attach unit board options hardware).tickets = #[] ∧
      (attach unit board options hardware).bounce <
        (attach unit board options hardware).bus.memory.buffers.size := by
  have alike := (performs_writeAll (fresh unit board options hardware).bus (quiesce ++ powerOn board.soc)).alike
  rw [attach_eq, writeAll_eq]
  refine ⟨rfl, rfl, ?_⟩
  dsimp only
  rw [alike.1]
  exact Nat.zero_lt_one

theorem Doubles.refl (reflexive : ∀ h, L.rests h h) {c : Controller H}
    (there : c.bounce < c.bus.memory.buffers.size)
    (own : ∀ a, c.active = some a → c.bounce ∉ a.request.buffers)
    (ready : ∀ (n : Nat) (r : Request BufferId), c.tickets[n]? = some (.ready r) → c.bounce ∉ r.buffers) :
    Doubles L (.identity c.bounce) c c := by
  have same : c.active.map (Renumbering.identity c.bounce).active = c.active := by
    cases c.active with
    | none => rfl
    | some a => rw [Option.map_some, Renumbering.active_identity]
  exact ⟨⟨c.bus, c.tickets, by rw [same]⟩, rfl, ⟨reflexive _, rfl, .refl there⟩, .refl _ _, own, ready⟩

theorem Doubles.setBuffer {N : Renumbering} {c c' : Controller H} (h : Doubles L N c c') {bytes : Bytes}
    (length : bytes.length = (c.buffer c.bounce).length) :
    Doubles L N c (c'.setBuffer c.bounce bytes) := by
  rw [h.site] at length ⊢
  obtain ⟨bus, tickets, rfl⟩ := h.same
  exact ⟨⟨_, _, rfl⟩, h.site, ⟨h.bus.hardware, h.bus.held, h.bus.memory.set_bounce length⟩, h.tickets, h.own,
    h.ready⟩

end Controller

namespace System

variable {H : Type} [Hardware H] [InterruptLine H] {L : Likeness H}

theorem doubles_reached (reflexive : ∀ h, L.rests h h) (unit : UInt32) (board : Board) (options : Options)
    (hardware : H) {events : List (Event H)}
    (fair : ∀ change, .strike change ∈ events → ∀ g g', L.rests g g' → L.rests (change g) (change g'))
    {c : Controller H} (reached : (start unit board options hardware).afterEvents events = .whole c) :
    c.Doubles L (.identity c.bounce) c := by
  obtain ⟨idle, none, there⟩ := Controller.attach_idle unit board options hardware
  have attached : (Controller.attach unit board options hardware).Doubles L
      (.identity (Controller.attach unit board options hardware).bounce)
      (Controller.attach unit board options hardware) := by
    refine .refl reflexive there ?_ ?_
    · rw [idle]
      rintro a ⟨⟩
    · rw [none]
      rintro n r ⟨⟩
  have after := (System.Doubles.whole attached).afterEvents fair
  rw [Event.renumber_identity, show (System.whole (Controller.attach unit board options hardware)).afterEvents
    events = _ from reached] at after
  cases after with
  | whole h => exact h.site ▸ h

end System

/-- Of two systems whose controllers differ in what is in the bounce buffer, nothing that is seen ever differs:
not the answers, nor the accesses with the bytes that were mapped for each transfer, nor the card or what it was
sent. The controllers may have come from any events, and whatever then happens to one happens to the other. -/
theorem staged_bytes_never_seen (unit : UInt32) (board : Board) (options : Options) (sim : Simulator)
    (before : List (Event (Recorder Simulator))) {c : Controller (Recorder Simulator)}
    (reached : (System.start unit board options ({ inner := sim } : Recorder Simulator)).afterEvents before =
      .whole c) {bytes : Bytes} (length : bytes.length = (c.buffer c.bounce).length)
    (events : List (Event (Recorder Simulator))) :
    (System.whole (c.setBuffer c.bounce bytes)).observations id events =
      (System.whole c).observations id events := by
  have itself := System.doubles_reached (L := .recorded) (fun _ => rfl) unit board options { inner := sim }
    (fun change _ _ _ same => congrArg change same) reached
  have doubles := System.Doubles.whole (itself.setBuffer length)
  have seen := doubles.observations id (fun _ _ same => same) events fun change _ _ _ same =>
    congrArg change same
  rw [Event.renumber_identity] at seen
  rw [seen]
  refine (List.map_congr_left fun observed _ => ?_).trans (List.map_id _)
  exact congrArg (·, observed.2) (observed.1.renumber_identity _)

def Controller.padding : Controller (Recorder Simulator) :=
  .attach 0 (Board.reference .sam9260) .default
    { inner := { soc := .sam9260, card := Card.used (.blank 1024) Card.selecting } }

def Event.serving (request : Request Bytes) : List (Event (Recorder Simulator)) :=
  [.operate (.submit request), .serve 16, .operate (.poll 0)]

theorem padded_write_hides_bounce_buffer :
    let left : Bytes := List.replicate 512 0xff
    Controller.padding.buffer Controller.padding.bounce ≠ left ∧
      (System.whole (Controller.padding.setBuffer Controller.padding.bounce left)).observations id
          (Event.serving shortWrite) =
        (System.whole Controller.padding).observations id (Event.serving shortWrite) ∧
      ((System.whole (Controller.padding.setBuffer Controller.padding.bounce left)).afterEvents
        (Event.serving shortWrite)).parts.bus.hardware.inner.lastSent = [1, 2, 3, 4, 0, 0, 0, 0, 0, 0, 0, 0] := by
  intro left
  have different : Controller.padding.buffer Controller.padding.bounce ≠ left := by decide +kernel
  have length : left.length = (Controller.padding.buffer Controller.padding.bounce).length := by
    decide +kernel
  refine ⟨different, ?_, by decide +kernel⟩
  exact staged_bytes_never_seen 0 (Board.reference .sam9260) .default _ [] rfl length (Event.serving shortWrite)

end CardHost
