import CardHost.Card
import CardHost.Request

namespace CardHost

theorem Medium.take_slice (m : Medium) (offset count k : Nat) :
    (m.slice offset count).take k = m.slice offset (min k count) := by
  rw [slice, slice, ← List.map_take, List.take_range]

theorem Medium.length_read {m : Medium} {offset count : Nat} {bytes : Bytes}
    (h : m.read offset count = .ok bytes) : bytes.length = count := by
  unfold read at h
  split at h
  · cases h
  · rw [← Except.ok.inj h]
    exact Medium.length_slice ..

structure Transfer where
  toCard : Bool
  multiple : Bool

namespace Transfer

def opcode (t : Transfer) : UInt32 :=
  match t.toCard, t.multiple with
  | false, false => Opcode.readBlock
  | false, true => Opcode.readBlocks
  | true, false => Opcode.writeBlock
  | true, true => Opcode.writeBlocks

def flags (t : Transfer) : DataFlags :=
  let flags := if t.toCard then .write else .read
  if t.multiple then flags.multiple else flags

def phase (t : Transfer) (offset : Nat) : DataPhase :=
  if t.toCard then .writing offset t.multiple else .reading offset t.multiple

def state (t : Transfer) : CardState := if t.toCard then .receive else .data

structure IsCommand {B : Type} (t : Transfer) (argument : UInt32) (buffer : B)
    (command : Command B) : Prop where
  opcode : command.opcode = t.opcode
  argument : command.argument = argument
  flags : command.flags = .r1
  data : ∃ moved, command.data = some ⟨buffer, t.flags, moved⟩

structure Asks {B : Type} (t : Transfer) (argument : UInt32) (buffer : B) (r : Request B) :
    Prop where
  command : t.IsCommand argument buffer r.command
  single : t.multiple = false → r.stop = none
  multiple : t.multiple = true →
    ∃ stop, r.stop = some stop ∧ stop.opcode = Opcode.stopTransmission ∧ stop.data = none

theorem isRead_flags (t : Transfer) : t.flags.isRead = !t.toCard := by
  obtain ⟨toCard, multiple⟩ := t
  cases toCard <;> cases multiple <;> rfl

theorem isWrite_flags (t : Transfer) : t.flags.isWrite = t.toCard := by
  obtain ⟨toCard, multiple⟩ := t
  cases toCard <;> cases multiple <;> rfl

theorem transfers_flags (t : Transfer) : t.flags.transfers = true := by
  obtain ⟨toCard, multiple⟩ := t
  cases toCard <;> cases multiple <;> rfl

theorem opcode_ne (t : Transfer) : t.opcode ≠ Opcode.stopTransmission ∧
    t.opcode ≠ Opcode.sendOpCond ∧ t.opcode ≠ AppOpcode.sendOpCond := by
  obtain ⟨toCard, multiple⟩ := t
  cases toCard <;> cases multiple <;> decide

/-- What a transfer at an offset of the card comes to: all its data moves, or none of it and an error is
reported. -/
structure Outcome (t : Transfer) (card : Card) (argument : UInt32) (buffer : Bytes)
    (last : Command Bytes) (medium : Medium) : Prop where
  done : card.byteOffset argument + buffer.length ≤ card.medium.size →
    last.error = none ∧
      if t.toCard then
        last.data = some ⟨buffer, t.flags, buffer.length⟩ ∧
          medium = card.medium.patch (card.byteOffset argument) buffer
      else
        last.data = some
            ⟨card.medium.slice (card.byteOffset argument) buffer.length, t.flags, buffer.length⟩ ∧
          medium = card.medium
  failed : card.medium.size < card.byteOffset argument + buffer.length →
    last.error ≠ none ∧ last.data = some ⟨buffer, t.flags, 0⟩ ∧ medium = card.medium

end Transfer

namespace Card

theorem length_readData {card card' : Card} {count : Nat} {data : Bytes}
    (h : card.readData count = (.ok data, card')) : data.length = count := by
  have padded (top : Bytes) : (top.overlay (Bytes.zeros count)).length = count := by
    rw [Bytes.length_overlay]
    exact List.length_replicate
  unfold readData at h
  split at h
  · split at h
    · cases h
    · next bytes hread =>
      have hlength := Medium.length_read hread
      split at h
      all_goals
        cases h
        exact hlength
  · cases h
    exact padded _
  · cases h
    exact padded _
  · cases h
  · cases h

def opened (card : Card) (t : Transfer) (argument : UInt32) : Card :=
  { card with latched := 0, phase := some (t.phase (card.byteOffset argument)), state := t.state }

theorem execute_transfer {card : Card} (selected : card.state = .transfer)
    (plain : card.applicationNext = false) (t : Transfer) (argument : UInt32) :
    card.execute t.opcode argument =
      (some (.short (card.statusBits ||| card.latched)), card.opened t argument) := by
  obtain ⟨toCard, multiple⟩ := t
  rw [execute, if_neg (by rw [plain]; decide)]
  cases toCard <;> cases multiple
  all_goals
    change (if card.state = .transfer then card.arm _ _ else _) = _
    rw [if_pos selected]
    rfl

theorem execute_unable {card : Card} (t : Transfer) (argument : UInt32)
    (unable : ¬ (card.state = .transfer ∧ card.applicationNext = false)) :
    card.execute t.opcode argument = (none, { card with applicationNext := false }) := by
  obtain ⟨toCard, multiple⟩ := t
  cases application : card.applicationNext with
  | true =>
    rw [execute, if_pos application]
    cases toCard <;> cases multiple
    all_goals
      change (if card.state ≠ .transfer then (none, { card with applicationNext := false })
        else (none, { card with applicationNext := false })) = _
      exact ite_self _
  | false =>
    have hsame : ({ card with applicationNext := false } : Card) = card := by rw [← application]
    have hstate : ¬ card.state = .transfer := fun selected => unable ⟨selected, application⟩
    rw [execute, if_neg (by rw [application]; decide), hsame]
    cases toCard <;> cases multiple
    all_goals
      change (if card.state = .transfer then card.arm _ _ else (none, card)) = _
      exact if_neg hstate

theorem keeps_ite {α : Type} {f : Card → α} {card : Card} {c : Prop} [Decidable c]
    {r r' : Option Reply × Card} (h : f r.2 = f card) (h' : f r'.2 = f card) :
    f (if c then r else r').2 = f card := by
  split
  · exact h
  · exact h'

theorem execute_medium (card : Card) (index argument : UInt32) :
    (card.execute index argument).2.medium = card.medium := by
  have select : (card.select argument).2.medium = card.medium := by
    unfold Card.select
    dsimp only
    split <;> rfl
  have length : (card.setBlockLength argument).answer.2.medium = card.medium := by
    unfold setBlockLength
    split <;> rfl
  have negotiate : (negotiate { card with applicationNext := false } argument).2.medium =
      card.medium := by
    unfold Card.negotiate
    dsimp only
    repeat' apply keeps_ite (f := medium)
    all_goals rfl
  unfold execute
  split
  · unfold executeApplication
    dsimp only
    repeat' apply keeps_ite (f := medium)
    all_goals rfl
  · unfold executePlain
    dsimp only
    repeat' apply keeps_ite (f := medium)
    all_goals first | rfl | assumption

def Attempts (card card' : Card) : Prop :=
  card' = card ∨ ∃ index argument, card' = (card.execute index argument).2

theorem Attempts.medium {card card' : Card} (h : card.Attempts card') : card'.medium = card.medium := by
  rcases h with rfl | ⟨index, argument, rfl⟩
  · rfl
  · exact card.execute_medium index argument

def isTransferring (card : Card) : Prop :=
  card.state = .transfer ∨ card.state = .data ∨ card.state = .receive

theorem execute_stop {card : Card} (transferring : card.isTransferring)
    (plain : card.applicationNext = false) (argument : UInt32) :
    ∃ status, card.execute Opcode.stopTransmission argument =
      (some (.short status), { card with phase := none, state := .transfer, latched := 0 }) := by
  rw [execute, if_neg (by rw [plain]; decide)]
  obtain ⟨medium, state, applicationNext, powerUpPolls, highCapacity, address, blockLength, fourWire,
    phase, latched⟩ := card
  obtain h | h | h := transferring <;> cases h <;> exact ⟨_, rfl⟩

structure Transfers (t : Transfer) (card card' : Card) (medium : Medium) : Prop where
  frame : ∃ phase state latched, card' = { card with medium, phase, state, latched }
  transferring : card'.isTransferring
  closed : t.multiple = false → card'.state = .transfer ∧ card'.phase = none

theorem Transfers.applicationNext {t : Transfer} {card card' : Card} {medium : Medium}
    (h : Transfers t card card' medium) : card'.applicationNext = card.applicationNext := by
  obtain ⟨phase, state, latched, rfl⟩ := h.frame
  rfl

theorem Transfers.medium_eq {t : Transfer} {card card' : Card} {medium : Medium}
    (h : Transfers t card card' medium) : card'.medium = medium := by
  obtain ⟨phase, state, latched, rfl⟩ := h.frame
  rfl

theorem failRange_transfers (card : Card) (t : Transfer) (argument : UInt32) :
    Transfers t card (card.opened t argument).failRange card.medium :=
  ⟨⟨_, _, _, rfl⟩, .inl rfl, fun _ => ⟨rfl, rfl⟩⟩

theorem opened_readData (card : Card) (t : Transfer) (argument : UInt32) (count : Nat)
    (fromCard : t.toCard = false) :
    if card.byteOffset argument + count ≤ card.medium.size then
      ∃ card', (card.opened t argument).readData count =
        (.ok (card.medium.slice (card.byteOffset argument) count), card') ∧
        Transfers t card card' card.medium
    else
      ∃ error, (card.opened t argument).readData count =
        (.error error, (card.opened t argument).failRange) := by
  obtain ⟨toCard, multiple⟩ := t
  cases fromCard
  simp only [readData, opened, Transfer.phase, Medium.read, Bool.false_eq_true, if_false]
  split
  · next h =>
    rw [if_neg (by omega)]
    cases multiple with
    | false => exact ⟨_, rfl, ⟨_, _, _, rfl⟩, .inl rfl, fun _ => ⟨rfl, rfl⟩⟩
    | true => exact ⟨_, rfl, ⟨_, _, _, rfl⟩, .inr (.inl rfl), nofun⟩
  · next h =>
    rw [if_pos (by omega)]
    exact ⟨_, rfl⟩

theorem opened_writeData (card : Card) (t : Transfer) (argument : UInt32) (data : Bytes)
    (toCard : t.toCard = true) :
    if card.byteOffset argument + data.length ≤ card.medium.size then
      ∃ card', (card.opened t argument).writeData data = (.ok (), card') ∧
        Transfers t card card' (card.medium.patch (card.byteOffset argument) data)
    else
      ∃ error, (card.opened t argument).writeData data =
        (.error error, (card.opened t argument).failRange) := by
  obtain ⟨toCard', multiple⟩ := t
  cases toCard
  simp only [writeData, opened, Transfer.phase, Medium.write, if_true]
  split
  · next h =>
    rw [if_neg (by omega)]
    cases multiple with
    | false => exact ⟨_, rfl, ⟨_, _, _, rfl⟩, .inl rfl, fun _ => ⟨rfl, rfl⟩⟩
    | true => exact ⟨_, rfl, ⟨_, _, _, rfl⟩, .inr (.inr rfl), nofun⟩
  · next h =>
    rw [if_pos (by omega)]
    exact ⟨_, rfl⟩

end Card

end CardHost
