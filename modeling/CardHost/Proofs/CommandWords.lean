import CardHost.Proofs.Bits
import CardHost.Proofs.Launches

namespace CardHost

namespace CommandWord

theorem toNat_number (word : UInt32) : (word &&& number).toNat = word.toNat % 64 := by
  rw [UInt32.toNat_and]
  exact Nat.and_two_pow_sub_one_eq_mod word.toNat 6

theorem ofData_apart (flags : DataFlags) {bits : UInt32}
    (apart : (fromCard ||| startTransfer ||| stream ||| multiple) &&& bits = 0) :
    ofData flags &&& bits = 0 := by
  simp only [Bits.or_and, Bits.or_eq_zero] at apart
  obtain ⟨⟨⟨hread, hstart⟩, hstream⟩, hmultiple⟩ := apart
  have optional (present : Bool) {field : UInt32} (h : field &&& bits = 0) :
      (if present then field else 0) &&& bits = 0 := by
    cases present with
    | false => exact UInt32.zero_and
    | true => exact h
  simp only [ofData, Bits.or_and, Bits.or_eq_zero]
  exact ⟨⟨⟨optional _ hread, optional _ hstart⟩, optional _ hstream⟩, optional _ hmultiple⟩

theorem ofCommand_number {B : Type} (command : Command B) (mode : BusMode) :
    ofCommand command mode &&& number = command.opcode &&& number := by
  have hstop : (if command.opcode = Opcode.stopTransmission then stopTransfer else 0) &&& number =
      0 := by
    split <;> decide
  have hmode : (if mode = .openDrain then openDrain else 0) &&& number = 0 := by
    split <;> decide
  simp only [ofCommand, Bits.or_and, hstop, hmode, UInt32.or_zero]
  rw [UInt32.and_assoc, UInt32.and_self]
  split <;> exact UInt32.or_zero

theorem ofData_fromCard (flags : DataFlags) : anyBit (ofData flags) fromCard = flags.isRead := by
  simp only [ofData, anyBit_or, anyBit_ite, show anyBit fromCard fromCard = true from rfl,
    show anyBit startTransfer fromCard = false from rfl, show anyBit stream fromCard = false from rfl,
    show anyBit multiple fromCard = false from rfl, Bool.and_true, Bool.and_false, Bool.or_false]

theorem ofData_transfer (flags : DataFlags) :
    ofData flags &&& transfer = if flags.transfers then startTransfer else 0 := by
  have hread : (if flags.isRead then fromCard else 0) &&& transfer = 0 := by
    cases flags.isRead <;> decide
  have hstart : (if flags.transfers then startTransfer else 0) &&& transfer =
      if flags.transfers then startTransfer else 0 := by
    cases flags.transfers <;> decide
  have hstream : (if flags.isStream then stream else 0) &&& transfer = 0 := by
    cases flags.isStream <;> decide
  have hmultiple : (if flags.isMultiple then multiple else 0) &&& transfer = 0 := by
    cases flags.isMultiple <;> decide
  simp only [ofData, Bits.or_and, hread, hstart, hstream, hmultiple, UInt32.zero_or, UInt32.or_zero]

theorem ofCommand_data {B : Type} (command : Command B) (mode : BusMode) :
    ofCommand command mode &&& (transfer ||| fromCard) =
      if command.opcode = Opcode.stopTransmission then stopTransfer else 0 := by
  have hnumber : (command.opcode &&& number) &&& (transfer ||| fromCard) = 0 := by
    rw [UInt32.and_assoc]
    exact UInt32.and_zero
  have hmode : (if mode = .openDrain then openDrain else 0) &&& (transfer ||| fromCard) = 0 := by
    split <;> decide
  have hstop : (if command.opcode = Opcode.stopTransmission then stopTransfer else 0) &&&
      (transfer ||| fromCard) =
        if command.opcode = Opcode.stopTransmission then stopTransfer else 0 := by
    split <;> decide
  simp only [ofCommand, Bits.or_and, hnumber, hmode, hstop, UInt32.zero_or, UInt32.or_zero]
  generalize (if command.opcode = Opcode.stopTransmission then stopTransfer else 0) = stop
  split <;> exact UInt32.zero_or

theorem ofCommand_responseKind_eq {B : Type} (command : Command B) (mode : BusMode) :
    ofCommand command mode &&& responseKind =
      if command.flags.words = 0 then noResponse else if command.flags.words = 4 then longResponse
        else shortResponse := by
  have hnumber : (command.opcode &&& number) &&& responseKind = 0 := by
    rw [UInt32.and_assoc]
    exact UInt32.and_zero
  have hstop : (if command.opcode = Opcode.stopTransmission then stopTransfer else 0) &&& responseKind = 0 := by
    split <;> decide
  have hmode : (if mode = .openDrain then openDrain else 0) &&& responseKind = 0 := by
    split <;> decide
  simp only [ofCommand, Bits.or_and, hnumber, hstop, hmode, UInt32.zero_or, UInt32.or_zero]
  unfold ResponseFlags.words
  cases command.flags.present <;> cases command.flags.long <;> decide

theorem ofCommand_responseKind {B : Type} (command : Command B) (mode : BusMode) :
    anyBit (ofCommand command mode) responseKind = command.flags.present := by
  rw [anyBit, ofCommand_responseKind_eq]
  unfold ResponseFlags.words
  cases command.flags.present <;> cases command.flags.long <;> rfl

end CommandWord

namespace Controller

variable {H : Type} (c : Controller H) (command : Command BufferId)

theorem wireWord_number :
    c.wireWord command &&& CommandWord.number = command.opcode &&& CommandWord.number := by
  rw [wireWord, Bits.or_and, CommandWord.ofCommand_number]
  cases command.data with
  | none => exact UInt32.or_zero
  | some data => rw [Option.elim_some, CommandWord.ofData_apart _ (by decide), UInt32.or_zero]

theorem wireWord_fromCard : anyBit (c.wireWord command) CommandWord.fromCard =
    (command.data.elim false fun data => data.flags.isRead) := by
  have hc : anyBit (CommandWord.ofCommand command c.host.bus.mode) CommandWord.fromCard = false := by
    have h := congrArg (· &&& CommandWord.fromCard)
      (CommandWord.ofCommand_data command c.host.bus.mode)
    simp only [UInt32.and_assoc] at h
    rw [anyBit, show CommandWord.fromCard =
      (CommandWord.transfer ||| CommandWord.fromCard) &&& CommandWord.fromCard from rfl, h]
    split <;> rfl
  rw [wireWord, anyBit_or, hc, Bool.false_or]
  cases command.data with
  | none => exact anyBit_zero _
  | some data => exact CommandWord.ofData_fromCard data.flags

theorem wireWord_transfer : c.wireWord command &&& CommandWord.transfer =
    (if command.opcode = Opcode.stopTransmission then CommandWord.stopTransfer else 0) |||
      (if command.data.elim false (fun data => data.flags.transfers) then CommandWord.startTransfer
        else 0) := by
  have hc : CommandWord.ofCommand command c.host.bus.mode &&& CommandWord.transfer =
      if command.opcode = Opcode.stopTransmission then CommandWord.stopTransfer else 0 := by
    have h := congrArg (· &&& CommandWord.transfer)
      (CommandWord.ofCommand_data command c.host.bus.mode)
    simp only [UInt32.and_assoc] at h
    rw [show CommandWord.transfer =
      (CommandWord.transfer ||| CommandWord.fromCard) &&& CommandWord.transfer from rfl, h]
    split <;> rfl
  rw [wireWord, Bits.or_and, hc]
  cases command.data with
  | none => rfl
  | some data => exact congrArg (_ ||| ·) (CommandWord.ofData_transfer data.flags)

theorem wireWord_responseKind :
    anyBit (c.wireWord command) CommandWord.responseKind = command.flags.present := by
  rw [wireWord, anyBit_or, CommandWord.ofCommand_responseKind]
  cases command.data with
  | none => rw [Option.elim_none, anyBit_zero, Bool.or_false]
  | some data =>
    rw [Option.elim_some, anyBit, CommandWord.ofData_apart _ (by decide), bne_self_eq_false,
      Bool.or_false]

theorem wireWord_starts
    (transfers : command.data.elim false (fun data => data.flags.transfers) = true)
    (other : command.opcode ≠ Opcode.stopTransmission) :
    c.wireWord command &&& CommandWord.transfer = CommandWord.startTransfer := by
  rw [wireWord_transfer, transfers, if_neg other]
  rfl

theorem wireWord_starts_nothing
    (still : command.data.elim false (fun data => data.flags.transfers) = false) :
    c.wireWord command &&& CommandWord.transfer ≠ CommandWord.startTransfer := by
  rw [wireWord_transfer, still]
  split <;> decide

end Controller

end CardHost
