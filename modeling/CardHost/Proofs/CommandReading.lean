import CardHost.Proofs.Bench
import CardHost.Proofs.ChannelOrder
import CardHost.Proofs.CommandWords

namespace CardHost

open Bus

def DataFlags.direction? (flags : DataFlags) : Option Direction :=
  if flags.isRead then some .fromCard else if flags.isWrite then some .toCard else none

def Command.direction? {B : Type} (command : Command B) : Option Direction :=
  command.data.bind fun data => data.flags.direction?

theorem DataFlags.isSome_direction? (flags : DataFlags) : flags.direction?.isSome = flags.transfers := by
  unfold direction? transfers
  cases flags.isRead <;> cases flags.isWrite <;> rfl

theorem Command.isSome_direction? {B : Type} (command : Command B) :
    command.direction?.isSome = command.data.elim false fun data => data.flags.transfers := by
  unfold direction?
  cases command.data with
  | none => rfl
  | some data => exact data.flags.isSome_direction?

theorem Command.direction?_fromCard {B : Type} {command : Command B} {d : Direction}
    (h : command.direction? = some d) :
    (command.data.elim false fun data => data.flags.isRead) = decide (d = .fromCard) := by
  unfold direction? at h
  cases hd : command.data with
  | none =>
    rw [hd] at h
    cases h
  | some data =>
    rw [hd] at h
    change data.flags.direction? = some d at h
    rw [Option.elim_some]
    unfold DataFlags.direction? at h
    cases hr : data.flags.isRead with
    | true =>
      rw [hr] at h
      cases h
      rfl
    | false =>
      rw [hr] at h
      cases hw : data.flags.isWrite with
      | true =>
        rw [hw] at h
        cases h
        rfl
      | false =>
        rw [hw] at h
        cases h

namespace CommandWord

theorem ofCommand_openDrain {B : Type} (command : Command B) (mode : BusMode) :
    anyBit (ofCommand command mode) openDrain = decide (mode = .openDrain) := by
  have hnumber : anyBit (command.opcode &&& number) openDrain = false :=
    anyBit_apart _ (by decide)
  have hstop : anyBit (if command.opcode = Opcode.stopTransmission then stopTransfer else 0) openDrain =
      false := by
    split <;> rfl
  simp only [ofCommand, anyBit_or, hnumber, hstop, Bool.false_or, Bool.or_false, ResponseFlags.words]
  cases command.flags.present <;> cases command.flags.long <;> cases mode <;> rfl

structure Reads {B : Type} (command : Command B) (mode : BusMode) (word : UInt32) : Prop where
  number : (word &&& CommandWord.number).toNat = command.opcode.toNat % 64
  expected : word &&& responseKind ≠ noResponse ↔ 0 < command.flags.words
  long : word &&& responseKind = longResponse ↔ command.flags.words = 4
  openDrain : anyBit word CommandWord.openDrain = true ↔ mode = .openDrain

end CommandWord

namespace Simulator

def dataPhase? (word : UInt32) : Option Direction :=
  if word &&& CommandWord.transfer = CommandWord.startTransfer then
    some (if anyBit word CommandWord.fromCard then .fromCard else .toCard)
  else none

end Simulator

namespace Controller

theorem wireWord_transfer_direction {H : Type} (c : Controller H) (command : Command BufferId) :
    c.wireWord command &&& CommandWord.transfer =
      (if command.opcode = Opcode.stopTransmission then CommandWord.stopTransfer else 0) |||
        (if command.direction?.isSome then CommandWord.startTransfer else 0) := by
  rw [wireWord_transfer, command.isSome_direction?]

theorem wireWord_reads {H : Type} (c : Controller H) (command : Command BufferId) :
    CommandWord.Reads command c.host.bus.mode (c.wireWord command) := by
  have data_kind : (command.data.elim 0 fun data => CommandWord.ofData data.flags) &&&
      CommandWord.responseKind = 0 := by
    cases command.data with
    | none => rfl
    | some data => exact CommandWord.ofData_apart data.flags (by decide)
  have data_drain : anyBit (command.data.elim 0 fun data => CommandWord.ofData data.flags)
      CommandWord.openDrain = false := by
    cases command.data with
    | none => rfl
    | some data => exact bne_eq_false_iff_eq.mpr (CommandWord.ofData_apart data.flags (by decide))
  have kind : c.wireWord command &&& CommandWord.responseKind =
      CommandWord.ofCommand command c.host.bus.mode &&& CommandWord.responseKind := by
    rw [wireWord, Bits.or_and, data_kind, UInt32.or_zero]
  constructor
  case number => rw [wireWord_number, CommandWord.toNat_number]
  case expected =>
    rw [kind, CommandWord.ofCommand_responseKind_eq]
    unfold ResponseFlags.words
    cases command.flags.present <;> cases command.flags.long <;> decide
  case long =>
    rw [kind, CommandWord.ofCommand_responseKind_eq]
    unfold ResponseFlags.words
    cases command.flags.present <;> cases command.flags.long <;> decide
  case openDrain =>
    rw [wireWord, anyBit_or, data_drain, Bool.or_false, CommandWord.ofCommand_openDrain, decide_eq_true_iff]

theorem wireWord_reserved {H : Type} (c : Controller H) (command : Command BufferId) :
    c.wireWord command &&& CommandWord.transfer = CommandWord.transfer ↔
      command.opcode = Opcode.stopTransmission ∧ command.direction?.isSome = true := by
  rw [wireWord_transfer_direction]
  by_cases stops : command.opcode = Opcode.stopTransmission
  · rw [if_pos stops, and_iff_right stops]
    cases command.direction?.isSome <;> decide
  · rw [if_neg stops, iff_false_right (fun h => stops h.1)]
    cases command.direction?.isSome <;> decide

theorem wireWord_starts_iff {H : Type} (c : Controller H) (command : Command BufferId) :
    c.wireWord command &&& CommandWord.transfer = CommandWord.startTransfer ↔
      command.direction?.isSome = true ∧ command.opcode ≠ Opcode.stopTransmission := by
  rw [wireWord_transfer_direction]
  by_cases stops : command.opcode = Opcode.stopTransmission
  · rw [if_pos stops, iff_false_right (fun h => h.2 stops)]
    cases command.direction?.isSome <;> decide
  · rw [if_neg stops, and_iff_left stops]
    cases command.direction?.isSome <;> decide

theorem wireWord_dataPhase {H : Type} (c : Controller H) (command : Command BufferId) (d : Direction) :
    Simulator.dataPhase? (c.wireWord command) = some d ↔
      command.direction? = some d ∧ command.opcode ≠ Opcode.stopTransmission := by
  unfold Simulator.dataPhase?
  by_cases starts : c.wireWord command &&& CommandWord.transfer = CommandWord.startTransfer
  · obtain ⟨directed, other⟩ := (c.wireWord_starts_iff command).mp starts
    obtain ⟨way, hway⟩ := Option.isSome_iff_exists.mp directed
    rw [if_pos starts, wireWord_fromCard, Command.direction?_fromCard hway, hway, and_iff_left other]
    cases way <;> rfl
  · rw [if_neg starts]
    refine ⟨nofun, fun ⟨way, other⟩ => (starts ?_).elim⟩
    exact (c.wireWord_starts_iff command).mpr ⟨by rw [way]; rfl, other⟩

variable {H : Type} [Hardware H] {c : Controller H} {a : Active} {command : Command BufferId}

omit [Hardware H] in
theorem Launches.issues_and_switches {bus : Bus H} {l : List Access} {c' : Controller H}
    (launches : Launches c a command bus l c') :
    l.filter Access.issues = [] ∧ (∀ d, l.any (Access.switchesOn d) = false) ∨
      l.filter Access.issues = [.write Register.command (c.wireWord command)] ∧
        ∀ d, l.any (Access.switchesOn d) = true ↔ command.direction? = some d := by
  cases launches with
  | plain none =>
    refine .inr ⟨rfl, fun d => ?_⟩
    rw [Command.direction?, none]
    cases d <;> exact ⟨nofun, nofun⟩
  | idle data mode data_eq still =>
    refine .inr ⟨rfl, fun d => ?_⟩
    have undirected : data.flags.direction? = none := by
      rw [← Option.not_isSome_iff_eq_none, data.flags.isSome_direction?, still]
      decide
    rw [Command.direction?, data_eq, Option.bind_some, undirected]
    cases d <;> exact ⟨nofun, nofun⟩
  | read data mode address bytes data_eq isRead =>
    refine .inr ⟨rfl, fun d => ?_⟩
    have direction : data.flags.direction? = some .fromCard := if_pos isRead
    rw [Command.direction?, data_eq, Option.bind_some, direction]
    cases d
    · exact ⟨fun _ => rfl, fun _ => rfl⟩
    · exact ⟨nofun, nofun⟩
  | write data mode address bytes length data_eq isRead isWrite =>
    refine .inr ⟨rfl, fun d => ?_⟩
    have direction : data.flags.direction? = some .toCard := by
      unfold DataFlags.direction?
      rw [isRead, isWrite]
      rfl
    rw [Command.direction?, data_eq, Option.bind_some, direction]
    cases d
    · exact ⟨nofun, nofun⟩
    · exact ⟨fun _ => rfl, fun _ => rfl⟩
  | unstaged => exact .inl ⟨rfl, fun d => by cases d <;> rfl⟩
  | refused => exact .inl ⟨rfl, fun d => by cases d <;> rfl⟩

end Controller

/-- What a launch puts on the wire, the controller reads as the command that it is, and the simulator opens a
data phase on it just where a channel is on for its data, in the same direction; but the number that stops
transfers leaves the transfer field, together with data, at a value of no meaning, and opens nothing. -/
theorem command_words_read_alike {H : Type} [Hardware H] (c : Controller (Recorder H)) {a : Active}
    {command : Command BufferId} (active : c.active = some a) (current : a.current? = some command) :
    ∃ l, (c.launch command).bus.hardware.log.toList = c.bus.hardware.log.toList ++ l ∧
      (l.filter Access.issues = [] ∧ (∀ d, l.any (Access.switchesOn d) = false) ∨
        ∃ word, l.filter Access.issues = [.write Register.command word] ∧
          CommandWord.Reads command c.host.bus.mode word ∧
          (word &&& CommandWord.transfer = CommandWord.transfer ↔
            command.opcode = Opcode.stopTransmission ∧ command.direction?.isSome = true) ∧
          ∀ d, Simulator.dataPhase? word = some d ↔
            l.any (Access.switchesOn d) = true ∧ command.opcode ≠ Opcode.stopTransmission) := by
  obtain ⟨l, bus, performs, launches⟩ := Controller.launch_launches active current
  refine ⟨l, ?_, ?_⟩
  · have hbus : (c.launch command).bus = bus := by
      generalize c.launch command = c' at launches
      cases launches <;> rfl
    rw [hbus]
    exact Recorder.log_performs performs
  · rcases launches.issues_and_switches with quiet | ⟨issues, switches⟩
    · exact .inl quiet
    · refine .inr ⟨c.wireWord command, issues, c.wireWord_reads command, c.wireWord_reserved command, fun d => ?_⟩
      rw [switches d]
      exact c.wireWord_dataPhase command d

def Controller.reading : Controller (Recorder Simulator) :=
  { Controller.fresh 0 (Board.reference .sam9260) .default
      { inner := { soc := .sam9260, card := .ofMedium (.blank 1024) } } with
    active := some ⟨0, ⟨{ opcode := Opcode.readBlock, flags := .r1, data := some ⟨1, .read, 0⟩ }, none⟩, .command⟩ }

theorem read_word_read_alike :
    let read : Command BufferId := { opcode := Opcode.readBlock, flags := .r1, data := some ⟨1, .read, 0⟩ }
    ∃ word, .write Register.command word ∈ (Controller.reading.launch read).bus.hardware.log.toList ∧
      CommandWord.Reads read .openDrain word ∧ Simulator.dataPhase? word = some .fromCard := by
  intro read
  have current : (Active.mk 0 ⟨read, none⟩ .command).current? = some read := rfl
  obtain ⟨l, log, quiet | ⟨word, issues, reads, -, phases⟩⟩ :=
    command_words_read_alike Controller.reading rfl current
  · have one : (((Controller.reading.launch read).bus.hardware.log.toList).filter Access.issues).length = 1 := by
      decide +kernel
    rw [log] at one
    change (l.filter Access.issues).length = 1 at one
    rw [quiet.1] at one
    cases one
  · refine ⟨word, ?_, reads, ?_⟩
    · rw [log]
      have there : Access.write Register.command word ∈ l.filter Access.issues := by
        rw [issues]
        exact List.mem_singleton_self _
      exact (List.mem_filter.mp there).1
    · refine (phases .fromCard).mpr ⟨?_, by decide⟩
      have on : ((Controller.reading.launch read).bus.hardware.log.toList).any
          (Access.switchesOn .fromCard) = true := by decide +kernel
      rwa [log] at on

/-- A stop with data to read: the channel is on for it, no data phase is opened, and nothing comes any more. -/
theorem stop_with_data_waits :
    let start := System.start 0 (Board.reference .sam9260) .default
      { soc := .sam9260, card := .ofMedium (.blank 1024) }
    let stop : Request Bytes :=
      { command :=
          { opcode := Opcode.stopTransmission, flags := .r1b, data := some ⟨[255, 255, 255, 255], .read, 0⟩ } }
    ∃ c word, start.afterStimuli [.operate (.submit stop)] = .whole c ∧
      c.bus.hardware.register Register.command = word ∧
      word &&& CommandWord.transfer = CommandWord.transfer ∧ c.bus.hardware.receiveOn = true ∧
      Simulator.dataPhase? word = none ∧ c.active.isSome = true ∧ c.bus.hardware.asserted = false :=
  ⟨_, _, rfl, rfl, rfl, rfl, rfl, rfl, rfl⟩

end CardHost
