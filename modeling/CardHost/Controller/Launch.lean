import CardHost.Controller.Basic

namespace CardHost

namespace CommandWord

def ofCommand {B : Type} (command : Command B) (mode : BusMode) : UInt32 :=
  (command.opcode &&& number) |||
    (match command.flags.words with
      | 0 => noResponse
      | 4 => slowAnswer ||| longResponse
      | _ => slowAnswer ||| shortResponse) |||
    (if command.opcode = Opcode.stopTransmission then stopTransfer else 0) |||
    (if mode = .openDrain then openDrain else 0)

def ofData (flags : DataFlags) : UInt32 :=
  (if flags.isRead then fromCard else 0) |||
    (if flags.transfers then startTransfer else 0) |||
    (if flags.isStream then stream else 0) |||
    (if flags.isMultiple then multiple else 0)

end CommandWord

namespace Controller

variable {H : Type} [Hardware H]

omit [Hardware H] in
def finish (c : Controller H) : Controller H :=
  match c.active with
  | none => c
  | some a =>
    let tickets := c.tickets.modify a.ticket fun
      | .waiting => .ready a.request
      | other => other
    { c with tickets, active := none }

def issuePlain (c : Controller H) (argument word : UInt32) : Controller H :=
  c.writeAll <| clearChannels ++
    [(Register.argument, argument), (Register.command, word),
      (Register.enable, Status.errors ||| Status.commandReady)]

def prepareData (c : Controller H) (length : Nat) : Controller H :=
  let (mode, c) := c.read Register.mode
  let block := (UInt32.ofNat length <<< 16) &&& Mode.blockLength
  c.writeAll
    [(Register.mode, (mode &&& ~~~Mode.blockLength) ||| block ||| Mode.channels),
      (Register.channelControl, Channel.stop)]

/-- Makes the data of a transfer reachable: the client's own buffer for a read, the bounce buffer for a
write. Answers the bus address and the length. -/
def mapData (c : Controller H) (data : Payload BufferId) :
    Except MappingError (UInt32 × Nat) × Controller H :=
  if data.flags.isRead then
    let length := (c.buffer data.buffer).length
    match c.load data.buffer length .fromCard with
    | (.ok address, c) => (.ok (address, length), c)
    | (.error e, c) => (.error e, c)
  else
    let soc := c.board.soc
    match Staging.stage (c.buffer c.bounce) (c.buffer data.buffer) soc.secondRevision
      Staging.minLength soc.swapsBytes with
    | .error e => (.error e, c)
    | .ok (length, bytes) =>
      match (c.setBuffer c.bounce bytes).load c.bounce length .toCard with
      | (.ok address, c) => (.ok (address, length), c)
      | (.error e, c) => (.error e, c)

def issueRead (c : Controller H) (address : UInt32) (length : Nat) (argument word : UInt32) :
    Controller H :=
  (c.sync .beforeRead).writeAll
    [(Register.receivePointer, address), (Register.receiveCount, UInt32.ofNat (length / 4)),
      (Register.argument, argument), (Register.channelControl, Channel.receiveOn),
      (Register.command, word), (Register.enable, Status.errors ||| Status.endReceive)]

def issueWrite (c : Controller H) (address : UInt32) (length : Nat) (argument word : UInt32) :
    Controller H :=
  (c.sync .beforeWrite).writeAll
    [(Register.transmitPointer, address), (Register.transmitCount, UInt32.ofNat (length / 4)),
      (Register.argument, argument), (Register.command, word),
      (Register.channelControl, Channel.transmitOn),
      (Register.enable, Status.errors ||| Status.transmitEmpty)]

def issueIdle (c : Controller H) (argument word : UInt32) : Controller H :=
  c.writeAll
    [(Register.argument, argument), (Register.command, word),
      (Register.enable, Status.errors ||| Status.commandReady)]

/-- Puts a command on the wire. One whose data cannot be mapped ends here, with its whole request. -/
def launch (c : Controller H) (command : Command BufferId) : Controller H :=
  let word := CommandWord.ofCommand command c.host.bus.mode
  match command.data with
  | none => c.issuePlain command.argument word
  | some data =>
    let word := word ||| CommandWord.ofData data.flags
    let c := c.prepareData (c.buffer data.buffer).length
    if data.flags.transfers then
      let c := c.modifyCurrent fun cmd => { cmd with data := some { data with moved := 0 } }
      match c.mapData data with
      | (.error _, c) => (c.modifyCurrent fun cmd => { cmd with error := some .noMemory }).finish
      | (.ok (address, length), c) =>
        if data.flags.isRead then c.issueRead address length command.argument word
        else c.issueWrite address length command.argument word
    else c.issueIdle command.argument word

def advance (c : Controller H) : Controller H :=
  match c.active with
  | none => c
  | some a =>
    match a.phase, a.request.stop with
    | .command, some stop => { c with active := some { a with phase := .stop } }.launch stop
    | _, _ => c.finish

end Controller

end CardHost
