import CardHost.Controller.Launch
/-!
Serving an interrupt. A read goes through the end of its channel, the full buffer and the ready
command; a write through the empty buffer, the idle data line and the ready command. Each stage
unmasks the next. An error bit ends the command at once.
-/
namespace CardHost

namespace CommandError

/-- The error that a status stands for. The answers to the two inquiries for operating conditions
carry no checksum, so that a wrong one is no error there. -/
def ofStatus? (status opcode : UInt32) : Option CommandError :=
  if anyBit status Status.responseCrc &&
      (opcode == Opcode.sendOpCond || opcode == AppOpcode.sendOpCond) then none
  else if anyBit status (Status.responseTimeout ||| Status.dataTimeout) then some .timeout
  else if anyBit status (Status.responseCrc ||| Status.dataCrc) then some .badCrc
  else if anyBit status (Status.overrun ||| Status.underrun) then some .fifo
  else some .failed

end CommandError

namespace Controller

variable {H : Type} [Hardware H]

def readResponse (c : Controller H) : Nat → Nat → Controller H
  | _, 0 => c
  | i, n + 1 =>
    let (word, c) := c.read (Register.response + 4 * i)
    let c := c.modifyCurrent fun cmd =>
      { cmd with response := cmd.response.setIfInBounds i word }
    readResponse c (i + 1) n

def conclude (c : Controller H) (command : Command BufferId) (error : Option CommandError) :
    Controller H :=
  let c := c.modifyCurrent fun cmd => { cmd with error }
  let c := c.write Register.disable Status.all
  (c.readResponse 0 command.flags.words).advance

omit [Hardware H] in
def accountMoved (c : Controller H) (command : Command BufferId) : Controller H :=
  match command.data with
  | none => c
  | some data =>
    let moved := (c.buffer data.buffer).length
    c.modifyCurrent fun cmd => { cmd with data := some { data with moved } }

def serveSent (c : Controller H) (command : Command BufferId) : Controller H :=
  let c := c.writeAll
    [(Register.channelControl, Channel.stop), (Register.disable, Status.transmitEmpty),
      (Register.enable, Status.notBusy)]
  ((c.sync .afterWrite).unload).accountMoved command

def serveFull (c : Controller H) : Controller H :=
  c.writeAll [(Register.disable, Status.receiveFull), (Register.enable, Status.commandReady)]

omit [Hardware H] in
/-- Puts received words into order, on chips that store them reversed. -/
def restoreOrder (c : Controller H) (command : Command BufferId) : Controller H :=
  match command.data with
  | none => c
  | some data =>
    if c.board.soc.swapsBytes then
      c.setBuffer data.buffer (c.buffer data.buffer).reverseWords
    else c

def serveReceived (c : Controller H) (command : Command BufferId) : Controller H :=
  let c := (((c.sync .afterRead).unload).restoreOrder command).accountMoved command
  c.writeAll
    [(Register.disable, Status.endReceive), (Register.enable, Status.receiveFull),
      (Register.channelControl, Channel.stop)]

def serveIdleLine (c : Controller H) : Controller H :=
  c.writeAll [(Register.disable, Status.notBusy), (Register.enable, Status.commandReady)]

def serveStages (c : Controller H) (command : Command BufferId) (status : UInt32) : Controller H :=
  let c := if anyBit status Status.transmitEmpty then c.serveSent command else c
  let c := if anyBit status Status.receiveFull then c.serveFull else c
  let c := if anyBit status Status.endReceive then c.serveReceived command else c
  let c := if anyBit status Status.notBusy then c.serveIdleLine else c
  if anyBit status Status.commandReady then c.conclude command none else c

def serveError (c : Controller H) (command : Command BufferId) (status : UInt32) : Controller H :=
  match CommandError.ofStatus? status command.opcode with
  | some e => c.unload.conclude command (some e)
  | none => c.conclude command none

def serve (c : Controller H) : Controller H :=
  let (status, c) := c.read Register.status
  let (mask, c) := c.read Register.mask
  let status := status &&& mask
  match c.current? with
  | none => c.write Register.disable Status.all
  | some command =>
    if anyBit status Status.errors then c.serveError command status
    else c.serveStages command status

def interrupt (c : Controller H) : Controller H := if c.detached then c else c.serve

def serveLine [InterruptLine H] (c : Controller H) (limit : Nat) : Nat × Controller H :=
  pump (fun c => InterruptLine.asserted c.bus.hardware) interrupt limit c

end Controller

end CardHost
