import CardHost.Hardware
import CardHost.Options
import CardHost.Staging

namespace CardHost

inductive Phase where
  | command
  | stop
  deriving Repr, DecidableEq

structure Active where
  ticket : Nat
  request : Request BufferId
  phase : Phase
  deriving Repr, DecidableEq

namespace Active

def current? (a : Active) : Option (Command BufferId) :=
  match a.phase with
  | .command => some a.request.command
  | .stop => a.request.stop

def modify (a : Active) (f : Command BufferId → Command BufferId) : Active :=
  match a.phase with
  | .command => { a with request.command := f a.request.command }
  | .stop => { a with request.stop := a.request.stop.map f }

end Active

inductive Ticket where
  | waiting
  | ready (request : Request BufferId)
  /-- The request was handed out, or will never finish. -/
  | spent
  | dropped
  deriving Repr, DecidableEq

/-- What outlives a controller: the hardware with the memory it works on, and the tickets. -/
structure Parts (H : Type) where
  bus : Bus H
  tickets : Array Ticket := #[]

structure Controller (H : Type) extends Parts H where
  unit : UInt32
  board : Board
  options : Options
  host : HostSettings
  bounce : BufferId
  /-- The clock last asked for; the settings hold the one that was reached. -/
  clockRequest : UInt32 := 0
  mapped : Nat := 0
  active : Option Active := none
  detached : Bool := false
  owned : Bool := false

namespace Controller

variable {H : Type} [Hardware H]

def read (c : Controller H) (offset : Nat) : UInt32 × Controller H :=
  let (value, bus) := c.bus.read offset
  (value, { c with bus })

def write (c : Controller H) (offset : Nat) (value : UInt32) : Controller H :=
  { c with bus := c.bus.write offset value }

def writeAll (c : Controller H) (writes : List (Nat × UInt32)) : Controller H :=
  writes.foldl (fun c w => c.write w.1 w.2) c

def load (c : Controller H) (buffer : BufferId) (length : Nat) (direction : Direction) :
    Except MappingError UInt32 × Controller H :=
  if c.mapped > 0 then (.error .alreadyMapped, c)
  else
    match c.bus.load buffer length direction with
    | (.ok address, bus) => (.ok address, { c with bus, mapped := c.mapped + 1 })
    | (.error e, bus) => (.error e, { c with bus })

def sync (c : Controller H) (point : SyncPoint) : Controller H := { c with bus := c.bus.sync point }

def unload (c : Controller H) : Controller H :=
  if c.mapped = 0 then c else { c with bus := c.bus.unload, mapped := c.mapped - 1 }

omit [Hardware H] in
def setBuffer (c : Controller H) (id : BufferId) (bytes : Bytes) : Controller H :=
  { c with bus.memory := c.bus.memory.set id bytes }

omit [Hardware H] in
def buffer (c : Controller H) (id : BufferId) : Bytes := c.bus.memory.get id

omit [Hardware H] in
def current? (c : Controller H) : Option (Command BufferId) := c.active.bind (·.current?)

omit [Hardware H] in
def modifyCurrent (c : Controller H) (f : Command BufferId → Command BufferId) : Controller H :=
  { c with active := c.active.map (·.modify f) }

def clearChannels : List (Nat × UInt32) :=
  [(Register.channelControl, Channel.stop), (Register.receivePointer, 0), (Register.receiveCount, 0),
    (Register.receiveNextPointer, 0), (Register.receiveNextCount, 0), (Register.transmitPointer, 0),
    (Register.transmitCount, 0), (Register.transmitNextPointer, 0), (Register.transmitNextCount, 0)]

/-- Masks every interrupt, stops the channels and holds the block in reset. -/
def quiesce : List (Nat × UInt32) :=
  (Register.disable, Status.all) ::
    (clearChannels ++ [(Register.control, Control.off ||| Control.softReset)])

def startMode (soc : Soc) : UInt32 :=
  Mode.channels ||| Mode.startDividers |||
    (if soc.secondRevision then Mode.readProof ||| Mode.writeProof else 0)

def powerOn (soc : Soc) : List (Nat × UInt32) :=
  [(Register.control, Control.on), (Register.disable, Status.all),
    (Register.timeout, Timeout.million ||| 1), (Register.mode, startMode soc),
    (Register.slot, Slot.first)]

def attach (unit : UInt32) (board : Board) (options : Options) (hardware : H) : Controller H :=
  let (bounce, memory) := Memory.add {} (Bytes.zeros Staging.capacity)
  let host : HostSettings :=
    { minClock := Board.minClock
      maxClock := board.maxClock
      hostOpCond := OpCond.volts32to33 ||| OpCond.volts33to34
      capabilities := Capabilities.setFourWire ⟨0⟩ options.fourWire }
  let c : Controller H := { bus := { hardware, memory }, unit, board, options, host, bounce }
  c.writeAll (quiesce ++ powerOn board.soc)

end Controller

end CardHost
