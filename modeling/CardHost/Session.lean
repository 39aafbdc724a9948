import CardHost.Controller.Client

namespace CardHost

def blockSize : Nat := 512

structure CardInfo where
  address : UInt16 := 0
  /-- The card is addressed in blocks rather than bytes. -/
  highCapacity : Bool := false
  capacity : UInt64 := 0
  width : BusWidth := .one
  clock : UInt32 := 0
  deriving Repr, DecidableEq

namespace CardInfo

def capacityOfCsd (csd : Response) : UInt64 :=
  if csd[0] >>> 30 == 1 then
    let size := ((csd[1] &&& 0x3f) <<< 16) ||| (csd[2] >>> 16)
    (size.toUInt64 + 1) * 512 * 1024
  else
    let lengthBits := (csd[1] >>> 16) &&& (0xf : UInt32)
    let size := ((csd[1] &&& 0x3ff) <<< 2) ||| (csd[2] >>> 30)
    let multiplierBits := (csd[2] >>> 15) &&& (0x7 : UInt32)
    (size.toUInt64 + 1) <<< (multiplierBits + 2 + lengthBits).toUInt64

end CardInfo

structure Session (H : Type) where
  controller : Controller H
  info : CardInfo := {}
  patience : Nat := 1000
  /-- Something serves the interrupts. -/
  attended : Bool := true

namespace Session

variable {H : Type} [Hardware H] [InterruptLine H]

abbrev Action (H : Type) := ExceptT SessionError (StateM (Session H))

def serviceLimit : Nat := 64

def settle (s : Session H) : Session H :=
  if s.attended then { s with controller := (s.controller.serveLine serviceLimit).2 } else s

omit [InterruptLine H] in
def refuse {α : Type} : Except Refusal α × Controller H → Session H → Except SessionError α × Session H
  | (.ok a, controller), s => (.ok a, { s with controller })
  | (.error e, controller), s => (.error (.refused e), { s with controller })

omit [InterruptLine H] in
def step {α : Type} (f : Controller H → Except Refusal α × Controller H) : Action H α :=
  fun s => refuse (f s.controller) s

omit [Hardware H] [InterruptLine H] in
def owning {α : Type} (act : Action H α) : Action H α := fun s =>
  let s := { s with controller := (s.controller.acquire?).getD s.controller }
  let (result, s) := act s
  (result, { s with controller := s.controller.release })

def firstError {B : Type} (r : Request B) : Option SessionError :=
  (r.command :: r.stop.toList).findSome? fun cmd => cmd.error.map (.command cmd.opcode)

def execute (request : Request Bytes) : Action H (Request Bytes) := fun s =>
  match s.controller.submit request with
  | (.error rejection, controller) => (.error (.refused rejection.reason), { s with controller })
  | (.ok ticket, controller) =>
    let s := { s with controller }.settle
    let (answer, parts) := s.controller.toParts.poll ticket
    let s := { s with controller := { s.controller with toParts := parts.drop ticket } }
    match answer with
    | .error e => (.error (.refused e), s)
    | .ok none => (.error (.stalled s.patience), s)
    | .ok (some request) =>
      match firstError request with
      | some e => (.error e, s)
      | none => (.ok request, s)

def command (cmd : Command Bytes) : Action H (Command Bytes) := do
  let request ← execute ⟨cmd, none⟩
  return request.command

def announce (argument : UInt32) : Action H Unit := do
  let _ ← command { opcode := Opcode.application, argument, flags := .r1 }

/-- The voltages and the pattern that a card of version two echoes. -/
def interfaceCheck : UInt32 := 0x1aa

def probeVersion : Action H Bool := fun s =>
  let cmd := { opcode := Opcode.sendInterfaceCond, argument := interfaceCheck, flags := .r7 }
  match (command cmd).run.run s with
  | (.ok cmd, s) =>
    if cmd.response.word 0 &&& 0xfff = interfaceCheck then (.ok true, s) else (.error .voltageMismatch, s)
  | (.error (.command _ _), s) => (.ok false, s)
  | (.error e, s) => (.error e, s)

def awaitReady (opCond : UInt32) : Nat → Action H UInt32
  | 0 => throw .neverReady
  | attempts + 1 => do
    announce 0
    let cmd ← command { opcode := AppOpcode.sendOpCond, argument := opCond, flags := .r3 }
    if anyBit (cmd.response.word 0) OpCond.ready then return cmd.response.word 0
    else awaitReady opCond attempts

def readyAttempts : Nat := 100

def lowestBit (bits : UInt32) : Nat :=
  ((List.range 32).find? fun i => bits.toNat.testBit i).getD 32

omit [InterruptLine H] in
def writeProperty (value : PropertyValue) : Action H Unit := step (·.writeProperty value)

omit [InterruptLine H] in
def setTiming (clock : UInt32) (width : BusWidth) : Action H BusSettings :=
  step (·.setTiming clock width)

def powerUp (host : HostSettings) : Action H Unit := do
  writeProperty (.powerMode .up)
  writeProperty (.voltage (UInt32.ofNat (lowestBit host.hostOpCond)))
  writeProperty (.busMode .openDrain)
  writeProperty (.powerMode .on)
  let _ ← setTiming host.minClock .one

def negotiate (host : HostSettings) : Action H UInt32 := do
  let _ ← command { opcode := Opcode.goIdle }
  let versionTwo ← probeVersion
  let highCapacity := if versionTwo then OpCond.highCapacity else 0
  let opCond ← awaitReady (host.hostOpCond ||| highCapacity) readyAttempts
  writeProperty (.opCond (opCond &&& host.hostOpCond))
  writeProperty (.family .sd)
  return opCond

def discover : Action H (UInt16 × Response) := do
  let _ ← command { opcode := Opcode.allSendCid, flags := .r2 }
  let published ← command { opcode := Opcode.sendRelativeAddress, flags := .r6 }
  let address := (published.response.word 0 >>> 16).toUInt16
  let described ← command
    { opcode := Opcode.sendCsd, argument := address.toUInt32 <<< 16, flags := .r2 }
  return (address, described.response)

def widen (host : HostSettings) (addressed : UInt32) (narrow : BusSettings) :
    Action H BusSettings := do
  match ← step (·.readProperty .capabilities) with
  | .capabilities capabilities =>
    if capabilities.fourWire then
      announce addressed
      let _ ← command { opcode := AppOpcode.setBusWidth, argument := 2, flags := .r1 }
      setTiming host.maxClock .four
    else return narrow
  | _ => return narrow

def identify : Action H CardInfo := do
  let host := (← get).controller.settings
  powerUp host
  let opCond ← negotiate host
  let (address, csd) ← discover
  let addressed := address.toUInt32 <<< 16
  writeProperty (.busMode .pushPull)
  let narrow ← setTiming host.maxClock .one
  let _ ← command { opcode := Opcode.selectCard, argument := addressed, flags := .r1b }
  let bus ← widen host addressed narrow
  let _ ← command
    { opcode := Opcode.setBlockLength, argument := UInt32.ofNat blockSize, flags := .r1 }
  return {
    address
    highCapacity := anyBit opCond OpCond.highCapacity
    capacity := CardInfo.capacityOfCsd csd
    width := bus.width
    clock := bus.clock }

def start (controller : Controller H) (patience : Nat) (attended : Bool) :
    Except SessionError CardInfo × Session H :=
  match (owning identify).run.run { controller, patience, attended } with
  | (.ok info, s) => (.ok info, { s with info })
  | (.error e, s) => (.error e, s)

omit [Hardware H] [InterruptLine H] in
def blockCount (s : Session H) : UInt64 := s.info.capacity / UInt64.ofNat blockSize

end Session

namespace CardInfo

def blockArgument (info : CardInfo) (block : UInt64) : UInt32 :=
  if info.highCapacity then block.toUInt32 else (block * UInt64.ofNat blockSize).toUInt32

end CardInfo

namespace Session

variable {H : Type} [Hardware H] [InterruptLine H]

def readBlock (block : UInt64) (buffer : Bytes) : Action H Bytes := do
  if buffer.length ≠ blockSize then throw (.unaligned buffer.length)
  owning do
    let argument := (← get).info.blockArgument block
    let data : Payload Bytes := { buffer := Bytes.zeros blockSize, flags := .read }
    let cmd ← command { opcode := Opcode.readBlock, argument, flags := .r1, data := some data }
    return (cmd.data.map (·.buffer)).getD buffer

def writeBlock (block : UInt64) (buffer : Bytes) : Action H Unit := do
  if buffer.length ≠ blockSize then throw (.unaligned buffer.length)
  owning do
    let argument := (← get).info.blockArgument block
    let data : Payload Bytes := { buffer, flags := .write }
    let _ ← command { opcode := Opcode.writeBlock, argument, flags := .r1, data := some data }

def status : Action H UInt32 :=
  owning do
    let argument := (← get).info.address.toUInt32 <<< 16
    let cmd ← command { opcode := Opcode.sendStatus, argument, flags := .r1 }
    return cmd.response.word 0

end Session

end CardHost
