import CardHost.Medium

namespace CardHost

/-- Unit of addressing of a high-capacity card. -/
def sectorSize : Nat := 512

inductive CardState where
  | idle
  | ready
  | identify
  | standby
  | transfer
  | data
  | receive
  | program
  deriving Repr, DecidableEq

def CardState.number : CardState → UInt32
  | idle => 0
  | ready => 1
  | identify => 2
  | standby => 3
  | transfer => 4
  | data => 5
  | receive => 6
  | program => 7

-- Bits of the card status.
namespace CardStatus

def application : UInt32 := 0x20
def readyForData : UInt32 := 0x100
def stateShift : UInt32 := 9
def illegalCommand : UInt32 := 0x400000
def outOfRange : UInt32 := 0x80000000

end CardStatus

inductive Reply where
  | none
  | short (word : UInt32)
  | shortNoCrc (word : UInt32)
  | long (words : Response)
  deriving Repr, DecidableEq

inductive DataPhase where
  | reading (offset : Nat) (unbounded : Bool)
  | writing (offset : Nat) (unbounded : Bool)
  | configuration
  | sdStatus
  deriving Repr, DecidableEq

structure Card where
  medium : Medium
  state : CardState := .idle
  applicationNext : Bool := false
  /-- Inquiries that the card still answers as not ready. -/
  powerUpPolls : Nat := 1
  highCapacity : Bool := false
  address : UInt16 := 0
  blockLength : UInt32 := 512
  fourWire : Bool := false
  phase : Option DataPhase := none
  /-- Error bits that the next card status will report. -/
  latched : UInt32 := 0

namespace Card

def publishedAddress : UInt16 := 0x1234

def identification : Response := #v[0x03534453, 0x44303847, 0x80123456, 0x78012a00]

/-- The configuration register: version 2.00, buses of one and four lines. -/
def configuration : Bytes := [0x02, 0x35, 0x80, 0x00, 0x00, 0x00, 0x00, 0x00]

def voltages : UInt32 := OpCond.volts32to33 ||| OpCond.volts33to34 ||| 0x00ff8000

def ofMedium (medium : Medium) : Card := { medium }

def expectsData (card : Card) : Bool := card.phase.isSome

def expectsWrite (card : Card) : Bool :=
  match card.phase with
  | some (.writing _ _) => true
  | _ => false

def statusBits (card : Card) : UInt32 :=
  (card.state.number <<< CardStatus.stateShift) |||
    (if card.applicationNext then CardStatus.application else 0) |||
    (if card.phase.isNone then CardStatus.readyForData else 0)

def report (card : Card) : UInt32 × Card := (card.statusBits ||| card.latched, { card with latched := 0 })

def answer (card : Card) : Option Reply × Card :=
  let (status, card) := card.report
  (some (.short status), card)

/-- The size field of the card's data register: its capacity in units of 512 KiB, less one. -/
def sizeField (medium : Medium) : UInt32 :=
  UInt32.ofNat (min (medium.size / (512 * 1024) - 1) 0x3fffff)

def csd (card : Card) : Response :=
  let size := sizeField card.medium
  let upper : UInt32 := (0x5b590000 : UInt32) ||| (size >>> 16)
  let lower : UInt32 := ((size &&& 0xffff) <<< 16) ||| 0x7f80
  #v[0x400e0032, upper, lower, 0x0a400001]

def byteOffset (card : Card) (argument : UInt32) : Nat :=
  if card.highCapacity then argument.toNat * sectorSize else argument.toNat

def isAddressed (card : Card) (argument : UInt32) : Bool :=
  (argument >>> 16).toUInt16 == card.address

def goIdle (card : Card) : Card :=
  { card with
    state := .idle, powerUpPolls := 1, highCapacity := false, address := 0, fourWire := false,
    phase := none }

/-- Publishes the card's address. The answer has room for some bits of the card status only. -/
def publishAddress (card : Card) : Option Reply × Card :=
  let card := { card with address := publishedAddress, state := .standby }
  let (status, card) := card.report
  let upper := (status >>> 8) &&& (0xc000 : UInt32)
  let middle := (status >>> 6) &&& (0x2000 : UInt32)
  let bits := upper ||| middle ||| (status &&& 0x1fff)
  (some (.short ((card.address.toUInt32 <<< 16) ||| bits)), card)

def select (card : Card) (argument : UInt32) : Option Reply × Card :=
  let named := card.isAddressed argument && card.address != 0
  match card.state, named with
  | .standby, true => { card with state := .transfer }.answer
  | .transfer, false => { card with state := .standby }.answer
  | _, true => card.answer
  | _, false => (none, card)

def arm (card : Card) (phase : DataPhase) (state : CardState) : Option Reply × Card :=
  let (reply, card) := card.answer
  (reply, { card with phase := some phase, state })

def stop (card : Card) : Option Reply × Card :=
  let state := match card.state with
    | .data | .receive => .transfer
    | other => other
  { card with phase := none, state }.answer

def setBlockLength (card : Card) (length : UInt32) : Card :=
  if card.highCapacity && length != UInt32.ofNat sectorSize then card
  else { card with blockLength := length }

/-- A plain command; `none` means that the card stays silent. -/
def executePlain (card : Card) (index argument : UInt32) : Option Reply × Card :=
  let silent := (none, card)
  if index = Opcode.goIdle then (some .none, card.goIdle)
  else if index = Opcode.sendInterfaceCond then
    if card.state = .idle then (some (.short (argument &&& 0xfff)), card) else silent
  else if index = Opcode.allSendCid then
    if card.state = .ready then (some (.long identification), { card with state := .identify })
    else silent
  else if index = Opcode.sendRelativeAddress then
    if card.state = .identify ∨ card.state = .standby then card.publishAddress else silent
  else if index = Opcode.selectCard then card.select argument
  else if index = Opcode.sendCsd then
    if card.isAddressed argument ∧ card.state = .standby then (some (.long card.csd), card)
    else silent
  else if index = Opcode.stopTransmission then card.stop
  else if index = Opcode.sendStatus then
    if card.isAddressed argument then card.answer else silent
  else if index = Opcode.setBlockLength then
    if card.state = .transfer then (card.setBlockLength argument).answer else silent
  else if index = Opcode.readBlock ∨ index = Opcode.readBlocks then
    if card.state = .transfer then
      card.arm (.reading (card.byteOffset argument) (index == Opcode.readBlocks)) .data
    else silent
  else if index = Opcode.writeBlock ∨ index = Opcode.writeBlocks then
    if card.state = .transfer then
      card.arm (.writing (card.byteOffset argument) (index == Opcode.writeBlocks)) .receive
    else silent
  else if index = Opcode.application then { card with applicationNext := true }.answer
  else silent

def negotiate (card : Card) (argument : UInt32) : Option Reply × Card :=
  if argument &&& voltages = 0 ∧ argument ≠ 0 then (none, card)
  else if card.powerUpPolls > 0 then
    (some (.shortNoCrc voltages), { card with powerUpPolls := card.powerUpPolls - 1 })
  else if argument ≠ 0 then
    let highCapacity := anyBit argument OpCond.highCapacity
    let value := voltages ||| OpCond.ready ||| (if highCapacity then OpCond.highCapacity else 0)
    (some (.shortNoCrc value), { card with highCapacity, state := .ready })
  else (some (.shortNoCrc voltages), card)

def markApplication : Option Reply × Card → Option Reply × Card
  | (some (.short status), card) => (some (.short (status ||| CardStatus.application)), card)
  | other => other

def executeApplication (card : Card) (index argument : UInt32) : Option Reply × Card :=
  let silent := (none, card)
  if index = AppOpcode.sendOpCond then
    if card.state = .idle then card.negotiate argument else silent
  else if card.state ≠ .transfer then silent
  else if index = AppOpcode.setBusWidth then
    markApplication { card with fourWire := argument &&& 3 == 2 }.answer
  else if index = AppOpcode.sendConfiguration then markApplication (card.arm .configuration .data)
  else if index = AppOpcode.sdStatus then markApplication (card.arm .sdStatus .data)
  else silent

def execute (card : Card) (index argument : UInt32) : Option Reply × Card :=
  if card.applicationNext then
    { card with applicationNext := false }.executeApplication index argument
  else card.executePlain index argument

def endPhase (card : Card) : Card := { card with phase := none, state := .transfer }

def failRange (card : Card) : Card :=
  { card.endPhase with latched := card.latched ||| CardStatus.outOfRange }

def latchIllegal (card : Card) : Card :=
  { card with latched := card.latched ||| CardStatus.illegalCommand }

def readData (card : Card) (count : Nat) : Except DeviceError Bytes × Card :=
  match card.phase with
  | some (.reading offset unbounded) =>
    match card.medium.read offset count with
    | .error e => (.error e, card.failRange)
    | .ok bytes =>
      if unbounded then
        (.ok bytes, { card with phase := some (.reading (offset + count) true) })
      else (.ok bytes, card.endPhase)
  | some .configuration => (.ok (configuration.overlay (Bytes.zeros count)), card.endPhase)
  | some .sdStatus =>
    let first : Bytes := if card.fourWire then [0x80] else []
    (.ok (first.overlay (Bytes.zeros count)), card.endPhase)
  | some (.writing _ _) | none => (.error .noReadPhase, card.latchIllegal)

def writeData (card : Card) (data : Bytes) : Except DeviceError Unit × Card :=
  match card.phase with
  | some (.writing offset unbounded) =>
    match card.medium.write offset data with
    | .error e => (.error e, card.failRange)
    | .ok medium =>
      let card := { card with medium }
      if unbounded then
        (.ok (), { card with phase := some (.writing (offset + data.length) true) })
      else (.ok (), card.endPhase)
  | _ => (.error .noWritePhase, card.latchIllegal)

end Card

end CardHost
