import CardHost.Card
import CardHost.Hardware
import CardHost.Staging
/-!
A card controller in software, with its transfer channels and a card. Commands and data phases happen
at once, when the register that starts them is written. The status of the channels is derived from
their counters.
-/
namespace CardHost

structure Simulator where
  soc : Soc
  card : Card
  registers : RegisterFile := {}
  enabled : Bool := false
  mask : UInt32 := 0
  /-- Status bits that stay until the next command. -/
  latched : UInt32 := 0
  receiveOn : Bool := false
  transmitOn : Bool := false
  /-- Data of the card that waits for the receive channel. -/
  arrived : Option Bytes := none
  /-- Length of the block that waits for the transmit channel. -/
  awaited : Option Nat := none
  cardBusy : Bool := false
  /-- Status bits that replace the next command. -/
  injected : UInt32 := 0
  failNextLoad : Bool := false
  /-- What the transmit channel fetched last, as it lies in memory. -/
  lastSent : Bytes := []

namespace Simulator

def busBase : UInt32 := 0x20000000

def maxMapping : Nat := 128 * 1024

def register (s : Simulator) (offset : Nat) : UInt32 := s.registers.get offset

def setRegister (s : Simulator) (offset : Nat) (value : UInt32) : Simulator :=
  { s with registers := s.registers.set offset value }

def latch (s : Simulator) (bits : UInt32) : Simulator := { s with latched := s.latched ||| bits }

def status (s : Simulator) : UInt32 :=
  let receiveDone := s.register Register.receiveCount == 0
  let transmitDone := s.register Register.transmitCount == 0
  s.latched |||
    (if receiveDone then Status.endReceive else 0) |||
    (if receiveDone && s.register Register.receiveNextCount == 0 then Status.receiveFull else 0) |||
    (if transmitDone then Status.endTransmit else 0) |||
    (if transmitDone && s.register Register.transmitNextCount == 0 then Status.transmitEmpty else 0) |||
    (if s.cardBusy then 0 else Status.notBusy)

def asserted (s : Simulator) : Bool := anyBit s.status s.mask

def reset (s : Simulator) : Simulator :=
  { s with
    registers := {}, enabled := false, mask := 0, latched := 0, receiveOn := false,
    transmitOn := false, arrived := none, awaited := none, cardBusy := false }

def stores (offset : Nat) : Bool := offset < Register.window && offset % 4 == 0

def read (s : Simulator) (offset : Nat) : UInt32 :=
  if offset = Register.status then s.status
  else if offset = Register.mask then s.mask
  else if offset = Register.channelStatus then
    (if s.receiveOn then Channel.receiveOn else 0) ||| (if s.transmitOn then Channel.transmitOn else 0)
  else if stores offset then s.register offset
  else 0

def locate? (mapped : Option Bytes) (address : UInt32) (length : Nat) : Option Nat :=
  mapped.bind fun bytes =>
    if address < busBase then none
    else
      let start := (address - busBase).toNat
      if start + length ≤ bytes.length then some start else none

def pumpReceive (s : Simulator) (mapped : Option Bytes) : Simulator × Option Bytes :=
  match s.receiveOn, s.arrived with
  | true, some data =>
    let s := { s with arrived := none }
    let address := s.register Register.receivePointer
    let length := min ((s.register Register.receiveCount).toNat * 4) data.length
    match locate? mapped address length with
    | none => (s.latch Status.overrun, none)
    | some start =>
      let bytes := mapped.getD []
      let moved : Bytes := data.take length
      let moved := if s.soc.swapsBytes then moved.reverseWords else moved
      ((s.setRegister Register.receivePointer (address + UInt32.ofNat length)).setRegister
          Register.receiveCount 0,
        some (bytes.take start ++ moved ++ bytes.drop (start + length)))
  | _, _ => (s, none)

def deliver (s : Simulator) (fetched : Bytes) (block : Nat) : Simulator :=
  if s.soc.secondRevision && fetched.length < Staging.minLength then s.latch Status.underrun
  else
    let payload := if s.soc.swapsBytes then fetched.reverseWords else fetched
    match s.card.writeData (payload.take block) with
    | (.ok (), card) => { s with card }
    | (.error _, card) => { s with card }.latch Status.dataCrc

def pumpTransmit (s : Simulator) (mapped : Option Bytes) : Simulator :=
  match s.transmitOn, s.awaited with
  | true, some block =>
    let s := { s with awaited := none, cardBusy := false }
    let address := s.register Register.transmitPointer
    let length := (s.register Register.transmitCount).toNat * 4
    match locate? mapped address length with
    | none => s.latch Status.underrun
    | some start =>
      let fetched := ((mapped.getD []).drop start).take length
      let s := (s.setRegister Register.transmitPointer (address + UInt32.ofNat length)).setRegister
        Register.transmitCount 0
      { s with lastSent := fetched }.deliver fetched block
  | _, _ => s

def blockLength (s : Simulator) : Nat := (s.register Register.mode >>> 16).toNat

def startData (s : Simulator) (word : UInt32) (mapped : Option Bytes) : Simulator × Option Bytes :=
  if anyBit word CommandWord.fromCard then
    match s.card.readData s.blockLength with
    | (.ok data, card) => { s with card, arrived := some data }.pumpReceive mapped
    | (.error _, card) => ({ s with card }.latch Status.dataTimeout, none)
  else if s.card.expectsWrite then
    ({ s with awaited := some s.blockLength, cardBusy := true }.pumpTransmit mapped, none)
  else (s.latch Status.dataTimeout, none)

def setResponse (s : Simulator) (words : Response) : Simulator :=
  (((s.setRegister Register.response (words.word 0)).setRegister (Register.response + 4)
    (words.word 1)).setRegister (Register.response + 8) (words.word 2)).setRegister
      (Register.response + 12) (words.word 3)

/-- Puts the card's reply where the host finds it. An answer without a checksum is flagged as if the
checksum were wrong. -/
def accept (s : Simulator) (reply : Reply) (expected : Bool) : Simulator :=
  match reply with
  | .none => s
  | .short word => s.setResponse (.ofWord word)
  | .shortNoCrc word =>
    (s.setResponse (.ofWord word)).latch (if expected then Status.responseCrc else 0)
  | .long words => s.setResponse words

def issue (s : Simulator) (word : UInt32) (mapped : Option Bytes) : Simulator × Option Bytes :=
  let s := { s with latched := s.latched &&& ~~~(Status.commandReady ||| Status.errors) }
  let expected := word &&& CommandWord.responseKind != CommandWord.noResponse
  if !s.enabled then (s.latch (Status.responseTimeout ||| Status.commandReady), none)
  else if s.injected != 0 then
    ({ s with injected := 0 }.latch (s.injected ||| Status.commandReady), none)
  else
    match s.card.execute (word &&& CommandWord.number) (s.register Register.argument) with
    | (none, card) =>
      let s := { s with card }.latch (if expected then Status.responseTimeout else 0)
      (s.latch Status.commandReady, none)
    | (some reply, card) =>
      let s := ({ s with card }.accept reply expected).latch Status.commandReady
      if word &&& CommandWord.transfer == CommandWord.startTransfer then s.startData word mapped
      else (s, none)

def switchChannels (s : Simulator) (value : UInt32) (mapped : Option Bytes) :
    Simulator × Option Bytes :=
  let (s, moved) :=
    if anyBit value Channel.receiveOff then ({ s with receiveOn := false }, none)
    else if anyBit value Channel.receiveOn then { s with receiveOn := true }.pumpReceive mapped
    else (s, none)
  let s :=
    if anyBit value Channel.transmitOff then { s with transmitOn := false }
    else if anyBit value Channel.transmitOn then
      { s with transmitOn := true }.pumpTransmit (moved.or mapped)
    else s
  (s, moved)

def setControl (s : Simulator) (value : UInt32) : Simulator :=
  let s := if anyBit value Control.softReset then s.reset else s
  if anyBit value Control.off then { s with enabled := false }
  else if anyBit value Control.on then { s with enabled := true }
  else s

def isReadOnly (offset : Nat) : Bool :=
  offset == Register.status || offset == Register.mask || offset == Register.channelStatus ||
    (Register.response ≤ offset && offset < Register.response + 16)

def write (s : Simulator) (mapped : Option Bytes) (offset : Nat) (value : UInt32) :
    Simulator × Option Bytes :=
  if offset = Register.control then (s.setControl value, none)
  else if offset = Register.enable then ({ s with mask := s.mask ||| value }, none)
  else if offset = Register.disable then ({ s with mask := s.mask &&& ~~~value }, none)
  else if offset = Register.command then (s.setRegister offset value).issue value mapped
  else if offset = Register.channelControl then s.switchChannels value mapped
  else if isReadOnly offset then (s, none)
  else if stores offset then (s.setRegister offset value, none)
  else (s, none)

def load (s : Simulator) (loaded : Bool) (length : Nat) : Except MappingError UInt32 × Simulator :=
  if s.failNextLoad then (.error .exhausted, { s with failNextLoad := false })
  else if length > maxMapping then (.error (.tooLarge length maxMapping), s)
  else if loaded then (.error .alreadyMapped, s)
  else (.ok busBase, s)

instance : Hardware Simulator where
  read s offset := (s.read offset, s)
  write := write
  load s loaded bytes _ := s.load loaded bytes.length
  sync s _ := s
  unload s := s

instance : InterruptLine Simulator where
  asserted := asserted

end Simulator

end CardHost
