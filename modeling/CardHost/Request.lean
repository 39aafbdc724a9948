import CardHost.Register
/-!
What a client asks of the controller: a command for the card, perhaps with data, and perhaps a second
command that stops the transfer. The place of the data is a parameter, so that the same shape serves a
client, who holds bytes, and the controller, which holds the number of a buffer.
-/
namespace CardHost

/-- Four response words, the most significant first. -/
abbrev Response := Vector UInt32 4

namespace Response

def word (r : Response) (i : Nat) : UInt32 := r[i]?.getD 0

def ofWord (word : UInt32) : Response := #v[word, 0, 0, 0]

end Response

inductive CommandError where
  | timeout
  | badCrc
  | fifo
  | noMemory
  | failed
  deriving Repr, DecidableEq

def CommandError.message : CommandError → String
  | .timeout => "command timed out"
  | .badCrc => "bad CRC"
  | .fifo => "FIFO overrun/underrun"
  | .noMemory => "no memory for DMA mapping"
  | .failed => "command failed"

-- Numbers of the commands that the library itself uses or tells apart.
namespace Opcode

def goIdle : UInt32 := 0
def sendOpCond : UInt32 := 1
def allSendCid : UInt32 := 2
def sendRelativeAddress : UInt32 := 3
def selectCard : UInt32 := 7
def sendInterfaceCond : UInt32 := 8
def sendCsd : UInt32 := 9
def stopTransmission : UInt32 := 12
def sendStatus : UInt32 := 13
def setBlockLength : UInt32 := 16
def readBlock : UInt32 := 17
def readBlocks : UInt32 := 18
def writeBlock : UInt32 := 24
def writeBlocks : UInt32 := 25
def application : UInt32 := 55

end Opcode

namespace AppOpcode

def setBusWidth : UInt32 := 6
def sdStatus : UInt32 := 13
def sendOpCond : UInt32 := 41
def sendConfiguration : UInt32 := 51

end AppOpcode

-- Bits of the operating conditions register.
namespace OpCond

def volts32to33 : UInt32 := 0x100000
def volts33to34 : UInt32 := 0x200000
/-- The card is, or the host can use, a card addressed in blocks. -/
def highCapacity : UInt32 := 0x40000000
def ready : UInt32 := 0x80000000

end OpCond

structure ResponseFlags where
  bits : UInt32
  deriving Repr, DecidableEq

namespace ResponseFlags

def presentBit : UInt32 := 0x01
def longBit : UInt32 := 0x02
def crcBit : UInt32 := 0x04
def busyBit : UInt32 := 0x08
def opcodeBit : UInt32 := 0x10

def none : ResponseFlags := ⟨0⟩
def r1 : ResponseFlags := ⟨presentBit ||| crcBit ||| opcodeBit⟩
def r1b : ResponseFlags := ⟨presentBit ||| crcBit ||| opcodeBit ||| busyBit⟩
def r2 : ResponseFlags := ⟨presentBit ||| longBit ||| crcBit⟩
def r3 : ResponseFlags := ⟨presentBit⟩
def r6 : ResponseFlags := r1
def r7 : ResponseFlags := r1

def present (f : ResponseFlags) : Bool := anyBit f.bits presentBit

def long (f : ResponseFlags) : Bool := anyBit f.bits longBit

def words (f : ResponseFlags) : Nat :=
  if f.present then if f.long then 4 else 1 else 0

end ResponseFlags

structure DataFlags where
  bits : UInt32
  deriving Repr, DecidableEq

namespace DataFlags

def writeBit : UInt32 := 0x01
def readBit : UInt32 := 0x02
def streamBit : UInt32 := 0x04
def multipleBit : UInt32 := 0x08

def write : DataFlags := ⟨writeBit⟩
def read : DataFlags := ⟨readBit⟩

def isWrite (f : DataFlags) : Bool := anyBit f.bits writeBit
def isRead (f : DataFlags) : Bool := anyBit f.bits readBit
def isStream (f : DataFlags) : Bool := anyBit f.bits streamBit
def isMultiple (f : DataFlags) : Bool := anyBit f.bits multipleBit

def transfers (f : DataFlags) : Bool := f.isRead || f.isWrite

def multiple (f : DataFlags) : DataFlags := ⟨f.bits ||| multipleBit⟩

end DataFlags

structure Payload (B : Type) where
  buffer : B
  flags : DataFlags
  moved : Nat := 0
  deriving Repr, DecidableEq

structure Command (B : Type) where
  opcode : UInt32
  argument : UInt32 := 0
  flags : ResponseFlags := .none
  data : Option (Payload B) := none
  error : Option CommandError := none
  /-- Of the response, the first `flags.words` words are the card's. -/
  response : Response := Vector.replicate 4 0
  deriving Repr, DecidableEq

structure Request (B : Type) where
  command : Command B
  stop : Option (Command B) := none
  deriving Repr, DecidableEq

variable {B C : Type}

def Payload.map (f : B → C) (p : Payload B) : Payload C := ⟨f p.buffer, p.flags, p.moved⟩

def Command.map (f : B → C) (c : Command B) : Command C :=
  ⟨c.opcode, c.argument, c.flags, c.data.map (·.map f), c.error, c.response⟩

namespace Request

def map (f : B → C) (r : Request B) : Request C := ⟨r.command.map f, r.stop.map (·.map f)⟩

def error (r : Request B) : Option CommandError :=
  r.command.error.or (r.stop.bind (·.error))

def stopTransmission : Command B := { opcode := Opcode.stopTransmission, flags := .r1b }

end Request

end CardHost
