namespace CardHost

namespace Register

def window : Nat := 0x128

def control : Nat := 0x00
def mode : Nat := 0x04
def timeout : Nat := 0x08
def slot : Nat := 0x0c
def argument : Nat := 0x10
def command : Nat := 0x14
def response : Nat := 0x20
def status : Nat := 0x40
def enable : Nat := 0x44
def disable : Nat := 0x48
def mask : Nat := 0x4c
def receivePointer : Nat := 0x100
def receiveCount : Nat := 0x104
def transmitPointer : Nat := 0x108
def transmitCount : Nat := 0x10c
def receiveNextPointer : Nat := 0x110
def receiveNextCount : Nat := 0x114
def transmitNextPointer : Nat := 0x118
def transmitNextCount : Nat := 0x11c
def channelControl : Nat := 0x120
def channelStatus : Nat := 0x124

end Register

namespace Control

def on : UInt32 := 0x01
def off : UInt32 := 0x02
def powerSave : UInt32 := 0x04
def softReset : UInt32 := 0x80

end Control

namespace Mode

def divider : UInt32 := 0xff
def readProof : UInt32 := 0x800
def writeProof : UInt32 := 0x1000
def channels : UInt32 := 0x8000
def blockLength : UInt32 := 0xffff0000
def startDividers : UInt32 := 0x34a

end Mode

namespace Timeout

def million : UInt32 := 0x70

end Timeout

namespace Slot

def first : UInt32 := 0
def fourWire : UInt32 := 0x80

end Slot

namespace CommandWord

def number : UInt32 := 0x3f
def responseKind : UInt32 := 0xc0
def noResponse : UInt32 := 0
def shortResponse : UInt32 := 0x40
def longResponse : UInt32 := 0x80
def openDrain : UInt32 := 0x800
/-- The card may take 64 cycles to answer instead of five. -/
def slowAnswer : UInt32 := 0x1000
def transfer : UInt32 := 0x30000
def startTransfer : UInt32 := 0x10000
def stopTransfer : UInt32 := 0x20000
def fromCard : UInt32 := 0x40000
def multiple : UInt32 := 0x80000
def stream : UInt32 := 0x100000

end CommandWord

namespace Status

def commandReady : UInt32 := 0x01
def notBusy : UInt32 := 0x20
def endReceive : UInt32 := 0x40
def endTransmit : UInt32 := 0x80
def receiveFull : UInt32 := 0x4000
def transmitEmpty : UInt32 := 0x8000
def responseIndex : UInt32 := 0x10000
def responseDirection : UInt32 := 0x20000
def responseCrc : UInt32 := 0x40000
def responseEnd : UInt32 := 0x80000
def responseTimeout : UInt32 := 0x100000
def dataCrc : UInt32 := 0x200000
def dataTimeout : UInt32 := 0x400000
def overrun : UInt32 := 0x40000000
def underrun : UInt32 := 0x80000000

def errors : UInt32 :=
  responseIndex ||| responseDirection ||| responseCrc ||| responseEnd ||| responseTimeout |||
    dataCrc ||| dataTimeout ||| overrun ||| underrun

def all : UInt32 := 0xffffffff

end Status

namespace Channel

def receiveOn : UInt32 := 0x001
def receiveOff : UInt32 := 0x002
def transmitOn : UInt32 := 0x100
def transmitOff : UInt32 := 0x200

def stop : UInt32 := transmitOff ||| receiveOff

end Channel

def anyBit (word bits : UInt32) : Bool := word &&& bits != 0

structure RegisterFile where
  entries : List (Nat × UInt32) := []
  deriving Repr, DecidableEq

namespace RegisterFile

def get (r : RegisterFile) (offset : Nat) : UInt32 := (r.entries.lookup offset).getD 0

def set (r : RegisterFile) (offset : Nat) (value : UInt32) : RegisterFile :=
  ⟨(offset, value) :: r.entries.filter (·.1 != offset)⟩

theorem lookup_filter_ne (entries : List (Nat × UInt32)) {o o' : Nat} (h : o' ≠ o) :
    (entries.filter (·.1 != o)).lookup o' = entries.lookup o' := by
  induction entries with
  | nil => rfl
  | cons e rest ih =>
    obtain ⟨k, v⟩ := e
    by_cases hk : k = o
    · subst hk
      simp [List.lookup_cons, ih, beq_false_of_ne h]
    · simp [List.lookup_cons, ih, hk]

theorem get_set (r : RegisterFile) (o o' : Nat) (v : UInt32) :
    (r.set o v).get o' = if o' = o then v else r.get o' := by
  by_cases h : o' = o
  · simp [get, set, h]
  · simp [get, set, List.lookup_cons, beq_false_of_ne h, lookup_filter_ne _ h, h]

end RegisterFile

end CardHost
