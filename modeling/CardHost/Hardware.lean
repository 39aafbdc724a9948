import CardHost.Failure
/-!
The hardware as the controller sees it: registers, and transfer channels that reach one buffer of host
memory at a time. `Bus` keeps which buffer that is, so that whatever the hardware does, it changes no
other byte of memory.
-/
namespace CardHost

inductive Direction where
  | fromCard
  | toCard
  deriving Repr, DecidableEq

inductive SyncPoint where
  | beforeRead
  | beforeWrite
  | afterRead
  | afterWrite
  deriving Repr, DecidableEq

/-- A register block with its transfer channels. A register write sees the mapped bytes, if there are
any, and may answer with what the channels make of them. -/
class Hardware (H : Type) where
  read : H → Nat → UInt32 × H
  write : H → Option Bytes → Nat → UInt32 → H × Option Bytes
  /-- Maps the bytes of a buffer and answers their bus address; the flag says whether a buffer is
  mapped already. -/
  load : H → Bool → Bytes → Direction → Except MappingError UInt32 × H
  sync : H → SyncPoint → H
  unload : H → H

class InterruptLine (H : Type) where
  asserted : H → Bool

def pump {S : Type} (asserted : S → Bool) (handler : S → S) : Nat → S → Nat × S
  | 0, s => (0, s)
  | limit + 1, s =>
    if asserted s then
      let (calls, s) := pump asserted handler limit (handler s)
      (calls + 1, s)
    else (0, s)

abbrev BufferId := Nat

structure Memory where
  buffers : Array Bytes := #[]
  deriving Repr, DecidableEq

namespace Memory

def get (m : Memory) (id : BufferId) : Bytes := m.buffers[id]?.getD []

def set (m : Memory) (id : BufferId) (bytes : Bytes) : Memory := ⟨m.buffers.setIfInBounds id bytes⟩

def add (m : Memory) (bytes : Bytes) : BufferId × Memory := (m.buffers.size, ⟨m.buffers.push bytes⟩)

theorem get_set (m : Memory) (i j : BufferId) (bytes : Bytes) :
    (m.set i bytes).get j = if i = j ∧ i < m.buffers.size then bytes else m.get j := by
  by_cases h : i = j
  · subst h
    by_cases hi : i < m.buffers.size <;> simp [get, set, hi]
  · simp [get, set, Array.getElem?_setIfInBounds_ne h, h]

theorem get_add (m : Memory) (bytes : Bytes) (j : BufferId) :
    (m.add bytes).2.get j = if j = m.buffers.size then bytes else m.get j := by
  by_cases h : j = m.buffers.size <;> simp [get, add, Array.getElem?_push, h]

end Memory

structure Mapping where
  buffer : BufferId
  length : Nat
  deriving Repr, DecidableEq

structure Bus (H : Type) where
  hardware : H
  memory : Memory := {}
  mapping : Option Mapping := none

namespace Bus

instance {H : Type} [InterruptLine H] : InterruptLine (Bus H) where
  asserted bus := InterruptLine.asserted bus.hardware

variable {H : Type} [Hardware H]

omit [Hardware H] in
def mapped (bus : Bus H) : Option Bytes :=
  bus.mapping.map fun m => (bus.memory.get m.buffer).take m.length

omit [Hardware H] in
def fill (bus : Bus H) (bytes : Bytes) : Option (Nat × Bus H) :=
  bus.mapping.map fun m =>
    let moved := bytes.take m.length
    let memory := bus.memory.set m.buffer (Bytes.overlay moved (bus.memory.get m.buffer))
    (moved.length, { bus with memory })

def read (bus : Bus H) (offset : Nat) : UInt32 × Bus H :=
  let (value, hardware) := Hardware.read bus.hardware offset
  (value, { bus with hardware })

def write (bus : Bus H) (offset : Nat) (value : UInt32) : Bus H :=
  let (hardware, moved) := Hardware.write bus.hardware bus.mapped offset value
  let bus := { bus with hardware }
  match moved.bind bus.fill with
  | some (_, bus) => bus
  | none => bus

def load (bus : Bus H) (buffer : BufferId) (length : Nat) (direction : Direction) :
    Except MappingError UInt32 × Bus H :=
  let bytes := (bus.memory.get buffer).take length
  match Hardware.load bus.hardware bus.mapping.isSome bytes direction with
  | (.ok address, hardware) => (.ok address, { bus with hardware, mapping := some ⟨buffer, length⟩ })
  | (.error e, hardware) => (.error e, { bus with hardware })

def sync (bus : Bus H) (point : SyncPoint) : Bus H :=
  { bus with hardware := Hardware.sync bus.hardware point }

def unload (bus : Bus H) : Bus H :=
  { bus with hardware := Hardware.unload bus.hardware, mapping := none }

end Bus

end CardHost
