import CardHost.Hardware

namespace CardHost.Direct

structure Window where
  words : RegisterFile := {}

namespace Window

def align (offset : Nat) : Nat := offset / 4 * 4

def read (w : Window) (offset : Nat) : UInt32 := w.words.get (align offset)

def write (w : Window) (offset : Nat) (value : UInt32) : Window :=
  ⟨w.words.set (align offset) value⟩

def nonzero (w : Window) : List (Nat × UInt32) :=
  ((List.range (Register.window / 4)).map fun i => (4 * i, w.words.get (4 * i))).filter (·.2 != 0)

end Window

/-- The bus address of `length` bytes at `address`: the same, if it and the length that the channels
count, in 32 bits, stay below the end of the address space. -/
def load (address : UInt64) (length : Nat) : Except MappingError UInt32 :=
  if address.toNat ≥ UInt32.size then .error .exhausted
  else if address.toNat + length % UInt32.size ≥ UInt32.size then
    .error (.tooLarge length (UInt32.size - 1 - address.toNat))
  else .ok address.toUInt32

end CardHost.Direct
