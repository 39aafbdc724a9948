import CardHost.ByteSource

namespace CardHost.Fat

def tableSector : Nat := 512

structure Extent where
  start : Nat
  length : Nat
  deriving Repr, DecidableEq

def bootSignature : Nat := 0xaa55

def startsWithJump : Bytes → Bool
  | 0xeb :: _ => true
  | 0xe9 :: _ => true
  | _ => false

def firstPartition? (sector : Bytes) : Option Extent :=
  let kind := sector.number 450 1
  let start := sector.number 454 4
  let count := sector.number 458 4
  if sector.number 510 2 ≠ bootSignature then none
  else if startsWithJump sector then none
  else if kind = 0 ∨ count = 0 then none
  else some ⟨start * tableSector, count * tableSector⟩

end CardHost.Fat
