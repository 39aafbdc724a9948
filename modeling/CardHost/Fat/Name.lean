import CardHost.Bytes
import CardHost.Text.Units
import CardHost.Text.Uppercase
/-!
The names of directory entries. Every entry has a short name; a long one is spread over the entries
before it, last part first, and counts only if all its parts are there and belong to the short name.
-/
namespace CardHost.Fat

structure LongName where
  part : Nat := 0
  checksum : Nat := 0
  units : List Nat := []
  deriving Repr, DecidableEq

namespace LongName

def unitsOf (entry : Bytes) : List Nat :=
  let places := (List.range 5).map (1 + 2 * ·) ++ (List.range 6).map (14 + 2 * ·) ++ [28, 30]
  places.map fun offset => entry.number offset 2

/-- Takes in an entry. The last part starts a name; any other has to come right before the part that
was met last, and belong to the same short name. -/
def add (name : LongName) (entry : Bytes) : LongName :=
  let order := entry.number 0 1
  let part := order % 32
  let checksum := entry.number 13 1
  if part = 0 then {}
  else if order.testBit 6 then ⟨part, checksum, unitsOf entry⟩
  else if part + 1 = name.part ∧ checksum = name.checksum then
    ⟨part, checksum, unitsOf entry ++ name.units⟩
  else {}

def checksumOf (shortName : Bytes) : UInt8 :=
  shortName.foldl (fun sum b => (sum <<< 7) + (sum >>> 1) + b) 0

def trim (units : List Nat) : List Nat :=
  (units.reverse.dropWhile fun u => u == 0 || u == 0xffff).reverse

def finish? (name : LongName) (shortName : Bytes) : Option (List Char) :=
  let text := Text.ofUnits (trim name.units)
  if name.part = 1 ∧ name.checksum = (checksumOf shortName).toNat ∧ text ≠ [] then some text else none

end LongName

namespace ShortName

def trim (part : Bytes) : Bytes := (part.reverse.dropWhile (· == 0x20)).reverse

/-- Stands for `0xe5` at the beginning of a name, where that byte would mark the entry as deleted. -/
def escape : UInt8 := 0x05

/-- Only the first half of the bytes has a meaning that does not depend on a code page. -/
def charOf (b : UInt8) : Char := if b < 0x80 then Char.ofNat b.toNat else Text.replacement

def read (name : Bytes) : List Char :=
  let stem := trim (name.take 8)
  let extension := trim ((name.drop 8).take 3)
  let whole : Bytes := if extension = [] then stem else stem ++ 0x2e :: extension
  match whole with
  | first :: rest => (if first = escape then Text.replacement else charOf first) :: rest.map charOf
  | [] => []

end ShortName

def sameName (a b : List Char) : Bool := a.flatMap Text.uppercase == b.flatMap Text.uppercase

end CardHost.Fat
