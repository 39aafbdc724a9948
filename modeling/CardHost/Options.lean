import CardHost.Numeral
/-!
The two options of a controller, the wide bus and the overclocked bus. Each is settled in three
layers: a default, a hint for the controller's unit, and an explicit setting.
-/
namespace CardHost

structure Options where
  fourWire : Bool
  overclock : Bool
  deriving Repr, DecidableEq

namespace Hint

def isBlank (c : Char) : Bool :=
  let n := c.toNat
  (9 ≤ n && n ≤ 13) || n == 0x20 || n == 0x85 || n == 0xa0 || n == 0x1680 ||
    (0x2000 ≤ n && n ≤ 0x200a) || n == 0x2028 || n == 0x2029 || n == 0x202f || n == 0x205f ||
    n == 0x3000

def trim (text : List Char) : List Char :=
  ((text.dropWhile isBlank).reverse.dropWhile isBlank).reverse

def parse? (raw : String) : Option Bool :=
  let word := (trim raw.toList).map Char.toLower
  if word ∈ ["1", "true", "yes", "on"].map String.toList then some true
  else if word ∈ ["0", "false", "no", "off"].map String.toList then some false
  else (Numeral.signed 10 (UInt64.size / 2) word).toOption.map (· != 0)

def fourWire : String := "4WIRE"
def overclock : String := "30MHZ"

def name (unit : UInt32) (suffix : String) : String :=
  "AT91_MCI_" ++ toString unit.toNat ++ "_" ++ suffix

def lookup? (hints : String → Option String) (unit : UInt32) (suffix : String) : Option Bool :=
  (hints (name unit suffix)).bind parse?

end Hint

namespace Options

def default : Options := ⟨false, true⟩

def ofHints (hints : String → Option String) (unit : UInt32) : Options where
  fourWire := (Hint.lookup? hints unit Hint.fourWire).getD default.fourWire
  overclock := (Hint.lookup? hints unit Hint.overclock).getD default.overclock

def resolve (hints : String → Option String) (unit : UInt32)
    (fourWire overclock : Option Bool) : Options where
  fourWire := fourWire.getD (ofHints hints unit).fourWire
  overclock := overclock.getD (ofHints hints unit).overclock

end Options

end CardHost
