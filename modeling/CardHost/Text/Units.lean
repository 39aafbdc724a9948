namespace CardHost.Text

def replacement : Char := '\uFFFD'

def isHigh (unit : Nat) : Bool := 0xd800 ≤ unit && unit < 0xdc00

def isLow (unit : Nat) : Bool := 0xdc00 ≤ unit && unit < 0xe000

def ofPair (high low : Nat) : Char := Char.ofNat (0x10000 + (high - 0xd800) * 0x400 + (low - 0xdc00))

/-- Reads units as characters. Half a pair is no character, and reads as the replacement for one. -/
def ofUnits : List Nat → List Char
  | [] => []
  | high :: low :: rest =>
    if isHigh high && isLow low then ofPair high low :: ofUnits rest
    else if isHigh high || isLow high then replacement :: ofUnits (low :: rest)
    else Char.ofNat high :: ofUnits (low :: rest)
  | [unit] => if isHigh unit || isLow unit then [replacement] else [Char.ofNat unit]

end CardHost.Text
