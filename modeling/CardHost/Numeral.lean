namespace CardHost.Numeral

inductive Fault where
  | empty
  | invalidDigit
  | tooLarge
  | tooSmall
  deriving Repr, DecidableEq

def Fault.message : Fault → String
  | .empty => "cannot parse integer from empty string"
  | .invalidDigit => "invalid digit found in string"
  | .tooLarge => "number too large to fit in target type"
  | .tooSmall => "number too small to fit in target type"

def digit? (radix : Nat) (c : Char) : Option Nat :=
  let value :=
    if '0' ≤ c ∧ c ≤ '9' then c.toNat - '0'.toNat
    else if 'a' ≤ c ∧ c ≤ 'z' then c.toNat - 'a'.toNat + 10
    else if 'A' ≤ c ∧ c ≤ 'Z' then c.toNat - 'A'.toNat + 10
    else radix
  if value < radix then some value else none

def digits (radix max : Nat) (full : Fault) : Nat → List Char → Except Fault Nat
  | value, [] => .ok value
  | value, c :: rest =>
    match digit? radix c with
    | none => .error .invalidDigit
    | some d =>
      if value * radix + d ≤ max then digits radix max full (value * radix + d) rest
      else .error full

def unsigned (radix max : Nat) : List Char → Except Fault Nat
  | [] => .error .empty
  | ['+'] => .error .invalidDigit
  | '+' :: rest => digits radix max .tooLarge 0 rest
  | text => digits radix max .tooLarge 0 text

def signed (radix bound : Nat) : List Char → Except Fault Int
  | [] => .error .empty
  | ['+'] | ['-'] => .error .invalidDigit
  | '-' :: rest => (digits radix bound .tooSmall 0 rest).map fun n => -(n : Int)
  | '+' :: rest => (digits radix (bound - 1) .tooLarge 0 rest).map Int.ofNat
  | text => (digits radix (bound - 1) .tooLarge 0 text).map Int.ofNat

def hexOrDecimal (text : String) : Except Fault UInt64 :=
  let value := match text.toList with
    | '0' :: 'x' :: rest => unsigned 16 (UInt64.size - 1) rest
    | rest => unsigned 10 (UInt64.size - 1) rest
  value.map UInt64.ofNat

end CardHost.Numeral
