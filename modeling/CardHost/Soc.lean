import CardHost.Register

namespace CardHost

inductive Soc where
  | rm9200
  | sam9260
  | sam9261
  | sam9263
  | cap9
  | sam9g10
  | sam9g20
  | sam9g45
  | sam9rl
  | sam9xe
  deriving Repr, DecidableEq

structure Placement where
  base : UInt32
  interrupt : UInt32
  deriving Repr, DecidableEq

namespace Soc

def all : List Soc :=
  [rm9200, sam9260, sam9261, sam9263, cap9, sam9g10, sam9g20, sam9g45, sam9rl, sam9xe]

def name : Soc → String
  | rm9200 => "rm9200"
  | sam9260 => "sam9260"
  | sam9261 => "sam9261"
  | sam9263 => "sam9263"
  | cap9 => "cap9"
  | sam9g10 => "sam9g10"
  | sam9g20 => "sam9g20"
  | sam9g45 => "sam9g45"
  | sam9rl => "sam9rl"
  | sam9xe => "sam9xe"

def label (soc : Soc) : String := soc.name.capitalize

def ofName? (text : String) : Option Soc := all.find? (·.name == text)

/-- The transfer channels of this chip store the bytes of each word in reverse order. -/
def swapsBytes (soc : Soc) : Bool := soc == rm9200

/-- Controllers of the second revision lose data on writes below twelve bytes, and can stall the bus
instead of running over. -/
def secondRevision : Soc → Bool
  | sam9260 | sam9263 | cap9 | sam9g10 | sam9g20 | sam9rl => true
  | _ => false

def placement? : Soc → UInt32 → Option Placement
  | rm9200, 0 => some ⟨0xfffb4000, 10⟩
  | sam9260, 0 | sam9g20, 0 | sam9xe, 0 => some ⟨0xfffa8000, 9⟩
  | sam9261, 0 | sam9g10, 0 => some ⟨0xfffa8000, 9⟩
  | sam9263, 0 | sam9g45, 0 => some ⟨0xfff80000, 10⟩
  | sam9263, 1 | sam9g45, 1 => some ⟨0xfff84000, 11⟩
  | cap9, 0 => some ⟨0xfff80000, 10⟩
  | sam9rl, 0 => some ⟨0xfffa4000, 10⟩
  | _, _ => none

def referenceClock : Soc → UInt32
  | rm9200 => 60000000
  | sam9263 | sam9g45 | cap9 => 99956000
  | sam9g20 => 132096000
  | _ => 99328000

end Soc

structure Board where
  soc : Soc
  masterClock : UInt32
  deriving Repr, DecidableEq

namespace Board

def reference (soc : Soc) : Board := ⟨soc, soc.referenceClock⟩

/-- Slowest bus clock that is advertised, just under the rate of card identification. -/
def minClock : UInt32 := 375000

def defaultSpeed : UInt32 := 25000000

def maxClock (board : Board) : UInt32 := min (board.masterClock / 2) defaultSpeed

end Board

end CardHost
