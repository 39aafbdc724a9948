import CardHost.Soc

namespace CardHost.Clock

def maxDivider : UInt32 := Mode.divider

/-- Master clocks above this one may drive the bus at half their rate. -/
def overclockAbove : UInt32 := 50000000

inductive Plan where
  | stopped
  | running (divider rate : UInt32)
  deriving Repr, DecidableEq

namespace Plan

def divider : Plan → UInt32
  | stopped => 0
  | running divider _ => divider

def rate : Plan → UInt32
  | stopped => 0
  | running _ rate => rate

end Plan

def rate (master divider : UInt32) : UInt32 :=
  (master.toUInt64 / ((divider.toUInt64 + 1) * 2)).toUInt32

def overclocks (requested master : UInt32) : Bool :=
  requested == Board.defaultSpeed && master > overclockAbove

/-- The divider before it is cut to the register's width. A quotient without remainder would land one
step too slow. -/
def rawDivider (requested master : UInt32) : UInt32 :=
  let half := (master / requested) / 2
  if master.toUInt64 % (requested.toUInt64 * 2) == 0 then
    if half == 0 then 0 else half - 1
  else half

def plan (requested master : UInt32) (overclock : Bool) : Plan :=
  if requested == 0 then .stopped
  else
    let raw := if overclock && overclocks requested master then 0 else rawDivider requested master
    let divider := min raw maxDivider
    .running divider (rate master divider)

end CardHost.Clock
