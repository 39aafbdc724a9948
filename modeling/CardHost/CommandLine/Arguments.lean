import CardHost.Options
import CardHost.Soc

namespace CardHost.CommandLine

structure Arguments where
  sdCard : Option String := none
  /-- Size of the card in memory, in units of a mebibyte. -/
  cardSize : UInt32 := 64
  soc : Soc := .sam9260
  masterClock : Option UInt64 := none
  unit : UInt32 := 0
  fourWire : Bool := false
  oneWire : Bool := false
  noOverclock : Bool := false
  readSector : Option UInt64 := none
  writeSector : Option UInt64 := none
  input : Option String := none
  file : Option String := none
  output : Option String := none
  deriving Repr, DecidableEq

inductive Inconsistency where
  | severalOperations
  | noInput
  | strayInput
  | zeroClock
  | wideClock
  | noController (soc : Soc) (unit : UInt32)
  | emptyCard
  deriving Repr, DecidableEq

def Inconsistency.message : Inconsistency → String
  | severalOperations => "--read-sector, --write-sector and --file are mutually exclusive"
  | noInput => "--write-sector requires --input to be specified"
  | strayInput => "--input is only used with --write-sector"
  | zeroClock => "--master-clock must be non-zero"
  | wideClock => "--master-clock does not fit in 32 bits"
  | noController soc unit => soc.label ++ " has no MCI" ++ toString unit.toNat
  | emptyCard => "--card-size must be non-zero"

inductive Operation where
  | probe
  | readSector (block : UInt64)
  | writeSector (block : UInt64) (input : String)
  | fetchFile (path : String)
  deriving Repr, DecidableEq

namespace Arguments

def operations (a : Arguments) : Nat :=
  a.readSector.isSome.toNat + a.writeSector.isSome.toNat + a.file.isSome.toNat

def inconsistency? (a : Arguments) : Option Inconsistency :=
  if a.operations > 1 then some .severalOperations
  else if a.writeSector.isSome ∧ a.input.isNone then some .noInput
  else if a.input.isSome ∧ a.writeSector.isNone then some .strayInput
  else if a.masterClock = some 0 then some .zeroClock
  else if a.masterClock.any (· > 0xffffffff) then some .wideClock
  else if (a.soc.placement? a.unit).isNone then some (.noController a.soc a.unit)
  else if a.sdCard.isNone ∧ a.cardSize = 0 then some .emptyCard
  else none

def operation (a : Arguments) : Operation :=
  match a.readSector, a.writeSector, a.input, a.file with
  | some block, _, _, _ => .readSector block
  | none, some block, some input, _ => .writeSector block input
  | none, _, _, some path => .fetchFile path
  | none, _, _, none => .probe

def board (a : Arguments) : Board :=
  ⟨a.soc, (a.masterClock.map UInt64.toUInt32).getD a.soc.referenceClock⟩

def wideBus (a : Arguments) : Option Bool :=
  if a.fourWire then some true else if a.oneWire then some false else none

def overclock (a : Arguments) : Option Bool := if a.noOverclock then some false else none

def options (a : Arguments) (hints : String → Option String) : Options :=
  Options.resolve hints a.unit a.wideBus a.overclock

end Arguments

end CardHost.CommandLine
