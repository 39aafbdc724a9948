import CardHost.Soc

namespace CardHost

inductive BusMode where
  | openDrain
  | pushPull
  deriving Repr, DecidableEq

inductive BusWidth where
  | one
  | four
  | eight
  deriving Repr, DecidableEq

inductive ChipSelect where
  | dontCare
  | high
  | low
  deriving Repr, DecidableEq

inductive PowerMode where
  | off
  | up
  | on
  deriving Repr, DecidableEq

inductive CardFamily where
  | mmc
  | sd
  deriving Repr, DecidableEq

structure Capabilities where
  bits : UInt32
  deriving Repr, DecidableEq

namespace Capabilities

def fourWireBit : UInt32 := 1

def fourWire (c : Capabilities) : Bool := anyBit c.bits fourWireBit

def setFourWire (c : Capabilities) (wide : Bool) : Capabilities :=
  if wide then ⟨c.bits ||| fourWireBit⟩ else ⟨c.bits &&& ~~~fourWireBit⟩

end Capabilities

/-- The bus as it is asked for; after an update `clock` is the rate that was reached. -/
structure BusSettings where
  clock : UInt32 := 0
  /-- The voltage, as the number of its bit in the operating conditions. -/
  voltage : UInt32 := 0
  mode : BusMode := .openDrain
  chipSelect : ChipSelect := .dontCare
  width : BusWidth := .one
  power : PowerMode := .off
  deriving Repr, DecidableEq

structure HostSettings where
  minClock : UInt32 := 0
  maxClock : UInt32 := 0
  hostOpCond : UInt32 := 0
  capabilities : Capabilities := ⟨0⟩
  opCond : UInt32 := 0
  family : CardFamily := .mmc
  bus : BusSettings := {}
  deriving Repr, DecidableEq

inductive Property where
  | busMode
  | busWidth
  | chipSelect
  | clock
  | minClock
  | maxClock
  | hostOpCond
  | family
  | opCond
  | powerMode
  | voltage
  | capabilities
  | maxBlocks
  deriving Repr, DecidableEq

namespace Property

def all : List Property :=
  [busMode, busWidth, chipSelect, clock, minClock, maxClock, hostOpCond, family, opCond, powerMode,
    voltage, capabilities, maxBlocks]

def readOnly : Property → Bool
  | capabilities | hostOpCond | minClock | maxClock | maxBlocks => true
  | _ => false

def label : Property → String
  | busMode => "BusMode"
  | busWidth => "BusWidth"
  | chipSelect => "ChipSelect"
  | clock => "Clock"
  | minClock => "FMin"
  | maxClock => "FMax"
  | hostOpCond => "HostOcr"
  | family => "Mode"
  | opCond => "Ocr"
  | powerMode => "PowerMode"
  | voltage => "Vdd"
  | capabilities => "Caps"
  | maxBlocks => "MaxData"

end Property

inductive PropertyValue where
  | busMode (mode : BusMode)
  | busWidth (width : BusWidth)
  | chipSelect (select : ChipSelect)
  | clock (hz : UInt32)
  | minClock (hz : UInt32)
  | maxClock (hz : UInt32)
  | hostOpCond (bits : UInt32)
  | family (family : CardFamily)
  | opCond (bits : UInt32)
  | powerMode (mode : PowerMode)
  | voltage (bit : UInt32)
  | capabilities (capabilities : Capabilities)
  | maxBlocks (count : UInt32)
  deriving Repr, DecidableEq

def PropertyValue.property : PropertyValue → Property
  | busMode _ => .busMode
  | busWidth _ => .busWidth
  | chipSelect _ => .chipSelect
  | clock _ => .clock
  | minClock _ => .minClock
  | maxClock _ => .maxClock
  | hostOpCond _ => .hostOpCond
  | family _ => .family
  | opCond _ => .opCond
  | powerMode _ => .powerMode
  | voltage _ => .voltage
  | capabilities _ => .capabilities
  | maxBlocks _ => .maxBlocks

namespace HostSettings

def maxBlocks : UInt32 := 1

def get (host : HostSettings) : Property → PropertyValue
  | .busMode => .busMode host.bus.mode
  | .busWidth => .busWidth host.bus.width
  | .chipSelect => .chipSelect host.bus.chipSelect
  | .clock => .clock host.bus.clock
  | .minClock => .minClock host.minClock
  | .maxClock => .maxClock host.maxClock
  | .hostOpCond => .hostOpCond host.hostOpCond
  | .family => .family host.family
  | .opCond => .opCond host.opCond
  | .powerMode => .powerMode host.bus.power
  | .voltage => .voltage host.bus.voltage
  | .capabilities => .capabilities host.capabilities
  | .maxBlocks => .maxBlocks maxBlocks

def set? (host : HostSettings) : PropertyValue → Option HostSettings
  | .busMode mode => some { host with bus.mode := mode }
  | .busWidth width => some { host with bus.width := width }
  | .chipSelect select => some { host with bus.chipSelect := select }
  | .clock hz => some { host with bus.clock := hz }
  | .family family => some { host with family := family }
  | .opCond bits => some { host with opCond := bits }
  | .powerMode mode => some { host with bus.power := mode }
  | .voltage bit => some { host with bus.voltage := bit }
  | .minClock _ | .maxClock _ | .hostOpCond _ | .capabilities _ | .maxBlocks _ => none

theorem set?_eq_none_iff (host : HostSettings) (value : PropertyValue) :
    host.set? value = none ↔ value.property.readOnly = true := by
  cases value <;> simp [set?, PropertyValue.property, Property.readOnly]

end HostSettings

end CardHost
