import CardHost.Hardware

namespace CardHost

structure Scripted where
  registers : RegisterFile := {}
  status : UInt32 := 0
  mask : UInt32 := 0
  address : UInt32 := 0
  nextFailure : Option MappingError := none

namespace Scripted

def read (s : Scripted) (offset : Nat) : UInt32 :=
  if offset = Register.status then s.status
  else if offset = Register.mask then s.mask
  else s.registers.get offset

def write (s : Scripted) (offset : Nat) (value : UInt32) : Scripted :=
  if offset = Register.enable then { s with mask := s.mask ||| value }
  else if offset = Register.disable then { s with mask := s.mask &&& ~~~value }
  else { s with registers := s.registers.set offset value }

def arrange (s : Scripted) (offset : Nat) (value : UInt32) : Scripted :=
  if offset = Register.status then { s with status := value }
  else if offset = Register.mask then { s with mask := value }
  else { s with registers := s.registers.set offset value }

instance : Hardware Scripted where
  read s offset := (s.read offset, s)
  write s _ offset value := (s.write offset value, none)
  load s _ _ _ :=
    match s.nextFailure with
    | some failure => (.error failure, { s with nextFailure := none })
    | none => (.ok s.address, s)
  sync s _ := s
  unload s := s

end Scripted

end CardHost
