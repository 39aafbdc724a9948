import CardHost.Hardware

namespace CardHost

inductive Access where
  | read (offset : Nat) (value : UInt32)
  | write (offset : Nat) (value : UInt32)
  | load (bytes : Bytes) (direction : Direction) (result : Except MappingError UInt32)
  | sync (point : SyncPoint)
  | unload

structure Recorder (H : Type) where
  inner : H
  log : Array Access := #[]

namespace Recorder

variable {H : Type}

def note (r : Recorder H) (access : Access) : Recorder H := { r with log := r.log.push access }

def clear (r : Recorder H) : Recorder H := { r with log := #[] }

def writes (r : Recorder H) : List (Nat × UInt32) :=
  r.log.toList.filterMap fun
    | .write offset value => some (offset, value)
    | _ => none

def writesTo (r : Recorder H) (offset : Nat) : List UInt32 :=
  r.writes.filterMap fun (o, value) => if o = offset then some value else none

def commandWrites (r : Recorder H) : List UInt32 :=
  r.writes.filterMap fun (o, value) =>
    if o = Register.argument || o = Register.command then some value else none

instance [Hardware H] : Hardware (Recorder H) where
  read r offset :=
    let (value, inner) := Hardware.read r.inner offset
    (value, { r with inner }.note (.read offset value))
  write r mapped offset value :=
    let (inner, moved) := Hardware.write r.inner mapped offset value
    ({ r with inner }.note (.write offset value), moved)
  load r loaded bytes direction :=
    let (result, inner) := Hardware.load r.inner loaded bytes direction
    (result, { r with inner }.note (.load bytes direction result))
  sync r point := { r with inner := Hardware.sync r.inner point }.note (.sync point)
  unload r := { r with inner := Hardware.unload r.inner }.note .unload

instance [InterruptLine H] : InterruptLine (Recorder H) where
  asserted r := InterruptLine.asserted r.inner

end Recorder

end CardHost
