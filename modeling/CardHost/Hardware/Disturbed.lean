import CardHost.Simulator

namespace CardHost

structure Disturbed where
  inner : Simulator
  issued : Nat := 0
  /-- Status bits injected at the command of that number, counted from one. -/
  faults : List (Nat × UInt32) := []
  loaded : Nat := 0
  /-- The mappings of those numbers fail, counted from one. -/
  refusals : List Nat := []
  /-- Response words read while that many commands have been issued. -/
  responses : List (Nat × Response) := []

namespace Disturbed

def count (d : Disturbed) : Disturbed :=
  let issued := d.issued + 1
  match d.faults.lookup issued with
  | some bits => { d with issued, inner := { d.inner with injected := bits } }
  | none => { d with issued }

def countLoad (d : Disturbed) : Disturbed :=
  let loaded := d.loaded + 1
  if d.refusals.contains loaded then
    { d with loaded, inner := { d.inner with failNextLoad := true } }
  else { d with loaded }

def read (d : Disturbed) (offset : Nat) : UInt32 :=
  if Register.response ≤ offset && offset < Register.response + 16 && offset % 4 == 0 then
    match d.responses.lookup d.issued with
    | some words => words.word ((offset - Register.response) / 4)
    | none => d.inner.read offset
  else d.inner.read offset

def write (d : Disturbed) (mapped : Option Bytes) (offset : Nat) (value : UInt32) :
    Disturbed × Option Bytes :=
  let d := if offset = Register.command then d.count else d
  let (inner, moved) := d.inner.write mapped offset value
  ({ d with inner }, moved)

instance : Hardware Disturbed where
  read d offset := (d.read offset, d)
  write := write
  load d loaded bytes _ :=
    let d := d.countLoad
    let (result, inner) := d.inner.load loaded bytes.length
    (result, { d with inner })
  sync d _ := d
  unload d := d

instance : InterruptLine Disturbed where
  asserted d := d.inner.asserted

end Disturbed

end CardHost
