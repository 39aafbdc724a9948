import CardHost.ByteSource
import CardHost.Fat.BootSector

namespace CardHost.Fat

structure Volume (S : Type) where
  boot : BootSector
  view : View S

namespace Volume

variable {S : Type}

def checkInformation (boot : BootSector) (view : View S) : Reading S Unit := do
  let sector ← view.upTo (boot.sectorStart boot.informationSector) 512
  check sector 0 0x41615252 .informationLead
  check sector 484 0x61417272 .informationStructure
  check sector 508 0xaa550000 .informationTrail
where
  check (sector : Bytes) (offset mark : Nat) (fault : VolumeFault) : Reading S Unit :=
    if sector.length < offset + 4 then throw .shortRead
    else if sector.number offset 4 ≠ mark then throw (.volume fault)
    else return ()

def mount (view : View S) : Reading S (Volume S) := do
  let boot := BootSector.ofBytes (← view.exact 0 512)
  match boot.fault? with
  | some fault => throw (.volume fault)
  | none =>
    if boot.kind = .fat32 then checkInformation boot view
    return ⟨boot, view⟩

def table (v : Volume S) : View S :=
  v.view.part (v.boot.sectorStart v.boot.activeTable) (v.boot.sectorStart v.boot.tableSectors)
    .seekOutsideRegion

def tableNumber (v : Volume S) (offset : UInt32) (count : Nat) : Reading S UInt32 :=
  return UInt32.ofNat (← v.table.exact offset.toNat count).toNat

def tableEntry (v : Volume S) (cluster : UInt32) : Reading S UInt32 := do
  match v.boot.kind with
  | .fat12 =>
    let pair ← v.tableNumber (cluster + cluster / 2) 2
    return if cluster % 2 = 0 then pair % 4096 else pair / 16
  | .fat16 => v.tableNumber (2 * cluster) 2
  | .fat32 => return (← v.tableNumber (4 * cluster) 4) % 0x10000000

def firstMark (v : Volume S) : UInt32 :=
  match v.boot.kind with
  | .fat12 => 0xff7
  | .fat16 => 0xfff7
  | .fat32 => 0xffffff7

/-- The cluster after this one. Free and damaged clusters end a chain, as the marks of its end do. -/
def next? (v : Volume S) (cluster : UInt32) : Reading S (Option UInt32) := do
  let entry ← v.tableEntry cluster
  return if entry = 0 ∨ entry ≥ v.firstMark then none else some entry

end Volume

end CardHost.Fat
