import CardHost.Fat.Partition

namespace CardHost.Fat

inductive Kind where
  | fat12
  | fat16
  | fat32
  deriving Repr, DecidableEq

structure BootSector where
  signature : Nat
  sectorSize : UInt32
  clusterSectors : UInt32
  reserved : UInt32
  tables : UInt32
  rootEntries : UInt32
  shortTotal : UInt32
  longTotal : UInt32
  shortTableSectors : UInt32
  /-- What follows is zero unless the table has a long length. -/
  longTableSectors : UInt32
  flags : UInt32
  version : UInt32
  rootCluster : UInt32
  informationSector : UInt32
  backupSector : UInt32
  deriving Repr, DecidableEq

namespace BootSector

def ofBytes (b : Bytes) : BootSector :=
  let field (offset count : Nat) := UInt32.ofNat (b.number offset count)
  let extended (offset count : Nat) := if field 22 2 = 0 then field offset count else 0
  { signature := b.number 510 2
    sectorSize := field 11 2
    clusterSectors := field 13 1
    reserved := field 14 2
    tables := field 16 1
    rootEntries := field 17 2
    shortTotal := field 19 2
    longTotal := field 32 4
    shortTableSectors := field 22 2
    longTableSectors := extended 36 4
    flags := extended 40 2
    version := extended 42 2
    rootCluster := extended 44 4
    informationSector := extended 48 2
    backupSector := extended 50 2 }

/-- Only the widest kind of volume leaves the short length of its tables out. -/
def isWide (b : BootSector) : Bool := b.shortTableSectors == 0

def tableSectors (b : BootSector) : UInt32 :=
  if b.isWide then b.longTableSectors else b.shortTableSectors

def total (b : BootSector) : UInt32 := if b.shortTotal = 0 then b.longTotal else b.shortTotal

def entrySize : Nat := 32

def rootSectors (b : BootSector) : UInt32 :=
  (b.rootEntries * UInt32.ofNat entrySize + (b.sectorSize - 1)) / b.sectorSize

def rootSector (b : BootSector) : UInt32 := b.reserved + b.tables * b.tableSectors

def dataSector (b : BootSector) : UInt32 := b.rootSector + b.rootSectors

def clusters (b : BootSector) : UInt32 := (b.total - b.dataSector) / b.clusterSectors

def kind (b : BootSector) : Kind :=
  if b.clusters < 4085 then .fat12 else if b.clusters < 65525 then .fat16 else .fat32

/-- Table entries have 28 bits for the number of a cluster, even in the widest kind of volume. -/
def maxClusters : UInt32 := 0x0fffffff

def isPowerOfTwo (n : UInt32) : Bool := (List.range 16).any fun i => n.toNat == 1 <<< i

def fault? (b : BootSector) : Option VolumeFault :=
  if b.signature ≠ bootSignature then some .signature
  else if !isPowerOfTwo b.sectorSize then some .sectorSizeNotPower
  else if b.sectorSize < 512 then some .sectorSizeSmall
  else if b.sectorSize > 4096 then some .sectorSizeLarge
  else if !isPowerOfTwo b.clusterSectors then some .clusterSizeNotPower
  else if b.reserved = 0 then some .noReservedSectors
  else if b.tables = 0 then some .noTables
  else if b.isWide ∧ b.rootEntries ≠ 0 then some .rootEntriesGiven
  else if !b.isWide ∧ b.rootEntries = 0 then some .noRootEntries
  else if b.isWide ∧ b.shortTotal ≠ 0 then some .shortTotalGiven
  else if (b.shortTotal == 0) == (b.longTotal == 0) then some .totalSectors
  else if b.isWide ∧ b.longTableSectors = 0 then some .noTableLength
  else if b.version ≠ 0 then some .version
  else if b.total ≤ b.dataSector then some .totalTooSmall
  else if b.isWide ∧ b.backupSector ≥ b.reserved then some .backupOutside
  else if b.isWide ∧ b.informationSector ≥ b.reserved then some .informationOutside
  else if b.isWide ≠ (b.kind == .fat32) then some .kindMismatch
  else if b.isWide ∧ b.clusters > maxClusters then some .tooManyClusters
  else none

def sectorStart (b : BootSector) (sector : UInt32) : Nat := sector.toNat * b.sectorSize.toNat

def clusterSize (b : BootSector) : Nat := b.sectorStart b.clusterSectors

def clusterStart (b : BootSector) (cluster : UInt32) : Nat :=
  b.sectorStart (b.dataSector + (cluster - 2) * b.clusterSectors)

def activeTable (b : BootSector) : UInt32 :=
  if b.flags.toNat.testBit 7 then b.reserved + b.flags % 16 * b.tableSectors else b.reserved

end BootSector

end CardHost.Fat
