import CardHost.Fat.Name
import CardHost.Fat.Stream

namespace CardHost.Fat

structure Entry where
  shortName : Bytes
  longName : Option (List Char)
  isDirectory : Bool
  cluster : Option UInt32
  size : Nat
  deriving Repr, DecidableEq

namespace Entry

def nameLength : Nat := 11

def deleted : Nat := 0xe5

def isLongName (attributes : Nat) : Bool := attributes % 16 == 0xf

def isLabel (attributes : Nat) : Bool := attributes.testBit 3

def fieldLengths (attributes : Nat) : List Nat :=
  if isLongName attributes then [1, 1, 12, 2, 4] else [1, 1, 2, 2, 2, 2, 2, 2, 2, 4]

def ofBytes (kind : Kind) (bytes : Bytes) (longName : LongName) : Entry :=
  let low := bytes.number 26 2
  let cluster := if kind = .fat32 then bytes.number 20 2 * UInt16.size + low else low
  { shortName := bytes.take nameLength
    longName := longName.finish? (bytes.take nameLength)
    isDirectory := (bytes.number nameLength 1).testBit 4
    cluster := if cluster = 0 then none else some (UInt32.ofNat cluster)
    size := bytes.number 28 4 }

def hasName (e : Entry) (name : List Char) : Bool :=
  e.longName.any (sameName · name) || sameName (ShortName.read e.shortName) name

end Entry

namespace Volume

variable {S : Type}

def fetchName (v : Volume S) (stream : Stream) : Reading S (Option (Bytes × Stream)) :=
  tryCatch (some <$> v.cursor.exact stream Entry.nameLength) fun e =>
    if e.kind = .unexpectedEof then return none else throw e

def fetch (v : Volume S) (stream : Stream) : Reading S (Option (Bytes × Stream)) := do
  match ← v.fetchName stream with
  | none => return none
  | some (name, stream) =>
    let (attributes, stream) ← v.cursor.exact stream 1
    let (fields, stream) ← v.cursor.fields stream (Entry.fieldLengths attributes.toNat)
    return some (name ++ attributes ++ fields, stream)

/-- Looks on for the first file of a name, through at most `fuel` entries. An entry whose name starts
with zero ends the directory. -/
def search (v : Volume S) (name : List Char) : Nat → Stream → LongName → Reading S Entry
  | 0, _, _ => throw .noEntry
  | fuel + 1, stream, longName => do
    match ← v.fetch stream with
    | none => throw .noEntry
    | some (bytes, stream) =>
      let first := bytes.number 0 1
      let attributes := bytes.number Entry.nameLength 1
      let entry := Entry.ofBytes v.boot.kind bytes longName
      if first = 0 then throw .noEntry
      else if first = Entry.deleted then search v name fuel stream {}
      else if Entry.isLongName attributes then search v name fuel stream (longName.add bytes)
      else if Entry.isLabel attributes then search v name fuel stream {}
      else if entry.hasName name then return entry
      else search v name fuel stream {}

/-- More entries than a chain without a cycle has. -/
def searchLimit (v : Volume S) : Nat := 0x10000000 * (v.boot.clusterSize / BootSector.entrySize)

def root (v : Volume S) : Stream :=
  if v.boot.kind = .fat32 then .chain { first := some v.boot.rootCluster } else .region 0

def directory (v : Volume S) (entry : Entry) : Stream :=
  if entry.cluster.isNone then v.root else .chain { first := entry.cluster }

def lookup (v : Volume S) (stream : Stream) (name : List Char) : Reading S Entry :=
  v.search name v.searchLimit stream {}

end Volume

end CardHost.Fat
