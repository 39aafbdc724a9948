import CardHost.Fat.Volume
/-!
Directories and files as streams of bytes. The root directory may have a region of its own; all else
lies in a chain of clusters, which is followed only as far as is read.
-/
namespace CardHost.Fat

structure Chain where
  first : Option UInt32
  last : Option UInt32 := none
  offset : Nat := 0
  size : Option Nat := none
  deriving Repr, DecidableEq

namespace Chain

def atBoundary (c : Chain) (clusterSize : Nat) : Bool := c.offset % clusterSize == 0

def span (c : Chain) (clusterSize count : Nat) : Nat :=
  let rest := min count (clusterSize - c.offset % clusterSize)
  (c.size.map fun size => min rest (size - c.offset)).getD rest

end Chain

inductive Stream where
  | region (offset : Nat)
  | chain (chain : Chain)
  deriving Repr, DecidableEq

namespace Volume

variable {S : Type}

def rootRegion (v : Volume S) : View S :=
  v.view.part (v.boot.sectorStart v.boot.rootSector) (v.boot.sectorStart v.boot.rootSectors)
    .seekOutsideRegion

def clusterOf (v : Volume S) (c : Chain) : Reading S (Option UInt32) := do
  if c.atBoundary v.boot.clusterSize then
    match c.last with
    | none => return c.first
    | some cluster => v.next? cluster
  else return c.last

/-- Reads some of a chain, in one cluster. The table is asked at the end of a cluster, even if the file
ends there. -/
def readChain (v : Volume S) (c : Chain) (count : Nat) : Reading S (Bytes × Chain) := do
  match ← v.clusterOf c with
  | none => return ([], c)
  | some cluster =>
    let count := c.span v.boot.clusterSize count
    if count = 0 then return ([], c)
    match ← v.view (v.boot.clusterStart cluster + c.offset % v.boot.clusterSize) count with
    | [] => return ([], c)
    | bytes => return (bytes, { c with last := some cluster, offset := c.offset + bytes.length })

def cursor (v : Volume S) : Cursor S Stream := fun stream count => do
  match stream with
  | .region offset =>
    let (bytes, offset) ← v.rootRegion.cursor offset count
    return (bytes, .region offset)
  | .chain c =>
    let (bytes, c) ← v.readChain c count
    return (bytes, .chain c)

/-- Reads a file to its end, into a room that doubles whenever it is full. Each read but the last brings
a byte at least, so that one more than the size of the file are enough. -/
def readToEnd (v : Volume S) (first : Option UInt32) (size : Nat) : Reading S Bytes :=
  go (size + 1) (.chain { first, size := some size }) 32 32
where
  go : Nat → Stream → Nat → Nat → Reading S Bytes
    | 0, _, _, _ => return []
    | fuel + 1, stream, room, free => do
      let (room, free) := if free = 0 then (2 * room, room) else (room, free)
      match ← v.cursor stream free with
      | ([], _) => return []
      | (bytes, stream) => return bytes ++ (← go fuel stream room (free - bytes.length))

end Volume

end CardHost.Fat
