import CardHost.Fat.Directory

namespace CardHost.Fat

def components (path : List Char) : List (List Char) :=
  match (path.splitOn '/').filter (· ≠ []) with
  | [] => [[]]
  | names => names

variable {S : Type}

namespace Volume

def find (v : Volume S) (stream : Stream) : List (List Char) → Reading S Entry
  | [] => throw .noEntry
  | [name] => do
    let entry ← v.lookup stream name
    if entry.isDirectory then throw .directory else return entry
  | name :: rest => do
    let entry ← v.lookup stream name
    if entry.isDirectory then v.find (v.directory entry) rest else throw .notDirectory

end Volume

/-- The contents of a file on the volume that a device holds, alone or in its first partition. However
little is asked for, a sector is fetched. -/
def load [ByteSource S] (path : String) : Reading S Bytes := do
  let device : View S := View.fetching ByteSource.readAt tableSector
  let sector ← device.exact 0 tableSector
  let extent := (firstPartition? sector).getD ⟨0, ByteSource.size (← get)⟩
  let volume ← Volume.mount (device.part extent.start extent.length .seekOutside)
  let file ← volume.find volume.root (components path.toList)
  volume.readToEnd file.cluster file.size

end CardHost.Fat
