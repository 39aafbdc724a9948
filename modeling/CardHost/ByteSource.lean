import CardHost.Failure

namespace CardHost

abbrev Reading (S : Type) := ExceptT DeviceError (StateM S)

class ByteSource (S : Type) where
  size : S → Nat
  readAt : Nat → Nat → Reading S Bytes

abbrev Cursor (S P : Type) := P → Nat → Reading S (Bytes × P)

namespace Cursor

variable {S P : Type}

/-- Reads until `count` bytes are there or the source brings no more. Each read brings a byte at least,
so that `count` reads are enough. -/
def upTo (read : Cursor S P) (place : P) (count : Nat) : Reading S (Bytes × P) :=
  go count place count
where
  go : Nat → P → Nat → Reading S (Bytes × P)
    | 0, place, _ | _, place, 0 => return ([], place)
    | fuel + 1, place, count => do
      match ← read place count with
      | ([], place) => return ([], place)
      | (bytes, place) =>
        let (rest, place) ← go fuel place (count - bytes.length)
        return (bytes ++ rest, place)

def exact (read : Cursor S P) (place : P) (count : Nat) : Reading S (Bytes × P) := do
  let (bytes, place) ← read.upTo place count
  if bytes.length < count then throw .shortRead else return (bytes, place)

def fields (read : Cursor S P) (place : P) : List Nat → Reading S (Bytes × P)
  | [] => return ([], place)
  | count :: counts => do
    let (field, place) ← read.exact place count
    let (rest, place) ← read.fields place counts
    return (field ++ rest, place)

end Cursor

abbrev View (S : Type) := Nat → Nat → Reading S Bytes

namespace View

variable {S : Type}

def part (view : View S) (start length : Nat) (outside : DeviceError) : View S :=
  fun position count =>
    if position > length then throw outside
    else view (start + position) (min count (length - position))

def fetching (view : View S) (least : Nat) : View S :=
  fun position count => return (← view position (max count least)).take count

def cursor (view : View S) : Cursor S Nat := fun position count => do
  let bytes ← view position count
  return (bytes, position + bytes.length)

def upTo (view : View S) (position count : Nat) : Reading S Bytes :=
  return (← view.cursor.upTo position count).1

def exact (view : View S) (position count : Nat) : Reading S Bytes :=
  return (← view.cursor.exact position count).1

end View

end CardHost
