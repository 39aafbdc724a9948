import CardHost.Environment
/-!
An environment as a value: a tree of directories with files in it, and one directory that a program
starts in. Paths are followed name by name, so that the first name that leads nowhere decides how a path
fails.
-/
namespace CardHost

abbrev Location := List String

/-- A path as it is followed: the directories on the way, and the name that is meant there. A path that
ends in dots, or has no names, means the directory it leads to. -/
structure Path where
  fromRoot : Bool
  way : List String
  name? : Option String
  endsInSlash : Bool
  deriving Repr, DecidableEq

namespace Path

def maxLength : Nat := 4096

def maxNameLength : Nat := 255

def names (text : String) : List String :=
  ((text.toList.splitOn '/').map String.ofList).filter (· ≠ "")

def isDots (name : String) : Bool := name == "." || name == ".."

def ofString (text : String) : Except DeviceError Path :=
  let names := names text
  if text.toList.contains '\x00' then .error .nameWithNul
  else if text = "" then .error .noFile
  else if text.utf8ByteSize ≥ maxLength then .error .nameTooLong
  else
    let name? := names.getLast?.filter (!isDots ·)
    .ok { fromRoot := text.toList.head? == some '/'
          way := if name?.isSome then names.dropLast else names
          name?
          endsInSlash := text.toList.getLast? == some '/' }

end Path

structure Workspace where
  values : List (String × String) := []
  home : Location := []
  files : List (Location × ByteArray) := []

namespace Workspace

/-- A location is a directory if it leads on to the starting directory or to a file. -/
def isDirectory (w : Workspace) (location : Location) : Bool :=
  location.isPrefixOf w.home ||
    w.files.any fun (other, _) => location.isPrefixOf other && location ≠ other

def enter (w : Workspace) (directory : Location) (name : String) : Except DeviceError Location :=
  let location := directory ++ [name]
  if name = "." then .ok directory
  else if name = ".." then .ok directory.dropLast
  else if name.utf8ByteSize > Path.maxNameLength then .error .nameTooLong
  else if w.isDirectory location then .ok location
  else if (w.files.lookup location).isSome then .error .throughFile
  else .error .noFile

def directoryOf (w : Workspace) (path : Path) : Except DeviceError Location :=
  path.way.foldlM w.enter (if path.fromRoot then [] else w.home)

def read (w : Workspace) (text : String) : Except DeviceError ByteArray := do
  let path ← Path.ofString text
  let directory ← w.directoryOf path
  match path.name? with
  | none => .error .fileIsDirectory
  | some name =>
    match w.files.lookup (directory ++ [name]) with
    | some bytes => if path.endsInSlash then .error .throughFile else .ok bytes
    | none => do
      let _ ← w.enter directory name
      .error .fileIsDirectory

def write (w : Workspace) (text : String) (bytes : ByteArray) : Except DeviceError Workspace := do
  let path ← Path.ofString text
  let directory ← w.directoryOf path
  match path.name? with
  | none => .error .fileIsDirectory
  | some name =>
    let location := directory ++ [name]
    if path.endsInSlash then .error .fileIsDirectory
    else if name.utf8ByteSize > Path.maxNameLength then .error .nameTooLong
    else if w.isDirectory location then .error .fileIsDirectory
    else
      let others := w.files.filter fun (other, _) => other ≠ location
      .ok { w with files := others ++ [(location, bytes)] }

instance : Environment (StateM Workspace) where
  findVariable name := return (← get).values.lookup name
  readFile name := return (← get).read name
  writeFile name bytes := do
    match (← get).write name bytes with
    | .ok w => set w; return .ok ()
    | .error e => return .error e

end Workspace

end CardHost
