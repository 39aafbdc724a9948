import CardHost.CommandLine.Help
import CardHost.Device
import CardHost.Environment
import CardHost.Fat.File
import CardHost.Simulator

namespace CardHost.CommandLine

structure Outcome where
  exit : UInt8
  stdout : ByteArray := ByteArray.empty
  stderr : String := ""

namespace Outcome

def failure (exit : UInt8) (message : String) : Outcome := { exit, stderr := message ++ "\n" }

def ofUsageError : UsageError → Outcome
  | .helpWanted => { exit := 0, stdout := helpText.toUTF8 }
  | e => failure 2 (e.message ++ "\n\n" ++ usageLine ++ "\n\nFor more information, try '--help'.")

def ofResult : Except DeviceError ByteArray → Outcome
  | .ok stdout => { exit := 0, stdout }
  | .error e => failure 1 ("Error: " ++ e.message)

end Outcome

def renderHex (n : Nat) : String :=
  let digits := Nat.toDigits 16 n
  "0x" ++ String.ofList (List.replicate (4 - digits.length) '0' ++ digits)

def widthName : BusWidth → String
  | .one => "One"
  | .four => "Four"
  | .eight => "Eight"

def describe (info : CardInfo) : String :=
  "rca=" ++ renderHex info.address.toNat ++
    " capacity=" ++ toString info.capacity.toNat ++
    " high_capacity=" ++ toString info.highCapacity ++
    " bus_width=" ++ widthName info.width ++
    " clock=" ++ toString info.clock.toNat ++ "\n"

def blockOf (data : ByteArray) : Bytes :=
  Bytes.overlay (data.extract 0 blockSize).toList (Bytes.zeros blockSize)

section Run

variable {m : Type → Type} [Monad m] [Environment m]

def openMedium (a : Arguments) : m (Except DeviceError Medium) :=
  match a.sdCard with
  | some name => return (← Environment.readFile name).map Medium.ofByteArray
  | none => return .ok (Medium.blank (a.cardSize.toNat * 1024 * 1024))

def findOptions (a : Arguments) : m Options := do
  let names := [Hint.fourWire, Hint.overclock].map (Hint.name a.unit)
  let hints ← names.mapM fun name => return (name, ← Environment.findVariable name)
  return a.options fun name => (hints.lookup name).join

def emit (a : Arguments) (data : ByteArray) : m (Except DeviceError ByteArray) :=
  match a.output with
  | none => return .ok data
  | some name => return (← Environment.writeFile name data).map fun _ => ByteArray.empty

def save (a : Arguments) (medium : Medium) : m (Except DeviceError ByteArray) :=
  match a.sdCard with
  | none => return .ok ByteArray.empty
  | some name => return (← Environment.writeFile name medium.toByteArray).map fun _ => ByteArray.empty

def perform (a : Arguments) (device : Device Simulator) : m (Except DeviceError ByteArray) := do
  match a.operation with
  | .probe => return .ok (describe device.session.info).toUTF8
  | .readSector block =>
    match (device.run (Session.readBlock block (Bytes.zeros blockSize))).1 with
    | .ok data => emit a ⟨data.toArray⟩
    | .error e => return .error e
  | .writeSector block input =>
    match ← Environment.readFile input with
    | .error e => return .error e
    | .ok data =>
      match device.run (Session.writeBlock block (blockOf data)) with
      | (.ok (), device) => save a device.session.controller.bus.hardware.card.medium
      | (.error e, _) => return .error e
  | .fetchFile path =>
    match ((Fat.load path).run.run device).1 with
    | .ok data => emit a ⟨data.toArray⟩
    | .error e => return .error e

def patience : Nat := 1000

def runWith (a : Arguments) (medium : Medium) : m Outcome := do
  let options ← findOptions a
  let simulator : Simulator := { soc := a.soc, card := .ofMedium medium }
  let controller := Controller.attach a.unit a.board options simulator
  match Session.start controller patience true with
  | (.error e, _) => return .failure 1 ("Card initialisation failed: " ++ e.message)
  | (.ok _, session) => return .ofResult (← perform a { session })

def run (words : List String) : m Outcome :=
  match parse words with
  | .error e => return .ofUsageError e
  | .ok a =>
    match a.inconsistency? with
    | some problem => return .failure 2 ("Error: " ++ problem.message)
    | none => do
      match ← openMedium a with
      | .error e => return .failure 2 ("Failed to open SD card image: " ++ e.message)
      | .ok medium => runWith a medium

end Run

end CardHost.CommandLine
