import CardHost.CommandLine.Arguments
/-!
Reading the words of a command line. A word is looked at when it comes, but the value of a setting that
is a word of its own is read only when the next option has been recognised: a word that is no option is
the first thing to be reported.
-/
namespace CardHost.CommandLine

inductive UsageError where
  | unknownWord
  | invalidValue
  | malformedValue
  | conflict
  | unexpectedValue
  | helpWanted
  deriving Repr, DecidableEq

inductive Setting where
  | sdCard
  | cardSize
  | soc
  | masterClock
  | unit
  | readSector
  | writeSector
  | input
  | file
  | output
  deriving Repr, DecidableEq

inductive Switch where
  | fourWire
  | oneWire
  | noOverclock
  | help
  deriving Repr, DecidableEq

inductive Choice where
  | setting (s : Setting)
  | switch (s : Switch)
  deriving Repr, DecidableEq

namespace Choice

def ofName? : String → Option Choice
  | "sd-card" => some (.setting .sdCard)
  | "card-size" => some (.setting .cardSize)
  | "soc" => some (.setting .soc)
  | "master-clock" => some (.setting .masterClock)
  | "unit" => some (.setting .unit)
  | "read-sector" => some (.setting .readSector)
  | "write-sector" => some (.setting .writeSector)
  | "input" => some (.setting .input)
  | "file" => some (.setting .file)
  | "output" => some (.setting .output)
  | "four-wire" => some (.switch .fourWire)
  | "one-wire" => some (.switch .oneWire)
  | "no-overclock" => some (.switch .noOverclock)
  | "help" => some (.switch .help)
  | _ => none

def ofLetter? : Char → Option Choice
  | 'o' => some (.setting .output)
  | 'h' => some (.switch .help)
  | _ => none

end Choice

inductive Word where
  | close
  | option (name : String) (value : Option String)
  | letter (name : Char) (rest : List Char)
  | plain (text : String)
  deriving Repr, DecidableEq

def splitValue (text : List Char) : String × Option String :=
  match text.dropWhile (· ≠ '=') with
  | [] => (String.ofList text, none)
  | _ :: value => (String.ofList (text.takeWhile (· ≠ '=')), some (String.ofList value))

def Word.ofString (text : String) : Word :=
  match text.toList with
  | ['-', '-'] => .close
  | '-' :: '-' :: rest => .option (splitValue rest).1 (splitValue rest).2
  | '-' :: first :: rest => .letter first rest
  | _ => .plain text

def readSize (text : String) : Except UsageError UInt32 :=
  match Numeral.signed 10 (UInt64.size / 2) text.toList with
  | .ok n => if 0 ≤ n ∧ n < UInt32.size then .ok (UInt32.ofNat n.toNat) else .error .malformedValue
  | .error _ => .error .malformedValue

def readNumber (text : String) : Except UsageError UInt64 :=
  (Numeral.hexOrDecimal text).mapError fun _ => .malformedValue

def readName (text : String) : Except UsageError String :=
  if text = "" then .error .invalidValue else .ok text

def readSoc (text : String) : Except UsageError Soc :=
  match Soc.ofName? text with
  | some soc => .ok soc
  | none => .error .invalidValue

namespace Arguments

def assign (a : Arguments) (text : String) : Setting → Except UsageError Arguments
  | .sdCard => do return { a with sdCard := some (← readName text) }
  | .cardSize => do return { a with cardSize := ← readSize text }
  | .soc => do return { a with soc := ← readSoc text }
  | .masterClock => do return { a with masterClock := some (← readNumber text) }
  | .unit => do return { a with unit := ← readSize text }
  | .readSector => do return { a with readSector := some (← readNumber text) }
  | .writeSector => do return { a with writeSector := some (← readNumber text) }
  | .input => do return { a with input := some (← readName text) }
  | .file => return { a with file := some text }
  | .output => do return { a with output := some (← readName text) }

def turnOn (a : Arguments) : Switch → Except UsageError Arguments
  | .fourWire => .ok { a with fourWire := true }
  | .oneWire => .ok { a with oneWire := true }
  | .noOverclock => .ok { a with noOverclock := true }
  | .help => .error .helpWanted

end Arguments

structure Progress where
  arguments : Arguments := {}
  seen : List Choice := []
  pending : Option (Setting × Option String) := none
  closed : Bool := false
  deriving Repr, DecidableEq

namespace Progress

def once (p : Progress) (choice : Choice) : Except UsageError Progress :=
  if choice ∈ p.seen then .error .conflict else .ok { p with seen := choice :: p.seen }

def assign (p : Progress) (setting : Setting) (text : String) : Except UsageError Progress := do
  let p ← p.once (.setting setting)
  return { p with arguments := ← p.arguments.assign text setting }

def settle (p : Progress) : Except UsageError Progress :=
  match p.pending with
  | none => .ok p
  | some (_, none) => .error .invalidValue
  | some (setting, some text) => { p with pending := none }.assign setting text

def turnOn (p : Progress) (switch : Switch) : Except UsageError Progress := do
  let p ← p.settle
  let p ← p.once (.switch switch)
  return { p with arguments := ← p.arguments.turnOn switch }

def choose (p : Progress) (value : Option String) : Choice → Except UsageError Progress
  | .setting setting => do
    let p ← p.settle
    match value with
    | some text => p.assign setting text
    | none => return { p with pending := some (setting, none) }
  | .switch switch => if value.isSome then .error .unexpectedValue else p.turnOn switch

def valueAfter : List Char → Option String
  | [] => none
  | '=' :: rest => some (String.ofList rest)
  | rest => some (String.ofList rest)

def step (p : Progress) (text : String) : Except UsageError Progress :=
  if p.closed then .error .unknownWord
  else
    match Word.ofString text with
    | .close => .ok { p with closed := true }
    | .option name value =>
      match Choice.ofName? name with
      | some choice => p.choose value choice
      | none => .error .unknownWord
    | .letter letter rest =>
      match Choice.ofLetter? letter with
      | some (.switch switch) => p.turnOn switch
      | some choice => p.choose (valueAfter rest) choice
      | none => .error .unknownWord
    | .plain text =>
      match p.pending with
      | some (setting, none) => .ok { p with pending := some (setting, some text) }
      | _ => .error .unknownWord

end Progress

def parse (words : List String) : Except UsageError Arguments := do
  let p ← words.foldlM Progress.step {}
  let p ← p.settle
  if p.arguments.fourWire ∧ p.arguments.oneWire then throw .conflict
  return p.arguments

end CardHost.CommandLine
