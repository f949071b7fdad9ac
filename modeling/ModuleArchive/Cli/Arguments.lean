import ModuleArchive.Text.Decimal

/-!
# Command lines

A command line is a command with at most one operand, and switches. Switches with a value take
it from the same argument or from the next one, which must not look like a switch itself; a
lone `-` does not, and after `--` nothing does. Arguments are read in order, so that a mistake
counts only if no switch before it asks for help.
-/
namespace ModuleArchive.Cli

/-- What the program is to do. -/
inductive Command where
  /-- List a directory, the root if none is named, and stop after some entries. -/
  | ls (identifier : Option String) (limit : Option Nat)
  /-- Show a node and the directories above it. -/
  | resolve (identifier : String)
  /-- Fetch the content of a file, into a file if one is named. -/
  | get (identifier : String) (output : Option String)
  /-- Count what the index holds. -/
  | stats
deriving Repr, DecidableEq

/-- A command line that can be carried out. -/
structure Request where
  command : Command
  /-- The configuration file in place of the usual ones. -/
  config : Option String
  verbose : Bool
deriving Repr, DecidableEq

/-- Why a command line is not carried out. -/
inductive Stop where
  | help
  | version
  | mistake
deriving Repr, DecidableEq

/-- What the switches say. -/
structure Settings where
  config : Option String := none
  verbose : Bool := false
  limit : Option Nat := none
  output : Option String := none
deriving Repr, DecidableEq

/-- A switch, with what it does when it is given. -/
structure Switch where
  long : List Char
  short : Option Char := none
  takesValue : Bool := false
  /-- Note that the switch is given, with this value. -/
  note : List Char → Settings → Except Stop Settings

namespace Switch

/-- Put a value where there is none yet. -/
def putOnce {α : Type} (value : α) : Option α → Except Stop (Option α)
  | none => .ok (some value)
  | some _ => .error .mistake

/-- A path, which is not empty. -/
def path? (text : List Char) : Except Stop String :=
  if text.isEmpty then .error .mistake else .ok (String.ofList text)

/-- A whole number of 64 bits, which a plus sign may stand before. -/
def count? (text : List Char) : Except Stop Nat :=
  match Decimal.readBelow? UInt64.size text with
  | some n => .ok n
  | none => .error .mistake

def config : Switch where
  long := "config".toList
  takesValue := true
  note text s := do return { s with config := ← putOnce (← path? text) s.config }

/-- Say more about what is going on. -/
def verbose : Switch where
  long := "verbose".toList
  short := some 'v'
  note _ s := if s.verbose then .error .mistake else .ok { s with verbose := true }

/-- The number of entries after which to stop. -/
def limit : Switch where
  long := "limit".toList
  takesValue := true
  note text s := do return { s with limit := ← putOnce (← count? text) s.limit }

/-- The file to write to. -/
def output : Switch where
  long := "output".toList
  short := some 'o'
  takesValue := true
  note text s := do return { s with output := ← putOnce (← path? text) s.output }

def help : Switch where
  long := "help".toList
  short := some 'h'
  note _ _ := .error .help

def version : Switch where
  long := "version".toList
  short := some 'V'
  note _ _ := .error .version

/-- The switches that count before and after the command. -/
def everywhere : List Switch := [config, verbose, help]

end Switch

/-- Whether an argument is a switch, or `--`, by its look. -/
def looksLikeSwitch : List Char → Bool
  | '-' :: _ :: _ => true
  | _ => false

/-- Read switches of one letter that share an argument; the rest of it is the value of the
first one that takes a value. A switch whose value is still to come is given back. -/
def readLetters (switches : List Switch) : List Char → Settings →
    Except Stop (Option Switch × Settings)
  | [], s => .ok (none, s)
  | letter :: rest, s =>
    match switches.find? (·.short = some letter) with
    | none => .error .mistake
    | some switch =>
      if switch.takesValue then
        match rest with
        | [] => .ok (some switch, s)
        | '=' :: value | value => do return (none, ← switch.note value s)
      else do readLetters switches rest (← switch.note [] s)

/-- Read a switch that is written with its long name. -/
def readWord (switches : List Switch) (word : List Char) (s : Settings) :
    Except Stop (Option Switch × Settings) :=
  let name := word.takeWhile (· != '=')
  match switches.find? (·.long = name), word.dropWhile (· != '=') with
  | none, _ => .error .mistake
  | some switch, [] =>
    if switch.takesValue then .ok (some switch, s) else do return (none, ← switch.note [] s)
  | some switch, _ :: value =>
    if switch.takesValue then do return (none, ← switch.note value s) else .error .mistake

/-- Read switches up to the first operand or `--`, which is left with all that follows. A
switch that waits for its value gets the first argument. -/
def readSwitches (switches : List Switch) : Option Switch → Settings → List String →
    Except Stop (Settings × List String)
  | none, s, [] => .ok (s, [])
  | some _, _, [] => .error .mistake
  | some switch, s, value :: rest =>
    if looksLikeSwitch value.toList then .error .mistake
    else do readSwitches switches none (← switch.note value.toList s) rest
  | none, s, argument :: rest =>
    match argument.toList with
    | ['-', '-'] => .ok (s, argument :: rest)
    | '-' :: '-' :: word => do
      let (pending, s) ← readWord switches word s
      readSwitches switches pending s rest
    | '-' :: letter :: letters => do
      let (pending, s) ← readLetters switches (letter :: letters) s
      readSwitches switches pending s rest
    | _ => .ok (s, argument :: rest)

/-- Read the arguments of a command that takes at most one operand. -/
def readOperand (switches : List Switch) (arguments : List String) :
    Except Stop (Settings × Option String) := do
  match ← readSwitches switches none {} arguments with
  | (s, []) | (s, ["--"]) => return (s, none)
  | (s, ["--", operand]) => return (s, some operand)
  | (_, "--" :: _) => throw .mistake
  | (s, operand :: rest) =>
    match ← readSwitches switches none s rest with
    | (s, []) | (s, ["--"]) => return (s, some operand)
    | _ => throw .mistake

/-- Read the arguments of a command that takes no operand. -/
def readNoOperand (switches : List Switch) (arguments : List String) : Except Stop Settings := do
  match ← readSwitches switches none {} arguments with
  | (s, []) | (s, ["--"]) => return s
  | _ => throw .mistake

def commandNames : List String := ["ls", "resolve", "get", "stats", "help"]

/-- Read the arguments after the name of a command. -/
def readCommand (name : String) (arguments : List String) :
    Except Stop (Settings × Command) := do
  match name with
  | "ls" =>
    let (s, operand) ← readOperand (.limit :: Switch.everywhere) arguments
    return (s, .ls operand s.limit)
  | "resolve" =>
    match ← readOperand Switch.everywhere arguments with
    | (s, some operand) => return (s, .resolve operand)
    | (_, none) => throw .mistake
  | "get" =>
    match ← readOperand (.output :: Switch.everywhere) arguments with
    | (s, some operand) => return (s, .get operand s.output)
    | (_, none) => throw .mistake
  | "stats" => return (← readNoOperand Switch.everywhere arguments, .stats)
  | "help" =>
    match arguments with
    | [] => throw .help
    | [topic] => throw (if topic ∈ commandNames then .help else .mistake)
    | _ => throw .mistake
  | _ => throw .mistake

/-- Read a command line. What is said after the command counts more than what is said before. -/
def Request.ofArguments (arguments : List String) : Except Stop Request := do
  match ← readSwitches (.version :: Switch.everywhere) none {} arguments with
  | (before, name :: rest) =>
    let (after, command) ← readCommand name rest
    return ⟨command, after.config <|> before.config, before.verbose || after.verbose⟩
  | (_, []) => throw .mistake

end ModuleArchive.Cli
