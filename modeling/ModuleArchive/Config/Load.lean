import ModuleArchive.Config.Basic
import ModuleArchive.Config.Environment
import ModuleArchive.Config.Toml
import ModuleArchive.Config.Yaml

/-!
# Loading the configuration

The configuration comes from a file, whose format its name tells, and from environment
variables, which override the file. Without a file that is asked for, the first of the usual
files in the configuration directory of the platform counts, if there is one.
-/
namespace ModuleArchive.Config

/-- A notation for configuration files. -/
inductive Format where
  | toml
  | yaml
  | json
deriving Repr, DecidableEq

namespace Format

/-- What follows the last point in the last name of a path; names that only start with a
point have no such part. -/
def extension (path : List Char) : List Char :=
  let name := (((Text.splitOn '/' path).filter fun n => !n.isEmpty && n != ['.']).getLast?).getD []
  match Text.splitOn '.' name with
  | [_] | [[], _] | [] => []
  | pieces => pieces.getLast?.getD []

/-- The format of a file with this path. -/
def ofPath? (path : String) : Option Format :=
  let e := (extension path.toList).map Char.toLower
  if e = "toml".toList then some toml
  else if e = "yaml".toList ∨ e = "yml".toList then some yaml
  else if e = "json".toList then some json
  else none

/-- Read a text in a format. It has to hold a table. -/
def read? (f : Format) (text : List Char) : Option Value :=
  match f with
  | toml => Toml.read? text
  | yaml => Yaml.read? text
  | json =>
    match Json.read? text with
    | some (.table entries) => some (.table entries)
    | _ => none

end Format

/-- The names of the usual configuration files, the first one counting. -/
def fileNames : List String := ["config.toml", "config.yaml", "config.json"]

/-- Where a configuration comes from. -/
structure Sources where
  /-- The bytes of the regular file at a path. -/
  file? : String → Option Bytes
  /-- The configuration directory of the platform. -/
  directory : Option String
  /-- The variables of the environment. -/
  environment : List (String × String)

/-- The file that counts, with its bytes. -/
def Sources.find (s : Sources) (path : Option String) : Except Error (Option (String × Bytes)) :=
  match path with
  | some path =>
    match s.file? path with
    | some data => .ok (some (path, data))
    | none => .error (.missing path)
  | none =>
    match s.directory with
    | some directory =>
      .ok (fileNames.findSome? fun name =>
        (s.file? (joinPath directory name)).map (joinPath directory name, ·))
    | none => .ok none

def readFileValue (path : String) (data : Bytes) : Except Error Value :=
  match Format.ofPath? path with
  | none => .error (.invalid "configuration file extension")
  | some format =>
    match (Utf8.decode? data).bind format.read? with
    | some v => .ok v
    | none => .error .load

def load (s : Sources) (path : Option String) : Except Error Config := do
  let fromFile ← match ← s.find path with
    | some (path, data) => readFileValue path data
    | none => pure (.table [])
  match ofValue? (fromFile.overlay (Environment.read s.environment)) with
  | none => throw .load
  | some config =>
    config.validate
    return config

end ModuleArchive.Config
