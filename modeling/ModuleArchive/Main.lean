import ModuleArchive.Cli.Session
import ModuleArchive.Config.Load
import ModuleArchive.Config.Platform

/-!
# The program

Reads the command line, the environment, the configuration file and the cached contents, and
writes what a session says. The program itself opens no connection, so that a session finds
every host of the archive out of reach: it shows the upper levels of the tree, and contents
that are in the cache. The index is empty, so that the time does not matter.
-/
namespace ModuleArchive.Main

def manual : String := "Browse remote music-module archives as a virtual filesystem

Usage: modvfs [--config <PATH>] [-v] <COMMAND>

Commands:
  ls [URI] [--limit <LIMIT>]     List a directory (the root by default)
  resolve <URI>                  Show a node and its ancestry
  get <URI> [-o <FILE>]          Fetch file content
  stats                          Show persistent index statistics"

def version : String := "modvfs 0.1.0-beta"

/-- The bytes of the regular file at a path. -/
def file? (path : String) : IO (Option Bytes) := do
  try return some (← IO.FS.readBinFile path).toList
  catch _ => return none

/-- The variables of the environment. -/
def environment : IO (List (String × String)) := do
  let some data ← file? "/proc/self/environ" | return []
  let entries := Text.splitOn '\x00' (Utf8.decodeLossy data)
  return entries.filterMap fun entry =>
    (Text.splitFirst? '=' entry).map fun (name, value) => (String.ofList name, String.ofList value)

def sources (environment : List (String × String)) (path : Option String) :
    IO Config.Sources := do
  let directory := Config.Platform.configuration? environment
  let usual := match directory with
    | some directory => Config.fileNames.map (Config.joinPath directory)
    | none => []
  let files ← (path.toList ++ usual).filterMapM fun path => do
    return (← file? path).map fun data => (path, data)
  return ⟨fun path => files.lookup path, directory, environment⟩

/-- A relative path as one from the current directory. -/
def absolute (path : String) : IO String := do
  if path.startsWith "/" then return path
  return Config.joinPath (toString (← IO.currentDir)) path

def namesOf (path : String) : Storage.Key :=
  (Text.splitOn '/' path.toList).filter fun name => !name.isEmpty

/-- The tree with the files below a directory of the disk. -/
partial def withFilesOf (tree : Storage.FileTree) (directory : String) :
    IO Storage.FileTree := do
  let mut tree := (tree.makeDirectories (namesOf directory).reverse).1
  for entry in ← (← IO.FS.realPath directory).readDir do
    let path := Config.joinPath directory entry.fileName
    if ← entry.path.isDir then tree ← withFilesOf tree path
    else if let some data ← file? path then
      tree := (tree.writeFile (namesOf path) data).toOption.getD tree
  return tree

/-- The content store in a directory, which is made if it is missing. -/
def openStore (reader : Content.Reader) (directory : String) :
    IO (Except Cli.Failure Storage.Store) := do
  try
    IO.FS.createDirAll directory
    let tree ← withFilesOf {} directory
    match Storage.DirectoryStore.open? "content" directory reader tree with
    | .ok store => return .ok (.directory store)
    | .error _ => return .error .storage
  catch _ => return .error .storage

/-- Write what a command said. -/
def report (o : Cli.Outcome) : IO (Option Cli.Failure) := do
  o.lines.forM IO.println
  match o.delivery with
  | none => return o.failure
  | some delivery =>
    let data := ByteArray.mk delivery.bytes.toArray
    try
      match delivery.file with
      | some path => IO.FS.writeBinFile path data
      | none =>
        let out ← IO.getStdout
        out.write data
        out.flush
      return o.failure
    catch _ => return some .output

def carryOut (r : Cli.Request) : IO (Option Cli.Failure) := do
  let environment ← environment
  let platform := Config.Platform.cache? environment
  match Config.load (← sources environment r.config) r.config with
  | .error _ => return some .config
  | .ok config =>
    match config.directory platform, config.contentDirectory platform,
        Cli.Session.ofConfig config with
    | .ok directory, .ok contents, .ok session =>
      try IO.FS.createDirAll directory
      catch _ => return some .index
      match ← openStore session.reader (← absolute contents) with
      | .error failure => return some failure
      | .ok store =>
        let (outcome, _) := session.run r.command
          { store, remote := { isFailing := true }, clock := Instant.ofSeconds 0 }
        report outcome
    | _, _, _ => return some .config

/-- Run the program; it ends with 1 after a failure and with 2 after a mistake on the command
line. -/
def run (arguments : List String) : IO UInt32 := do
  match Cli.Request.ofArguments arguments with
  | .error .help =>
    IO.println manual
    return 0
  | .error .version =>
    IO.println version
    return 0
  | .error .mistake =>
    IO.eprintln manual
    return 2
  | .ok request =>
    match ← carryOut request with
    | none => return 0
    | some failure =>
      IO.eprintln ("Error: " ++ failure.message)
      return 1

end ModuleArchive.Main

def main (arguments : List String) : IO UInt32 := ModuleArchive.Main.run arguments
