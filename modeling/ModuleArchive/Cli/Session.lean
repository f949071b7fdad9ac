import ModuleArchive.Cache.Catalog
import ModuleArchive.Cli.Arguments
import ModuleArchive.Config.Basic
import ModuleArchive.Filesystem.Basic
import ModuleArchive.Remote.Catalog
import ModuleArchive.Text.ByteCount

/-!
# Carrying out commands

A configuration gives a session: the archive on the web behind a cache, seen as a file system.
A command changes the state of the session and has an outcome: the lines that it writes,
those before a failure included, and the content that it fetches.
-/
namespace ModuleArchive.Cli

/-- Why a command failed. -/
inductive Failure where
  | config
  | index
  | storage
  | remote
  | filesystem
  | notFound (identifier : String)
  | notADirectory (identifier : String)
  | output
deriving Repr, DecidableEq

def Failure.message : Failure → String
  | config => "configuration error"
  | index => "could not open the catalog index"
  | storage => "could not open the content cache"
  | remote => "could not set up the remote catalog"
  | filesystem => "virtual filesystem error"
  | notFound identifier => "not found: " ++ identifier
  | notADirectory identifier => "not a directory: " ++ identifier
  | output => "could not write output"

/-- Content that a command fetched. -/
structure Delivery where
  bytes : Bytes
  /-- The file that the content goes to, if not among the lines. -/
  file : Option String
deriving Repr, DecidableEq

/-- What comes of a command. -/
structure Outcome where
  lines : List String := []
  delivery : Option Delivery := none
  failure : Option Failure := none
deriving Repr, DecidableEq

/-- The outcome of a command that failed before it wrote anything. -/
def Outcome.ofFailure (failure : Failure) : Outcome := { failure := some failure }

/-! ### Lines -/

/-- A text with blanks before it, of at least this width. -/
def padLeft (width : Nat) (text : String) : String :=
  String.ofList (List.replicate (width - text.length) ' ') ++ text

/-- A text with blanks after it, of at least this width. -/
def padRight (width : Nat) (text : String) : String :=
  text ++ String.ofList (List.replicate (width - text.length) ' ')

/-- The line on a node: its size, its identifier, and its description if it has one. -/
def nodeLine {σ : Type} (f : Filesystem σ) (n : Node) : Except Filesystem.Error String := do
  let size := match n.size? with
    | some size => ByteCount.text size
    | none => "-"
  let description := match n.description? with
    | some d => "  (" ++ d ++ ")"
    | none => ""
  return padLeft 12 size ++ "  " ++ (← f.identifier n) ++ description

/-- The line on a table of the index. -/
def tableLine : String × Nat → String
  | (name, rows) => padRight 16 name ++ " " ++ padLeft 10 (toString rows) ++ " rows"

/-! ### Commands -/

variable {σ : Type}

def find (f : Filesystem σ) (identifier : String) (w : σ) : Except Failure Node × σ :=
  match f.resolve identifier w with
  | (.ok (some n), w) => (.ok n, w)
  | (.ok none, w) => (.error (.notFound identifier), w)
  | (.error _, w) => (.error .filesystem, w)

/-- What has been shown of a listing: its lines, the last one first, and the number of
entries, those without an identifier included. -/
structure Shown where
  lines : List String := []
  entries : Nat := 0

/-- Show an event of a listing; stop as soon as `limit` entries have been shown. -/
def Shown.event (f : Filesystem σ) (limit : Option Nat) (s : Shown) :
    ListEvent Node → Shown × Bool
  | .hint count => ({ s with lines := (toString count ++ " entries") :: s.lines }, isDone s.entries)
  | .item n =>
    let lines := match nodeLine f n with
      | .ok line => line :: s.lines
      | .error _ => s.lines
    (⟨lines, s.entries + 1⟩, isDone (s.entries + 1))
where
  /-- Whether that many entries are enough. -/
  isDone (entries : Nat) : Bool := match limit with
    | some limit => limit ≤ entries
    | none => false

def ls (f : Filesystem σ) (identifier : String) (limit : Option Nat) (w : σ) : Outcome × σ :=
  match find f identifier w with
  | (.error failure, w) => (.ofFailure failure, w)
  | (.ok n, w) =>
    match f.children? n with
    | none => (.ofFailure (.notADirectory identifier), w)
    | some listing =>
      let (ending, shown, w) := listing.visit (Shown.event f limit) {} w
      let failure := match ending with
        | .failed _ => some Failure.filesystem
        | .complete | .dropped => none
      ({ lines := shown.lines.reverse, failure }, w)

/-- Show a node and the directories above it, as far as they can be found. -/
def showAncestry (f : Filesystem σ) : Nat → Nat → Node → σ → Outcome × σ
  | 0, _, _, w => ({}, w)
  | steps + 1, depth, n, w =>
    match nodeLine f n with
    | .error _ => (.ofFailure .filesystem, w)
    | .ok line =>
      let line := String.ofList (List.replicate (2 * depth) ' ') ++ line
      match f.parent n w with
      | (.error _, w) => ({ lines := [line], failure := some .filesystem }, w)
      | (.ok none, w) => ({ lines := [line] }, w)
      | (.ok (some parent), w) =>
        let (above, w) := showAncestry f steps (depth + 1) parent w
        ({ above with lines := line :: above.lines }, w)

/-- Show a node and the directories above it. -/
def resolve (f : Filesystem σ) (identifier : String) (w : σ) : Outcome × σ :=
  match find f identifier w with
  | (.error failure, w) => (.ofFailure failure, w)
  | (.ok n, w) => showAncestry f (Location.maxDepth + 1) 0 n w

/-- Fetch the content of a file. -/
def get (f : Filesystem σ) (identifier : String) (file : Option String) (w : σ) : Outcome × σ :=
  match find f identifier w with
  | (.error failure, w) => (.ofFailure failure, w)
  | (.ok n, w) =>
    match f.content n w with
    | (.error _, w) => (.ofFailure .filesystem, w)
    | (.ok content, w) => ({ delivery := some ⟨content.bytes, file⟩ }, w)

/-- Count what the index holds. -/
def stats (repository : Repository) : Outcome :=
  match repository.query fun index => .ok index.statistics with
  | .error _ => .ofFailure .index
  | .ok tables => { lines := tables.map tableLine }

/-! ### Sessions -/

/-- What a configuration gives. -/
structure Session where
  filesystem : Filesystem (Cache.State Remote.Server)
  /-- Reads the files of the content store. -/
  reader : Content.Reader

namespace Session

def ofConfig (c : Config) : Except Failure Session := do
  let pages ← c.catalogUrl.mapError fun _ => .config
  let storage ← c.storageUrl.mapError fun _ => .config
  let reader := (Content.Reader.standard.withMmapThreshold
    c.reading.mmapThreshold.toNat).withInitialBuffer c.reading.initialBuffer.toNat
  let archive : Remote.Archive := { site := ⟨pages, storage⟩, reader, alloc := fun _ _ => true }
  let policy : CachePolicy := { ttl := c.cache.ttl.toNat, serveStale := c.cache.serveStale }
  return ⟨⟨c.scheme, Cache.catalog policy archive.catalog, storage⟩, reader⟩

def run (s : Session) : Command → Cache.State Remote.Server →
    Outcome × Cache.State Remote.Server
  | .ls identifier limit, w =>
    ls s.filesystem (identifier.getD (s.filesystem.scheme ++ ":/")) limit w
  | .resolve identifier, w => resolve s.filesystem identifier w
  | .get identifier file, w => get s.filesystem identifier file w
  | .stats, w => (stats w.repository, w)

end Session

end ModuleArchive.Cli
