import ModuleArchive.Config.Value
import ModuleArchive.Url.Parser

/-!
# Configuration

What can be configured, the defaults, the limits of the values, and how values from a source
become a configuration. Settings that a source does not mention keep their defaults.
-/
namespace ModuleArchive

/-- Where the archive is. -/
structure RemoteConfig where
  /-- The address of the listing pages. -/
  catalogUrl : String := "https://www.exotica.org.uk/mediawiki/index.php?title=Special:Modland"
  /-- The host of the module files. -/
  storageUrl : String := "https://ftp.modland.com"
deriving Repr, DecidableEq

/-- How answers are kept. -/
structure CacheConfig where
  /-- Where the index and the contents are kept, if not in the cache directory of the
  platform. -/
  directory : Option String := none
  /-- How many seconds a refreshed listing is trusted. -/
  ttl : UInt64 := 24 * 60 * 60
  serveStale : Bool := true
deriving Repr, DecidableEq

/-- How payloads are read. -/
structure ReadingConfig where
  /-- Files of at least this many bytes are mapped. -/
  mmapThreshold : UInt64 := 128 * 1024
  /-- Size of the first buffer for a stream of unknown length. -/
  initialBuffer : UInt64 := 256 * 1024
deriving Repr, DecidableEq

/-- The configuration of the program. -/
structure Config where
  /-- The scheme of identifiers. -/
  scheme : String := "modland"
  remote : RemoteConfig := {}
  cache : CacheConfig := {}
  reading : ReadingConfig := {}
deriving Repr, DecidableEq

namespace Config

/-- Why there is no configuration. -/
inductive Error where
  /-- A source could not be read, or a value is not of the kind it has to be. -/
  | load
  /-- The file that was asked for does not exist. -/
  | missing (path : String)
  /-- The value of a field is out of its range. -/
  | invalid (field : String)
  /-- The platform has no cache directory. -/
  | noHome
deriving Repr, DecidableEq

namespace Error

def message : Error → String
  | load => "could not load configuration"
  | missing path => "configuration file not found: " ++ path
  | invalid field => "invalid configuration value: " ++ field
  | noHome => "no home directory available"

def isRetryable (_ : Error) : Bool := false

end Error

/-! ### Limits -/

/-- Whether a text is a scheme: a letter, then letters, digits and some marks. -/
def isScheme (text : List Char) : Bool :=
  match text with
  | [] => false
  | c :: rest =>
    c.isAlpha && rest.all fun c => c.isAlphanum || c == '+' || c == '-' || c == '.'

/-- The address in a field, which has to be one of the web. -/
def baseUrl (text field : String) : Except Error Url :=
  match Url.parse? text with
  | some url => if url.isOpaque || !url.isWeb then .error (.invalid field) else .ok url
  | none => .error (.invalid field)

def catalogUrl (c : Config) : Except Error Url := baseUrl c.remote.catalogUrl "remote.catalog_url"

/-- The host of the module files. -/
def storageUrl (c : Config) : Except Error Url := baseUrl c.remote.storageUrl "remote.storage_url"

/-- Check all fields, in order. -/
def validate (c : Config) : Except Error Unit := do
  if !isScheme c.scheme.toList then throw (.invalid "scheme")
  let _ ← c.catalogUrl
  let _ ← c.storageUrl
  if c.cache.ttl = 0 then throw (.invalid "cache.ttl")
  if c.reading.mmapThreshold = 0 then throw (.invalid "io.mmap_threshold")
  if c.reading.initialBuffer = 0 then throw (.invalid "io.initial_buffer")

/-! ### Places -/

def joinPath (path name : String) : String :=
  if path.isEmpty || path.toList.getLast? = some '/' then path ++ name else path ++ "/" ++ name

/-- The cache directory, given that of the platform. -/
def directory (c : Config) (platform : Option String) : Except Error String :=
  match c.cache.directory, platform with
  | some path, _ | none, some path => .ok path
  | none, none => .error .noHome

def indexPath (c : Config) (platform : Option String) : Except Error String :=
  (c.directory platform).map (joinPath · "index.sqlite")

def contentDirectory (c : Config) (platform : Option String) : Except Error String :=
  (c.directory platform).map (joinPath · "content")

/-! ### Values as a configuration -/

def readText? : Value → Option String
  | .text s => some s
  | _ => none

def readBool? : Value → Option Bool
  | .bool b => some b
  | _ => none

/-- The value of a whole number of 64 bits. -/
def readWord? : Value → Option UInt64
  | .integer n => if 0 ≤ n ∧ n < UInt64.size then some (UInt64.ofNat n.toNat) else none
  | _ => none

/-- A value that may be absent. -/
def readOptional? {α : Type} (read? : Value → Option α) : Value → Option (Option α)
  | .null => some none
  | v => (read? v).map some

/-- The values of some fields: by name in a table, by place in a list. -/
def fields? (names : List String) : Value → Option (List (Option Value))
  | .table entries => some (names.map fun name => entries.lookup name)
  | .list items => some ((List.range names.length).map fun i => items[i]?)
  | _ => none

/-- The value of a field, or its default. -/
def orDefault? {α : Type} (read? : Value → Option α) (default : α) : Option Value → Option α
  | none => some default
  | some v => read? v

def readRemote? (v : Value) : Option RemoteConfig :=
  match fields? ["catalog_url", "storage_url"] v with
  | some [catalog, storage] => do
    let d : RemoteConfig := {}
    return ⟨← orDefault? readText? d.catalogUrl catalog,
      ← orDefault? readText? d.storageUrl storage⟩
  | _ => none

def readCache? (v : Value) : Option CacheConfig :=
  match fields? ["directory", "ttl", "serve_stale"] v with
  | some [directory, ttl, stale] => do
    let d : CacheConfig := {}
    return ⟨← orDefault? (readOptional? readText?) d.directory directory,
      ← orDefault? readWord? d.ttl ttl, ← orDefault? readBool? d.serveStale stale⟩
  | _ => none

def readReading? (v : Value) : Option ReadingConfig :=
  match fields? ["mmap_threshold", "initial_buffer"] v with
  | some [threshold, buffer] => do
    let d : ReadingConfig := {}
    return ⟨← orDefault? readWord? d.mmapThreshold threshold,
      ← orDefault? readWord? d.initialBuffer buffer⟩
  | _ => none

def ofValue? (v : Value) : Option Config :=
  match fields? ["scheme", "remote", "cache", "io"] v with
  | some [scheme, remote, cache, reading] => do
    let d : Config := {}
    return ⟨← orDefault? readText? d.scheme scheme, ← orDefault? readRemote? d.remote remote,
      ← orDefault? readCache? d.cache cache, ← orDefault? readReading? d.reading reading⟩
  | _ => none

end Config

end ModuleArchive
