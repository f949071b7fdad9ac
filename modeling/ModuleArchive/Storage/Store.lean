import ModuleArchive.Content.Reader
import ModuleArchive.Storage.Error
import ModuleArchive.Storage.FileTree

/-!
# Content stores

A store keeps whole payloads under paths. Both kinds first turn the path into a key and
refuse paths without one. A memory store is a map from keys to bytes that counts its
successful reads and writes and can be told to refuse writes. A directory store keeps files
below a root directory: a payload is written beside its place and moved there, so that a
file is replaced as a whole or not at all.
-/
namespace ModuleArchive.Storage

/-- The key of a path, or the failure that names it. -/
def keyOf (path : String) : Except Error Key :=
  match Key.ofPath? path.toList with
  | some key => .ok key
  | none => .error (.invalidPath path)

structure MemoryStore where
  name : String := "mock"
  files : List (Key × Bytes) := []
  /-- How many reads have succeeded. -/
  reads : Nat := 0
  /-- How many writes have succeeded. -/
  writes : Nat := 0
  /-- Whether writes are refused. -/
  refusesWrites : Bool := false

namespace MemoryStore

def get? (s : MemoryStore) (key : Key) : Option Bytes := (s.files.find? (·.1 = key)).map (·.2)

def put (s : MemoryStore) (key : Key) (data : Bytes) : MemoryStore :=
  { s with files := (key, data) :: s.files.filter (·.1 ≠ key) }

/-- A store with these files, the last one of a key counting. A path without a key is an
error of whoever sets the store up. -/
def ofFiles (files : List (String × Bytes)) : Except Error MemoryStore :=
  files.foldlM (fun s (path, data) => (keyOf path).map (s.put · data)) {}

def exists? (s : MemoryStore) (path : String) : Except Error Bool :=
  (keyOf path).map fun key => (s.get? key).isSome

def read (s : MemoryStore) (path : String) : Except Error Content × MemoryStore :=
  match keyOf path with
  | .error e => (.error e, s)
  | .ok key =>
    match s.get? key with
    | none => (.error (.notFound (String.ofList key.toPath)), s)
    | some data =>
      if data.isEmpty then (.error (.content (String.ofList key.toPath)), s)
      else (.ok ⟨data, false⟩, { s with reads := s.reads + 1 })

def write (s : MemoryStore) (path : String) (data : Bytes) : Except Error Unit × MemoryStore :=
  match keyOf path with
  | .error e => (.error e, s)
  | .ok key =>
    if s.refusesWrites then (.error (.io .storageFull), s)
    else (.ok (), { s.put key data with writes := s.writes + 1 })

end MemoryStore

structure DirectoryStore where
  name : String
  /-- The place of the root directory. -/
  root : Key
  reader : Content.Reader := {}
  /-- Distinguishes the temporary files of this process. -/
  stamp : String := "1-0"
  /-- The size a directory reports. -/
  directorySize : Nat := 4096
  tree : FileTree

namespace DirectoryStore

/-- The failure of the file tree at `path`, as a failure of the store. -/
def failure (path : String) (fault : IoFault) : Error :=
  if fault = .notFound then .notFound path else .io fault

/-- The store in the directory that a path leads to; `root` is how the path was given. -/
def inDirectory (name root : String) (reader : Content.Reader) (path : Key) (tree : FileTree) :
    Except Error DirectoryStore :=
  match tree.resolve path with
  | .ok (place, .directory) => .ok { name, root := place, reader, tree }
  | .ok (_, .file _) => .error (.invalidPath root)
  | .error fault => .error (failure root fault)

/-- Open a store at an absolute path, making the root directory and those above it if there is
nothing. -/
def open? (name root : String) (reader : Content.Reader) (tree : FileTree) :
    Except Error DirectoryStore :=
  match root.toList with
  | '/' :: rest =>
    let path := (Text.splitOn '/' rest).filter (!·.isEmpty)
    if '\x00' ∈ rest then .error (.io .embeddedNul)
    -- a directory cannot be made under the name `.`
    else if (tree.resolve path).isOk || path.getLast? = some ['.'] then
      inDirectory name root reader path tree
    else
      match tree.makeDirectories (path.filter (· ≠ ['.'])).reverse with
      | (tree, none) => inDirectory name root reader path tree
      | (_, some fault) => .error (failure root fault)
  | _ => .error (.invalidPath root)

def placeOf (s : DirectoryStore) (key : Key) : Key := s.root ++ key

/-- The place where the payload for a file is written first. -/
def temporary (s : DirectoryStore) (place : Key) : Key :=
  place.dropLast ++ [place.getLast?.getD [] ++ ('.' :: s.stamp.toList) ++ ".part".toList]

def exists? (s : DirectoryStore) (path : String) : Except Error Bool :=
  match keyOf path with
  | .error e => .error e
  | .ok key =>
    match s.tree.exists? (s.placeOf key) with
    | .ok found => .ok found
    | .error fault => .error (.io fault)

/-- What is at a place, for a reader. -/
def opened (s : DirectoryStore) (place : Key) : Except IoFault Content.Reader.Opened :=
  match s.tree.resolve place with
  | .ok (_, .file data) => .ok (.file data)
  | .ok (_, .directory) => .ok (.directory s.directorySize)
  | .error fault => .error fault

def read (s : DirectoryStore) (path : String) : Except Error Content :=
  match keyOf path with
  | .error e => .error e
  | .ok key =>
    match (s.reader.readOpened .unlimited true (s.opened (s.placeOf key))).result with
    | .ok content => .ok content
    | .error e => .error (Error.ofContent path e)

/-- Write a file, making the directories above it. -/
def write (s : DirectoryStore) (path : String) (data : Bytes) :
    Except Error Unit × DirectoryStore :=
  match keyOf path with
  | .error e => (.error e, s)
  | .ok key =>
    let place := s.placeOf key
    match s.tree.makeDirectories place.dropLast.reverse with
    | (tree, some fault) => (.error (failure path fault), { s with tree })
    | (tree, none) =>
      let temporary := s.temporary place
      match tree.writeFile temporary data with
      | .error fault =>
        (.error (failure path fault), { s with tree := tree.removeFile temporary })
      | .ok written =>
        match written.rename temporary place with
        | .error fault =>
          (.error (failure path fault), { s with tree := written.removeFile temporary })
        | .ok tree => (.ok (), { s with tree })

end DirectoryStore

/-- A content store of either kind. -/
inductive Store where
  | memory (store : MemoryStore)
  | directory (store : DirectoryStore)

namespace Store

/-- The name under which a store is configured. -/
def name : Store → String
  | memory s => s.name
  | directory s => s.name

def exists? : Store → String → Except Error Bool
  | memory s, path => s.exists? path
  | directory s, path => s.exists? path

def read : Store → String → Except Error Content × Store
  | memory s, path => let (r, s) := s.read path; (r, memory s)
  | directory s, path => (s.read path, directory s)

def write : Store → String → Bytes → Except Error Unit × Store
  | memory s, path, data => let (r, s) := s.write path data; (r, memory s)
  | directory s, path, data => let (r, s) := s.write path data; (r, directory s)

end Store

end ModuleArchive.Storage
