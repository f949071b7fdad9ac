import ModuleArchive.Text.Utf8
import ModuleArchive.Storage.Key
import ModuleArchive.Content.Error

/-!
# A tree of files

Directories and files under absolute paths, with the operations that a content store needs
and the failures that they report. There are no links. A name has at most 255 bytes.
-/
namespace ModuleArchive.Storage

/-- What can stand at a path. -/
inductive Entry where
  | directory
  | file (data : Bytes)
deriving Repr, DecidableEq

/-- A tree of files. The root is a directory that needs no entry; every other entry lies in
a directory. -/
structure FileTree where
  entries : List (Key × Entry) := []
deriving Repr

namespace FileTree

/-- The longest name in bytes. -/
def maxName : Nat := 255

def isTooLong (name : List Char) : Bool := maxName < (Utf8.encode name).length

/-- What stands at a path. -/
def get? (t : FileTree) (path : Key) : Option Entry :=
  if path.isEmpty then some .directory else (t.entries.find? (·.1 = path)).map (·.2)

def put (t : FileTree) (path : Key) (e : Entry) : FileTree :=
  ⟨t.entries.filter (·.1 ≠ path) ++ [(path, e)]⟩

def erase (t : FileTree) (path : Key) : FileTree := ⟨t.entries.filter (·.1 ≠ path)⟩

/-- One step of following a path from the place `here`, last name first. -/
def step (t : FileTree) (here : Key) (name : List Char) : Except IoFault Key :=
  match t.get? here.reverse with
  | some .directory =>
    if name = [] ∨ name = ['.'] then .ok here
    else if name = ['.', '.'] then .ok here.tail
    else if '\x00' ∈ name then .error .embeddedNul
    else if isTooLong name then .error .nameTooLong
    else if (t.get? (name :: here).reverse).isSome then .ok (name :: here)
    else .error .notFound
  | some (.file _) => .error .notDirectory
  | none => .error .notFound

/-- The entry that a path leads to, with its place in the tree. -/
def resolve (t : FileTree) (path : Key) : Except IoFault (Key × Entry) := do
  let here := (← path.foldlM t.step []).reverse
  match t.get? here with
  | some e => .ok (here, e)
  | none => .error .notFound

/-- The place in a directory that a path leads to, whether something stands there or not. -/
def resolveParent (t : FileTree) (path : Key) : Except IoFault Key := do
  match path.getLast? with
  | none => .error .exists
  | some name =>
    let (parent, e) ← t.resolve path.dropLast
    if e ≠ .directory then .error .notDirectory
    else if isTooLong name then .error .nameTooLong
    else .ok (parent ++ [name])

def isDirectory (t : FileTree) (path : Key) : Bool :=
  match t.resolve path with
  | .ok (_, .directory) => true
  | _ => false

/-- Whether a path leads anywhere. -/
def exists? (t : FileTree) (path : Key) : Except IoFault Bool :=
  match t.resolve path with
  | .ok _ => .ok true
  | .error .notFound => .ok false
  | .error fault => .error fault

/-- Whether a name stands for the directory that it is in, or for the one above. -/
def isDots (name : List Char) : Bool := name == ['.'] || name == ['.', '.']

def makeDirectory (t : FileTree) (path : Key) : Except IoFault FileTree := do
  let place ← t.resolveParent path
  if path.getLast?.any isDots || (t.get? place).isSome then .error .exists
  else .ok (t.put place .directory)

/-- Make a directory and those above it that are missing. A failure leaves the directories
that were made before it. The path is given last name first. -/
def makeDirectories (t : FileTree) : Key → FileTree × Option IoFault
  | [] => (t, none)
  | name :: above =>
    let path := (name :: above).reverse
    match t.makeDirectory path with
    | .ok t => (t, none)
    | .error .notFound =>
      match t.makeDirectories above with
      | (t, some fault) => (t, some fault)
      | (t, none) =>
        match t.makeDirectory path with
        | .ok t => (t, none)
        | .error fault => if t.isDirectory path then (t, none) else (t, some fault)
    | .error fault => if t.isDirectory path then (t, none) else (t, some fault)

/-- Write a file, replacing one that is there. -/
def writeFile (t : FileTree) (path : Key) (data : Bytes) : Except IoFault FileTree := do
  let place ← t.resolveParent path
  match t.get? place with
  | some .directory => .error .isDirectory
  | _ => .ok (t.put place (.file data))

/-- Move a file, replacing one that is there. -/
def rename (t : FileTree) (old new : Key) : Except IoFault FileTree := do
  let source ← t.resolveParent old
  let place ← t.resolveParent new
  match t.get? source, t.get? place with
  | none, _ => .error .notFound
  | some _, some .directory => .error .isDirectory
  | some e, _ => .ok ((t.erase source).put place e)

/-- Remove a file; nothing happens if that fails. -/
def removeFile (t : FileTree) (path : Key) : FileTree :=
  match t.resolveParent path with
  | .ok place =>
    match t.get? place with
    | some (.file _) => t.erase place
    | _ => t
  | .error _ => t

end FileTree

end ModuleArchive.Storage
