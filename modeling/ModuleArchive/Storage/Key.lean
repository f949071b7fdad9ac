import ModuleArchive.Text.Split

/-!
# Storage keys

A path names a file below the root of a content store. Its key is the list of names that
remain when empty and `.` segments are dropped and each `..` takes back the name before it.
A path that would leave the root, ends up at the root itself or holds a NUL has no key.
-/
namespace ModuleArchive.Storage

/-- The names that lead from the root of a store to a file. -/
abbrev Key := List (List Char)

namespace Key

/-- Walk along one segment, with the names kept so far, last one first. -/
def walk (kept : Key) (segment : List Char) : Option Key :=
  if segment = [] ∨ segment = ['.'] then some kept
  else if segment = ['.', '.'] then
    match kept with
    | [] => none
    | _ :: rest => some rest
  else if '\x00' ∈ segment then none
  else some (segment :: kept)

def ofPath? (path : List Char) : Option Key :=
  match (Text.splitOn '/' path).foldlM walk [] with
  | none | some [] => none
  | some kept => some kept.reverse

def toPath (key : Key) : List Char := Text.joinWith '/' key

end Key

end ModuleArchive.Storage
