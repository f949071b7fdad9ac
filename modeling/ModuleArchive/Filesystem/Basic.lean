import ModuleArchive.Catalog.Basic
import ModuleArchive.Filesystem.Node
import ModuleArchive.Url.Parser

/-!
# The archive as a file system

Identifiers are resolved to nodes, directories list their children, and files have content.
Nothing of the tree is kept: the way up is computed from a node's location, and only groups
and tracks are looked up in the catalog.
-/
namespace ModuleArchive

/-- A tree of nodes over a catalog. -/
structure Filesystem (σ : Type) where
  /-- The scheme of the identifiers. -/
  scheme : String
  catalog : Catalog σ
  /-- The host of the files that can be addressed by their URL. -/
  storage : Url

namespace Filesystem

variable {σ α : Type}

abbrev Action (σ α : Type) := σ → Except Error α × σ

/-- An operation of the catalog, as a part of one on the tree. -/
def consult (act : ModuleArchive.Action σ α) : Action σ α := fun w =>
  let (answer, w) := act w
  (answer.mapError .catalog, w)

/-- The identifier of a location. -/
def encode (f : Filesystem σ) (l : Location) : Except Error String := encodeLocation f.scheme l

/-- The identifier of a node, which resolves to it again. -/
def identifier (f : Filesystem σ) : Node → Except Error String
  | .detached url _ => .ok url.print
  | n => f.encode (n.location?.getD .root)

/-- The directory on the storage host below which all files are. -/
def storageDirectory : List Char := "/pub/".toList

/-- The file that a URL on the storage host addresses. -/
def detached? (f : Filesystem σ) (identifier : String) : Option Node := do
  let url ← Url.parse? identifier
  if !url.isWeb || url.hostText? ≠ f.storage.hostText? ||
      !storageDirectory.isPrefixOf url.pathText then none
  else
    let path ← Utf8.decode? (Percent.decodeText url.pathText)
    if path.getLast? = some '/' then none
    else return .detached url (Track.ofPath (String.ofList path) 0)

def resolveLocation (f : Filesystem σ) : Location → Action σ (Option Node)
  | .root, w => (.ok (some .root), w)
  | .category g, w => (.ok (some (.category g)), w)
  | .bucket g b, w => (.ok (some (.bucket g b)), w)
  | .group g b r, w =>
    match consult (f.catalog.group g r.id) w with
    | (.error cause, w) => (.error cause, w)
    | (.ok group, w) => (.ok (group.map (.group g b)), w)
  | .track g b r filename, w =>
    match consult (f.catalog.group g r.id) w with
    | (.error cause, w) => (.error cause, w)
    | (.ok none, w) => (.ok none, w)
    | (.ok (some group), w) =>
      match consult (f.catalog.track g group.id filename) w with
      | (.error cause, w) => (.error cause, w)
      | (.ok track, w) => (.ok (track.map (.track g b group.toRef)), w)

/-- The node with an identifier. One that is not built as expected names nothing. -/
def resolve (f : Filesystem σ) (identifier : String) : Action σ (Option Node) := fun w =>
  match f.detached? identifier with
  | some n => (.ok (some n), w)
  | none =>
    match Location.decode f.scheme identifier with
    | .ok l => f.resolveLocation l w
    | .error _ => (.ok none, w)

/-- The directory that a node is in. The root and detached files are in none. -/
def parent (f : Filesystem σ) (n : Node) : Action σ (Option Node) := fun w =>
  match n.location?.bind Location.parent? with
  | none => (.ok none, w)
  | some l => f.resolveLocation l w

/-- The directories above a node, the nearest one first, but at most `steps` of them. -/
def ancestorsWithin (f : Filesystem σ) : Nat → Node → Action σ (List Node)
  | 0, _, w => (.ok [], w)
  | steps + 1, n, w =>
    match f.parent n w with
    | (.error cause, w) => (.error cause, w)
    | (.ok none, w) => (.ok [], w)
    | (.ok (some parent), w) =>
      let (rest, w) := ancestorsWithin f steps parent w
      (rest.map (parent :: ·), w)

/-- The directories above a node, the nearest one first. -/
def ancestors (f : Filesystem σ) (n : Node) : Action σ (List Node) :=
  f.ancestorsWithin Location.maxDepth n

def children? (f : Filesystem σ) : Node → Option (Listing σ Node)
  | .root => some (.ofItems (Grouping.all.map .category))
  | .category g => some (.ofItems (Bucket.all.map (.bucket g)))
  | .bucket g b => some ((f.catalog.listing (.bucket g b)).map (.group g b))
  | .group g b group =>
    some ((f.catalog.listing (.tracks g group.id)).map (.track g b group.toRef))
  | .track _ _ _ _ | .detached _ _ => none

def content (f : Filesystem σ) (n : Node) : Action σ Content := fun w =>
  match n.track? with
  | none => (.error (.notAFile n.name), w)
  | some track => consult (f.catalog.content track.path) w

end Filesystem

end ModuleArchive
