import ModuleArchive.Index.Basic

/-!
# The repository

An index that can be closed and opened again. While it is closed every operation fails. An
index in memory is lost when it is closed, one on disk is kept.
-/
namespace ModuleArchive

/-- An index behind a connection. -/
structure Repository where
  index : Index := {}
  isOpen : Bool := true
  /-- Whether the index outlives the connection. -/
  isPersistent : Bool := false

namespace Repository

def query {α : Type} (r : Repository) (read : Index → Except Index.Error α) :
    Except Index.Error α :=
  if r.isOpen then read r.index else .error .database

/-- Change the index. A failed change leaves it as it was. -/
def update (r : Repository) (write : Index → Except Index.Error Index) :
    Except Index.Error Unit × Repository :=
  if r.isOpen then
    match write r.index with
    | .ok index => (.ok (), { r with index })
    | .error e => (.error e, r)
  else (.error .database, r)

def close (r : Repository) : Repository := { r with isOpen := false }

def reopen (r : Repository) : Repository :=
  { r with isOpen := true, index := if r.isPersistent then r.index else {} }

end Repository

/-! ### Changes from outside -/

namespace Index

/-- A stored number that another program may overwrite. -/
inductive Cell where
  | refresh (scope : Scope)
  | groupTracks (grouping : Grouping) (id : UInt32)
  | trackSize (path : String)
  /-- A group that is added under the number written. -/
  | groupId (grouping : Grouping)
deriving Repr, DecidableEq

/-- The index after a stored number has been overwritten, and how many records changed. -/
def overwrite (ix : Index) (value : Int) : Cell → Nat × Index
  | .refresh s =>
    match ix.refreshes.get? s.key with
    | some _ => (1, { ix with refreshes := ix.refreshes.put s.key value })
    | none => (0, ix)
  | .groupTracks g id =>
    match ix.groups.get? (g, id.toNat) with
    | some r => (1, { ix with groups := ix.groups.put (g, id.toNat) { r with tracks := value } })
    | none => (0, ix)
  | .trackSize path =>
    match ix.tracks.get? path with
    | some r => (1, { ix with tracks := ix.tracks.put path { r with size := value } })
    | none => (0, ix)
  | .groupId g => (1, { ix with groups := ix.groups.put (g, value) ⟨"x", 0⟩ })

end Index

end ModuleArchive
