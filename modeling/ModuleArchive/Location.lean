import ModuleArchive.Grouping
import ModuleArchive.Bucket

/-!
# Locations

A location is a place in the tree of the archive: the root, a category, a letter bucket, a
group or a track. Nothing of the tree is stored; the way up is computed from the location.
-/
namespace ModuleArchive

/-- A group as an identifier names it. Only the number counts when it is looked up. -/
structure GroupRef where
  id : UInt32
  name : String
deriving Repr, DecidableEq

/-- A place in the tree of the archive. -/
inductive Location where
  | root
  | category (grouping : Grouping)
  | bucket (grouping : Grouping) (bucket : Bucket)
  | group (grouping : Grouping) (bucket : Bucket) (group : GroupRef)
  | track (grouping : Grouping) (bucket : Bucket) (group : GroupRef) (filename : String)
deriving Repr, DecidableEq

namespace Location

def depth : Location → Nat
  | root => 0
  | category _ => 1
  | bucket _ _ => 2
  | group _ _ _ => 3
  | track _ _ _ _ => 4

def grouping? : Location → Option Grouping
  | root => none
  | category g | bucket g _ | group g _ _ | track g _ _ _ => some g

/-- The location one step up. -/
def parent? : Location → Option Location
  | root => none
  | category _ => some root
  | bucket g _ => some (category g)
  | group g b _ => some (bucket g b)
  | track g b r _ => some (group g b r)

/-- The locations above a location, the nearest one first. -/
def ancestors : Location → List Location
  | root => []
  | category _ => [root]
  | bucket g _ => [category g, root]
  | group g b _ => [bucket g b, category g, root]
  | track g b r _ => [group g b r, bucket g b, category g, root]

/-- The group that a location lies in or is. -/
def groupRef? : Location → Option GroupRef
  | group _ _ r | track _ _ r _ => some r
  | _ => none

/-- The path from the root, one name per step. -/
def segments : Location → List String
  | root => []
  | category g => [g.path]
  | bucket g b => [g.path, b.text]
  | group g b r => [g.path, b.text, r.name]
  | track g b r f => [g.path, b.text, r.name, f]

theorem length_segments (l : Location) : l.segments.length = l.depth := by cases l <;> rfl

theorem depth_parent {l p : Location} (h : l.parent? = some p) : l.depth = p.depth + 1 := by
  cases l <;> simp_all [parent?] <;> subst h <;> rfl

theorem ancestors_eq (l : Location) :
    l.ancestors = match l.parent? with
      | none => []
      | some p => p :: p.ancestors := by cases l <;> rfl

end Location

end ModuleArchive
