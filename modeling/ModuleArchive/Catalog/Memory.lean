import ModuleArchive.Catalog.Basic

/-!
# A catalog in memory

Groups, tracks and contents that were put in beforehand. Every operation counts as a call,
and the catalog can be told to refuse all of them.
-/
namespace ModuleArchive

/-- An archive held in memory. -/
structure MemoryCatalog where
  groups : List (Grouping × Group) := []
  tracks : List ((Grouping × UInt32) × List Track) := []
  contents : List (String × Bytes) := []
  /-- How many operations were started. -/
  calls : Nat := 0
  /-- How many contents were delivered. -/
  fetches : Nat := 0
  /-- Whether every operation is refused. -/
  isFailing : Bool := false

namespace MemoryCatalog

/-- The bytes stored for a path. -/
def content? (m : MemoryCatalog) (path : String) : Option Bytes :=
  (m.contents.find? (·.1 = path)).map (·.2)

def withContent (m : MemoryCatalog) (path : String) (data : Bytes) : MemoryCatalog :=
  { m with contents := (path, data) :: m.contents.filter (·.1 ≠ path) }

/-- The catalog with a group added. A track without content gets its file name as content. -/
def withGroup (m : MemoryCatalog) (g : Grouping) (group : Group) (tracks : List Track) :
    MemoryCatalog :=
  let m := tracks.foldl
    (fun m t => if (m.content? t.path).isSome then m
      else m.withContent t.path (Utf8.encode t.filename.toList)) m
  { m with
    groups := m.groups ++ [(g, group)]
    tracks := ((g, group.id), tracks) :: m.tracks.filter (·.1 ≠ (g, group.id)) }

def groupsOf (m : MemoryCatalog) (g : Grouping) : List Group :=
  (m.groups.filter (·.1 = g)).map (·.2)

def tracksOf? (m : MemoryCatalog) (g : Grouping) (id : UInt32) : Option (List Track) :=
  (m.tracks.find? (·.1 = (g, id))).map (·.2)

/-- The catalog after a call has been counted. -/
def count (m : MemoryCatalog) : MemoryCatalog := { m with calls := m.calls + 1 }

/-- The records of a set. A group that is not known has neither tracks nor a hint. -/
def listing : (s : Scope) → Listing MemoryCatalog s.Item
  | .bucket g b => .work count fun m =>
    if m.isFailing then .failed .unavailable
    else .ofItems ((m.groupsOf g).filter (b.contains ·.name))
  | .tracks g id => .work count fun m =>
    if m.isFailing then .failed .unavailable
    else
      match m.tracksOf? g id with
      | none => .finished
      | some tracks => .ofItems tracks

/-- An operation that is counted, and refused by a failing catalog. -/
def enter {α : Type} (act : Action MemoryCatalog α) : Action MemoryCatalog α := fun m =>
  if m.isFailing then (.error .unavailable, m.count) else act m.count

def catalog : Catalog MemoryCatalog where
  listing := listing
  group g id := enter fun m => (.ok ((m.groupsOf g).find? (·.id = id)), m)
  track := Catalog.scan listing
  content path := enter fun m =>
    match m.content? path with
    | none => (.error (.transport ("no content at " ++ path)), m)
    | some data => (.ok ⟨data, false⟩, { m with fetches := m.fetches + 1 })

end MemoryCatalog

end ModuleArchive
