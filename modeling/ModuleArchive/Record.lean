import ModuleArchive.Grouping
import ModuleArchive.Bucket
import ModuleArchive.Text.Split

/-!
# Groups, tracks and the sets they are listed in

A group is a named set of tracks; its number means something within one grouping only. A
track is a module file, known by its path on the storage host. Records are listed in sets:
the groups of a letter bucket and the tracks of a group.
-/
namespace ModuleArchive

/-- A named set of tracks within one grouping. -/
structure Group where
  id : UInt32
  name : String
  /-- How many tracks the group is said to have; it may be out of date. -/
  tracks : UInt32
deriving Repr, DecidableEq

/-- The number of tracks in words. -/
def Group.description (g : Group) : String :=
  if g.tracks = 1 then "1 track" else s!"{g.tracks.toNat} tracks"

/-- A module file that can be downloaded. -/
structure Track where
  /-- The path on the storage host, decoded, from the root. -/
  path : String
  filename : String
  /-- Size in bytes. -/
  size : UInt64
deriving Repr, DecidableEq

/-- The track at a path, whose file name is the last segment of the path. -/
def Track.ofPath (path : String) (size : UInt64) : Track :=
  ⟨path, String.ofList (Text.lastPiece '/' path.toList), size⟩

/-- A set of records that is listed and refreshed as a whole. -/
inductive Scope where
  /-- The groups filed under a letter. -/
  | bucket (grouping : Grouping) (bucket : Bucket)
  /-- The tracks of a group. -/
  | tracks (grouping : Grouping) (group : UInt32)
deriving Repr, DecidableEq

namespace Scope

/-- What a set consists of. -/
abbrev Item : Scope → Type
  | bucket _ _ => Group
  | tracks _ _ => Track

def grouping : Scope → Grouping
  | bucket g _ => g
  | tracks g _ => g

/-- The name under which the time of the last refresh of a set is filed. -/
def key : Scope → String
  | bucket g b => g.key ++ "/bucket/" ++ b.text
  | tracks g id => g.key ++ "/tracks/" ++ toString id.toNat

end Scope

end ModuleArchive
