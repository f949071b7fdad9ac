import ModuleArchive.Clock
import ModuleArchive.Record
import ModuleArchive.Index.Table
import ModuleArchive.Text.Decimal
import ModuleArchive.Index.Members

/-!
# The index

The index remembers what the archive has answered: records of groups and tracks, the
listings they occur in, and when each listing was last refreshed. Group records belong to a
grouping; a track record is shared by all listings with its path. Numbers are kept as signed
64-bit integers, so a track size of `2^63` or more cannot be stored, and a number that was
changed from outside may not be readable. Every operation takes place as a whole or fails
and changes nothing.
-/
namespace ModuleArchive

namespace Index

/-- Why the index failed. -/
inductive Error where
  /-- The index cannot be reached. -/
  | database
  /-- A number does not fit its field. -/
  | invalidData (what : String)
deriving Repr, DecidableEq

namespace Error

def message : Error → String
  | database => "database error"
  | invalidData what => "invalid cache data: " ++ what

def isRetryable : Error → Bool
  | database => true
  | invalidData _ => false

end Error

/-- What is kept about a group, besides its number. -/
structure GroupRecord where
  name : String
  tracks : Int
deriving Repr, DecidableEq

/-- What is kept about a track, besides its path. -/
structure TrackRecord where
  filename : String
  size : Int
deriving Repr, DecidableEq

end Index

/-- What is remembered about the archive. -/
structure Index where
  groups : Index.Table (Grouping × Int) Index.GroupRecord := {}
  tracks : Index.Table String Index.TrackRecord := {}
  bucketGroups : Index.Members (Grouping × Bucket) Int := []
  groupTracks : Index.Members (Grouping × UInt32) String := []
  /-- The second of the last refresh, by the key of the scope. -/
  refreshes : Index.Table String Int := {}
deriving Repr

namespace Index

/-! ### Records and their stored form -/

def GroupRecord.ofGroup (g : Group) : GroupRecord := ⟨g.name, g.tracks.toNat⟩

/-- The word that a stored number stands for. -/
def word? (n : Int) : Option UInt32 :=
  if 0 ≤ n ∧ n < UInt32.size then some (UInt32.ofNat n.toNat) else none

def GroupRecord.toGroup (id : Int) (r : GroupRecord) : Except Error Group :=
  match word? id, word? r.tracks with
  | none, _ => .error (.invalidData "group id")
  | some _, none => .error (.invalidData "track count")
  | some id, some tracks => .ok ⟨id, r.name, tracks⟩

/-- The record of a track, if its size can be stored. -/
def TrackRecord.ofTrack (t : Track) : Except Error TrackRecord :=
  if t.size.toNat < Decimal.signedBound then .ok ⟨t.filename, t.size.toNat⟩
  else .error (.invalidData "track size")

def TrackRecord.toTrack (path : String) (r : TrackRecord) : Except Error Track :=
  if 0 ≤ r.size then .ok ⟨path, r.filename, UInt64.ofNat r.size.toNat⟩
  else .error (.invalidData "track size")

/-! ### Refresh times -/

/-- When a set was last refreshed. -/
def refreshedAt (ix : Index) (s : Scope) : Except Error (Option Instant) :=
  match ix.refreshes.get? s.key with
  | none => .ok none
  | some seconds =>
    match Instant.ofSeconds? seconds with
    | some t => .ok (some t)
    | none => .error (.invalidData "refresh time")

def markRefreshed (ix : Index) (s : Scope) (time : Instant) : Index :=
  { ix with refreshes := ix.refreshes.put s.key time.seconds }

/-! ### Groups -/

def writeGroup (g : Grouping) (ix : Index) (group : Group) : Index :=
  { ix with groups := ix.groups.put (g, group.id.toNat) (.ofGroup group) }

/-- The number under which a group is listed. -/
def memberOfGroup (group : Group) : Int := group.id.toNat

def replaceBucket (ix : Index) (g : Grouping) (b : Bucket) (groups : List Group)
    (time : Instant) : Index :=
  let ix := groups.foldl (writeGroup g) ix
  { ix with
    bucketGroups := ix.bucketGroups.replace (g, b) (groups.map memberOfGroup) }
    |>.markRefreshed (.bucket g b) time

def bucketRecords (ix : Index) (g : Grouping) (b : Bucket) : List (Int × GroupRecord) :=
  (ix.bucketGroups.list (g, b)).filterMap fun id => (ix.groups.get? (g, id)).map (id, ·)

def listBucket (ix : Index) (g : Grouping) (b : Bucket) : Except Error (List Group) :=
  (ix.bucketRecords g b).mapM fun (id, r) => r.toGroup id

def getGroup (ix : Index) (g : Grouping) (id : UInt32) : Except Error (Option Group) :=
  match ix.groups.get? (g, id.toNat) with
  | none => .ok none
  | some r => (r.toGroup id.toNat).map some

/-- Record a single group. -/
def putGroup (ix : Index) (g : Grouping) (group : Group) : Index := ix.writeGroup g group

/-! ### Tracks -/

def writeTrack (ix : Index) (t : Track) : Except Error Index :=
  (TrackRecord.ofTrack t).map fun r => { ix with tracks := ix.tracks.put t.path r }

def replaceTracks (ix : Index) (g : Grouping) (id : UInt32) (tracks : List Track)
    (time : Instant) : Except Error Index :=
  (tracks.foldlM writeTrack ix).map fun ix =>
    { ix with groupTracks := ix.groupTracks.replace (g, id) (tracks.map Track.path) }
      |>.markRefreshed (.tracks g id) time

/-- The stored records of a group's tracks, in order. -/
def trackRecords (ix : Index) (g : Grouping) (id : UInt32) : List (String × TrackRecord) :=
  (ix.groupTracks.list (g, id)).filterMap fun path => (ix.tracks.get? path).map (path, ·)

def listTracks (ix : Index) (g : Grouping) (id : UInt32) : Except Error (List Track) :=
  (ix.trackRecords g id).mapM fun (path, r) => r.toTrack path

def findTrack (ix : Index) (g : Grouping) (id : UInt32) (filename : String) :
    Except Error (Option Track) :=
  match (ix.trackRecords g id).find? (·.2.filename = filename) with
  | none => .ok none
  | some (path, r) => (r.toTrack path).map some

/-- Record a single track of a group. It is listed behind the tracks that are known. -/
def putTrack (ix : Index) (g : Grouping) (id : UInt32) (t : Track) : Except Error Index :=
  (ix.writeTrack t).map fun ix =>
    { ix with groupTracks := ix.groupTracks.append (g, id) t.path }

/-! ### Sets of either kind -/

def list (ix : Index) : (s : Scope) → Except Error (List s.Item)
  | .bucket g b => ix.listBucket g b
  | .tracks g id => ix.listTracks g id

/-- Replace a set and note the time of its refresh. -/
def replace (ix : Index) : (s : Scope) → List s.Item → Instant → Except Error Index
  | .bucket g b, groups, time => .ok (ix.replaceBucket g b groups time)
  | .tracks g id, tracks, time => ix.replaceTracks g id tracks time

/-! ### Statistics -/

/-- The number of rows of each table, by name. -/
def statistics (ix : Index) : List (String × Nat) :=
  [("bucket_groups", ix.bucketGroups.length), ("group_tracks", ix.groupTracks.length),
    ("groups", ix.groups.size), ("refreshes", ix.refreshes.size), ("tracks", ix.tracks.size)]

end Index

end ModuleArchive
