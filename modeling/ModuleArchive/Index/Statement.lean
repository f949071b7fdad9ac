import ModuleArchive.Index.Basic

/-!
# Rows and their keys

A change to the index is made row by row. A row that is put in must not have the key of another row
of its table, and what it refers to must have a record. A record takes the place of the one that has
its key. If a row is refused, so is the whole change.
-/
namespace ModuleArchive.Index

/-- Why a row is refused. -/
inductive Refusal where
  /-- Another row of the table has the same key. -/
  | duplicateKey
  /-- There is no record of what the row refers to. -/
  | missingRecord
  /-- A number does not fit its field. -/
  | unfit (cause : Error)
deriving Repr, DecidableEq

/-- The rows of all listings with a row put in. Its key is its owner and its position. -/
def Members.insert {κ μ : Type} [DecidableEq κ] (rows : Members κ μ) (row : Membership κ μ)
    (isRecorded : Bool) : Except Refusal (Members κ μ) :=
  if rows.any fun other => other.owner = row.owner ∧ other.position = row.position then
    .error .duplicateKey
  else if isRecorded then .ok (rows ++ [row]) else .error .missingRecord

/-- A change to the rows of one table. -/
inductive Statement where
  | putGroup (g : Grouping) (group : Group)
  | deleteBucket (g : Grouping) (b : Bucket)
  | insertGroup (g : Grouping) (b : Bucket) (position : Nat) (id : UInt32)
  | putTrack (t : Track)
  | deleteTracks (g : Grouping) (id : UInt32)
  | insertTrack (g : Grouping) (id : UInt32) (position : Nat) (path : String)
  /-- Put in a row behind all others of the group, unless the path has a row there. -/
  | linkTrack (g : Grouping) (id : UInt32) (path : String)
  | putRefresh (s : Scope) (time : Instant)

/-- The index after a change to its rows. -/
def Statement.run (ix : Index) : Statement → Except Refusal Index
  | putGroup g group => .ok (ix.writeGroup g group)
  | deleteBucket g b =>
    .ok { ix with bucketGroups := ix.bucketGroups.filter (·.owner ≠ (g, b)) }
  | insertGroup g b position id =>
    (ix.bucketGroups.insert ⟨(g, b), position, id.toNat⟩
      (ix.groups.get? (g, id.toNat)).isSome).map fun rows => { ix with bucketGroups := rows }
  | putTrack t => (ix.writeTrack t).mapError .unfit
  | deleteTracks g id =>
    .ok { ix with groupTracks := ix.groupTracks.filter (·.owner ≠ (g, id)) }
  | insertTrack g id position path =>
    (ix.groupTracks.insert ⟨(g, id), position, path⟩ (ix.tracks.get? path).isSome).map fun rows =>
      { ix with groupTracks := rows }
  | linkTrack g id path =>
    if (ix.groupTracks.ofOwner (g, id)).any (·.member = path) then .ok ix
    else
      (ix.groupTracks.insert ⟨(g, id), ix.groupTracks.nextPosition (g, id), path⟩
        (ix.tracks.get? path).isSome).map fun rows => { ix with groupTracks := rows }
  | putRefresh s time => .ok (ix.markRefreshed s time)

/-- The index after some changes in turn, if none of them is refused. -/
def transact (ix : Index) (statements : List Statement) : Except Refusal Index :=
  statements.foldlM Statement.run ix

end ModuleArchive.Index
