import ModuleArchive.Index.Statement
import ModuleArchive.Proofs.Index.Log

/-!
# Writes row by row

Each write is a list of changes to rows: a listing is deleted and put in anew, every record before
the row that refers to it. Made one after the other they come to what the write makes of the index
as a whole, whatever the index holds. So no row is ever refused for its key or for a record that is
missing; the one thing that stops a write is a number that does not fit.
-/
namespace ModuleArchive.Index

/-- The changes to rows that a write consists of. -/
def Write.statements : Write → List Statement
  | replace (.bucket g b) groups time =>
    .deleteBucket g b :: (groups.zipIdx.flatMap fun x =>
      [.putGroup g x.1, .insertGroup g b x.2 x.1.id]) ++ [.putRefresh (.bucket g b) time]
  | replace (.tracks g id) tracks time =>
    .deleteTracks g id :: (tracks.zipIdx.flatMap fun x =>
      [.putTrack x.1, .insertTrack g id x.2 x.1.path]) ++ [.putRefresh (.tracks g id) time]
  | putGroup g group => [.putGroup g group]
  | putTrack g id track => [.putTrack track, .linkTrack g id track.path]

/-! ### Rows behind all others -/

namespace Members

variable {κ μ : Type} {rows : Members κ μ} {owner : κ} {position : Nat}

/-- Whether all rows of a listing stand before a position. -/
def EndsBefore (rows : Members κ μ) (owner : κ) (position : Nat) : Prop :=
  ∀ row ∈ rows, row.owner = owner → row.position < position

lemma EndsBefore.concat (h : rows.EndsBefore owner position) (member : μ) :
    EndsBefore (rows ++ [⟨owner, position, member⟩]) owner (position + 1) := by
  intro row hm ho
  rcases List.mem_append.mp hm with hm | hm
  · exact Nat.lt_succ_of_lt (h row hm ho)
  · obtain rfl := List.mem_singleton.mp hm
    exact Nat.lt_succ_self position

variable [DecidableEq κ]

/-- Nothing is left of a listing that was deleted. -/
lemma endsBefore_filter (rows : Members κ μ) (owner : κ) :
    EndsBefore (rows.filter (·.owner ≠ owner)) owner 0 := by
  intro row hm ho
  exact absurd ho (of_decide_eq_true (List.mem_filter.mp hm).2)

lemma endsBefore_nextPosition (rows : Members κ μ) (owner : κ) :
    rows.EndsBefore owner (rows.nextPosition owner) := by
  have hfold (rows : Members κ μ) (next : Nat) :
      next ≤ rows.foldl (fun next row => max next (row.position + 1)) next ∧
        ∀ row ∈ rows, row.position <
          rows.foldl (fun next row => max next (row.position + 1)) next := by
    induction rows generalizing next with
    | nil => simp
    | cons first rest ih =>
      obtain ⟨hle, hlt⟩ := ih (max next (first.position + 1))
      rw [List.foldl_cons, List.forall_mem_cons]
      exact ⟨by omega, by omega, hlt⟩
  intro row hm ho
  apply (hfold (rows.ofOwner owner) 0).2
  exact List.mem_filter.mpr ⟨hm, decide_eq_true ho⟩

/-- A row behind all others of its listing has a key of its own. -/
lemma EndsBefore.insert_eq (h : rows.EndsBefore owner position) (member : μ) :
    rows.insert ⟨owner, position, member⟩ true = .ok (rows ++ [⟨owner, position, member⟩]) := by
  have hnone : ¬ (rows.any fun other => other.owner = owner ∧ other.position = position) = true := by
    rw [List.any_eq_true]
    rintro ⟨row, hm, hrow⟩
    obtain ⟨ho, hp⟩ := of_decide_eq_true hrow
    have hlt := h row hm ho
    omega
  rw [insert, if_neg hnone]
  rfl

end Members

/-! ### Transactions -/

section Transact

variable {ix : Index} {g : Grouping} {b : Bucket} {id : UInt32} {position : Nat}

lemma transact_cons (statement : Statement) (rest : List Statement) :
    ix.transact (statement :: rest) = (statement.run ix).bind (·.transact rest) := by
  rw [transact, List.foldlM_cons]
  rfl

lemma transact_append (some more : List Statement) :
    ix.transact (some ++ more) = (ix.transact some).bind (·.transact more) := by
  rw [transact, List.foldlM_append]
  rfl

/-- A group is put in behind what a bucket lists, after its record. -/
lemma transact_group (h : ix.bucketGroups.EndsBefore (g, b) position) (group : Group) :
    ix.transact [.putGroup g group, .insertGroup g b position group.id] =
      .ok { ix.writeGroup g group with
        bucketGroups := ix.bucketGroups ++ [⟨(g, b), position, memberOfGroup group⟩] } := by
  have hrecorded : ((ix.writeGroup g group).groups.get? (g, group.id.toNat)).isSome = true := by
    rw [writeGroup, Table.get?_put_self, Option.isSome_some]
  have hrow := h.insert_eq (memberOfGroup group)
  rw [transact_cons, Statement.run, Except.bind, transact_cons, Statement.run, hrecorded]
  rw [show (ix.writeGroup g group).bucketGroups = ix.bucketGroups from rfl]
  rw [show ((group.id.toNat : Nat) : Int) = memberOfGroup group from rfl, hrow]
  rfl

variable (ix) in
lemma transact_groups (h : ix.bucketGroups.EndsBefore (g, b) position) (groups : List Group) :
    ix.transact ((groups.zipIdx position).flatMap fun x =>
      [.putGroup g x.1, .insertGroup g b x.2 x.1.id]) =
    .ok { ix with
      groups := ix.groups.putAll keyOfGroup recordOfGroup (groups.map (g, ·))
      bucketGroups := ix.bucketGroups ++
        Members.number (g, b) position (groups.map memberOfGroup) } := by
  induction groups generalizing ix position with
  | nil =>
    rw [List.map_nil, List.map_nil, Members.number, List.append_nil]
    rfl
  | cons group rest ih =>
    rw [List.zipIdx_cons, List.flatMap_cons, transact_append, transact_group h, Except.bind,
      ih _ (h.concat (memberOfGroup group)), List.append_assoc]
    rfl

/-- A track is put in behind what a group lists, after its record, if it fits. -/
lemma transact_track (h : ix.groupTracks.EndsBefore (g, id) position) (t : Track) :
    ix.transact [.putTrack t, .insertTrack g id position t.path] =
      if Fits t then .ok { ix with
        tracks := ix.tracks.put t.path (recordOfTrack t)
        groupTracks := ix.groupTracks ++ [⟨(g, id), position, t.path⟩] }
      else .error (.unfit (.invalidData "track size")) := by
  rw [transact_cons, Statement.run]
  by_cases ht : Fits t
  · have hrow := h.insert_eq t.path
    rw [writeTrack_of_fits ix ht, if_pos ht, Except.mapError, Except.bind, transact_cons,
      Statement.run, Table.get?_put_self, Option.isSome_some, hrow]
    rfl
  · rw [writeTrack_of_not_fits ix ht, if_neg ht]
    rfl

variable (ix) in
/-- Tracks are put in one by one, until one of them does not fit. -/
lemma transact_tracks (h : ix.groupTracks.EndsBefore (g, id) position) (tracks : List Track) :
    ix.transact ((tracks.zipIdx position).flatMap fun x =>
      [.putTrack x.1, .insertTrack g id x.2 x.1.path]) =
    if ∀ t ∈ tracks, Fits t then
      .ok { ix with
        tracks := ix.tracks.putAll Track.path recordOfTrack tracks
        groupTracks := ix.groupTracks ++
          Members.number (g, id) position (tracks.map Track.path) }
    else .error (.unfit (.invalidData "track size")) := by
  induction tracks generalizing ix position with
  | nil =>
    have hnone : ∀ t ∈ ([] : List Track), Fits t := fun _ hm => absurd hm List.not_mem_nil
    rw [if_pos hnone, List.map_nil, Members.number, List.append_nil]
    rfl
  | cons t rest ih =>
    rw [List.zipIdx_cons, List.flatMap_cons, transact_append, transact_track h]
    by_cases ht : Fits t
    · rw [if_pos ht, Except.bind, ih _ (h.concat t.path), List.append_assoc]
      simp only [List.forall_mem_cons, ht, true_and]
      rfl
    · have hall : ¬ ∀ u ∈ t :: rest, Fits u := fun h => ht (h t List.mem_cons_self)
      rw [if_neg ht, if_neg hall]
      rfl

/-- A track that fits is put in behind what a group lists, after its record, unless it is listed. -/
lemma transact_link (t : Track) :
    ix.transact [.putTrack t, .linkTrack g id t.path] =
      if Fits t then .ok { ix with
        tracks := ix.tracks.put t.path (recordOfTrack t)
        groupTracks := ix.groupTracks.append (g, id) t.path }
      else .error (.unfit (.invalidData "track size")) := by
  rw [transact_cons, Statement.run]
  by_cases ht : Fits t
  · have hrow := (ix.groupTracks.endsBefore_nextPosition (g, id)).insert_eq t.path
    rw [writeTrack_of_fits ix ht, if_pos ht, Except.mapError, Except.bind, transact_cons,
      Statement.run, Table.get?_put_self, Option.isSome_some, Members.append]
    by_cases hm : ((ix.groupTracks.ofOwner (g, id)).any (·.member = t.path)) = true
    · rw [if_pos hm, if_pos hm]
      rfl
    · rw [if_neg hm, if_neg hm, hrow]
      rfl
  · rw [writeTrack_of_not_fits ix ht, if_neg ht]
    rfl

/-- A write is carried out, or refused for a track that does not fit, whatever comes before it. -/
lemma transact_eq (w : Write) (ix : Index) : ix.transact w.statements =
    if ∀ t ∈ w.tracks, Fits t then .ok (w.apply ix)
    else .error (.unfit (.invalidData "track size")) := by
  have hnone : ∀ t ∈ ([] : List Track), Fits t := fun _ hm => absurd hm List.not_mem_nil
  cases w with
  | replace s items time =>
    cases s with
    | bucket g b =>
      have hgroups := transact_groups
        { ix with bucketGroups := ix.bucketGroups.filter (·.owner ≠ (g, b)) }
        (ix.bucketGroups.endsBefore_filter (g, b)) items
      rw [Write.statements, List.cons_append, transact_cons, Statement.run, Except.bind,
        transact_append, hgroups, Write.tracks, if_pos hnone]
      rfl
    | tracks g id =>
      have htracks := transact_tracks
        { ix with groupTracks := ix.groupTracks.filter (·.owner ≠ (g, id)) }
        (ix.groupTracks.endsBefore_filter (g, id)) items
      rw [Write.statements, List.cons_append, transact_cons, Statement.run, Except.bind,
        transact_append, htracks, Write.tracks]
      by_cases h : ∀ t ∈ items, Fits t
      · rw [if_pos h, if_pos h]
        rfl
      · rw [if_neg h, if_neg h]
        rfl
  | putGroup g group => exact (if_pos hnone).symm
  | putTrack g id track =>
    rw [Write.statements, transact_link, Write.tracks]
    simp only [List.forall_mem_singleton]
    rfl

/-- Row by row, a write does what it does as a whole: no key occurs twice and no record is missing. -/
theorem transact_statements (w : Write) (ix : Index) :
    ix.transact w.statements = (w.run ix).mapError .unfit := by
  rw [transact_eq, w.run_eq]
  split
  · rfl
  · rfl

end Transact

end ModuleArchive.Index
