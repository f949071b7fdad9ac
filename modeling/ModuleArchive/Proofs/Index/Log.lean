import ModuleArchive.Index.Basic
import ModuleArchive.Proofs.Index.Members
import ModuleArchive.Proofs.Index.Table
import ModuleArchive.Proofs.Scope
import Mathlib.Data.List.Induction

/-!
# The index as a log

A write either holds a track that is too large to be stored, and then fails, or changes the
index in a way that does not depend on what the index holds elsewhere. So an index that starts
empty is given by the list of the writes that succeeded: which records it has, which set was
stored last in each scope and when, and which tracks were recorded since.
-/
namespace ModuleArchive.Index

/-- A change to the index. -/
inductive Write where
  | replace (s : Scope) (items : List s.Item) (time : Instant)
  | putGroup (g : Grouping) (group : Group)
  | putTrack (g : Grouping) (id : UInt32) (track : Track)

/-- Whether the size of a track can be stored. -/
def Fits (t : Track) : Prop := t.size.toNat < Decimal.signedBound

instance (t : Track) : Decidable (Fits t) := inferInstanceAs (Decidable (_ < _))

/-- The record of a track whose size can be stored. -/
def recordOfTrack (t : Track) : TrackRecord := ⟨t.filename, t.size.toNat⟩

def keyOfGroup (x : Grouping × Group) : Grouping × Int := (x.1, memberOfGroup x.2)

def recordOfGroup (x : Grouping × Group) : GroupRecord := .ofGroup x.2

namespace Write

/-- What becomes of an index. -/
def run (ix : Index) : Write → Except Error Index
  | replace s items time => ix.replace s items time
  | putGroup g group => .ok (ix.putGroup g group)
  | putTrack g id track => ix.putTrack g id track

def groups : Write → List (Grouping × Group)
  | replace (.bucket g _) groups _ => groups.map (g, ·)
  | putGroup g group => [(g, group)]
  | replace (.tracks _ _) _ _ | putTrack _ _ _ => []

def tracks : Write → List Track
  | replace (.tracks _ _) tracks _ => tracks
  | putTrack _ _ track => [track]
  | replace (.bucket _ _) _ _ | putGroup _ _ => []

def bucketGroups (rows : Members (Grouping × Bucket) Int) :
    Write → Members (Grouping × Bucket) Int
  | replace (.bucket g b) groups _ => rows.replace (g, b) (groups.map memberOfGroup)
  | replace (.tracks _ _) _ _ | putGroup _ _ | putTrack _ _ _ => rows

def groupTracks (rows : Members (Grouping × UInt32) String) :
    Write → Members (Grouping × UInt32) String
  | replace (.tracks g id) tracks _ => rows.replace (g, id) (tracks.map Track.path)
  | putTrack g id track => rows.append (g, id) track.path
  | replace (.bucket _ _) _ _ | putGroup _ _ => rows

def refreshes (times : Table String Int) : Write → Table String Int
  | replace s _ time => times.put s.key time.seconds
  | putGroup _ _ | putTrack _ _ _ => times

/-- The index after a write whose tracks can be stored. -/
def apply (ix : Index) (w : Write) : Index where
  groups := ix.groups.putAll keyOfGroup recordOfGroup w.groups
  tracks := ix.tracks.putAll Track.path recordOfTrack w.tracks
  bucketGroups := w.bucketGroups ix.bucketGroups
  groupTracks := w.groupTracks ix.groupTracks
  refreshes := w.refreshes ix.refreshes

end Write

lemma foldl_writeGroup (g : Grouping) (groups : List Group) (ix : Index) :
    groups.foldl (writeGroup g) ix =
      { ix with groups := ix.groups.putAll keyOfGroup recordOfGroup (groups.map (g, ·)) } := by
  induction groups generalizing ix with
  | nil => rfl
  | cons group rest ih =>
    rw [List.foldl_cons, ih]
    rfl

lemma ofTrack_of_fits {t : Track} (h : Fits t) : TrackRecord.ofTrack t = .ok (recordOfTrack t) :=
  if_pos h

lemma writeTrack_of_fits (ix : Index) {t : Track} (h : Fits t) :
    ix.writeTrack t = .ok { ix with tracks := ix.tracks.put t.path (recordOfTrack t) } := by
  rw [writeTrack, ofTrack_of_fits h]
  rfl

lemma writeTrack_of_not_fits (ix : Index) {t : Track} (h : ¬ Fits t) :
    ix.writeTrack t = .error (.invalidData "track size") := by
  have hr : TrackRecord.ofTrack t = .error (.invalidData "track size") := if_neg h
  rw [writeTrack, hr]
  rfl

/-- The tracks of a listing are written as a whole or not at all. -/
lemma foldlM_writeTrack (tracks : List Track) (ix : Index) :
    tracks.foldlM writeTrack ix =
      if ∀ t ∈ tracks, Fits t then
        .ok { ix with tracks := ix.tracks.putAll Track.path recordOfTrack tracks }
      else .error (.invalidData "track size") := by
  induction tracks generalizing ix with
  | nil => simp [pure, Except.pure, Table.putAll]
  | cons t rest ih =>
    rw [List.foldlM_cons]
    by_cases ht : Fits t
    · rw [writeTrack_of_fits ix ht]
      simp only [bind, Except.bind, ih, List.forall_mem_cons, ht, true_and]
      rfl
    · have hall : ¬ ∀ u ∈ t :: rest, Fits u := fun h => ht (h t List.mem_cons_self)
      rw [writeTrack_of_not_fits ix ht, if_neg hall]
      rfl

/-- A write takes place as a whole unless one of its tracks is too large. -/
theorem Write.run_eq (w : Write) (ix : Index) :
    w.run ix = if ∀ t ∈ w.tracks, Fits t then .ok (w.apply ix)
      else .error (.invalidData "track size") := by
  cases w with
  | replace s items time =>
    cases s with
    | bucket g b =>
      simp only [Write.run, Index.replace, replaceBucket, foldl_writeGroup, Write.tracks,
        List.not_mem_nil, false_imp_iff, implies_true, if_true]
      rfl
    | tracks g id =>
      have hfold := foldlM_writeTrack items ix
      rw [Write.run, Index.replace, replaceTracks, hfold]
      by_cases hall : ∀ t ∈ (Write.replace (.tracks g id) items time).tracks, Fits t
      · rw [if_pos hall, if_pos (show ∀ t ∈ items, Fits t from hall)]
        rfl
      · rw [if_neg hall, if_neg (show ¬ ∀ t ∈ items, Fits t from hall)]
        rfl
  | putGroup g group => simp [Write.run, Write.tracks]; rfl
  | putTrack g id track =>
    simp only [Write.run, Index.putTrack, Write.tracks, List.forall_mem_singleton]
    by_cases ht : Fits track
    · rw [writeTrack_of_fits ix ht, if_pos ht]
      rfl
    · rw [writeTrack_of_not_fits ix ht, if_neg ht]
      rfl

/-! ### Indexes that started empty -/

/-- What some writes, oldest first, make of the empty index. -/
def ofWrites (ws : List Write) : Index := ws.foldl Write.apply {}

@[simp] lemma ofWrites_concat (ws : List Write) (w : Write) :
    ofWrites (ws ++ [w]) = w.apply (ofWrites ws) := by
  rw [ofWrites, List.foldl_append, List.foldl_cons, List.foldl_nil, ofWrites]

lemma groups_ofWrites (ws : List Write) : (ofWrites ws).groups =
    Table.putAll keyOfGroup recordOfGroup {} (ws.flatMap Write.groups) := by
  induction ws using List.reverseRecOn with
  | nil => rfl
  | append_singleton ws w ih =>
    rw [ofWrites_concat, List.flatMap_append, List.flatMap_singleton, Table.putAll_append, ← ih]
    rfl

lemma tracks_ofWrites (ws : List Write) : (ofWrites ws).tracks =
    Table.putAll Track.path recordOfTrack {} (ws.flatMap Write.tracks) := by
  induction ws using List.reverseRecOn with
  | nil => rfl
  | append_singleton ws w ih =>
    rw [ofWrites_concat, List.flatMap_append, List.flatMap_singleton, Table.putAll_append, ← ih]
    rfl

/-- Every write numbers the rows of a bucket anew or leaves them as they are. -/
lemma Write.numbered_bucketGroups {rows : Members (Grouping × Bucket) Int} (h : rows.Numbered)
    (w : Write) : (w.bucketGroups rows).Numbered := by
  cases w with
  | replace s items time =>
    cases s with
    | bucket g b => exact h.replace _ _
    | tracks g id => exact h
  | putGroup g group => exact h
  | putTrack g id track => exact h

/-- Every write numbers the rows of a group anew or adds one behind them. -/
lemma Write.numbered_groupTracks {rows : Members (Grouping × UInt32) String} (h : rows.Numbered)
    (w : Write) : (w.groupTracks rows).Numbered := by
  cases w with
  | replace s items time =>
    cases s with
    | bucket g b => exact h
    | tracks g id => exact h.replace _ _
  | putGroup g group => exact h
  | putTrack g id track => exact h.append _ _

lemma numbered_ofWrites (ws : List Write) :
    (ofWrites ws).bucketGroups.Numbered ∧ (ofWrites ws).groupTracks.Numbered := by
  induction ws using List.reverseRecOn with
  | nil => exact ⟨Members.numbered_nil, Members.numbered_nil⟩
  | append_singleton ws w ih =>
    rw [ofWrites_concat]
    exact ⟨w.numbered_bucketGroups ih.1, w.numbered_groupTracks ih.2⟩

/-! ### What is listed -/

/-- What a record is listed as: the number of a group or the path of a track. -/
abbrev Name : Scope → Type
  | .bucket _ _ => Int
  | .tracks _ _ => String

instance : (s : Scope) → DecidableEq (Name s)
  | .bucket _ _ => inferInstanceAs (DecidableEq Int)
  | .tracks _ _ => inferInstanceAs (DecidableEq String)

def nameOf : (s : Scope) → s.Item → Name s
  | .bucket _ _ => memberOfGroup
  | .tracks _ _ => Track.path

/-- The names that a set lists, in order. -/
def names (ix : Index) : (s : Scope) → List (Name s)
  | .bucket g b => ix.bucketGroups.list (g, b)
  | .tracks g id => ix.groupTracks.list (g, id)

/-- A listing extended by names that it may have already. -/
def extend {α : Type} [DecidableEq α] (listed more : List α) : List α :=
  more.foldl (fun listed name => if name ∈ listed then listed else listed ++ [name]) listed

/-- The name that a write adds to a set without replacing it. -/
def Write.added (s : Scope) : Write → Option (Name s)
  | putTrack g id track =>
    match s with
    | .tracks g' id' => if g = g' ∧ id = id' then some track.path else none
    | .bucket _ _ => none
  | replace _ _ _ | putGroup _ _ => none

lemma added_bucket (g : Grouping) (b : Bucket) (ws : List Write) :
    ws.filterMap (Write.added (.bucket g b)) = [] := by
  rw [List.filterMap_eq_nil_iff]
  intro w _
  cases w <;> rfl

/-- Whether none of the writes replaces a set. -/
def Keeps (s : Scope) (ws : List Write) : Prop := ∀ items time, Write.replace s items time ∉ ws

lemma keeps_nil (s : Scope) : Keeps s [] := fun _ _ => List.not_mem_nil

lemma keeps_concat {s : Scope} {ws : List Write} {w : Write} :
    Keeps s (ws ++ [w]) ↔ Keeps s ws ∧ ∀ items time, Write.replace s items time ≠ w := by
  simp only [Keeps, List.mem_append, List.mem_singleton, not_or, ne_eq, forall_and]

lemma names_replace (ws : List Write) (s : Scope) (items : List s.Item) (time : Instant) :
    (ofWrites (ws ++ [.replace s items time])).names s = items.map (nameOf s) := by
  rw [ofWrites_concat]
  cases s with
  | bucket g b => exact Members.list_replace_self (ofWrites ws).bucketGroups (g, b) _
  | tracks g id => exact Members.list_replace_self (ofWrites ws).groupTracks (g, id) _

@[simp] lemma extend_nil {α : Type} [DecidableEq α] (listed : List α) : extend listed [] = listed :=
  rfl

lemma extend_append {α : Type} [DecidableEq α] (listed a b : List α) :
    extend listed (a ++ b) = extend (extend listed a) b := List.foldl_append ..

lemma names_replace_of_ne (ws : List Write) {s s' : Scope} (h : s' ≠ s) (items : List s'.Item)
    (time : Instant) :
    ((Write.replace s' items time).apply (ofWrites ws)).names s = (ofWrites ws).names s := by
  cases s' with
  | bucket g' b' =>
    cases s with
    | bucket g b =>
      have hne : (g', b') ≠ (g, b) := by
        intro heq
        rw [Prod.mk.injEq] at heq
        exact h (by rw [heq.1, heq.2])
      exact Members.list_replace_of_ne (ofWrites ws).bucketGroups hne _
    | tracks g id => rfl
  | tracks g' id' =>
    cases s with
    | bucket g b => rfl
    | tracks g id =>
      have hne : (g', id') ≠ (g, id) := by
        intro heq
        rw [Prod.mk.injEq] at heq
        exact h (by rw [heq.1, heq.2])
      exact Members.list_replace_of_ne (ofWrites ws).groupTracks hne _

lemma names_putTrack (ws : List Write) (s : Scope) (g : Grouping) (id : UInt32) (track : Track) :
    ((Write.putTrack g id track).apply (ofWrites ws)).names s =
      extend ((ofWrites ws).names s) (Write.added s (.putTrack g id track)).toList := by
  cases s with
  | bucket g' b' => rfl
  | tracks g' id' =>
    have hlist := (numbered_ofWrites ws).2.list_append (g, id) track.path (g', id')
    simp only [Write.added]
    by_cases hs : g = g' ∧ id = id'
    · obtain ⟨rfl, rfl⟩ := hs
      rw [if_pos ⟨rfl, rfl⟩]
      refine hlist.trans ?_
      by_cases hm : track.path ∈ (ofWrites ws).groupTracks.list (g, id)
      · simp [extend, names, hm]
      · simp [extend, names, hm]
    · rw [if_neg hs]
      refine hlist.trans ?_
      rw [if_neg]
      · rfl
      · rw [Prod.mk.injEq]
        exact fun hn => hs hn.1

lemma names_apply (ws : List Write) {s : Scope} {w : Write}
    (h : ∀ items time, Write.replace s items time ≠ w) :
    (w.apply (ofWrites ws)).names s = extend ((ofWrites ws).names s) (w.added s).toList := by
  cases w with
  | replace s' items time =>
    have hne : s' ≠ s := by
      rintro rfl
      exact h items time rfl
    exact names_replace_of_ne ws hne items time
  | putGroup g group => cases s <;> rfl
  | putTrack g id track => exact names_putTrack ws s g id track

lemma filterMap_singleton {α β : Type} (f : α → Option β) (a : α) :
    [a].filterMap f = (f a).toList := by
  cases h : f a <;> simp [h]

/-- A set that was not replaced since lists what it did, and behind it the tracks that were
recorded. -/
lemma names_append (ws : List Write) {s : Scope} {since : List Write} (h : Keeps s since) :
    (ofWrites (ws ++ since)).names s =
      extend ((ofWrites ws).names s) (since.filterMap (Write.added s)) := by
  induction since using List.reverseRecOn with
  | nil => rw [List.append_nil]; rfl
  | append_singleton since w ih =>
    obtain ⟨hsince, hw⟩ := keeps_concat.mp h
    rw [← List.append_assoc, ofWrites_concat, names_apply _ hw, ih hsince, List.filterMap_append,
      extend_append, filterMap_singleton]

/-! ### When a set was stored -/

lemma refreshes_replace (ws : List Write) (s : Scope) (items : List s.Item) (time : Instant) :
    (ofWrites (ws ++ [.replace s items time])).refreshes.get? s.key = some time.seconds := by
  rw [ofWrites_concat]
  exact Table.get?_put_self (ofWrites ws).refreshes s.key time.seconds

lemma refreshes_apply (ix : Index) {s : Scope} {w : Write}
    (h : ∀ items time, Write.replace s items time ≠ w) :
    (w.apply ix).refreshes.get? s.key = ix.refreshes.get? s.key := by
  cases w with
  | replace s' items time =>
    have hne : s'.key ≠ s.key := by
      intro heq
      obtain rfl := Scope.key_injective heq
      exact h items time rfl
    exact Table.get?_put_of_ne ix.refreshes hne time.seconds
  | putGroup g group => rfl
  | putTrack g id track => rfl

/-- Only storing a set changes the time of its refresh. -/
lemma refreshes_foldl (ix : Index) {s : Scope} {since : List Write} (h : Keeps s since) :
    (since.foldl Write.apply ix).refreshes.get? s.key = ix.refreshes.get? s.key := by
  induction since using List.reverseRecOn with
  | nil => rfl
  | append_singleton since w ih =>
    obtain ⟨hsince, hw⟩ := keeps_concat.mp h
    rw [List.foldl_append, List.foldl_cons, List.foldl_nil, refreshes_apply _ hw, ih hsince]

lemma refreshes_append (ws : List Write) {s : Scope} {since : List Write} (h : Keeps s since) :
    (ofWrites (ws ++ since)).refreshes.get? s.key = (ofWrites ws).refreshes.get? s.key := by
  rw [ofWrites, List.foldl_append]
  exact refreshes_foldl _ h

/-- The writes replaced a set by `items` at `time` and then, `since`, not again. -/
def StoredLast (ws : List Write) (s : Scope) (items : List s.Item) (time : Instant)
    (since : List Write) : Prop :=
  ∃ earlier, ws = earlier ++ .replace s items time :: since ∧ Keeps s since

/-- A set that has been stored has been stored last at some time. -/
theorem keeps_or_storedLast (s : Scope) (ws : List Write) :
    Keeps s ws ∨ ∃ items time since, StoredLast ws s items time since := by
  induction ws using List.reverseRecOn with
  | nil => exact .inl (keeps_nil s)
  | append_singleton ws w ih =>
    by_cases hw : ∃ items time, Write.replace s items time = w
    · obtain ⟨items, time, rfl⟩ := hw
      exact .inr ⟨items, time, [], ws, rfl, keeps_nil s⟩
    · have hne : ∀ items time, Write.replace s items time ≠ w := fun items time heq =>
        hw ⟨items, time, heq⟩
      rcases ih with hk | ⟨items, time, since, earlier, rfl, hk⟩
      · exact .inl (keeps_concat.mpr ⟨hk, hne⟩)
      · refine .inr ⟨items, time, since ++ [w], earlier, ?_, keeps_concat.mpr ⟨hk, hne⟩⟩
        rw [List.append_assoc, List.cons_append]

section StoredLast

variable {ws : List Write} {s : Scope} {items : List s.Item} {time : Instant} {since : List Write}

lemma StoredLast.replace_mem (h : StoredLast ws s items time since) :
    Write.replace s items time ∈ ws := by
  obtain ⟨earlier, rfl, -⟩ := h
  exact List.mem_append_right _ List.mem_cons_self

lemma StoredLast.mem_of_mem_since (h : StoredLast ws s items time since) {w : Write}
    (hw : w ∈ since) : w ∈ ws := by
  obtain ⟨earlier, rfl, -⟩ := h
  exact List.mem_append_right _ (List.mem_cons_of_mem _ hw)

/-- What is listed is the set that was stored last, and the tracks recorded since. -/
theorem StoredLast.names_eq (h : StoredLast ws s items time since) :
    (ofWrites ws).names s =
      extend (items.map (nameOf s)) (since.filterMap (Write.added s)) := by
  obtain ⟨earlier, rfl, hk⟩ := h
  rw [List.append_cons, names_append _ hk, names_replace]

/-- The time that is kept with a set is that of the set that was stored last. -/
theorem StoredLast.refreshes_eq (h : StoredLast ws s items time since) :
    (ofWrites ws).refreshes.get? s.key = some time.seconds := by
  obtain ⟨earlier, rfl, hk⟩ := h
  rw [List.append_cons, refreshes_append _ hk, refreshes_replace]

/-- A set that was never stored lists the tracks that were recorded. -/
theorem Keeps.names_eq (h : Keeps s ws) :
    (ofWrites ws).names s = extend [] (ws.filterMap (Write.added s)) := by
  have hnone : (ofWrites []).names s = [] := by cases s <;> exact Members.list_nil _
  rw [← List.nil_append ws, names_append [] h, hnone, List.nil_append]

/-- Also if the index had more than these writes before. -/
lemma StoredLast.refreshes_foldl (h : StoredLast ws s items time since) (ix : Index) :
    (ws.foldl Write.apply ix).refreshes.get? s.key = some time.seconds := by
  obtain ⟨earlier, rfl, hk⟩ := h
  rw [List.foldl_append, List.foldl_cons, Index.refreshes_foldl _ hk]
  exact Table.get?_put_self (earlier.foldl Write.apply ix).refreshes s.key time.seconds

theorem Keeps.refreshes_eq (h : Keeps s ws) : (ofWrites ws).refreshes.get? s.key = none := by
  rw [← List.nil_append ws, refreshes_append [] h]
  rfl

end StoredLast

end ModuleArchive.Index
