import ModuleArchive.Index.Repository
import ModuleArchive.Proofs.Index.Reading

/-!
# Runs of a repository

Writes are made one after the other. Those that fail change nothing, so what a new repository
holds after a run is settled by its log, the writes that succeeded. A log tells which replacement
of a set came last and what was written since, and so in which order a set lists which names.
-/
namespace ModuleArchive

namespace Index

/-! ### The last replacement of a set -/

/-- What a set was replaced by, when, and what was written since. -/
structure Replacement (s : Scope) where
  items : List s.Item
  time : Instant
  since : List Write

/-- The replacement of a set that a write makes, given what was written since. -/
def Write.replacement? (s : Scope) (since : List Write) : Write → Option (Replacement s)
  | replace s' items time => if h : s' = s then some ⟨h ▸ items, time, since⟩ else none
  | putGroup _ _ | putTrack _ _ _ => none

/-- The last replacement of a set. -/
def lastReplacement? (s : Scope) : List Write → Option (Replacement s)
  | [] => none
  | w :: rest => (lastReplacement? s rest).or (w.replacement? s rest)

section LastReplacement

variable {s : Scope} {ws : List Write}

lemma Write.replacement?_self (items : List s.Item) (time : Instant) (since : List Write) :
    (Write.replace s items time).replacement? s since = some ⟨items, time, since⟩ := by
  rw [Write.replacement?, dif_pos rfl]

lemma Write.replacement?_eq_none {w : Write} (h : ∀ items time, Write.replace s items time ≠ w)
    (since : List Write) : w.replacement? s since = none := by
  cases w with
  | replace s' items time =>
    have hne : s' ≠ s := by
      rintro rfl
      exact h items time rfl
    rw [Write.replacement?, dif_neg hne]
  | putGroup g group => rfl
  | putTrack g id track => rfl

lemma Keeps.lastReplacement?_eq (h : Keeps s ws) : lastReplacement? s ws = none := by
  induction ws with
  | nil => rfl
  | cons w rest ih =>
    have hrest : Keeps s rest := fun items time hm => h items time (List.mem_cons_of_mem w hm)
    have hw : ∀ items time, Write.replace s items time ≠ w := by
      rintro items time rfl
      exact h items time List.mem_cons_self
    rw [lastReplacement?, ih hrest, w.replacement?_eq_none hw, Option.or_none]

lemma StoredLast.lastReplacement?_eq {items : List s.Item} {time : Instant} {since : List Write}
    (h : StoredLast ws s items time since) :
    lastReplacement? s ws = some ⟨items, time, since⟩ := by
  obtain ⟨earlier, rfl, hk⟩ := h
  induction earlier with
  | nil =>
    rw [List.nil_append, lastReplacement?, hk.lastReplacement?_eq, Option.none_or,
      Write.replacement?_self]
  | cons w rest ih => rw [List.cons_append, lastReplacement?, ih, Option.some_or]

/-- A set was refreshed when it was last replaced, by the second. -/
lemma refreshedAt_ofWrites (h : ∀ items time, Write.replace s items time ∈ ws →
      Instant.firstSecond ≤ time.seconds ∧ time.seconds ≤ Instant.lastSecond) :
    (ofWrites ws).refreshedAt s =
      .ok ((lastReplacement? s ws).map fun r => .ofSeconds r.time.seconds) := by
  rcases keeps_or_storedLast s ws with hk | ⟨items, time, since, hs⟩
  · rw [refreshedAt_eq_none hk.refreshes_eq, hk.lastReplacement?_eq, Option.map_none]
  · have hseconds := h items time hs.replace_mem
    rw [refreshedAt, hs.refreshes_eq, hs.lastReplacement?_eq]
    simp only [Instant.ofSeconds?, if_pos hseconds, Option.map_some]

end LastReplacement

/-! ### What a log lists -/

/-- The names that a listing does not have yet, each one once, in the order of their first
occurrences. -/
def newNames {α : Type} [DecidableEq α] (listed more : List α) : List α :=
  (more.filter (· ∉ listed)).eraseDups

/-- The paths of the tracks that were recorded one by one in a group. -/
def recordedPaths (g : Grouping) (id : UInt32) (ws : List Write) : List String :=
  ws.filterMap (Write.added (.tracks g id))

/-- The paths that a group lists: those of its last replacement, and behind them the new ones
that were recorded since. -/
def listedPaths (ws : List Write) (g : Grouping) (id : UInt32) : List String :=
  match lastReplacement? (.tracks g id) ws with
  | none => newNames [] (recordedPaths g id ws)
  | some r =>
    let stored := r.items.map Track.path
    stored ++ newNames stored (recordedPaths g id r.since)

/-- The numbers of the groups that a bucket lists: those of its last replacement. -/
def listedNumbers (ws : List Write) (g : Grouping) (b : Bucket) : List UInt32 :=
  match lastReplacement? (.bucket g b) ws with
  | none => []
  | some r => r.items.map Group.id

lemma extend_eq {α : Type} [DecidableEq α] (listed more : List α) :
    extend listed more = listed ++ newNames listed more := by
  induction more generalizing listed with
  | nil => simp [newNames]
  | cons name rest ih =>
    rw [extend, List.foldl_cons, ← extend]
    by_cases hn : name ∈ listed
    · rw [if_pos hn, ih]
      simp [newNames, hn]
    · rw [if_neg hn, ih, List.append_assoc, List.singleton_append]
      -- what is new behind a listing with `name` is what is new without it, less `name`
      have hfilter : rest.filter (· ∉ listed ++ [name]) =
          (rest.filter (· ∉ listed)).filter fun other => !other == name := by
        rw [List.filter_filter]
        apply List.filter_congr
        intro other _
        by_cases ho : other = name
        · simp [ho]
        · simp [ho]
      rw [newNames, newNames, List.filter_cons_of_pos (by simpa using hn), List.eraseDups_cons,
        hfilter]

lemma names_tracks (ws : List Write) (g : Grouping) (id : UInt32) :
    (ofWrites ws).names (.tracks g id) = listedPaths ws g id := by
  rcases keeps_or_storedLast (.tracks g id) ws with hk | ⟨items, time, since, hs⟩
  · rw [hk.names_eq, extend_eq, listedPaths, hk.lastReplacement?_eq]
    rfl
  · rw [hs.names_eq, extend_eq, listedPaths, hs.lastReplacement?_eq]
    rfl

lemma names_bucket (ws : List Write) (g : Grouping) (b : Bucket) :
    (ofWrites ws).names (.bucket g b) =
      (listedNumbers ws g b).map fun id : UInt32 => (id.toNat : Int) := by
  rcases keeps_or_storedLast (.bucket g b) ws with hk | ⟨items, time, since, hs⟩
  · rw [hk.names_eq, added_bucket, extend_nil, listedNumbers, hk.lastReplacement?_eq]
    rfl
  · rw [hs.names_eq, added_bucket, extend_nil, listedNumbers, hs.lastReplacement?_eq,
      List.map_map]
    rfl

end Index

namespace Repository

open Index (Write Fits ofWrites)

/-! ### Runs -/

def write (r : Repository) (w : Write) : Except Index.Error Unit × Repository := r.update (w.run ·)

/-- The repository after some writes have been made or have failed. -/
def after (r : Repository) (calls : List Write) : Repository :=
  calls.foldl (fun r w => (r.write w).2) r

/-- The writes that succeed, oldest first. -/
def log (r : Repository) : List Write → List Write
  | [] => []
  | w :: rest =>
    match (r.write w).1 with
    | .ok () => w :: log (r.write w).2 rest
    | .error _ => log (r.write w).2 rest

variable {r : Repository}

lemma after_cons (w : Write) (calls : List Write) :
    r.after (w :: calls) = (r.write w).2.after calls := rfl

lemma after_append (calls more : List Write) :
    r.after (calls ++ more) = (r.after calls).after more := List.foldl_append ..

/-- A write takes place as a whole, or it holds a track that is too large and fails. -/
lemma write_eq (h : r.isOpen = true) (w : Write) :
    r.write w = if ∀ t ∈ w.tracks, Fits t then (.ok (), { r with index := w.apply r.index })
      else (.error (.invalidData "track size"), r) := by
  rw [write, update, if_pos h, w.run_eq]
  by_cases hf : ∀ t ∈ w.tracks, Fits t
  · rw [if_pos hf, if_pos hf]
  · rw [if_neg hf, if_neg hf]

/-- The writes of the log make the repository what it is. -/
lemma after_eq (h : r.isOpen = true) (calls : List Write) :
    r.after calls = { r with index := (r.log calls).foldl Write.apply r.index } := by
  induction calls generalizing r with
  | nil => rfl
  | cons w rest ih =>
    rw [after_cons, log, write_eq h]
    by_cases hf : ∀ t ∈ w.tracks, Fits t
    · simp only [if_pos hf]
      exact ih h
    · simp only [if_neg hf]
      exact ih h

lemma log_append (calls more : List Write) :
    r.log (calls ++ more) = r.log calls ++ (r.after calls).log more := by
  induction calls generalizing r with
  | nil => rfl
  | cons w rest ih =>
    rw [List.cons_append, log, log, ih, after_cons]
    cases (r.write w).1 with
    | ok => rfl
    | error e => rfl

lemma mem_of_mem_log {calls : List Write} {w : Write} (h : w ∈ r.log calls) : w ∈ calls := by
  induction calls generalizing r with
  | nil => contradiction
  | cons first rest ih =>
    rw [log] at h
    split at h
    · rcases List.mem_cons.mp h with rfl | h
      · exact List.mem_cons_self
      · exact List.mem_cons_of_mem _ (ih h)
    · exact List.mem_cons_of_mem _ (ih h)

/-- A new repository, with an index in memory or on disk. -/
def new (isPersistent : Bool) : Repository := { isPersistent }

variable (isPersistent : Bool) (calls : List Write)

lemma after_new : (new isPersistent).after calls =
    { isPersistent, index := ofWrites ((new isPersistent).log calls) } := by
  rw [after_eq rfl]
  rfl

lemma isOpen_after_new : ((new isPersistent).after calls).isOpen = true := by rw [after_new]

lemma query_after_new {α : Type} (read : Index → Except Index.Error α) :
    ((new isPersistent).after calls).query read =
      read (ofWrites ((new isPersistent).log calls)) := by
  rw [after_new]
  rfl

lemma log_concat_of_write {isPersistent : Bool} {calls : List Write} {w : Write}
    {later : Repository}
    (h : ((new isPersistent).after calls).write w = (.ok (), later)) :
    later = (new isPersistent).after (calls ++ [w]) ∧
      (new isPersistent).log (calls ++ [w]) = (new isPersistent).log calls ++ [w] := by
  refine ⟨?_, ?_⟩
  · rw [after_append, after_cons, h]
    rfl
  · rw [log_append, log, h]
    rfl

end Repository

end ModuleArchive
