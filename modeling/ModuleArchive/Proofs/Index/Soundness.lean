import ModuleArchive.Proofs.Index.Keys
import ModuleArchive.Proofs.Index.Run
import ModuleArchive.Proofs.Index.Transaction

/-!
# Sound indexes

Listings and records are kept apart: what a set lists is numbered row by row, and each row refers
to a record. An index is sound if the two fit together and every number can be read back. Every
write keeps it so, because a record is written before the rows that refer to it and no record is
ever taken away. A sound index answers every read, and no row is missing from an answer.
-/
namespace ModuleArchive

namespace Index

/-! ### Rows after a write -/

namespace Members

variable {κ μ : Type} [DecidableEq κ] {rows : Members κ μ} {owner : κ} {row : Membership κ μ}

lemma mem_replace {members : List μ} (h : row ∈ rows.replace owner members) :
    row ∈ rows ∨ row.owner = owner ∧ row.member ∈ members := by
  rcases List.mem_append.mp h with hm | hm
  · exact .inl (List.mem_filter.mp hm).1
  · have hmember := List.mem_map_of_mem (f := fun row : Membership κ μ => row.member) hm
    rw [map_member_number] at hmember
    exact .inr ⟨(owner_of_mem_number hm).1, hmember⟩

lemma mem_append [DecidableEq μ] {member : μ} (h : row ∈ rows.append owner member) :
    row ∈ rows ∨ row.owner = owner ∧ row.member = member := by
  rw [append] at h
  split at h
  · exact .inl h
  · rcases List.mem_append.mp h with hm | hm
    · exact .inl hm
    · obtain rfl := List.mem_singleton.mp hm
      exact .inr ⟨rfl, rfl⟩

end Members

/-- A row that a write puts into a bucket has a record that the same write makes. -/
lemma Write.mem_bucketGroups {w : Write} {rows : Members (Grouping × Bucket) Int}
    {row : Membership (Grouping × Bucket) Int} (h : row ∈ w.bucketGroups rows) :
    row ∈ rows ∨ ∃ x ∈ w.groups, keyOfGroup x = (row.owner.1, row.member) := by
  cases w with
  | replace s items time =>
    cases s with
    | bucket g b =>
      rcases Members.mem_replace h with hm | ⟨ho, hm⟩
      · exact .inl hm
      · obtain ⟨group, hg, hmember⟩ := List.mem_map.mp hm
        refine .inr ⟨(g, group), List.mem_map_of_mem hg, ?_⟩
        rw [keyOfGroup, hmember, ho]
    | tracks g id => exact .inl h
  | putGroup g group => exact .inl h
  | putTrack g id track => exact .inl h

lemma Write.mem_groupTracks {w : Write} {rows : Members (Grouping × UInt32) String}
    {row : Membership (Grouping × UInt32) String} (h : row ∈ w.groupTracks rows) :
    row ∈ rows ∨ ∃ t ∈ w.tracks, t.path = row.member := by
  cases w with
  | replace s items time =>
    cases s with
    | bucket g b => exact .inl h
    | tracks g id =>
      rcases Members.mem_replace h with hm | ⟨-, hm⟩
      · exact .inl hm
      · exact .inr (List.mem_map.mp hm)
  | putGroup g group => exact .inl h
  | putTrack g id track =>
    rcases Members.mem_append h with hm | ⟨-, hm⟩
    · exact .inl hm
    · exact .inr ⟨track, List.mem_singleton_self track, hm.symm⟩

/-! ### What can be read back -/

/-- Whether a stored number stands for a word. -/
def IsWord (n : Int) : Prop := 0 ≤ n ∧ n < UInt32.size

lemma isWord_toNat (n : UInt32) : IsWord n.toNat :=
  ⟨Int.natCast_nonneg _, Int.ofNat_lt.mpr n.toNat_lt_size⟩

lemma IsWord.exists_word {n : Int} (h : IsWord n) :
    ∃ word, word? n = some word ∧ (word.toNat : Int) = n := by
  obtain ⟨hpos, hlt⟩ := h
  refine ⟨UInt32.ofNat n.toNat, if_pos ⟨hpos, hlt⟩, ?_⟩
  rw [UInt32.toNat_ofNat_of_lt' (by omega), Int.toNat_of_nonneg hpos]

/-- Whether the index holds together: no two rows have the same key and the rows of each listing are
numbered from zero; what a row refers to has a record; and every number can be read back. -/
structure IsSound (ix : Index) : Prop extends Keyed ix where
  group_recorded : ∀ row ∈ ix.bucketGroups, (ix.groups.get? (row.owner.1, row.member)).isSome
  track_recorded : ∀ row ∈ ix.groupTracks, (ix.tracks.get? row.member).isSome
  member_fits : ∀ row ∈ ix.bucketGroups, IsWord row.member
  group_fits : ∀ entry ∈ ix.groups.entries, IsWord entry.1.2 ∧ IsWord entry.2.tracks
  track_fits : ∀ entry ∈ ix.tracks.entries,
    0 ≤ entry.2.size ∧ entry.2.size < Decimal.signedBound
  time_fits : ∀ entry ∈ ix.refreshes.entries, ∃ time, Instant.ofSeconds? entry.2 = some time

lemma isSound_empty : IsSound {} where
  toKeyed := keyed_empty
  group_recorded _ hm := absurd hm List.not_mem_nil
  track_recorded _ hm := absurd hm List.not_mem_nil
  member_fits _ hm := absurd hm List.not_mem_nil
  group_fits _ hm := absurd hm List.not_mem_nil
  track_fits _ hm := absurd hm List.not_mem_nil
  time_fits _ hm := absurd hm List.not_mem_nil

/-- A write whose tracks and time can be stored keeps an index sound. -/
theorem IsSound.apply {ix : Index} (h : ix.IsSound) {w : Write} (hfits : ∀ t ∈ w.tracks, Fits t)
    (htime : ∀ x ∈ w.refresh?, IsDated x.2) : (w.apply ix).IsSound where
  toKeyed := h.toKeyed.apply w
  group_recorded row hm := by
    apply Table.isSome_get?_putAll.mpr
    rcases w.mem_bucketGroups hm with hm | hx
    · exact .inl (h.group_recorded row hm)
    · exact .inr hx
  track_recorded row hm := by
    apply Table.isSome_get?_putAll.mpr
    rcases w.mem_groupTracks hm with hm | ht
    · exact .inl (h.track_recorded row hm)
    · exact .inr ht
  member_fits row hm := by
    rcases w.mem_bucketGroups hm with hm | ⟨x, -, hx⟩
    · exact h.member_fits row hm
    · rw [← show memberOfGroup x.2 = row.member from congrArg Prod.snd hx]
      exact isWord_toNat x.2.id
  group_fits entry hm := by
    rcases Table.mem_entries_putAll hm with hm | ⟨x, -, rfl⟩
    · exact h.group_fits entry hm
    · exact ⟨isWord_toNat x.2.id, isWord_toNat x.2.tracks⟩
  track_fits entry hm := by
    rcases Table.mem_entries_putAll hm with hm | ⟨t, ht, rfl⟩
    · exact h.track_fits entry hm
    · exact ⟨Int.natCast_nonneg _, Int.ofNat_lt.mpr (hfits t ht)⟩
  time_fits entry hm := by
    rw [Write.apply, refreshes_eq_putAll] at hm
    rcases Table.mem_entries_putAll hm with hm | ⟨x, hx, rfl⟩
    · exact h.time_fits entry hm
    · exact ⟨_, ofSeconds?_of_isDated (htime x (Option.mem_toList.mp hx))⟩

/-! ### Reads of a sound index -/

section Reads

variable {ix : Index} (h : ix.IsSound)

include h

lemma IsSound.toGroup_eq {g : Grouping} {n : Int} {r : GroupRecord}
    (hr : ix.groups.get? (g, n) = some r) :
    ∃ group, r.toGroup n = .ok group ∧ memberOfGroup group = n := by
  obtain ⟨hid, htracks⟩ := h.group_fits _ (Table.mem_entries_of_get? hr)
  obtain ⟨id, hid, hn⟩ := hid.exists_word
  obtain ⟨tracks, htracks, -⟩ := htracks.exists_word
  refine ⟨⟨id, r.name, tracks⟩, ?_, hn⟩
  simp only [GroupRecord.toGroup, hid, htracks]

lemma IsSound.toTrack_eq {path : String} {r : TrackRecord} (hr : ix.tracks.get? path = some r) :
    ∃ t, r.toTrack path = .ok t ∧ t.path = path :=
  ⟨_, if_pos (h.track_fits _ (Table.mem_entries_of_get? hr)).1, rfl⟩

lemma IsSound.listBucket_eq (g : Grouping) (b : Bucket) :
    ∃ groups, ix.listBucket g b = .ok groups ∧
      groups.length = (ix.bucketGroups.ofOwner (g, b)).length := by
  obtain ⟨groups, hgroups, hnames, -⟩ : ∃ groups, ix.listBucket g b = .ok groups ∧
      groups.map memberOfGroup = ix.bucketGroups.list (g, b) ∧ ∀ group ∈ groups, True := by
    apply mapM_filterMap_ok
    intro n hn
    obtain ⟨row, hm, ho, rfl⟩ := Members.mem_list.mp hn
    have hrecord := h.group_recorded row hm
    rw [ho] at hrecord
    obtain ⟨r, hr⟩ := Option.isSome_iff_exists.mp hrecord
    obtain ⟨group, hgroup, hnumber⟩ := h.toGroup_eq hr
    exact ⟨r, group, hr, hgroup, hnumber, trivial⟩
  refine ⟨groups, hgroups, ?_⟩
  rw [← Members.length_list, ← hnames, List.length_map]

lemma IsSound.listTracks_eq (g : Grouping) (id : UInt32) :
    ∃ tracks, ix.listTracks g id = .ok tracks ∧
      tracks.length = (ix.groupTracks.ofOwner (g, id)).length := by
  obtain ⟨tracks, htracks, hnames, -⟩ : ∃ tracks, ix.listTracks g id = .ok tracks ∧
      tracks.map Track.path = ix.groupTracks.list (g, id) ∧ ∀ t ∈ tracks, True := by
    apply mapM_filterMap_ok
    intro path hp
    obtain ⟨row, hm, -, rfl⟩ := Members.mem_list.mp hp
    obtain ⟨r, hr⟩ := Option.isSome_iff_exists.mp (h.track_recorded row hm)
    obtain ⟨t, ht, hpath⟩ := h.toTrack_eq hr
    exact ⟨r, t, hr, ht, hpath, trivial⟩
  refine ⟨tracks, htracks, ?_⟩
  rw [← Members.length_list, ← hnames, List.length_map]

lemma IsSound.getGroup_eq (g : Grouping) (id : UInt32) : ∃ found, ix.getGroup g id = .ok found := by
  rw [getGroup]
  cases hr : ix.groups.get? (g, id.toNat) with
  | none => exact ⟨none, rfl⟩
  | some r =>
    obtain ⟨group, hgroup, -⟩ := h.toGroup_eq hr
    exact ⟨some group, by simp only [hgroup]; rfl⟩

lemma IsSound.findTrack_eq (g : Grouping) (id : UInt32) (filename : String) :
    ∃ found, ix.findTrack g id filename = .ok found := by
  obtain ⟨tracks, htracks, -⟩ := h.listTracks_eq g id
  exact ⟨_, Index.findTrack_eq htracks filename⟩

lemma IsSound.refreshedAt_eq (s : Scope) : ∃ found, ix.refreshedAt s = .ok found := by
  rw [refreshedAt]
  cases hs : ix.refreshes.get? s.key with
  | none => exact ⟨none, rfl⟩
  | some seconds =>
    obtain ⟨time, htime⟩ := h.time_fits _ (Table.mem_entries_of_get? hs)
    exact ⟨some time, by simp only [htime]⟩

end Reads

/-! ### What the writes left in each table -/

section Keys

variable (ws : List Write)

def writtenGroups : Set (Grouping × UInt32) :=
  {key | ∃ x ∈ ws.flatMap Write.groups, (x.1, x.2.id) = key}

def writtenPaths : Set String := {path | ∃ t ∈ ws.flatMap Write.tracks, t.path = path}

def replacedSets : Set Scope := {s | ∃ x ∈ ws.filterMap Write.refresh?, x.1 = s}

/-- The places of all buckets that list a group. -/
def bucketPlaces : Set ((Grouping × Bucket) × Nat) :=
  {x | x.2 < (listedNumbers ws x.1.1 x.1.2).length}

/-- The places of all groups that list a track. -/
def groupPlaces : Set ((Grouping × UInt32) × Nat) :=
  {x | x.2 < (listedPaths ws x.1.1 x.1.2).length}

lemma encard_writtenGroups : (writtenGroups ws).encard = (ofWrites ws).groups.size := by
  have hkey : Function.Injective fun x : Grouping × UInt32 => (x.1, (x.2.toNat : Int)) := by
    intro x y h
    obtain ⟨hg, hid⟩ := Prod.mk.inj h
    exact Prod.ext hg (UInt32.toNat_inj.mp (Int.ofNat_inj.mp hid))
  rw [groups_ofWrites]
  exact Table.encard_names hkey _

lemma encard_writtenPaths : (writtenPaths ws).encard = (ofWrites ws).tracks.size := by
  rw [tracks_ofWrites]
  exact Table.encard_names Function.injective_id _

lemma encard_replacedSets : (replacedSets ws).encard = (ofWrites ws).refreshes.size := by
  rw [refreshes_ofWrites]
  exact Table.encard_names Scope.key_injective _

lemma encard_bucketPlaces : (bucketPlaces ws).encard = (ofWrites ws).bucketGroups.length := by
  have hlist (x : Grouping × Bucket) : (listedNumbers ws x.1 x.2).length =
      ((ofWrites ws).bucketGroups.list x).length := by
    rw [show (ofWrites ws).bucketGroups.list x = _ from names_bucket ws x.1 x.2, List.length_map]
  rw [← (keyed_ofWrites ws).buckets.encard_places, bucketPlaces]
  simp only [hlist]

lemma encard_groupPlaces : (groupPlaces ws).encard = (ofWrites ws).groupTracks.length := by
  have hlist (x : Grouping × UInt32) : listedPaths ws x.1 x.2 =
      (ofWrites ws).groupTracks.list x := (names_tracks ws x.1 x.2).symm
  rw [← (keyed_ofWrites ws).listings.encard_places, groupPlaces]
  simp only [hlist]

/-- The number of keys that the writes left in each table, by its name. -/
noncomputable def keyCounts : List (String × ENat) :=
  [("bucket_groups", (bucketPlaces ws).encard), ("group_tracks", (groupPlaces ws).encard),
    ("groups", (writtenGroups ws).encard), ("refreshes", (replacedSets ws).encard),
    ("tracks", (writtenPaths ws).encard)]

/-- The tables have as many rows as the writes left keys in them. -/
theorem statistics_ofWrites : (ofWrites ws).statistics.map (fun row => (row.1, (row.2 : ENat))) =
    keyCounts ws := by
  rw [keyCounts, encard_bucketPlaces, encard_groupPlaces, encard_writtenGroups,
    encard_replacedSets, encard_writtenPaths]
  rfl

end Keys

end Index

namespace Repository

open Index (Write IsDated)

/-! ### Runs -/

lemma isSound_write {r : Repository} (hr : r.isOpen = true) (h : r.index.IsSound) {w : Write}
    (htime : ∀ x ∈ w.refresh?, IsDated x.2) :
    (r.write w).2.isOpen = true ∧ (r.write w).2.index.IsSound := by
  rw [write_eq hr]
  split
  · next hfits => exact ⟨hr, h.apply hfits htime⟩
  · exact ⟨hr, h⟩

theorem isSound_after {r : Repository} (hr : r.isOpen = true) (h : r.index.IsSound)
    {calls : List Write} (htime : ∀ w ∈ calls, ∀ x ∈ w.refresh?, IsDated x.2) :
    (r.after calls).index.IsSound := by
  induction calls generalizing r with
  | nil => exact h
  | cons w rest ih =>
    obtain ⟨hw, hrest⟩ := List.forall_mem_cons.mp htime
    obtain ⟨hopen, hsound⟩ := isSound_write hr h hw
    exact ih hopen hsound hrest

/-- Whether every read of a repository succeeds, with an item for each row of a listing. -/
structure IsReadable (r : Repository) : Prop where
  listBucket : ∀ g b, ∃ groups, r.query (·.listBucket g b) = .ok groups ∧
    groups.length = (r.index.bucketGroups.ofOwner (g, b)).length
  listTracks : ∀ g id, ∃ tracks, r.query (·.listTracks g id) = .ok tracks ∧
    tracks.length = (r.index.groupTracks.ofOwner (g, id)).length
  getGroup : ∀ g id, ∃ found, r.query (·.getGroup g id) = .ok found
  findTrack : ∀ g id filename, ∃ found, r.query (·.findTrack g id filename) = .ok found
  refreshedAt : ∀ s, ∃ found, r.query (·.refreshedAt s) = .ok found

lemma isReadable_of_isSound {r : Repository} (hr : r.isOpen = true) (h : r.index.IsSound) :
    r.IsReadable := by
  have hquery {α : Type} (read : Index → Except Index.Error α) : r.query read = read r.index :=
    if_pos hr
  constructor <;> simp only [hquery]
  · exact h.listBucket_eq
  · exact h.listTracks_eq
  · exact h.getGroup_eq
  · exact h.findTrack_eq
  · exact h.refreshedAt_eq

/-- After any run of a new repository whose sets are refreshed in years of the calendar, also if
some of the writes fail: the index is sound, with the positions of each listing counted from zero,
and every read succeeds. A further write, made row by row, is refused for no key and no missing
record, but does what it does as a whole. The statistics give the number of keys that the writes
that succeeded left in each table. -/
theorem index_stays_sound (isPersistent : Bool) {calls : List Write}
    (h : ∀ s items time, Write.replace s items time ∈ calls → IsDated time) :
    let reached := (new isPersistent).after calls
    let log := (new isPersistent).log calls
    reached.index.IsSound ∧
      (∀ owner, (reached.index.bucketGroups.ofOwner owner).map (·.position) =
        List.range (reached.index.bucketGroups.ofOwner owner).length) ∧
      (∀ owner, (reached.index.groupTracks.ofOwner owner).map (·.position) =
        List.range (reached.index.groupTracks.ofOwner owner).length) ∧
      reached.IsReadable ∧
      (∀ w : Write, reached.index.transact w.statements = (w.run reached.index).mapError .unfit) ∧
      ∃ rows, reached.query (fun ix => .ok ix.statistics) = .ok rows ∧
        rows.map (fun row => (row.1, (row.2 : ENat))) = Index.keyCounts log := by
  intro reached log
  have htime : ∀ w ∈ calls, ∀ x ∈ w.refresh?, IsDated x.2 := by
    intro w hw x hx
    cases w with
    | replace s items time =>
      obtain rfl := Option.some_inj.mp hx
      exact h s items time hw
    | putGroup g group => contradiction
    | putTrack g id track => contradiction
  have hsound : reached.index.IsSound := isSound_after rfl Index.isSound_empty htime
  refine ⟨hsound, hsound.buckets.map_position, hsound.listings.map_position,
    isReadable_of_isSound (isOpen_after_new isPersistent calls) hsound,
    fun w => Index.transact_statements w reached.index, _, query_after_new isPersistent calls _, ?_⟩
  exact Index.statistics_ofWrites log

/-- A bucket with a group twice and a listing with a track twice, then a listing that fails at its
second track, and tracks that are recorded since, one of which was listed. -/
def twiceListed : List Write :=
  [.replace (.bucket .authors .nonLetter) [⟨1, "4mat", 2⟩, ⟨7, "808", 1⟩, ⟨1, "4-Mat", 3⟩]
      (.ofSeconds 1750000000 5),
    .replace (.tracks .authors 1) [.ofPath "/pub/a.mod" 4, .ofPath "/pub/b.mod" 5,
      .ofPath "/pub/a.mod" 6] (.ofSeconds (-1) 5),
    .replace (.tracks .authors 1) [.ofPath "/pub/a.mod" 9,
      .ofPath "/pub/large.mod" 0x8000000000000000] (.ofSeconds 1750000060),
    .putTrack .authors 1 (.ofPath "/pub/b.mod" 7),
    .putTrack .authors 1 (.ofPath "/pub/c.mod" 8)]

/-- What is counted and listed after a run with a write that fails. -/
theorem index_stays_sound_twiceListed :
    let reached := (new true).after twiceListed
    let log := (new true).log twiceListed
    reached.index.IsSound ∧
      (reached.index.groupTracks.ofOwner (.authors, 1)).map (·.position) = [0, 1, 2, 3] ∧
      (Index.bucketPlaces log).encard = 3 ∧ (Index.groupPlaces log).encard = 4 ∧
      (Index.writtenGroups log).encard = 2 ∧ (Index.replacedSets log).encard = 2 ∧
      (Index.writtenPaths log).encard = 3 := by
  intro reached log
  have hc : ∀ s items time, Write.replace s items time ∈ twiceListed → IsDated time := by
    intro s items time hm
    simp only [twiceListed, List.mem_cons, Write.replace.injEq, reduceCtorEq, List.not_mem_nil,
      or_false] at hm
    obtain ⟨-, -, rfl⟩ | ⟨-, -, rfl⟩ | ⟨-, -, rfl⟩ := hm
    · exact ⟨by decide, by decide⟩
    · exact ⟨by decide, by decide⟩
    · exact ⟨by decide, by decide⟩
  obtain ⟨hsound, -, hpositions, -, -, rows, hrows, hkeys⟩ := index_stays_sound true hc
  have hcounted : reached.query (fun ix => .ok ix.statistics) = .ok [("bucket_groups", 3),
      ("group_tracks", 4), ("groups", 2), ("refreshes", 2), ("tracks", 3)] := by decide +kernel
  obtain rfl := Except.ok.inj (hcounted.symm.trans hrows)
  simp only [Index.keyCounts, List.map_cons, List.cons.injEq, Prod.mk.injEq, true_and] at hkeys
  obtain ⟨hbuckets, hlistings, hgroups, hrefreshes, htracks, -⟩ := hkeys
  refine ⟨hsound, ?_, hbuckets.symm, hlistings.symm, hgroups.symm, hrefreshes.symm, htracks.symm⟩
  rw [hpositions]
  decide +kernel

end Repository

end ModuleArchive
