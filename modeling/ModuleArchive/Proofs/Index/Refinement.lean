import ModuleArchive.Proofs.Index.Run

/-!
# The index refines its log

Every answer of a repository that started out new can be read off the writes that succeeded: which
records a set lists and in which order, what is known of a group, and when a set was refreshed.
Records of tracks are shared by all sets, all else belongs to one grouping. A write fails if and
only if the size of one of its tracks cannot be stored, and then it changes nothing.
-/
namespace ModuleArchive

namespace Index

/-! ### Groupings -/

def Write.grouping : Write → Grouping
  | replace s _ _ => s.grouping
  | putGroup g _ | putTrack g _ _ => g

lemma grouping_of_mem_groups {w : Write} {x : Grouping × Group} (h : x ∈ w.groups) :
    x.1 = w.grouping := by
  cases w with
  | replace s items time =>
    cases s with
    | bucket g b =>
      obtain ⟨group, -, rfl⟩ := List.mem_map.mp h
      rfl
    | tracks g id => contradiction
  | putGroup g group =>
    obtain rfl := List.mem_singleton.mp h
    rfl
  | putTrack g id track => contradiction

section Frame

variable {w : Write} {g : Grouping}

lemma get?_groups_apply_of_ne (ix : Index) (h : w.grouping ≠ g) (n : Int) :
    (w.apply ix).groups.get? (g, n) = ix.groups.get? (g, n) := by
  have hnone : w.groups.reverse.find? (keyOfGroup · = (g, n)) = none := by
    rw [List.find?_eq_none]
    intro x hx hkey
    have hx' := grouping_of_mem_groups (List.mem_reverse.mp hx)
    have hg : x.1 = g := congrArg Prod.fst (of_decide_eq_true hkey)
    exact h (hx'.symm.trans hg)
  have hget : (w.apply ix).groups.get? (g, n) = _ := Table.get?_putAll (g, n)
  rw [hget, hnone, Option.map_none, Option.none_or]

lemma list_bucketGroups_apply_of_ne (ix : Index) (h : w.grouping ≠ g) (b : Bucket) :
    (w.apply ix).bucketGroups.list (g, b) = ix.bucketGroups.list (g, b) := by
  cases w with
  | replace s items time =>
    cases s with
    | bucket g' b' =>
      have hne : (g', b') ≠ (g, b) := fun heq => h (congrArg Prod.fst heq)
      exact Members.list_replace_of_ne ix.bucketGroups hne _
    | tracks g' id => rfl
  | putGroup g' group => rfl
  | putTrack g' id track => rfl

lemma get?_refreshes_apply_of_ne (ix : Index) {s : Scope} (h : w.grouping ≠ s.grouping) :
    (w.apply ix).refreshes.get? s.key = ix.refreshes.get? s.key := by
  apply refreshes_apply
  rintro items time rfl
  exact h rfl

end Frame

lemma fits_iff {t : Track} : Fits t ↔ t.size.toNat < 0x8000000000000000 := Iff.rfl

end Index

namespace Repository

open Index (Write IsLatest lastGroup? lastTrack? lastReplacement? listedPaths listedNumbers)

/-- Whether two repositories have the same groups, buckets and refresh times under a grouping. -/
structure SameUnder (g : Grouping) (r r' : Repository) : Prop where
  getGroup : ∀ id, r.query (·.getGroup g id) = r'.query (·.getGroup g id)
  listBucket : ∀ b, r.query (·.listBucket g b) = r'.query (·.listBucket g b)
  refreshedAt : ∀ s : Scope, s.grouping = g →
    r.query (·.refreshedAt s) = r'.query (·.refreshedAt s)

/-- A write changes no group, bucket or refresh time of another grouping. -/
lemma sameUnder_write {r : Repository} (hr : r.isOpen = true) {w : Write} {g : Grouping}
    (h : w.grouping ≠ g) : SameUnder g (r.write w).2 r := by
  rw [write_eq hr]
  split
  · constructor
    · intro id
      rw [query, query, if_pos hr, if_pos hr]
      simp only [Index.getGroup, Index.get?_groups_apply_of_ne r.index h]
    · intro b
      rw [query, query, if_pos hr, if_pos hr]
      simp only [Index.listBucket, Index.bucketRecords, Index.get?_groups_apply_of_ne r.index h,
        Index.list_bucketGroups_apply_of_ne r.index h]
    · rintro s rfl
      rw [query, query, if_pos hr, if_pos hr]
      simp only [Index.refreshedAt, Index.get?_refreshes_apply_of_ne r.index h]
  · exact ⟨fun _ => rfl, fun _ => rfl, fun _ _ => rfl⟩

section New

variable (isPersistent : Bool) (calls : List Write)

/-- A group lists the paths that the log says, with the records that were written last. -/
lemma listTracks_after_new (g : Grouping) (id : UInt32) :
    let log := (new isPersistent).log calls
    ∃ tracks, ((new isPersistent).after calls).query (·.listTracks g id) = .ok tracks ∧
      tracks.map Track.path = listedPaths log g id ∧
      ∀ t ∈ tracks, lastTrack? log t.path = some t := by
  intro log
  obtain ⟨tracks, hlist, hnames, hlatest⟩ := Index.list_ofWrites log (.tracks g id)
  rw [Index.names_tracks] at hnames
  exact ⟨tracks, (query_after_new isPersistent calls _).trans hlist, hnames, hlatest⟩

lemma listBucket_after_new (g : Grouping) (b : Bucket) :
    let log := (new isPersistent).log calls
    ∃ groups, ((new isPersistent).after calls).query (·.listBucket g b) = .ok groups ∧
      groups.map Group.id = listedNumbers log g b ∧
      ∀ group ∈ groups, lastGroup? log g group.id = some group := by
  intro log
  obtain ⟨groups, hlist, hnames, hlatest⟩ := Index.list_ofWrites log (.bucket g b)
  rw [Index.names_bucket] at hnames
  exact ⟨groups, (query_after_new isPersistent calls _).trans hlist,
    Index.map_id_eq_of_names hnames, hlatest⟩

lemma getGroup_after_new (g : Grouping) (id : UInt32) :
    ((new isPersistent).after calls).query (·.getGroup g id) =
      .ok (lastGroup? ((new isPersistent).log calls) g id) := by
  rw [query_after_new, Index.getGroup_ofWrites]

/-- A group that is known stays known, whatever is written later. -/
lemma exists_getGroup_after_append {g : Grouping} {id : UInt32} {group : Group}
    (h : ((new isPersistent).after calls).query (·.getGroup g id) = .ok (some group))
    (more : List Write) : ∃ later,
      ((new isPersistent).after (calls ++ more)).query (·.getGroup g id) = .ok (some later) := by
  rw [getGroup_after_new, Except.ok.injEq] at h
  rw [getGroup_after_new, log_append, Index.lastGroup?_append, h]
  cases lastGroup? (((new isPersistent).after calls).log more) g id with
  | none => exact ⟨group, rfl⟩
  | some later => exact ⟨later, rfl⟩

/-- After any run of a new repository, a group lists the paths of its last replacement and behind
them the new ones that were recorded since, each with the file name and the size that were written
last for the path. A write succeeds if and only if all sizes of its tracks are below `2 ^ 63`;
otherwise it leaves the repository as it was. -/
theorem tracks_follow_log :
    (∀ g id, ∃ tracks, ((new isPersistent).after calls).query (·.listTracks g id) = .ok tracks ∧
      tracks.map Track.path = listedPaths ((new isPersistent).log calls) g id ∧
      ∀ t ∈ tracks, lastTrack? ((new isPersistent).log calls) t.path = some t) ∧
    (∀ w : Write, (((new isPersistent).after calls).write w).1 = .ok () ↔
      ∀ t ∈ w.tracks, t.size.toNat < 0x8000000000000000) ∧
    (∀ w : Write, (∃ t ∈ w.tracks, 0x8000000000000000 ≤ t.size.toNat) →
      ((new isPersistent).after calls).write w =
        (.error (.invalidData "track size"), (new isPersistent).after calls)) := by
  have hopen : ((new isPersistent).after calls).isOpen = true :=
    isOpen_after_new isPersistent calls
  refine ⟨fun g id => listTracks_after_new isPersistent calls g id, ?_, ?_⟩
  · intro w
    rw [write_eq hopen]
    split
    · next hfits => exact iff_of_true rfl hfits
    · next hfits => exact iff_of_false (by simp) hfits
  · rintro w ⟨t, ht, hsize⟩
    have hfits : ¬ ∀ t ∈ w.tracks, Index.Fits t := by
      intro hall
      have hlt := Index.fits_iff.mp (hall t ht)
      omega
    rw [write_eq hopen, if_neg hfits]

/-- After any run of a new repository with times of the calendar, a bucket lists the groups of its
last replacement, each with the record that was written last under its number. A group is known by
that record and never lost, a set was refreshed when it was last replaced, down to the second, and
no write changes what stands under another grouping. -/
theorem groups_follow_log
    (hc : ∀ s items time, Write.replace s items time ∈ calls →
      Instant.firstSecond ≤ time.seconds ∧ time.seconds ≤ Instant.lastSecond) :
    let reached := (new isPersistent).after calls
    let log := (new isPersistent).log calls
    (∀ g b, ∃ groups, reached.query (·.listBucket g b) = .ok groups ∧
      groups.map Group.id = listedNumbers log g b ∧
      ∀ group ∈ groups, lastGroup? log g group.id = some group) ∧
    (∀ g id, reached.query (·.getGroup g id) = .ok (lastGroup? log g id)) ∧
    (∀ g id group, reached.query (·.getGroup g id) = .ok (some group) → ∀ more, ∃ later,
      ((new isPersistent).after (calls ++ more)).query (·.getGroup g id) = .ok (some later)) ∧
    (∀ s, reached.query (·.refreshedAt s) =
      .ok ((lastReplacement? s log).map fun r => .ofSeconds r.time.seconds)) ∧
    (∀ (w : Write) g, w.grouping ≠ g → SameUnder g (reached.write w).2 reached) := by
  intro reached log
  refine ⟨?_, ?_, ?_, ?_, ?_⟩
  · exact fun g b => listBucket_after_new isPersistent calls g b
  · exact fun g id => getGroup_after_new isPersistent calls g id
  · exact fun g id group h more => exists_getGroup_after_append isPersistent calls h more
  · intro s
    rw [query_after_new, Index.refreshedAt_ofWrites]
    exact fun items time hm => hc s items time (mem_of_mem_log hm)
  · exact fun w g hg => sameUnder_write (isOpen_after_new isPersistent calls) hg

/-- A bucket with a repeated group, a group looked up since, and the same number elsewhere. -/
def twoGroupings : List Write :=
  [.replace (.bucket .authors .nonLetter) [⟨1, "4mat", 2⟩, ⟨7, "808", 1⟩, ⟨1, "4-Mat", 3⟩]
      (.ofSeconds 1750000000 5),
    .putTrack .authors 1 (.ofPath "/pub/large.mod" 0x8000000000000000),
    .putGroup .authors ⟨7, "8o8", 4⟩,
    .replace (.bucket .formats .nonLetter) [⟨1, "669", 9⟩] (.ofSeconds 1750000060)]

/-- What is listed and known after a run over two groupings. -/
theorem groups_follow_log_twoGroupings :
    let reached := (new true).after twoGroupings
    let s : Scope := .bucket .authors .nonLetter
    (∃ groups, reached.query (·.listBucket .authors .nonLetter) = .ok groups ∧
      groups.map Group.id = [1, 7, 1] ∧
      ∀ group ∈ groups, lastGroup? ((new true).log twoGroupings) .authors group.id = some group) ∧
    reached.query (·.getGroup .authors 1) = .ok (some ⟨1, "4-Mat", 3⟩) ∧
    reached.query (·.getGroup .authors 7) = .ok (some ⟨7, "8o8", 4⟩) ∧
    reached.query (·.refreshedAt s) = .ok (some (.ofSeconds 1750000000)) := by
  intro reached s
  have hc : ∀ s items time, Write.replace s items time ∈ twoGroupings →
      Instant.firstSecond ≤ time.seconds ∧ time.seconds ≤ Instant.lastSecond := by
    intro s items time hm
    simp only [twoGroupings, List.mem_cons, Write.replace.injEq, reduceCtorEq, false_or,
      List.not_mem_nil, or_false] at hm
    obtain ⟨-, -, rfl⟩ | ⟨-, -, rfl⟩ := hm
    · decide
    · decide
  obtain ⟨hlisted, hknown, -, hrefreshed, -⟩ := groups_follow_log true twoGroupings hc
  obtain ⟨groups, hlist, hids, hlatest⟩ := hlisted .authors .nonLetter
  have hnumbers : listedNumbers ((new true).log twoGroupings) .authors .nonLetter = [1, 7, 1] := by
    decide +kernel
  refine ⟨⟨groups, hlist, hids.trans hnumbers, hlatest⟩, ?_, ?_, ?_⟩
  · rw [hknown .authors 1]
    decide +kernel
  · rw [hknown .authors 7]
    decide +kernel
  · rw [hrefreshed s]
    decide +kernel

end New

end Repository

end ModuleArchive
