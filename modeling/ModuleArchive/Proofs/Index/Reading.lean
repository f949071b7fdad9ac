import ModuleArchive.Proofs.Index.Log
import ModuleArchive.Proofs.Traverse

/-!
# Reading an index

Whatever has been written to an index that started empty can be read: every name that is listed
has a record, and every record reads as the group or track that was written.
-/
namespace ModuleArchive.Index

/-! ### Records -/

lemma word?_toNat (n : UInt32) : word? n.toNat = some n := by
  have hlt : (n.toNat : Int) < UInt32.size := Int.ofNat_lt.mpr n.toNat_lt_size
  have hle : (0 : Int) ≤ n.toNat := Int.natCast_nonneg _
  simp only [word?, hle, hlt, and_self, if_true, Int.toNat_natCast, UInt32.ofNat_toNat]

@[simp] lemma toGroup_ofGroup (group : Group) :
    (GroupRecord.ofGroup group).toGroup (memberOfGroup group) = .ok group := by
  have hid : word? (memberOfGroup group) = some group.id := word?_toNat group.id
  have htracks : word? (GroupRecord.ofGroup group).tracks = some group.tracks :=
    word?_toNat group.tracks
  rw [GroupRecord.toGroup, hid, htracks]
  rfl

@[simp] lemma toTrack_recordOfTrack (t : Track) : (recordOfTrack t).toTrack t.path = .ok t := by
  rw [TrackRecord.toTrack, recordOfTrack, if_pos (by simp)]
  simp

lemma memberOfGroup_inj {a b : Group} : memberOfGroup a = memberOfGroup b ↔ a.id = b.id := by
  rw [memberOfGroup, memberOfGroup, Int.ofNat_inj, UInt32.toNat_inj]

/-- Groups that are listed under the same names have the same numbers. -/
lemma map_id_eq_of_names {groups : List Group} {ids : List UInt32}
    (h : groups.map memberOfGroup = ids.map fun id => (id.toNat : Int)) :
    groups.map Group.id = ids := by
  have hinj : Function.Injective fun id : UInt32 => (id.toNat : Int) := fun a b hab =>
    UInt32.toNat_inj.mp (Int.ofNat_inj.mp hab)
  apply hinj.list_map
  rw [← h, List.map_map]
  rfl

/-- Whether a record of this set, or of any set that shares its records, was written. -/
def Written (ws : List Write) : (s : Scope) → s.Item → Prop
  | .bucket g _, group => (g, group) ∈ ws.flatMap Write.groups
  | .tracks _ _, track => track ∈ ws.flatMap Write.tracks

/-- The group that was written last under a grouping and a number. -/
def lastGroup? (ws : List Write) (g : Grouping) (id : UInt32) : Option Group :=
  ((ws.flatMap Write.groups).reverse.find? fun x => x.1 = g ∧ x.2.id = id).map (·.2)

/-- The track that was written last under a path, in whatever set. -/
def lastTrack? (ws : List Write) (path : String) : Option Track :=
  (ws.flatMap Write.tracks).reverse.find? (·.path = path)

/-- Whether a record is the one that was written last under its name. -/
def IsLatest (ws : List Write) : (s : Scope) → s.Item → Prop
  | .bucket g _, group => lastGroup? ws g group.id = some group
  | .tracks _ _, track => lastTrack? ws track.path = some track

section Latest

variable {ws : List Write}

lemma mem_of_lastGroup? {g : Grouping} {id : UInt32} {group : Group}
    (h : lastGroup? ws g id = some group) :
    (g, group) ∈ ws.flatMap Write.groups ∧ group.id = id := by
  obtain ⟨⟨g', group'⟩, hf, rfl⟩ := Option.map_eq_some_iff.mp h
  obtain ⟨rfl, hid⟩ : g' = g ∧ group'.id = id := by simpa using List.find?_some hf
  exact ⟨List.mem_reverse.mp (List.mem_of_find?_eq_some hf), hid⟩

lemma mem_of_lastTrack? {path : String} {t : Track} (h : lastTrack? ws path = some t) :
    t ∈ ws.flatMap Write.tracks ∧ t.path = path :=
  ⟨List.mem_reverse.mp (List.mem_of_find?_eq_some h), by simpa using List.find?_some h⟩

lemma IsLatest.written {s : Scope} {item : s.Item} (h : IsLatest ws s item) :
    Written ws s item := by
  cases s with
  | bucket g b => exact (mem_of_lastGroup? h).1
  | tracks g id => exact (mem_of_lastTrack? h).1

/-- What was written has been written last by itself or by another record with its name. -/
lemma exists_latest_of_written {s : Scope} {item : s.Item} (h : Written ws s item) :
    ∃ last, nameOf s last = nameOf s item ∧ IsLatest ws s last := by
  cases s with
  | bucket g b =>
    have hsome : ((ws.flatMap Write.groups).reverse.find? fun x =>
        x.1 = g ∧ x.2.id = item.id).isSome := by
      rw [List.find?_isSome]
      exact ⟨_, List.mem_reverse.mpr h, by simp⟩
    obtain ⟨x, hx⟩ := Option.isSome_iff_exists.mp hsome
    have hlast : lastGroup? ws g item.id = some x.2 := by rw [lastGroup?, hx, Option.map_some]
    have hid := (mem_of_lastGroup? hlast).2
    refine ⟨x.2, memberOfGroup_inj.mpr hid, ?_⟩
    rw [IsLatest, hid, hlast]
  | tracks g id =>
    have hsome : ((ws.flatMap Write.tracks).reverse.find? (·.path = item.path)).isSome := by
      rw [List.find?_isSome]
      exact ⟨item, List.mem_reverse.mpr h, by simp⟩
    obtain ⟨t, ht⟩ := Option.isSome_iff_exists.mp hsome
    have hpath := (mem_of_lastTrack? ht).2
    refine ⟨t, hpath, ?_⟩
    rw [IsLatest, hpath]
    exact ht

lemma lastGroup?_append (ws more : List Write) (g : Grouping) (id : UInt32) :
    lastGroup? (ws ++ more) g id = (lastGroup? more g id).or (lastGroup? ws g id) := by
  rw [lastGroup?, List.flatMap_append, List.reverse_append, List.find?_append, Option.map_or]
  rfl

lemma lastTrack?_append (ws more : List Write) (path : String) :
    lastTrack? (ws ++ more) path = (lastTrack? more path).or (lastTrack? ws path) := by
  rw [lastTrack?, List.flatMap_append, List.reverse_append, List.find?_append]
  rfl

/-- The record that is kept of a group is the one that was written last. -/
lemma get?_groups_ofWrites (ws : List Write) (g : Grouping) (id : UInt32) :
    (ofWrites ws).groups.get? (g, id.toNat) = (lastGroup? ws g id).map GroupRecord.ofGroup := by
  have hkey (x : Grouping × Group) : keyOfGroup x = (g, (id.toNat : Int)) ↔
      x.1 = g ∧ x.2.id = id := by
    rw [keyOfGroup, Prod.mk.injEq, memberOfGroup, Int.ofNat_inj, UInt32.toNat_inj]
  rw [groups_ofWrites, Table.get?_putAll, Table.get?_empty, Option.or_none, lastGroup?,
    Option.map_map]
  simp only [hkey]
  rfl

/-- The record that is kept of a track is the one that was written last. -/
lemma get?_tracks_ofWrites (ws : List Write) (path : String) :
    (ofWrites ws).tracks.get? path = (lastTrack? ws path).map recordOfTrack := by
  rw [tracks_ofWrites, Table.get?_putAll, Table.get?_empty, Option.or_none, lastTrack?]

end Latest

/-! ### Sets -/

lemma written_of_replaced {ws : List Write} {s : Scope} {items : List s.Item} {time : Instant}
    {item : s.Item} (hw : .replace s items time ∈ ws) (h : item ∈ items) : Written ws s item := by
  cases s with
  | bucket g b => exact List.mem_flatMap.mpr ⟨_, hw, List.mem_map_of_mem h⟩
  | tracks g id => exact List.mem_flatMap.mpr ⟨_, hw, h⟩

lemma mem_extend {α : Type} [DecidableEq α] {listed more : List α} {name : α} :
    name ∈ extend listed more ↔ name ∈ listed ∨ name ∈ more := by
  induction more generalizing listed with
  | nil => simp
  | cons next rest ih =>
    rw [extend, List.foldl_cons, ← extend, ih]
    split
    · next hn =>
      rw [List.mem_cons]
      constructor
      · rintro (h | h)
        · exact .inl h
        · exact .inr (.inr h)
      · rintro (h | rfl | h)
        · exact .inl h
        · exact .inl hn
        · exact .inr h
    · rw [List.mem_append, List.mem_singleton, List.mem_cons, or_assoc]

lemma written_of_added {ws : List Write} {s : Scope} {w : Write} {name : Name s} (hw : w ∈ ws)
    (h : w.added s = some name) : ∃ item, nameOf s item = name ∧ Written ws s item := by
  cases w with
  | replace s' items time => contradiction
  | putGroup g group => contradiction
  | putTrack g id track =>
    cases s with
    | bucket g' b' => contradiction
    | tracks g' id' =>
      rw [Write.added] at h
      split at h
      · exact ⟨track, Option.some_inj.mp h, List.mem_flatMap.mpr ⟨_, hw, List.mem_cons_self⟩⟩
      · contradiction

/-- Every name that is listed comes from a write that replaced the set or added the name to it. -/
lemma exists_write_of_mem_names {ws : List Write} {s : Scope} {name : Name s}
    (h : name ∈ (ofWrites ws).names s) :
    (∃ items time, .replace s items time ∈ ws ∧ name ∈ items.map (nameOf s)) ∨
      ∃ w ∈ ws, w.added s = some name := by
  rcases keeps_or_storedLast s ws with hk | ⟨items, time, since, hs⟩
  · rw [hk.names_eq, mem_extend] at h
    exact .inr (List.mem_filterMap.mp (h.resolve_left List.not_mem_nil))
  · rw [hs.names_eq, mem_extend] at h
    rcases h with hm | hm
    · exact .inl ⟨items, time, hs.replace_mem, hm⟩
    · obtain ⟨w, hw, ha⟩ := List.mem_filterMap.mp hm
      exact .inr ⟨w, hs.mem_of_mem_since hw, ha⟩

/-- Every name that is listed is that of a record that was written last under it. -/
lemma exists_latest_of_mem_names {ws : List Write} {s : Scope} {name : Name s}
    (h : name ∈ (ofWrites ws).names s) : ∃ item, nameOf s item = name ∧ IsLatest ws s item := by
  have hwritten : ∃ item, nameOf s item = name ∧ Written ws s item := by
    rcases exists_write_of_mem_names h with ⟨items, time, hw, hm⟩ | ⟨w, hw, ha⟩
    · obtain ⟨item, hitem, hname⟩ := List.mem_map.mp hm
      exact ⟨item, hname, written_of_replaced hw hitem⟩
    · exact written_of_added hw ha
  obtain ⟨item, rfl, hw⟩ := hwritten
  exact exists_latest_of_written hw

/-! ### Reads -/

/-- Reading record by record gives back as many items under the same names. -/
lemma mapM_filterMap_ok {ν ρ ι ε : Type} {record? : ν → Option ρ} {read : ν × ρ → Except ε ι}
    {name : ι → ν} {P : ι → Prop} {ns : List ν}
    (h : ∀ n ∈ ns, ∃ r item, record? n = some r ∧ read (n, r) = .ok item ∧ name item = n ∧ P item) :
    ∃ items, (ns.filterMap fun n => (record? n).map (n, ·)).mapM read = .ok items ∧
      items.map name = ns ∧ ∀ item ∈ items, P item := by
  induction ns with
  | nil => exact ⟨[], rfl, rfl, fun _ hm => absurd hm List.not_mem_nil⟩
  | cons n ns ih =>
    obtain ⟨hn, hns⟩ := List.forall_mem_cons.mp h
    obtain ⟨r, item, hr, hread, hname, hitem⟩ := hn
    obtain ⟨items, hitems, hnames, hall⟩ := ih hns
    refine ⟨item :: items, ?_, ?_, List.forall_mem_cons.mpr ⟨hitem, hall⟩⟩
    · rw [List.filterMap_cons, hr, Option.map_some, List.mapM_cons, hread, hitems]
      rfl
    · rw [List.map_cons, hname, hnames]

/-- A set reads as it is listed, with the records that were written last. -/
theorem list_ofWrites (ws : List Write) (s : Scope) :
    ∃ items, (ofWrites ws).list s = .ok items ∧ items.map (nameOf s) = (ofWrites ws).names s ∧
      ∀ item ∈ items, IsLatest ws s item := by
  cases s with
  | bucket g b =>
    apply mapM_filterMap_ok
    intro n hn
    obtain ⟨last, rfl, hlast⟩ := exists_latest_of_mem_names (s := .bucket g b) hn
    have hrecord := get?_groups_ofWrites ws g last.id
    rw [show lastGroup? ws g last.id = some last from hlast] at hrecord
    exact ⟨_, last, hrecord, toGroup_ofGroup last, rfl, hlast⟩
  | tracks g id =>
    apply mapM_filterMap_ok
    intro path hp
    obtain ⟨last, rfl, hlast⟩ := exists_latest_of_mem_names (s := .tracks g id) hp
    have hrecord := get?_tracks_ofWrites ws last.path
    rw [show lastTrack? ws last.path = some last from hlast] at hrecord
    exact ⟨_, last, hrecord, toTrack_recordOfTrack last, rfl, hlast⟩

theorem getGroup_ofWrites (ws : List Write) (g : Grouping) (id : UInt32) :
    (ofWrites ws).getGroup g id = .ok (lastGroup? ws g id) := by
  rw [getGroup, get?_groups_ofWrites]
  cases hlast : lastGroup? ws g id with
  | none => rfl
  | some group =>
    obtain ⟨-, rfl⟩ := mem_of_lastGroup? hlast
    have hread := toGroup_ofGroup group
    rw [memberOfGroup] at hread
    simp only [Option.map_some, hread]
    rfl

lemma filename_of_toTrack {path : String} {r : TrackRecord} {t : Track}
    (h : r.toTrack path = .ok t) : t.filename = r.filename := by
  rw [TrackRecord.toTrack] at h
  split at h
  · obtain rfl := Except.ok.inj h
    rfl
  · contradiction

/-- Looking for a file name finds what the listing has first. -/
theorem findTrack_eq {ix : Index} {g : Grouping} {id : UInt32} {tracks : List Track}
    (h : ix.listTracks g id = .ok tracks) (filename : String) :
    ix.findTrack g id filename = .ok (tracks.find? (·.filename = filename)) := by
  have hrecords := mapM_eq_ok_iff.mp h
  clear h
  rw [findTrack]
  generalize ix.trackRecords g id = records at hrecords
  induction hrecords with
  | nil => rfl
  | @cons record t _ _ hread _ ih =>
    have hname := filename_of_toTrack hread
    rw [List.find?_cons, List.find?_cons, hname]
    by_cases hf : record.2.filename = filename
    · simp only [hf, decide_true, hread]
      rfl
    · simp only [hf, decide_false]
      exact ih

/-! ### Refresh times -/

/-- Whether a time belongs to a year of the calendar. -/
def IsDated (time : Instant) : Prop :=
  Instant.firstSecond ≤ time.seconds ∧ time.seconds ≤ Instant.lastSecond

lemma ofSeconds?_of_isDated {time : Instant} (h : IsDated time) :
    Instant.ofSeconds? time.seconds = some (.ofSeconds time.seconds) := if_pos h

lemma refreshedAt_eq_none {ix : Index} {s : Scope} (h : ix.refreshes.get? s.key = none) :
    ix.refreshedAt s = .ok none := by
  rw [refreshedAt, h]

/-- The time that is found is the second that was kept. -/
lemma refreshedAt_eq_ok_some {ix : Index} {s : Scope} {time : Instant}
    (h : ix.refreshedAt s = .ok (some time)) :
    ∃ seconds, ix.refreshes.get? s.key = some seconds ∧ time = .ofSeconds seconds := by
  rw [refreshedAt] at h
  split at h
  · simp at h
  · next seconds hs =>
    split at h
    · next found hf =>
      obtain rfl : found = time := by simpa using h
      rw [Instant.ofSeconds?] at hf
      split at hf
      · exact ⟨seconds, hs, (Option.some_inj.mp hf).symm⟩
      · contradiction
    · simp at h

lemma eq_of_refreshedAt {ix : Index} {s : Scope} {seconds : Int} {found : Option Instant}
    (hs : ix.refreshes.get? s.key = some seconds) (h : ix.refreshedAt s = .ok found) :
    found = some (.ofSeconds seconds) := by
  cases found with
  | none =>
    rw [refreshedAt, hs] at h
    cases hc : Instant.ofSeconds? seconds <;> simp [hc] at h
  | some time =>
    obtain ⟨kept, hkept, rfl⟩ := refreshedAt_eq_ok_some h
    rw [hs, Option.some_inj] at hkept
    rw [hkept]

/-- The time of a set can be read if it was written in a year of the calendar. -/
lemma exists_refreshedAt {ws : List Write} {s : Scope}
    (h : ∀ items time since, StoredLast ws s items time since →
      Instant.firstSecond ≤ time.seconds ∧ time.seconds ≤ Instant.lastSecond) :
    ∃ found, (ofWrites ws).refreshedAt s = .ok found := by
  rcases keeps_or_storedLast s ws with hk | ⟨items, time, since, hs⟩
  · exact ⟨none, refreshedAt_eq_none hk.refreshes_eq⟩
  · refine ⟨some (.ofSeconds time.seconds), ?_⟩
    rw [refreshedAt, hs.refreshes_eq]
    simp only [Instant.ofSeconds?, if_pos (h items time since hs)]

end ModuleArchive.Index
