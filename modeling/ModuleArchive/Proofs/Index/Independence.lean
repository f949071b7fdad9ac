import ModuleArchive.Proofs.Index.Keys
import ModuleArchive.Proofs.Index.Run

/-!
# Writes that do not meddle with each other

Two writes that address different sets and do not leave a record differently that both of them
write may be made in either order: whatever is asked of the index afterwards, the answer is the
same. The rows of the index may stand in a different order, but no read depends on it.
-/
namespace ModuleArchive

namespace Index

/-! ### What a write addresses -/

/-- The set whose listing or refresh time a write changes. -/
def Write.scope? : Write → Option Scope
  | replace s _ _ => some s
  | putTrack g id _ => some (.tracks g id)
  | putGroup _ _ => none

/-- Whether each record that two writes both make is left the same by one and by the other. What
counts of a record that a write makes more than once is how the write leaves it. -/
structure Write.Agree (w₁ w₂ : Write) : Prop where
  groups : ∀ g id a b, lastGroup? [w₁] g id = some a → lastGroup? [w₂] g id = some b → a = b
  tracks : ∀ path a b, lastTrack? [w₁] path = some a → lastTrack? [w₂] path = some b → a = b

/-! ### Indexes that give the same answers -/

/-- Whether two indexes list the same names and have the same records and times. -/
structure Alike (a b : Index) : Prop where
  names_eq : ∀ s, a.names s = b.names s
  group_eq : ∀ key, a.groups.get? key = b.groups.get? key
  track_eq : ∀ path, a.tracks.get? path = b.tracks.get? path
  refresh_eq : ∀ key, a.refreshes.get? key = b.refreshes.get? key

namespace Alike

variable {a b : Index} (h : Alike a b)

include h

lemma bucketGroups_eq (owner : Grouping × Bucket) :
    a.bucketGroups.list owner = b.bucketGroups.list owner := h.names_eq (.bucket owner.1 owner.2)

lemma groupTracks_eq (owner : Grouping × UInt32) :
    a.groupTracks.list owner = b.groupTracks.list owner := h.names_eq (.tracks owner.1 owner.2)

lemma listBucket_eq (g : Grouping) (bucket : Bucket) :
    a.listBucket g bucket = b.listBucket g bucket := by
  simp only [listBucket, bucketRecords, h.bucketGroups_eq, h.group_eq]

lemma trackRecords_eq (g : Grouping) (id : UInt32) : a.trackRecords g id = b.trackRecords g id := by
  simp only [trackRecords, h.groupTracks_eq, h.track_eq]

lemma listTracks_eq (g : Grouping) (id : UInt32) : a.listTracks g id = b.listTracks g id := by
  rw [listTracks, listTracks, h.trackRecords_eq]

lemma findTrack_eq (g : Grouping) (id : UInt32) (filename : String) :
    a.findTrack g id filename = b.findTrack g id filename := by
  rw [findTrack, findTrack, h.trackRecords_eq]

lemma getGroup_eq (g : Grouping) (id : UInt32) : a.getGroup g id = b.getGroup g id := by
  rw [getGroup, getGroup, h.group_eq]

lemma refreshedAt_eq (s : Scope) : a.refreshedAt s = b.refreshedAt s := by
  rw [refreshedAt, refreshedAt, h.refresh_eq]

/-- The tables have as many rows as keys, and the keys are the same. -/
lemma statistics_eq (ha : a.Keyed) (hb : b.Keyed) : a.statistics = b.statistics := by
  rw [statistics, statistics, ha.buckets.length_eq hb.buckets h.bucketGroups_eq,
    ha.listings.length_eq hb.listings h.groupTracks_eq, Table.size_eq ha.groups hb.groups h.group_eq,
    Table.size_eq ha.refreshes hb.refreshes h.refresh_eq,
    Table.size_eq ha.tracks hb.tracks h.track_eq]

end Alike

/-! ### Writes in either order -/

section Swap

variable {w w₁ w₂ : Write} {s : Scope}

lemma added_eq_none (h : w.scope? ≠ some s) : w.added s = none := by
  cases w with
  | replace s' items time => rfl
  | putGroup g group => rfl
  | putTrack g id track =>
    cases s with
    | bucket g' b => rfl
    | tracks g' id' =>
      rw [Write.added, if_neg]
      rintro ⟨rfl, rfl⟩
      exact h rfl

/-- A write changes the listing of no set but the one that it addresses. -/
lemma names_apply_of_scope_ne (ws : List Write) (h : w.scope? ≠ some s) :
    (w.apply (ofWrites ws)).names s = (ofWrites ws).names s := by
  have hne : ∀ items time, Write.replace s items time ≠ w := by
    rintro items time rfl
    exact h rfl
  rw [names_apply ws hne, added_eq_none h]
  rfl

/-- What a write makes of a listing depends on that listing alone. -/
lemma names_apply_congr {ws vs : List Write} (h : (ofWrites ws).names s = (ofWrites vs).names s)
    (w : Write) : (w.apply (ofWrites ws)).names s = (w.apply (ofWrites vs)).names s := by
  by_cases hw : ∃ items time, Write.replace s items time = w
  · obtain ⟨items, time, rfl⟩ := hw
    rw [← ofWrites_concat, ← ofWrites_concat, names_replace, names_replace]
  · have hne : ∀ items time, Write.replace s items time ≠ w := fun items time heq =>
      hw ⟨items, time, heq⟩
    rw [names_apply ws hne, names_apply vs hne, h]

/-- The listing of a set that at most one of two writes addresses. -/
lemma names_swap (ws : List Write) (hs : w₁.scope? = some s → w₂.scope? ≠ some s) :
    (ofWrites (ws ++ [w₁] ++ [w₂])).names s = (ofWrites (ws ++ [w₂] ++ [w₁])).names s := by
  have happly (w : Write) : (ofWrites (ws ++ [w])).names s = (w.apply (ofWrites ws)).names s := by
    rw [ofWrites_concat]
  rw [ofWrites_concat, ofWrites_concat (ws ++ [w₂])]
  by_cases h₁ : w₁.scope? = some s
  · have hkept := names_apply_of_scope_ne ws (hs h₁)
    rw [names_apply_of_scope_ne _ (hs h₁), happly,
      names_apply_congr ((happly w₂).trans hkept) w₁]
  · have hkept := names_apply_of_scope_ne ws h₁
    rw [names_apply_of_scope_ne _ h₁, happly, names_apply_congr ((happly w₁).trans hkept) w₂]

lemma lastGroup?_of_find? {x : Grouping × Group} {key : Grouping × Int}
    (h : w.groups.reverse.find? (keyOfGroup · = key) = some x) :
    lastGroup? [w] key.1 x.2.id = some x.2 ∧ keyOfGroup x = key := by
  obtain rfl : keyOfGroup x = key := by simpa using List.find?_some h
  have hkey (y : Grouping × Group) : keyOfGroup y = keyOfGroup x ↔ y.1 = x.1 ∧ y.2.id = x.2.id := by
    rw [keyOfGroup, keyOfGroup, Prod.mk.injEq, memberOfGroup_inj]
  simp only [hkey] at h
  rw [lastGroup?, List.flatMap_singleton]
  exact ⟨by rw [show (keyOfGroup x).1 = x.1 from rfl, h, Option.map_some], rfl⟩

lemma group_swap (ix : Index) (h : w₁.Agree w₂) (key : Grouping × Int) :
    (w₂.apply (w₁.apply ix)).groups.get? key = (w₁.apply (w₂.apply ix)).groups.get? key := by
  apply Table.get?_putAll_swap
  intro x y hx hy
  obtain ⟨hlastx, hkeyx⟩ := lastGroup?_of_find? hx
  obtain ⟨hlasty, hkeyy⟩ := lastGroup?_of_find? hy
  have hid : x.2.id = y.2.id :=
    memberOfGroup_inj.mp (congrArg Prod.snd (hkeyx.trans hkeyy.symm))
  rw [← hid] at hlasty
  rw [recordOfGroup, recordOfGroup, h.groups _ _ _ _ hlastx hlasty]

lemma track_swap (ix : Index) (h : w₁.Agree w₂) (path : String) :
    (w₂.apply (w₁.apply ix)).tracks.get? path = (w₁.apply (w₂.apply ix)).tracks.get? path := by
  have hlast (w : Write) : lastTrack? [w] path = w.tracks.reverse.find? (·.path = path) := by
    rw [lastTrack?, List.flatMap_singleton]
  apply Table.get?_putAll_swap
  intro x y hx hy
  rw [h.tracks path x y ((hlast w₁).trans hx) ((hlast w₂).trans hy)]

lemma scope?_of_refresh? {x : Scope × Instant} (h : w.refresh? = some x) : w.scope? = some x.1 := by
  cases w with
  | replace s items time =>
    obtain rfl := Option.some_inj.mp h
    rfl
  | putGroup g group => contradiction
  | putTrack g id track => contradiction

lemma refresh_swap (ix : Index) (h : ∀ s, w₁.scope? = some s → w₂.scope? ≠ some s)
    (key : String) : (w₂.apply (w₁.apply ix)).refreshes.get? key =
      (w₁.apply (w₂.apply ix)).refreshes.get? key := by
  -- the last refresh of a write under a key is of the set with that key
  have hscope {w : Write} {x : Scope × Instant}
      (hx : w.refresh?.toList.reverse.find? (fun x => x.1.key = key) = some x) :
      w.scope? = some x.1 ∧ x.1.key = key := by
    have hm := List.mem_reverse.mp (List.mem_of_find?_eq_some hx)
    exact ⟨scope?_of_refresh? (Option.mem_toList.mp hm), by simpa using List.find?_some hx⟩
  simp only [Write.apply, refreshes_eq_putAll]
  apply Table.get?_putAll_swap
  intro x y hx hy
  obtain ⟨hs₁, hk₁⟩ := hscope hx
  obtain ⟨hs₂, hk₂⟩ := hscope hy
  rw [Scope.key_injective (hk₁.trans hk₂.symm)] at hs₁
  exact absurd hs₂ (h _ hs₁)

/-- Writes to different sets that agree about the records they share may be made in either order. -/
theorem alike_swap (ws : List Write) (hs : ∀ s, w₁.scope? = some s → w₂.scope? ≠ some s)
    (h : w₁.Agree w₂) :
    Alike (ofWrites (ws ++ [w₁] ++ [w₂])) (ofWrites (ws ++ [w₂] ++ [w₁])) where
  names_eq s := names_swap ws (hs s)
  group_eq key := by
    simp only [ofWrites_concat]
    exact group_swap _ h key
  track_eq path := by
    simp only [ofWrites_concat]
    exact track_swap _ h path
  refresh_eq key := by
    simp only [ofWrites_concat]
    exact refresh_swap _ hs key

end Swap

end Index

namespace Repository

open Index (Write Fits ofWrites)

/-- Whether two repositories answer every question alike. -/
structure SameAnswers (r r' : Repository) : Prop where
  listBucket : ∀ g b, r.query (·.listBucket g b) = r'.query (·.listBucket g b)
  listTracks : ∀ g id, r.query (·.listTracks g id) = r'.query (·.listTracks g id)
  getGroup : ∀ g id, r.query (·.getGroup g id) = r'.query (·.getGroup g id)
  findTrack : ∀ g id filename,
    r.query (·.findTrack g id filename) = r'.query (·.findTrack g id filename)
  refreshedAt : ∀ s, r.query (·.refreshedAt s) = r'.query (·.refreshedAt s)
  statistics : r.query (fun ix => .ok ix.statistics) = r'.query (fun ix => .ok ix.statistics)

variable {r r' : Repository}

lemma sameAnswers_of_alike (hr : r.isOpen = true) (hr' : r'.isOpen = true)
    (h : Index.Alike r.index r'.index) (hk : r.index.Keyed) (hk' : r'.index.Keyed) :
    SameAnswers r r' := by
  have hquery {α : Type} {read : Index → Except Index.Error α}
      (hread : read r.index = read r'.index) : r.query read = r'.query read := by
    rw [query, query, if_pos hr, if_pos hr', hread]
  exact ⟨fun g b => hquery (h.listBucket_eq g b), fun g id => hquery (h.listTracks_eq g id),
    fun g id => hquery (h.getGroup_eq g id),
    fun g id filename => hquery (h.findTrack_eq g id filename),
    fun s => hquery (h.refreshedAt_eq s), hquery (congrArg Except.ok (h.statistics_eq hk hk'))⟩

section Commute

variable {isPersistent : Bool} {calls : List Write}

/-- A write that succeeds after some calls is one that can be stored. -/
lemma fits_of_write {w : Write}
    (h : (((new isPersistent).after calls).write w).1 = .ok ()) : ∀ t ∈ w.tracks, Fits t := by
  rw [write_eq (isOpen_after_new isPersistent calls)] at h
  by_contra hf
  rw [if_neg hf] at h
  contradiction

/-- Whether a write can be stored does not depend on what the index holds. -/
lemma write_of_fits {w : Write} (h : ∀ t ∈ w.tracks, Fits t) (calls : List Write) :
    ((new isPersistent).after calls).write w = (.ok (), (new isPersistent).after (calls ++ [w])) := by
  have hwrite := write_eq (isOpen_after_new isPersistent calls) w
  rw [if_pos h] at hwrite
  rw [hwrite, (log_concat_of_write hwrite).1]

/-- Two writes that succeed after some calls, that do not address the same set and that leave the
records they both write the same, succeed in either order, and then every question has the same
answer. -/
theorem independent_writes_commute {w₁ w₂ : Write}
    (h₁ : (((new isPersistent).after calls).write w₁).1 = .ok ())
    (h₂ : (((new isPersistent).after calls).write w₂).1 = .ok ())
    (hscopes : ∀ s, w₁.scope? = some s → w₂.scope? ≠ some s) (hrecords : w₁.Agree w₂) :
    let one := (((new isPersistent).after calls).write w₁).2.write w₂
    let other := (((new isPersistent).after calls).write w₂).2.write w₁
    one.1 = .ok () ∧ other.1 = .ok () ∧ SameAnswers one.2 other.2 := by
  intro one other
  have hfits₁ := fits_of_write h₁
  have hfits₂ := fits_of_write h₂
  have hone : one = (.ok (), (new isPersistent).after (calls ++ [w₁] ++ [w₂])) := by
    simp only [one, write_of_fits hfits₁, write_of_fits hfits₂]
  have hother : other = (.ok (), (new isPersistent).after (calls ++ [w₂] ++ [w₁])) := by
    simp only [other, write_of_fits hfits₁, write_of_fits hfits₂]
  have hlog {v v' : Write} (hv : ∀ t ∈ v.tracks, Fits t) (hv' : ∀ t ∈ v'.tracks, Fits t) :
      ((new isPersistent).after (calls ++ [v] ++ [v'])).index =
        ofWrites ((new isPersistent).log calls ++ [v] ++ [v']) := by
    rw [after_new, (log_concat_of_write (write_of_fits hv' _)).2,
      (log_concat_of_write (write_of_fits hv _)).2]
  rw [hone, hother]
  refine ⟨rfl, rfl, sameAnswers_of_alike (isOpen_after_new _ _) (isOpen_after_new _ _) ?_ ?_ ?_⟩
  · rw [hlog hfits₁ hfits₂, hlog hfits₂ hfits₁]
    exact Index.alike_swap _ hscopes hrecords
  · rw [hlog hfits₁ hfits₂]
    exact Index.keyed_ofWrites _
  · rw [hlog hfits₂ hfits₁]
    exact Index.keyed_ofWrites _

/-- A listing with a track twice, and the same track recorded under another grouping with the size
that the listing leaves it with. -/
theorem independent_writes_commute_sharedTrack :
    let calls := [Write.putTrack .formats 9 (.ofPath "/pub/b.mod" 5)]
    let w₁ : Write := .replace (.tracks .authors 1)
      [.ofPath "/pub/a.mod" 4, .ofPath "/pub/b.mod" 7, .ofPath "/pub/a.mod" 6]
      (.ofSeconds 1750000000)
    let w₂ : Write := .putTrack .formats 9 (.ofPath "/pub/a.mod" 6)
    let one := (((new true).after calls).write w₁).2.write w₂
    let other := (((new true).after calls).write w₂).2.write w₁
    w₁.Agree w₂ ∧ one.1 = .ok () ∧ other.1 = .ok () ∧ SameAnswers one.2 other.2 ∧
      one.2.query (fun ix => .ok ix.statistics) = .ok [("bucket_groups", 0), ("group_tracks", 5),
        ("groups", 0), ("refreshes", 1), ("tracks", 2)] := by
  intro calls w₁ w₂ one other
  have hscopes : ∀ s, w₁.scope? = some s → w₂.scope? ≠ some s := by
    rintro s h₁ h₂
    obtain rfl := Option.some_inj.mp h₁
    exact absurd h₂ (by decide)
  have hrecords : w₁.Agree w₂ := by
    constructor
    · intro g id a b ha hb
      contradiction
    · intro path a b ha hb
      obtain ⟨hm, rfl⟩ := Index.mem_of_lastTrack? hb
      obtain rfl : b = .ofPath "/pub/a.mod" 6 := List.mem_singleton.mp hm
      have hlast : Index.lastTrack? [w₁] "/pub/a.mod" = some (.ofPath "/pub/a.mod" 6) := by
        decide +kernel
      exact Option.some_inj.mp (ha.symm.trans hlast)
  have hsucceeds : (((new true).after calls).write w₁).1 = .ok () ∧
      (((new true).after calls).write w₂).1 = .ok () := by decide +kernel
  obtain ⟨hone, hother, hsame⟩ :=
    independent_writes_commute hsucceeds.1 hsucceeds.2 hscopes hrecords
  exact ⟨hrecords, hone, hother, hsame, by decide +kernel⟩

end Commute

end Repository

end ModuleArchive
