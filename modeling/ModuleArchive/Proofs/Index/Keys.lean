import ModuleArchive.Proofs.Index.Log
import Mathlib.Data.Set.Card

/-!
# Keys and rows

A table has one row for each of its keys, and listings that are numbered have one row for each of
their places. So the number of rows is that of the keys, whatever order the rows are kept in. No
write gives two rows of a table the same key.
-/
namespace ModuleArchive.Index

/-- Things that have distinct keys are as many as their keys. -/
lemma encard_eq_length {α κ : Type} {keys : List κ} (hn : keys.Nodup) {f : α → κ}
    (hf : Function.Injective f) {s : Set α} (hs : ∀ a, a ∈ s ↔ f a ∈ keys)
    (hk : ∀ key ∈ keys, ∃ a, f a = key) : s.encard = keys.length := by
  classical
  have himage : f '' s = (keys.toFinset : Set κ) := by
    ext key
    rw [Set.mem_image, List.coe_toFinset, Set.mem_ofPred_eq]
    constructor
    · rintro ⟨a, ha, rfl⟩
      exact (hs a).mp ha
    · intro hkey
      obtain ⟨a, rfl⟩ := hk key hkey
      exact ⟨a, (hs a).mpr hkey, rfl⟩
  rw [← hf.encard_image s, himage, Set.encard_coe_eq_coe_finsetCard,
    List.toFinset_card_of_nodup hn]

/-! ### Tables -/

namespace Table

variable {κ α β : Type}

def keys (t : Table κ α) : List κ := t.entries.map (·.1)

lemma length_keys (t : Table κ α) : t.keys.length = t.size := List.length_map ..

variable [DecidableEq κ]

lemma isSome_get? {t : Table κ α} {key : κ} : (t.get? key).isSome ↔ key ∈ t.keys := by
  rw [get?, Option.isSome_map, List.find?_isSome, keys, List.mem_map]
  simp only [decide_eq_true_eq]

lemma mem_entries_of_get? {t : Table κ α} {key : κ} {record : α} (h : t.get? key = some record) :
    (key, record) ∈ t.entries := by
  obtain ⟨entry, hf, rfl⟩ := Option.map_eq_some_iff.mp h
  obtain rfl : entry.1 = key := by simpa using List.find?_some hf
  exact List.mem_of_find?_eq_some hf

lemma mem_insertInto {key : κ} {record : α} {entries : List (κ × α)} {entry : κ × α}
    (h : entry ∈ insertInto key record entries) : entry = (key, record) ∨ entry ∈ entries := by
  induction entries with
  | nil => exact .inl (List.mem_singleton.mp h)
  | cons first rest ih =>
    rw [insertInto] at h
    split at h
    · rcases List.mem_cons.mp h with rfl | h
      · exact .inl rfl
      · exact .inr (List.mem_cons_of_mem first h)
    · rcases List.mem_cons.mp h with rfl | h
      · exact .inr List.mem_cons_self
      · exact (ih h).imp_right (List.mem_cons_of_mem first)

/-- A key that is there keeps its place, any other one takes the last place. -/
lemma map_fst_insertInto (key : κ) (record : α) (entries : List (κ × α)) :
    (insertInto key record entries).map (·.1) =
      if key ∈ entries.map (·.1) then entries.map (·.1) else entries.map (·.1) ++ [key] := by
  induction entries with
  | nil => rfl
  | cons first rest ih =>
    obtain ⟨k, r⟩ := first
    rw [insertInto]
    by_cases hk : k = key
    · subst hk
      simp
    · rw [if_neg hk, List.map_cons, ih]
      by_cases hm : key ∈ rest.map (·.1)
      · simp [hm]
      · simp [hm, Ne.symm hk]

lemma nodup_keys_put {t : Table κ α} (h : t.keys.Nodup) (key : κ) (record : α) :
    (t.put key record).keys.Nodup := by
  rw [keys, put, map_fst_insertInto]
  split
  · exact h
  · next hk =>
    rw [List.nodup_append]
    refine ⟨h, List.nodup_singleton key, ?_⟩
    rintro other ho _ hs rfl
    obtain rfl := List.mem_singleton.mp hs
    exact hk ho

variable {keyOf : β → κ} {recordOf : β → α}

lemma nodup_keys_putAll {t : Table κ α} (h : t.keys.Nodup) (values : List β) :
    (t.putAll keyOf recordOf values).keys.Nodup := by
  induction values generalizing t with
  | nil => exact h
  | cons v rest ih => exact ih (nodup_keys_put h (keyOf v) (recordOf v))

/-- What stands in a table after some values have been put in was there before or is one of them. -/
lemma mem_entries_putAll {t : Table κ α} {values : List β} {entry : κ × α}
    (h : entry ∈ (t.putAll keyOf recordOf values).entries) :
    entry ∈ t.entries ∨ ∃ v ∈ values, entry = (keyOf v, recordOf v) := by
  induction values generalizing t with
  | nil => exact .inl h
  | cons v rest ih =>
    rcases ih h with h | ⟨u, hu, he⟩
    · rcases mem_insertInto h with he | h
      · exact .inr ⟨v, List.mem_cons_self, he⟩
      · exact .inl h
    · exact .inr ⟨u, List.mem_cons_of_mem v hu, he⟩

/-- A key has a record after some values have been put in if it had one before or is the key of one
of them. -/
lemma isSome_get?_putAll {t : Table κ α} {values : List β} {key : κ} :
    ((t.putAll keyOf recordOf values).get? key).isSome ↔
      (t.get? key).isSome ∨ ∃ v ∈ values, keyOf v = key := by
  rw [get?_putAll, Option.isSome_or, Bool.or_eq_true, Option.isSome_map, List.find?_isSome, or_comm]
  simp only [List.mem_reverse, decide_eq_true_eq]

/-- Values may be put in before or after others if they leave the same record of every key that both
have. -/
lemma get?_putAll_swap {t : Table κ α} {as bs : List β} {key : κ}
    (h : ∀ a b, as.reverse.find? (keyOf · = key) = some a →
      bs.reverse.find? (keyOf · = key) = some b → recordOf a = recordOf b) :
    ((t.putAll keyOf recordOf as).putAll keyOf recordOf bs).get? key =
      ((t.putAll keyOf recordOf bs).putAll keyOf recordOf as).get? key := by
  simp only [get?_putAll]
  cases ha : as.reverse.find? (keyOf · = key) with
  | none => simp
  | some a =>
    cases hb : bs.reverse.find? (keyOf · = key) with
    | none => simp
    | some b => simp [h a b ha hb]

/-- A table has as many rows as keys with a record. -/
theorem encard_keys {t : Table κ α} (h : t.keys.Nodup) :
    {key | (t.get? key).isSome}.encard = t.size := by
  rw [← length_keys]
  exact encard_eq_length h Function.injective_id (fun _ => isSome_get?) fun key _ => ⟨key, rfl⟩

/-- Tables with the same records have as many rows, in whatever order. -/
lemma size_eq {t t' : Table κ α} (ht : t.keys.Nodup) (ht' : t'.keys.Nodup)
    (h : ∀ key, t.get? key = t'.get? key) : t.size = t'.size := by
  rw [← ENat.natCast_inj, ← encard_keys ht, ← encard_keys ht']
  simp only [h]

/-- A table that was empty has as many rows as there are names among the values put in, if the keys
tell the names apart. -/
theorem encard_names {ν : Type} {name : β → ν} {key : ν → κ} (hk : Function.Injective key)
    (values : List β) : {n | ∃ v ∈ values, name v = n}.encard =
      (({} : Table κ α).putAll (fun v => key (name v)) recordOf values).size := by
  have hempty : ({} : Table κ α).keys.Nodup := List.nodup_nil
  have hmem (k : κ) : k ∈ (({} : Table κ α).putAll (fun v => key (name v)) recordOf values).keys ↔
      ∃ v ∈ values, key (name v) = k := by
    rw [← isSome_get?, isSome_get?_putAll, get?_empty]
    simp
  rw [← length_keys]
  apply encard_eq_length (nodup_keys_putAll hempty values) hk
  · intro n
    rw [hmem]
    simp only [hk.eq_iff, Set.mem_ofPred_eq]
  · intro k hkey
    obtain ⟨v, -, rfl⟩ := (hmem k).mp hkey
    exact ⟨name v, rfl⟩

end Table

/-! ### Listings -/

namespace Members

variable {κ μ : Type}

/-- What tells the rows of all listings apart. -/
def place (row : Membership κ μ) : κ × Nat := (row.owner, row.position)

lemma map_position_number (owner : κ) (position : Nat) (members : List μ) :
    (number owner position members).map (·.position) = List.range' position members.length := by
  induction members generalizing position with
  | nil => rfl
  | cons member rest ih => rw [number, List.map_cons, ih, List.length_cons, List.range'_succ]

variable [DecidableEq κ]

lemma mem_ofOwner {rows : Members κ μ} {owner : κ} {row : Membership κ μ} :
    row ∈ rows.ofOwner owner ↔ row ∈ rows ∧ row.owner = owner := by
  rw [ofOwner, List.mem_filter, decide_eq_true_eq]

@[simp] lemma length_list (rows : Members κ μ) (owner : κ) :
    (rows.list owner).length = (rows.ofOwner owner).length := by
  rw [list, List.length_map, List.length_mergeSort]

lemma mem_list {rows : Members κ μ} {owner : κ} {member : μ} :
    member ∈ rows.list owner ↔ ∃ row ∈ rows, row.owner = owner ∧ row.member = member := by
  rw [list, List.mem_map]
  simp only [List.mem_mergeSort, mem_ofOwner, and_assoc]

/-- The rows of a listing are numbered from zero, without gaps. -/
lemma Numbered.map_position {rows : Members κ μ} (h : rows.Numbered) (owner : κ) :
    (rows.ofOwner owner).map (·.position) = List.range (rows.ofOwner owner).length := by
  rw [← length_list, h.ofOwner_eq owner, map_position_number, List.range_eq_range']

lemma Numbered.mem_places {rows : Members κ μ} (h : rows.Numbered) {x : κ × Nat} :
    x ∈ rows.map place ↔ x.2 < (rows.list x.1).length := by
  rw [length_list, ← List.mem_range, ← h.map_position, List.mem_map, List.mem_map]
  simp only [mem_ofOwner, place, Prod.ext_iff, and_assoc]

lemma count_place (rows : Members κ μ) (owner : κ) (position : Nat) :
    (rows.map place).count (owner, position) =
      ((rows.ofOwner owner).map (·.position)).count position := by
  induction rows with
  | nil => rfl
  | cons row rest ih =>
    rw [List.map_cons, List.count_cons, ih]
    by_cases ho : row.owner = owner
    · simp [ho, place, ofOwner, List.count_cons]
    · simp [ho, place, ofOwner]

lemma Numbered.nodup_places {rows : Members κ μ} (h : rows.Numbered) : (rows.map place).Nodup := by
  rw [List.nodup_iff_count_le_one]
  rintro ⟨owner, position⟩
  rw [count_place, h.map_position]
  exact List.nodup_iff_count_le_one.mp List.nodup_range position

theorem Numbered.encard_places {rows : Members κ μ} (h : rows.Numbered) :
    {x : κ × Nat | x.2 < (rows.list x.1).length}.encard = rows.length := by
  rw [← List.length_map place]
  exact encard_eq_length h.nodup_places Function.injective_id (fun _ => h.mem_places.symm)
    fun x _ => ⟨x, rfl⟩

/-- Rows that make the same listings are as many, in whatever order. -/
lemma Numbered.length_eq {rows rows' : Members κ μ} (h : rows.Numbered) (h' : rows'.Numbered)
    (hlist : ∀ owner, rows.list owner = rows'.list owner) : rows.length = rows'.length := by
  rw [← ENat.natCast_inj, ← h.encard_places, ← h'.encard_places]
  simp only [hlist]

end Members

/-! ### Indexes -/

/-- The set that a write refreshes, and when. -/
def Write.refresh? : Write → Option (Scope × Instant)
  | replace s _ time => some (s, time)
  | putGroup _ _ | putTrack _ _ _ => none

lemma refreshes_eq_putAll (times : Table String Int) (w : Write) :
    w.refreshes times =
      times.putAll (fun x => x.1.key) (fun x => x.2.seconds) w.refresh?.toList := by
  cases w <;> rfl

/-- The refresh times are those of the sets that were replaced. -/
lemma refreshes_ofWrites (ws : List Write) : (ofWrites ws).refreshes =
    Table.putAll (fun x => x.1.key) (fun x => x.2.seconds) {} (ws.filterMap Write.refresh?) := by
  induction ws using List.reverseRecOn with
  | nil => rfl
  | append_singleton ws w ih =>
    rw [ofWrites_concat, List.filterMap_append, Table.putAll_append, ← ih, Write.apply,
      refreshes_eq_putAll, filterMap_singleton]

/-- Whether no two rows of an index have the same key, and the rows of each listing are numbered
from zero. -/
structure Keyed (ix : Index) : Prop where
  buckets : ix.bucketGroups.Numbered
  listings : ix.groupTracks.Numbered
  groups : ix.groups.keys.Nodup
  tracks : ix.tracks.keys.Nodup
  refreshes : ix.refreshes.keys.Nodup

lemma keyed_empty : Keyed {} :=
  ⟨Members.numbered_nil, Members.numbered_nil, List.nodup_nil, List.nodup_nil, List.nodup_nil⟩

lemma Keyed.apply {ix : Index} (h : ix.Keyed) (w : Write) : (w.apply ix).Keyed where
  buckets := w.numbered_bucketGroups h.buckets
  listings := w.numbered_groupTracks h.listings
  groups := Table.nodup_keys_putAll h.groups w.groups
  tracks := Table.nodup_keys_putAll h.tracks w.tracks
  refreshes := by
    rw [Write.apply, refreshes_eq_putAll]
    exact Table.nodup_keys_putAll h.refreshes w.refresh?.toList

theorem keyed_ofWrites (ws : List Write) : (ofWrites ws).Keyed := by
  induction ws using List.reverseRecOn with
  | nil => exact keyed_empty
  | append_singleton ws w ih =>
    rw [ofWrites_concat]
    exact ih.apply w

end ModuleArchive.Index
