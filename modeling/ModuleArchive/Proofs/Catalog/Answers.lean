import ModuleArchive.Catalog.Memory
import ModuleArchive.Proofs.Traverse
import Mathlib.Data.List.Nodup
import Mathlib.Tactic.Lemma

/-!
# Answers of a catalog

What holds of the state of a catalog may be kept by all its operations. If the answers depend on
nothing else, the catalog has fixed answers: what a set yields, which group has a number and which
track a file name. A catalog in memory has, as long as its groups and tracks stay the same.
-/
namespace ModuleArchive

/-! ### Listings -/

/-- Whether the work of a listing keeps what holds of the state. -/
def Listing.Preserves {σ α : Type} (I : σ → Prop) : Listing σ α → Prop
  | finished | failed _ => True
  | event _ rest => rest.Preserves I
  | work run rest => ∀ w, I w → I (run w) ∧ (rest w).Preserves I

namespace Listing

variable {σ α β : Type} {I : σ → Prop}

lemma preserves_append {events : List (ListEvent α)} {rest : Listing σ α}
    (h : rest.Preserves I) : (append events rest).Preserves I := by
  induction events with
  | nil => exact h
  | cons e events ih => exact ih

lemma Preserves.collectInto {l : Listing σ α} (h : l.Preserves I) {w : σ} (hw : I w)
    (hint : Option Nat) (items : List α) : I (collectInto hint items l w).2 := by
  induction l generalizing w hint items with
  | finished => exact hw
  | failed cause => exact hw
  | event e rest ih =>
    cases e with
    | hint n => exact ih h hw _ _
    | item a => exact ih h hw _ _
  | work run rest ih =>
    obtain ⟨hrun, hrest⟩ := h w hw
    exact ih w hrest hrun _ _

lemma Preserves.find? {l : Listing σ α} (h : l.Preserves I) {w : σ} (hw : I w) (p : α → Bool) :
    I (find? p l w).2 := by
  induction l generalizing w with
  | finished => exact hw
  | failed cause => exact hw
  | event e rest ih =>
    cases e with
    | hint n => exact ih h hw
    | item a =>
      rw [Listing.find?]
      split
      · exact hw
      · exact ih h hw
  | work run rest ih =>
    obtain ⟨hrun, hrest⟩ := h w hw
    exact ih w hrest hrun

/-- The items that a listing yields until it ends, in order. -/
def items (l : Listing σ α) (w : σ) : List α := (l.take none w).1.filterMap ListEvent.item?

section Items

variable (w : σ)

@[simp] lemma items_finished : (finished : Listing σ α).items w = [] := rfl

@[simp] lemma items_failed (cause : Catalog.Error) :
    (failed cause : Listing σ α).items w = [] := rfl

@[simp] lemma items_item (a : α) (rest : Listing σ α) :
    (event (.item a) rest).items w = a :: rest.items w := rfl

@[simp] lemma items_work (run : σ → σ) (rest : σ → Listing σ α) :
    (work run rest).items w = (rest w).items (run w) := rfl

lemma items_map (f : α → β) (l : Listing σ α) : (l.map f).items w = (l.items w).map f := by
  induction l generalizing w with
  | finished => rfl
  | failed cause => rfl
  | event e rest ih =>
    cases e with
    | hint n => exact ih w
    | item a => exact congrArg (f a :: ·) (ih w)
  | work run rest ih => exact ih w (run w)

lemma items_append (known : List α) (rest : Listing σ α) :
    (append (known.map .item) rest).items w = known ++ rest.items w := by
  induction known with
  | nil => rfl
  | cons a known ih => exact congrArg (a :: ·) ih

lemma items_ofItems (known : List α) : (ofItems known : Listing σ α).items w = known := by
  have h := items_append w known (finished : Listing σ α)
  rw [items_finished, List.append_nil] at h
  exact h

end Items

/-- What is found among known items is the first one that has the property. -/
lemma find?_ofItems (p : α → Bool) (known : List α) (w : σ) :
    find? p (ofItems known) w = (.ok (known.find? p), w) := by
  have happend : find? p (append (known.map .item) finished) w = (.ok (known.find? p), w) := by
    induction known with
    | nil => rfl
    | cons a known ih =>
      rw [List.map_cons, append, find?, List.find?_cons]
      cases p a with
      | true => rfl
      | false => exact ih
  exact happend

lemma find?_eq_ok_some {p : α → Bool} {l : Listing σ α} {w : σ} {a : α} :
    (find? p l w).1 = .ok (some a) ↔ (l.items w).find? p = some a := by
  induction l generalizing w with
  | finished => simp [find?]
  | failed cause => simp [find?]
  | event e rest ih =>
    cases e with
    | hint n => exact ih
    | item b =>
      rw [find?, items_item, List.find?_cons]
      cases p b with
      | true => simp
      | false => exact ih
  | work run rest ih => exact ih w

end Listing

/-! ### Catalogs -/

/-- Whether the operations of a catalog keep what holds of its state. -/
structure Catalog.Preserves {σ : Type} (c : Catalog σ) (I : σ → Prop) : Prop where
  listing : ∀ s, (c.listing s).Preserves I
  group : ∀ g id w, I w → I (c.group g id w).2
  track : ∀ g id filename w, I w → I (c.track g id filename w).2
  content : ∀ path w, I w → I (c.content path w).2

/-- What a catalog answers as long as its answers stay the same. -/
structure Answers where
  /-- What the listing of a set yields. -/
  items : (s : Scope) → List s.Item
  group : Grouping → UInt32 → Except Catalog.Error (Option Group)
  track : Grouping → UInt32 → String → Except Catalog.Error (Option Track)

namespace Answers

/-- Whether nothing is found but groups with the number and tracks with the file name that were
asked for. -/
structure IsExact (A : Answers) : Prop where
  id_of_group : ∀ g id group, A.group g id = .ok (some group) → group.id = id
  filename_of_track : ∀ g id filename track,
    A.track g id filename = .ok (some track) → track.filename = filename

/-- Whether listings and lookups agree: a group that is listed is found as it is listed, no other
one is found under its number, and the track that is found is the first one listed with the file
name. -/
structure IsConsistent (A : Answers) : Prop where
  id_of_group : ∀ g id group, A.group g id = .ok (some group) → group.id = id
  group_of_mem : ∀ g b (group : Group), group ∈ A.items (.bucket g b) →
    A.group g group.id = .ok (some group)
  track_of_find? : ∀ g id filename (track : Track),
    (A.items (.tracks g id)).find? (·.filename = filename) = some track →
      A.track g id filename = .ok (some track)

/-- Whether no number is listed twice in a bucket and no path twice in a group. -/
structure IsDistinct (A : Answers) : Prop where
  ids : ∀ g b, ((A.items (.bucket g b)).map Group.id).Nodup
  paths : ∀ g id, ((A.items (.tracks g id)).map Track.path).Nodup

end Answers

namespace Catalog

variable {σ : Type}

/-- Whether a catalog gives these answers in all states with a property that its operations
keep. -/
structure Gives (c : Catalog σ) (I : σ → Prop) (A : Answers) : Prop extends c.Preserves I where
  items_eq : ∀ s w, I w → (c.listing s).items w = A.items s
  group_eq : ∀ g id w, I w → (c.group g id w).1 = A.group g id
  track_eq : ∀ g id filename w, I w → (c.track g id filename w).1 = A.track g id filename

/-- Whether a catalog finds nothing but groups with the number and tracks with the file name that
were asked for. -/
structure IsExact (c : Catalog σ) : Prop where
  id_of_group : ∀ g id w group, (c.group g id w).1 = .ok (some group) → group.id = id
  filename_of_track : ∀ g id filename w track,
    (c.track g id filename w).1 = .ok (some track) → track.filename = filename

lemma IsExact.answers {c : Catalog σ} {I : σ → Prop} {A : Answers} (hc : c.IsExact)
    (hA : c.Gives I A) {w : σ} (hw : I w) : A.IsExact where
  id_of_group g id group h := hc.id_of_group g id w group ((hA.group_eq g id w hw).trans h)
  filename_of_track g id filename track h :=
    hc.filename_of_track g id filename w track ((hA.track_eq g id filename w hw).trans h)

end Catalog

/-! ### Archives in memory -/

namespace MemoryCatalog

/-- Whether an archive holds the same groups and tracks as another one, and refuses to answer if
the other one does. -/
structure Agrees (m₀ m : MemoryCatalog) : Prop where
  groups : m.groups = m₀.groups
  tracks : m.tracks = m₀.tracks
  isFailing : m.isFailing = m₀.isFailing

/-- The answers of an archive as it is. -/
def answers (m : MemoryCatalog) : Answers where
  items s := (listing s).items m
  group g id := (catalog.group g id m).1
  track g id filename := (catalog.track g id filename m).1

variable {m₀ m : MemoryCatalog}

lemma agrees_self (m : MemoryCatalog) : m.Agrees m := ⟨rfl, rfl, rfl⟩

lemma Agrees.count (h : m₀.Agrees m) : m₀.Agrees m.count := ⟨h.groups, h.tracks, h.isFailing⟩

lemma Agrees.groupsOf_eq (h : m₀.Agrees m) (g : Grouping) : m.groupsOf g = m₀.groupsOf g := by
  rw [groupsOf, groupsOf, h.groups]

lemma Agrees.tracksOf?_eq (h : m₀.Agrees m) (g : Grouping) (id : UInt32) :
    m.tracksOf? g id = m₀.tracksOf? g id := by
  rw [tracksOf?, tracksOf?, h.tracks]

/-- A listing counts as a call and does nothing else. -/
lemma preserves_listing (m₀ : MemoryCatalog) (s : Scope) : (listing s).Preserves m₀.Agrees := by
  cases s with
  | bucket g b =>
    intro m hm
    refine ⟨hm.count, ?_⟩
    dsimp only
    split
    · trivial
    · exact Listing.preserves_append trivial
  | tracks g id =>
    intro m hm
    refine ⟨hm.count, ?_⟩
    dsimp only
    split
    · trivial
    · split
      · trivial
      · exact Listing.preserves_append trivial

/-- An operation that is refused or leaves the archive as it is counts as a call. -/
lemma Agrees.enter {α : Type} (h : m₀.Agrees m) {act : Action MemoryCatalog α}
    (hact : ∀ m, m₀.Agrees m → m₀.Agrees (act m).2) : m₀.Agrees (enter act m).2 := by
  rw [MemoryCatalog.enter]
  split
  · exact h.count
  · exact hact _ h.count

lemma Agrees.items_eq (h : m₀.Agrees m) (s : Scope) :
    (listing s).items m = (listing s).items m₀ := by
  cases s with
  | bucket g b =>
    simp only [listing, Listing.items_work, h.isFailing, h.groupsOf_eq]
    split
    · rfl
    · rw [Listing.items_ofItems, Listing.items_ofItems]
  | tracks g id =>
    simp only [listing, Listing.items_work, h.isFailing, h.tracksOf?_eq]
    split
    · rfl
    · split
      · rfl
      · rw [Listing.items_ofItems, Listing.items_ofItems]

lemma Agrees.group_eq (h : m₀.Agrees m) (g : Grouping) (id : UInt32) :
    (catalog.group g id m).1 = (catalog.group g id m₀).1 := by
  simp only [catalog, MemoryCatalog.enter, h.isFailing]
  split
  · rfl
  · rw [h.count.groupsOf_eq, (agrees_self m₀).count.groupsOf_eq]

lemma Agrees.track_eq (h : m₀.Agrees m) (g : Grouping) (id : UInt32) (filename : String) :
    (catalog.track g id filename m).1 = (catalog.track g id filename m₀).1 := by
  simp only [catalog, Catalog.scan, listing, Listing.find?, h.isFailing, h.tracksOf?_eq]
  split
  · rfl
  · split
    · rfl
    · rw [Listing.find?_ofItems, Listing.find?_ofItems]

/-- An archive in memory gives the same answers as long as its groups and tracks are the same. -/
theorem gives_answers (m₀ : MemoryCatalog) : catalog.Gives m₀.Agrees m₀.answers where
  listing := preserves_listing m₀
  group _ _ _ hm := hm.enter fun _ h => h
  track g id _ _ hm := (preserves_listing m₀ (.tracks g id)).find? hm _
  content path _ hm := hm.enter fun m h => by
    split
    · exact h
    · exact ⟨h.groups, h.tracks, h.isFailing⟩
  items_eq s _ hm := hm.items_eq s
  group_eq g id _ hm := hm.group_eq g id
  track_eq g id filename _ hm := hm.track_eq g id filename

theorem isExact_catalog : catalog.IsExact where
  id_of_group g id m group h := by
    simp only [catalog, MemoryCatalog.enter] at h
    split at h
    · contradiction
    · simpa using List.find?_some (Except.ok.inj h)
  filename_of_track g id filename m track h := by
    have hfound := Listing.find?_eq_ok_some.mp h
    simpa using List.find?_some hfound

lemma items_bucket (m : MemoryCatalog) (g : Grouping) (b : Bucket) :
    (listing (.bucket g b)).items m =
      if m.isFailing then [] else (m.groupsOf g).filter (b.contains ·.name) := by
  simp only [listing, Listing.items_work]
  split
  · rfl
  · exact Listing.items_ofItems _ _

lemma items_tracks (m : MemoryCatalog) (g : Grouping) (id : UInt32) :
    (listing (.tracks g id)).items m =
      if m.isFailing then [] else (m.tracksOf? g id).getD [] := by
  simp only [listing, Listing.items_work]
  split
  · rfl
  · cases m.tracksOf? g id with
    | none => rfl
    | some tracks => exact Listing.items_ofItems _ _

/-- Whether the groups of each grouping have different numbers. -/
def HasUniqueIds (m : MemoryCatalog) : Prop :=
  m.groups.Pairwise fun x y => x.1 = y.1 → x.2.id ≠ y.2.id

instance (m : MemoryCatalog) : Decidable m.HasUniqueIds :=
  inferInstanceAs (Decidable (List.Pairwise _ _))

lemma HasUniqueIds.groupsOf (h : m.HasUniqueIds) (g : Grouping) :
    ((m.groupsOf g).map Group.id).Nodup := by
  rw [MemoryCatalog.groupsOf, List.map_map, List.nodup_iff_pairwise_ne, List.pairwise_map,
    List.pairwise_filter]
  refine List.Pairwise.imp ?_ h
  intro x y hne hx hy
  have hgx : x.1 = g := by simpa using hx
  have hgy : y.1 = g := by simpa using hy
  exact hne (hgx.trans hgy.symm)

/-- What an archive with unique numbers lists is what it finds. -/
theorem isConsistent_answers (h : m.HasUniqueIds) : m.answers.IsConsistent where
  id_of_group := (isExact_catalog.answers (gives_answers m) m.agrees_self).id_of_group
  group_of_mem g b group hm := by
    change group ∈ (listing (.bucket g b)).items m at hm
    rw [items_bucket] at hm
    cases hfailing : m.isFailing with
    | true => simp [hfailing] at hm
    | false =>
      have hgroup : group ∈ m.groupsOf g := by
        simp only [hfailing, Bool.false_eq_true, if_false] at hm
        exact (List.mem_filter.mp hm).1
      have hfound : (m.groupsOf g).find? (·.id = group.id) = some group :=
        find?_eq_some_of_unique hgroup (by simp) fun other ho hid =>
          List.inj_on_of_nodup_map (h.groupsOf g) ho hgroup (by simpa using hid)
      simp only [answers, catalog, MemoryCatalog.enter, hfailing, Bool.false_eq_true, if_false,
        m.agrees_self.count.groupsOf_eq, hfound]
  track_of_find? g id filename track hf := Listing.find?_eq_ok_some.mpr hf

/-- An archive with unique numbers lists them once, and paths as often as they are stored. -/
theorem isDistinct_answers (h : m.HasUniqueIds)
    (hp : ∀ x ∈ m.tracks, (x.2.map Track.path).Nodup) : m.answers.IsDistinct where
  ids g b := by
    change (((listing (.bucket g b)).items m).map Group.id).Nodup
    rw [items_bucket]
    split
    · exact List.nodup_nil
    · exact (h.groupsOf g).sublist (List.filter_sublist.map _)
  paths g id := by
    change (((listing (.tracks g id)).items m).map Track.path).Nodup
    rw [items_tracks]
    split
    · exact List.nodup_nil
    · cases htracks : m.tracksOf? g id with
      | none => exact List.nodup_nil
      | some tracks =>
        obtain ⟨x, hx, rfl⟩ := Option.map_eq_some_iff.mp htracks
        exact hp x (List.mem_of_find?_eq_some hx)

end MemoryCatalog

end ModuleArchive
