import ModuleArchive.Cache.Catalog
import ModuleArchive.Filesystem.Basic
import ModuleArchive.Proofs.Catalog.Answers
import ModuleArchive.Source

/-!
# The hint comes first

However catalogs are put together, a listing shows at most one hint, and nothing before it. The
listings of a cached catalog, of items that are known, and of the upper directories begin with the
number of items that follow, unless they fail at once. Whoever stops a listing has been shown the
beginning of what it would have delivered.
-/
namespace ModuleArchive

namespace Listing

variable {σ τ α β γ : Type}

/-! ### Events -/

/-- The events that a listing delivers until it ends. -/
def events (l : Listing σ α) (w : σ) : List (ListEvent α) := (l.take none w).1

/-- How a listing ends if it is not stopped. -/
def ending (l : Listing σ α) (w : σ) : Ending := (l.take none w).2.1

/-- The state after a listing that is not stopped. -/
def left (l : Listing σ α) (w : σ) : σ := (l.take none w).2.2

/-- Whether all events but the first one are items. -/
def HintFirst (es : List (ListEvent α)) : Prop := ∀ e ∈ es.tail, ∃ a, e = .item a

/-- Whether a listing fails at once, or delivers some items after their number. -/
def IsAnnounced (l : Listing σ α) (w : σ) : Prop :=
  (l.events w = [] ∧ ∃ cause, l.ending w = .failed cause) ∨
    ∃ items : List α, l.events w = .hint items.length :: items.map .item ∧ l.ending w = .complete

/-- Whether a listing yields some events, and then goes on as another one, with the state then. -/
inductive Yields : Listing σ α → σ → List (ListEvent α) → Listing σ α → σ → Prop
  | refl (l : Listing σ α) (w : σ) : Yields l w [] l w
  | event {l l' : Listing σ α} {w w' : σ} {es : List (ListEvent α)} (e : ListEvent α)
      (h : Yields l w es l' w') : Yields (event e l) w (e :: es) l' w'
  | work {run : σ → σ} {rest : σ → Listing σ α} {l' : Listing σ α} {w w' : σ}
      {es : List (ListEvent α)} (h : Yields (rest w) (run w) es l' w') :
      Yields (work run rest) w es l' w'

lemma Yields.trans {l l₁ l₂ : Listing σ α} {w w₁ w₂ : σ} {es later : List (ListEvent α)}
    (h : l.Yields w es l₁ w₁) (hlater : l₁.Yields w₁ later l₂ w₂) :
    l.Yields w (es ++ later) l₂ w₂ := by
  induction h with
  | refl => exact hlater
  | event e _ ih => exact .event e (ih hlater)
  | work _ ih => exact .work (ih hlater)

lemma yields_append (es : List (ListEvent α)) (l : Listing σ α) (w : σ) :
    (append es l).Yields w es l w := by
  induction es with
  | nil => exact .refl l w
  | cons e es ih => exact .event e ih

/-- Whoever takes everything has these events, and what follows them. -/
lemma Yields.take_none {l l' : Listing σ α} {w w' : σ} {es : List (ListEvent α)}
    (h : l.Yields w es l' w') :
    l.take none w = (es ++ (l'.take none w').1, (l'.take none w').2) := by
  induction h with
  | refl => rfl
  | event e _ ih => exact congrArg (fun taken => (e :: taken.1, taken.2)) ih
  | work _ ih => exact ih

section Events

variable (w : σ)

@[simp] lemma events_event (e : ListEvent α) (rest : Listing σ α) :
    (event e rest).events w = e :: rest.events w := rfl

@[simp] lemma events_work (run : σ → σ) (rest : σ → Listing σ α) :
    (work run rest).events w = (rest w).events (run w) := rfl

lemma take_append (es : List (ListEvent α)) :
    (append es finished : Listing σ α).take none w = (es, .complete, w) := by
  rw [(yields_append es _ w).take_none]
  exact congrArg (·, _) (List.append_nil es)

lemma IsAnnounced.work {run : σ → σ} {rest : σ → Listing σ α} {w : σ}
    (h : (rest w).IsAnnounced (run w)) : (work run rest).IsAnnounced w := h

lemma isAnnounced_ofItems (items : List α) : (ofItems items : Listing σ α).IsAnnounced w := by
  have htake := take_append w (.hint items.length :: items.map .item)
  exact .inr ⟨items, congrArg (·.1) htake, congrArg (·.2.1) htake⟩

end Events

/-! ### Consumers that stop -/

/-- A consumer that takes some events has the first ones. -/
theorem events_take (l : Listing σ α) (n : Nat) (w : σ) :
    (l.take (some n) w).1 = (l.events w).take n := by
  induction l generalizing n w with
  | finished => cases n <;> rfl
  | failed cause => cases n <;> rfl
  | event e rest ih =>
    cases n with
    | zero => rfl
    | succ n => exact congrArg (e :: ·) (ih n w)
  | work run rest ih =>
    cases n with
    | zero => rfl
    | succ n => exact ih w (n + 1) (run w)

/-- What a visitor makes of some events that it is shown. -/
def shown (visitor : γ → ListEvent α → γ × Bool) (c : γ) (es : List (ListEvent α)) : γ :=
  es.foldl (fun c e => (visitor c e).1) c

/-- A visitor is shown the first events, and all of them unless it breaks. -/
theorem visit_eq_shown (visitor : γ → ListEvent α → γ × Bool) (l : Listing σ α) (c : γ) (w : σ) :
    ∃ es, es <+: l.events w ∧ (l.visit visitor c w).2.1 = shown visitor c es ∧
      ((l.visit visitor c w).1 ≠ .dropped →
        es = l.events w ∧ (l.visit visitor c w).1 = l.ending w) := by
  induction l generalizing c w with
  | finished => exact ⟨[], List.prefix_rfl, rfl, fun _ => ⟨rfl, rfl⟩⟩
  | failed cause => exact ⟨[], List.prefix_rfl, rfl, fun _ => ⟨rfl, rfl⟩⟩
  | work run rest ih => exact ih w c (run w)
  | event e rest ih =>
    cases hbreaks : (visitor c e).2 with
    | true =>
      refine ⟨[e], ?_, ?_, fun hgoes => ?_⟩
      · exact List.prefix_cons_inj e |>.mpr List.nil_prefix
      · simp [visit, hbreaks, shown]
      · simp [visit, hbreaks] at hgoes
    | false =>
      have hvisit : (event e rest).visit visitor c w = rest.visit visitor (visitor c e).1 w := by
        simp [visit, hbreaks]
      obtain ⟨es, hprefix, hshown, hend⟩ := ih (visitor c e).1 w
      rw [hvisit]
      refine ⟨e :: es, List.prefix_cons_inj e |>.mpr hprefix, hshown, fun hgoes => ?_⟩
      obtain ⟨rfl, hending⟩ := hend hgoes
      exact ⟨rfl, hending⟩

/-! ### Listings with a hint at most at the beginning -/

/-- Whether a listing shows no hint after its first event, and none at all unless it may. What
happens to the state in between does not matter. -/
def HintsFirst : Bool → Listing σ α → Prop
  | _, finished | _, failed _ => True
  | may, event (.hint _) rest => may = true ∧ rest.HintsFirst false
  | _, event (.item _) rest => rest.HintsFirst false
  | may, work _ rest => ∀ w, (rest w).HintsFirst may

lemma HintsFirst.eq_item {l : Listing σ α} (h : l.HintsFirst false) {w : σ} {e : ListEvent α}
    (he : e ∈ l.events w) : ∃ a, e = .item a := by
  induction l generalizing w with
  | finished => exact absurd he List.not_mem_nil
  | failed cause => exact absurd he List.not_mem_nil
  | work run rest ih => exact ih w (h w) he
  | event shown rest ih =>
    cases shown with
    | hint n => exact absurd h.1 Bool.false_ne_true
    | item a =>
      rcases List.mem_cons.mp he with rfl | he
      · exact ⟨a, rfl⟩
      · exact ih h he

theorem HintsFirst.hintFirst {l : Listing σ α} {may : Bool} (h : l.HintsFirst may) (w : σ) :
    HintFirst (l.events w) := by
  induction l generalizing w with
  | finished => exact fun _ he => absurd he List.not_mem_nil
  | failed cause => exact fun _ he => absurd he List.not_mem_nil
  | work run rest ih => exact ih w (h w) (run w)
  | event shown rest ih =>
    cases shown with
    | hint n => exact fun _ he => h.2.eq_item he
    | item a => exact fun _ he => HintsFirst.eq_item h he

/-- A listing without hints may as well show one. -/
lemma HintsFirst.of_false {l : Listing σ α} (h : l.HintsFirst false) (may : Bool) :
    l.HintsFirst may := by
  induction l with
  | finished => trivial
  | failed cause => trivial
  | work run rest ih => exact fun w => ih w (h w)
  | event shown rest ih =>
    cases shown with
    | hint n => exact absurd h.1 Bool.false_ne_true
    | item a => exact h

lemma HintsFirst.append {rest : Listing σ α} (h : rest.HintsFirst false) (may : Bool)
    (items : List α) : (append (items.map .item) rest).HintsFirst may := by
  induction items generalizing may with
  | nil => exact h.of_false may
  | cons a items ih => exact ih false

lemma hintsFirst_ofItems (items : List α) : (ofItems items : Listing σ α).HintsFirst true :=
  ⟨rfl, HintsFirst.append (show (finished : Listing σ α).HintsFirst false from trivial) false items⟩

lemma HintsFirst.map {l : Listing σ α} {may : Bool} (h : l.HintsFirst may) (f : α → β) :
    (l.map f).HintsFirst may := by
  induction l generalizing may with
  | finished => trivial
  | failed cause => trivial
  | work run rest ih => exact fun w => ih w (h w)
  | event shown rest ih =>
    cases shown with
    | hint n => exact ⟨h.1, ih h.2⟩
    | item a => exact ih h

lemma HintsFirst.within {l : Listing σ α} {may : Bool} (h : l.HintsFirst may) (get : τ → σ)
    (set : σ → τ → τ) : (l.within get set).HintsFirst may := by
  induction l generalizing may with
  | finished => trivial
  | failed cause => trivial
  | work run rest ih => exact fun w => ih (get w) (h (get w))
  | event shown rest ih =>
    cases shown with
    | hint n => exact ⟨h.1, ih h.2⟩
    | item a => exact ih h

end Listing

/-! ### Catalogs -/

lemma MemoryCatalog.hintsFirst_listing (s : Scope) : (listing s).HintsFirst true := by
  cases s with
  | bucket g b =>
    intro m
    simp only
    split
    · trivial
    · exact Listing.hintsFirst_ofItems _
  | tracks g id =>
    intro m
    simp only
    split
    · trivial
    · split
      · trivial
      · exact Listing.hintsFirst_ofItems _

namespace Remote

variable {ρ α : Type}

/-- Whatever follows a page, only the first page may begin with a hint. -/
lemma Page.hintsFirst_append_shown {rest : Listing ρ α} (h : rest.HintsFirst false)
    (page : Page α) (number : Nat) :
    (Listing.append (page.shown number) rest).HintsFirst (number = 1) := by
  rw [shown]
  cases page.count with
  | none => exact h.append _ page.items
  | some n =>
    by_cases hfirst : number = 1
    · simp only [hfirst, if_true, decide_true]
      exact ⟨rfl, h.append false page.items⟩
    · simp only [if_neg hfirst]
      exact h.append _ page.items

/-- Whoever answers, only the first page may begin with a hint. -/
lemma hintsFirst_pagesFrom (fetch : Nat → Action ρ (Page α)) (limit : Nat) {number : Nat}
    (hpos : 0 < number) : (pagesFrom fetch limit number).HintsFirst (number = 1) := by
  induction limit generalizing number with
  | zero => trivial
  | succ limit ih =>
    intro w
    simp only
    split
    · trivial
    · next page _ =>
      refine Page.hintsFirst_append_shown ?_ page number
      split
      · trivial
      · have hnext := ih (Nat.succ_pos number)
        rwa [decide_eq_false (by omega)] at hnext

end Remote

namespace Catalog

/-- Catalogs that are put together: an archive in memory; one on the web, with any provider of its
pages; a cached catalog; one that is part of a larger state, or chosen by the state. -/
inductive IsStack : {σ : Type} → Catalog σ → Prop where
  | memory : IsStack MemoryCatalog.catalog
  | paged {ρ : Type} {c : Catalog ρ} (fetch : (s : Scope) → Nat → Action ρ (Remote.Page s.Item))
      (limit : ρ → Nat)
      (h : ∀ s, c.listing s = .work id fun w => Remote.pagesFrom (fetch s) (limit w) 1) : IsStack c
  | cached {ρ : Type} {remote : Catalog ρ} (p : CachePolicy) (h : IsStack remote) :
      IsStack (Cache.catalog p remote)
  | within {σ τ : Type} {c : Catalog σ} (get : τ → σ) (set : σ → τ → τ) (h : IsStack c) :
      IsStack (c.within get set)
  | choose {σ : Type} {select : σ → Catalog σ} (h : ∀ w, IsStack (select w)) :
      IsStack (.choose select)

/-- An archive on the web has the provider that asks its server. -/
lemma isStack_archive (a : Remote.Archive) : a.catalog.IsStack :=
  .paged a.fetchPage (·.pages.length + 1) fun _ => rfl

/-- The catalog that a source gives is put together of these. -/
lemma isStack_source : Source.catalog.IsStack := by
  refine .choose fun source => ?_
  cases source with
  | memory m => exact .within _ _ .memory
  | web a server => exact .within _ _ (isStack_archive a)

variable {σ : Type}

lemma hintsFirst_cached (p : CachePolicy) (remote : Catalog σ) (s : Scope) :
    ((Cache.catalog p remote).listing s).HintsFirst true := by
  intro w
  simp only
  split
  · exact Listing.hintsFirst_ofItems _
  · trivial

lemma isAnnounced_cached (p : CachePolicy) (remote : Catalog σ) (s : Scope) (w : Cache.State σ) :
    ((Cache.catalog p remote).listing s).IsAnnounced w := by
  refine Listing.IsAnnounced.work ?_
  split
  · exact Listing.isAnnounced_ofItems _ _
  · next cause _ => exact .inl ⟨rfl, cause, rfl⟩

/-- However a catalog is put together, its listings show a hint at most at the beginning. -/
theorem IsStack.hintsFirst {c : Catalog σ} (h : c.IsStack) (s : Scope) :
    (c.listing s).HintsFirst true := by
  induction h with
  | memory => exact MemoryCatalog.hintsFirst_listing s
  | paged fetch limit h =>
    rw [h]
    exact fun w => Remote.hintsFirst_pagesFrom (fetch s) (limit w) Nat.one_pos
  | cached p _ _ => exact hintsFirst_cached p _ s
  | within get set _ ih => exact ih.within get set
  | choose _ ih => exact fun w => ih w

end Catalog

/-! ### Directories -/

namespace Filesystem

variable {σ : Type} {f : Filesystem σ} {n : Node} {l : Listing σ Node}

lemma hintsFirst_children (hf : f.catalog.IsStack) (h : f.children? n = some l) :
    l.HintsFirst true := by
  cases n with
  | root =>
    obtain rfl := Option.some_inj.mp h
    exact Listing.hintsFirst_ofItems _
  | category g =>
    obtain rfl := Option.some_inj.mp h
    exact Listing.hintsFirst_ofItems _
  | bucket g b =>
    obtain rfl := Option.some_inj.mp h
    exact (hf.hintsFirst (.bucket g b)).map (Node.group g b)
  | group g b group =>
    obtain rfl := Option.some_inj.mp h
    exact (hf.hintsFirst (.tracks g group.id)).map (Node.track g b group.toRef)
  | track => contradiction
  | detached => contradiction

lemma isAnnounced_children (h : f.children? n = some l) (hn : n = .root ∨ ∃ g, n = .category g)
    (w : σ) : l.IsAnnounced w := by
  rcases hn with rfl | ⟨g, rfl⟩
  · obtain rfl := Option.some_inj.mp h
    exact Listing.isAnnounced_ofItems w _
  · obtain rfl := Option.some_inj.mp h
    exact Listing.isAnnounced_ofItems w _

end Filesystem

/-- However a catalog is put together and whatever its state is: a listing of it, and one of the
children of a directory over it, shows at most one hint, as its first event. Listings of a cached
catalog over it, of items that are known, and of the root and the categories fail at once or begin
with the number of the items that they then deliver. A consumer that stops any listing has been
shown the first of the events that it delivers in full. -/
theorem hint_comes_first {σ : Type} {f : Filesystem σ} (hf : f.catalog.IsStack) :
    (∀ s w, Listing.HintFirst ((f.catalog.listing s).events w)) ∧
    (∀ n l w, f.children? n = some l → Listing.HintFirst (l.events w) ∧
      ((n = .root ∨ ∃ g, n = .category g) → l.IsAnnounced w)) ∧
    (∀ p s w, ((Cache.catalog p f.catalog).listing s).IsAnnounced w) ∧
    (∀ (α : Type) (items : List α) (w : σ), (Listing.ofItems items).IsAnnounced w) ∧
    ∀ (α γ : Type) (l : Listing σ α) (w : σ),
      (∀ n, (l.take (some n) w).1 = (l.events w).take n) ∧
      ∀ (visitor : γ → ListEvent α → γ × Bool) (c : γ), ∃ es, es <+: l.events w ∧
        (l.visit visitor c w).2.1 = Listing.shown visitor c es ∧
        ((l.visit visitor c w).1 ≠ .dropped →
          es = l.events w ∧ (l.visit visitor c w).1 = l.ending w) := by
  refine ⟨fun s w => (hf.hintsFirst s).hintFirst w, fun n l w h => ⟨?_, fun hn => ?_⟩,
    fun p s w => Catalog.isAnnounced_cached p _ s w,
    fun α items w => Listing.isAnnounced_ofItems w items, fun α γ l w => ⟨?_, ?_⟩⟩
  · exact (Filesystem.hintsFirst_children hf h).hintFirst w
  · exact Filesystem.isAnnounced_children h hn w
  · exact fun n => Listing.events_take l n w
  · exact fun visitor c => Listing.visit_eq_shown visitor l c w

/-- The groups of a letter in an archive in memory, through a cache. -/
theorem hint_comes_first_smallArchive :
    let f : Filesystem (Cache.State MemoryCatalog) :=
      { scheme := "modland"
        catalog := Cache.catalog {} MemoryCatalog.catalog
        storage := { scheme := "https".toList, host := some (.domain "authors".toList) } }
    let w : Cache.State MemoryCatalog :=
      { remote := { groups := [(.authors, ⟨1, "Beispiel", 2⟩)] }, clock := Instant.ofSeconds 0 }
    ∃ l, f.children? (.bucket .authors (.letter 1)) = some l ∧
      l.events w =
        [.hint 1, .item (.group .authors (.letter 1) ⟨1, "Beispiel", 2⟩)] ∧
      Listing.HintFirst (l.events w) := by
  intro f w
  obtain ⟨-, hchildren, -⟩ := hint_comes_first (f := f) (.cached {} .memory)
  exact ⟨_, rfl, by decide +kernel, (hchildren (.bucket .authors (.letter 1)) _ w rfl).1⟩

end ModuleArchive
