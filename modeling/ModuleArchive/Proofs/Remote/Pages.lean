import ModuleArchive.Proofs.Catalog.Hint

/-!
# From page to page

A page that can be read, shows some entry and links to a next one is passed; any other one is the
last that is asked for. Whoever answers, a listing yields what the pages show that it passes, and
then goes on with the page after them.
-/
namespace ModuleArchive.Remote

variable {ρ α : Type} {fetch : Nat → Action ρ (Page α)}

/-! ### Single pages -/

namespace Page

/-- Whether a page leads on to a next one. -/
def LeadsOn (page : Page α) : Prop := page.items ≠ [] ∧ page.hasNext = true

lemma leadsOn_iff {page : Page α} :
    page.LeadsOn ↔ ¬(page.items.isEmpty || !page.hasNext) = true := by
  simp [LeadsOn]

lemma not_leadsOn_iff {page : Page α} :
    ¬page.LeadsOn ↔ (page.items.isEmpty || !page.hasNext) = true := by
  rw [leadsOn_iff, Decidable.not_not]

lemma filterMap_shown (number : Nat) (page : Page α) :
    (page.shown number).filterMap ListEvent.item? = page.items := by
  have hitems : (page.items.map ListEvent.item).filterMap ListEvent.item? = page.items := by
    rw [List.filterMap_map]
    exact List.filterMap_some
  rw [shown, List.filterMap_append, hitems]
  split
  · split <;> rfl
  · rfl

end Page

section Reading

variable {number : Nat} {w w' : ρ} {page : Page α}

/-- A page that is read is shown, and then the next one is asked for if the page leads on to it. -/
lemma pagesFrom_of_ok (limit : Nat) (h : fetch number w = (.ok page, w')) :
    (pagesFrom fetch (limit + 1) number).Yields w []
      (.append (page.shown number) (if page.items.isEmpty || !page.hasNext then .finished
        else pagesFrom fetch limit (number + 1))) w' := by
  refine .work ?_
  rw [h]
  exact .refl _ _

lemma pagesFrom_of_leadsOn (limit : Nat) (h : fetch number w = (.ok page, w'))
    (hleads : page.LeadsOn) : (pagesFrom fetch (limit + 1) number).Yields w (page.shown number)
      (pagesFrom fetch limit (number + 1)) w' := by
  have hread := pagesFrom_of_ok limit h
  rw [if_neg (Page.leadsOn_iff.mp hleads)] at hread
  exact hread.trans (Listing.yields_append _ _ _)

lemma pagesFrom_of_last (limit : Nat) (h : fetch number w = (.ok page, w'))
    (hlast : ¬page.LeadsOn) :
    (pagesFrom fetch (limit + 1) number).Yields w (page.shown number) .finished w' := by
  have hread := pagesFrom_of_ok limit h
  rw [if_pos (Page.not_leadsOn_iff.mp hlast)] at hread
  exact hread.trans (Listing.yields_append _ _ _)

lemma pagesFrom_of_error {cause : Catalog.Error} (limit : Nat)
    (h : fetch number w = (.error cause, w')) :
    (pagesFrom fetch (limit + 1) number).Yields w [] (.failed cause) w' := by
  refine .work ?_
  rw [h]
  exact .refl _ _

end Reading

/-! ### Several pages -/

/-- What some pages show, one after the other. -/
def shownFrom : Nat → List (Page α) → List (ListEvent α)
  | _, [] => []
  | number, page :: pages => page.shown number ++ shownFrom (number + 1) pages

lemma shownFrom_concat (number : Nat) (pages : List (Page α)) (page : Page α) :
    shownFrom number (pages ++ [page]) =
      shownFrom number pages ++ page.shown (number + pages.length) := by
  induction pages generalizing number with
  | nil => exact List.append_nil _
  | cons other pages ih =>
    rw [List.cons_append, shownFrom, ih, shownFrom, List.append_assoc, List.length_cons,
      Nat.add_right_comm, Nat.add_assoc]

lemma filterMap_shownFrom (number : Nat) (pages : List (Page α)) :
    (shownFrom number pages).filterMap ListEvent.item? = pages.flatMap (·.items) := by
  induction pages generalizing number with
  | nil => rfl
  | cons page pages ih =>
    rw [shownFrom, List.filterMap_append, Page.filterMap_shown, ih, List.flatMap_cons]

/-- The state after some pages have been asked for, one after the other. -/
def afterPages (fetch : Nat → Action ρ (Page α)) : Nat → Nat → ρ → ρ
  | _, 0, w => w
  | number, count + 1, w => afterPages fetch (number + 1) count (fetch number w).2

lemma afterPages_succ (number count : Nat) (w : ρ) : afterPages fetch number (count + 1) w =
    (fetch (number + count) (afterPages fetch number count w)).2 := by
  induction count generalizing number w with
  | zero => rfl
  | succ count ih => rw [afterPages, ih, afterPages, Nat.add_assoc, Nat.add_comm 1]

/-- Pages that are read one after the other from one on, and each lead on to the next one. Before
them the state is the first one, and after them the second one. -/
inductive Passes (fetch : Nat → Action ρ (Page α)) : Nat → ρ → List (Page α) → ρ → Prop
  | refl (number : Nat) (w : ρ) : Passes fetch number w [] w
  | step {number : Nat} {w w₁ w' : ρ} {page : Page α} {pages : List (Page α)}
      (h : fetch number w = (.ok page, w₁)) (hleads : page.LeadsOn)
      (rest : Passes fetch (number + 1) w₁ pages w') : Passes fetch number w (page :: pages) w'

namespace Passes

variable {number limit : Nat} {w w' w₁ : ρ} {page : Page α} {pages : List (Page α)}

lemma concat (h : Passes fetch number w pages w₁)
    (hpage : fetch (number + pages.length) w₁ = (.ok page, w')) (hleads : page.LeadsOn) :
    Passes fetch number w (pages ++ [page]) w' := by
  induction h with
  | refl number w => exact .step hpage hleads (.refl _ _)
  | step h hl _ ih =>
    refine .step h hl (ih ?_)
    rwa [List.length_cons, ← Nat.add_assoc, Nat.add_right_comm] at hpage

lemma leadsOn (h : Passes fetch number w pages w') : ∀ page ∈ pages, page.LeadsOn := by
  induction h with
  | refl => exact fun _ hm => absurd hm List.not_mem_nil
  | step _ hleads _ ih => exact List.forall_mem_cons.mpr ⟨hleads, ih⟩

lemma eq_afterPages (h : Passes fetch number w pages w') :
    w' = afterPages fetch number pages.length w := by
  induction h with
  | refl => rfl
  | step h _ _ ih =>
    rw [ih, List.length_cons, afterPages, h]

/-- Each of the pages is what is read after those before it. -/
lemma fst_fetch (h : Passes fetch number w pages w') (i : Nat) (hi : i < pages.length) :
    (fetch (number + i) (afterPages fetch number i w)).1 = .ok pages[i] := by
  induction h generalizing i with
  | refl => contradiction
  | @step number w w₁ w' page pages h _ _ ih =>
    cases i with
    | zero => exact congrArg Prod.fst h
    | succ i =>
      have hrest := ih i (Nat.lt_of_succ_lt_succ hi)
      rw [afterPages, h, ← Nat.add_assoc, Nat.add_right_comm]
      exact hrest

/-- Asking for the page after them leaves the state after one page more. -/
lemma snd_fetch_next (h : Passes fetch 1 w pages w') :
    (fetch (pages.length + 1) w').2 = afterPages fetch 1 (pages.length + 1) w := by
  rw [afterPages_succ, ← h.eq_afterPages, Nat.add_comm]

/-- A listing yields what the pages show that it passes, and goes on with the page after them. -/
theorem yields (h : Passes fetch number w pages w') :
    (pagesFrom fetch (pages.length + limit) number).Yields w (shownFrom number pages)
      (pagesFrom fetch limit (number + pages.length)) w' := by
  induction h with
  | refl number w =>
    rw [List.length_nil, Nat.zero_add]
    exact .refl _ _
  | @step number w w₁ w' page pages h hleads _ ih =>
    rw [Nat.add_right_comm number] at ih
    rw [List.length_cons, Nat.add_right_comm pages.length]
    exact (pagesFrom_of_leadsOn _ h hleads).trans ih

end Passes

/-- As long as the pages lead on and have a property, more of them are passed: as many as one likes,
or those before the first other one. -/
theorem exists_passes (fetch : Nat → Action ρ (Page α)) (P : Page α → Prop) (limit : Nat) (w : ρ) :
    (∃ before w₁, before.length < limit ∧ Passes fetch 1 w before w₁ ∧ (∀ page ∈ before, P page) ∧
      ∀ page, (fetch (before.length + 1) w₁).1 = .ok page → page.LeadsOn → ¬P page) ∨
    ∃ pages w', pages.length = limit ∧ Passes fetch 1 w pages w' ∧ ∀ page ∈ pages, P page := by
  induction limit with
  | zero => exact .inr ⟨[], w, rfl, .refl 1 w, fun _ h => absurd h List.not_mem_nil⟩
  | succ limit ih =>
    obtain ⟨before, w₁, hlt, hbefore⟩ | ⟨pages, w₁, rfl, hpasses, hall⟩ := ih
    · exact .inl ⟨before, w₁, Nat.lt_succ_of_lt hlt, hbefore⟩
    · by_cases hgoes : ∃ page, (fetch (pages.length + 1) w₁).1 = .ok page ∧ page.LeadsOn ∧ P page
      · obtain ⟨page, hread, hleads, hP⟩ := hgoes
        have hnext : fetch (1 + pages.length) w₁ = (.ok page, (fetch (1 + pages.length) w₁).2) := by
          rw [← hread, Nat.add_comm]
        refine .inr ⟨pages ++ [page], _, List.length_append, hpasses.concat hnext hleads, ?_⟩
        exact List.forall_mem_append.mpr ⟨hall, List.forall_mem_singleton.mpr hP⟩
      · refine .inl ⟨pages, w₁, Nat.lt_succ_self _, hpasses, hall, fun page hread hleads hP => ?_⟩
        exact hgoes ⟨page, hread, hleads, hP⟩

end ModuleArchive.Remote
