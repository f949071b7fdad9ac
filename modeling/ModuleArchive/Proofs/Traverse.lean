import Mathlib.Data.List.Forall2
import Mathlib.Tactic.Lemma

/-!
# Computations that may fail

Two steps, one after the other, succeed if and only if both do. A list is mapped as a whole by a
function that may fail if and only if the function succeeds at each place, and the results stand
at the same places. A search finds what is in a list, and the only element that fits is found
wherever it stands. A list can be cut at an element that it has, or at the last one that fits.
-/
namespace ModuleArchive

variable {α β ε : Type}

theorem bind_eq_ok_iff {x : Except ε α} {f : α → Except ε β} {b : β} :
    x >>= f = .ok b ↔ ∃ a, x = .ok a ∧ f a = .ok b := by
  cases x <;> simp [bind, Except.bind]

theorem mapM_eq_some_iff {f : α → Option β} {xs : List α} {ys : List β} :
    xs.mapM f = some ys ↔ List.Forall₂ (fun x y => f x = some y) xs ys := by
  induction xs generalizing ys with
  | nil => cases ys <;> simp
  | cons x xs ih =>
    cases hx : f x with
    | none => cases ys <;> simp [List.mapM_cons, hx]
    | some y =>
      cases ys with
      | nil => cases hr : xs.mapM f <;> simp [List.mapM_cons, hx, hr]
      | cons z zs =>
        simp only [List.forall₂_cons, ← ih, hx, Option.some.injEq]
        cases hr : xs.mapM f <;> simp [List.mapM_cons, hx, hr]

theorem mapM_eq_ok_iff {f : α → Except ε β} {xs : List α} {ys : List β} :
    xs.mapM f = .ok ys ↔ List.Forall₂ (fun x y => f x = .ok y) xs ys := by
  induction xs generalizing ys with
  | nil => cases ys <;> simp [pure, Except.pure]
  | cons x xs ih =>
    cases hx : f x with
    | error e => cases ys <;> simp [List.mapM_cons, hx, bind, Except.bind]
    | ok y =>
      cases ys with
      | nil =>
        cases hr : xs.mapM f <;> simp [List.mapM_cons, hx, hr, bind, Except.bind, pure, Except.pure]
      | cons z zs =>
        simp only [List.forall₂_cons, ← ih, hx, Except.ok.injEq]
        cases hr : xs.mapM f <;> simp [List.mapM_cons, hx, hr, bind, Except.bind, pure, Except.pure]

/-- What stands in the second of two related lists is related to something in the first. -/
lemma exists_of_mem_forall₂ {R : α → β → Prop} {xs : List α} {ys : List β}
    (h : List.Forall₂ R xs ys) {y : β} (hy : y ∈ ys) : ∃ x ∈ xs, R x y := by
  induction h with
  | nil => contradiction
  | cons hx _ ih =>
    rcases List.mem_cons.mp hy with rfl | hy
    · exact ⟨_, List.mem_cons_self, hx⟩
    · obtain ⟨x, hm, hxy⟩ := ih hy
      exact ⟨x, List.mem_cons_of_mem _ hm, hxy⟩

/-- Each result comes from somewhere in the list. -/
lemma exists_of_mem_mapM {f : α → Option β} {xs : List α} {ys : List β} (h : xs.mapM f = some ys)
    {y : β} (hy : y ∈ ys) : ∃ x ∈ xs, f x = some y :=
  exists_of_mem_forall₂ (mapM_eq_some_iff.mp h) hy

/-! ### Searches -/

/-- What is in a list is found, or something that fits as well. -/
lemma exists_find?_eq_some {p : α → Bool} {xs : List α} {x : α} (hx : x ∈ xs) (hp : p x = true) :
    ∃ found ∈ xs, xs.find? p = some found ∧ p found = true := by
  have hsome : (xs.find? p).isSome := List.find?_isSome.mpr ⟨x, hx, hp⟩
  obtain ⟨found, hfound⟩ := Option.isSome_iff_exists.mp hsome
  exact ⟨found, List.mem_of_find?_eq_some hfound, hfound, List.find?_some hfound⟩

/-- The only element that fits is found. -/
lemma find?_eq_some_of_unique {p : α → Bool} {xs : List α} {x : α} (hx : x ∈ xs)
    (hp : p x = true) (hunique : ∀ y ∈ xs, p y = true → y = x) : xs.find? p = some x := by
  obtain ⟨found, hm, hfound, hfits⟩ := exists_find?_eq_some hx hp
  rw [hfound, hunique found hm hfits]

/-- What is found first is found first among fewer values, if it is one of them. -/
lemma find?_filter_of_find? {p q : α → Bool} {values : List α} {v : α}
    (h : values.find? p = some v) (hq : q v = true) : (values.filter q).find? p = some v := by
  induction values with
  | nil => contradiction
  | cons x rest ih =>
    by_cases hp : p x = true
    · rw [List.find?_cons_of_pos hp, Option.some_inj] at h
      subst h
      rw [List.filter_cons_of_pos hq, List.find?_cons_of_pos hp]
    · rw [List.find?_cons_of_neg hp] at h
      by_cases hx : q x = true
      · rw [List.filter_cons_of_pos hx, List.find?_cons_of_neg hp]
        exact ih h
      · rw [List.filter_cons_of_neg hx]
        exact ih h

/-! ### Cuts -/

/-- A list that goes on behind an element has it, or ends before it. -/
lemma cut_at {xs more front back : List α} {x : α}
    (h : xs ++ more = front ++ x :: back) :
    (∃ ys, xs = front ++ x :: ys ∧ back = ys ++ more) ∨ ∃ ys, front = xs ++ ys := by
  rcases List.append_eq_append_iff.mp h with ⟨ys, hfront, -⟩ | ⟨ys, hxs, hback⟩
  · exact .inr ⟨ys, hfront⟩
  · cases ys with
    | nil => exact .inr ⟨[], by rw [hxs, List.append_nil, List.append_nil]⟩
    | cons y ys =>
      obtain ⟨rfl, rfl⟩ := List.cons.inj hback
      exact .inl ⟨ys, hxs, rfl⟩

/-- Something that is so somewhere in a list is so somewhere for the last time. -/
lemma exists_last {P : α → Prop} {xs : List α} (h : ∃ x ∈ xs, P x) :
    ∃ before x after, xs = before ++ x :: after ∧ P x ∧ ∀ y ∈ after, ¬ P y := by
  induction xs with
  | nil =>
    obtain ⟨x, hx, -⟩ := h
    contradiction
  | cons a xs ih =>
    by_cases hxs : ∃ x ∈ xs, P x
    · obtain ⟨before, x, after, rfl, hx, hafter⟩ := ih hxs
      exact ⟨a :: before, x, after, rfl, hx, hafter⟩
    · obtain ⟨x, hx, hP⟩ := h
      rcases List.mem_cons.mp hx with rfl | hx
      · exact ⟨[], x, xs, rfl, hP, fun y hy hPy => hxs ⟨y, hy, hPy⟩⟩
      · exact absurd ⟨x, hx, hP⟩ hxs

end ModuleArchive
