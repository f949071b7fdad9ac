import ModuleArchive.Text.Split
import Mathlib.Tactic.Lemma

/-!
# Cutting texts

Cutting at a character is the inverse of joining pieces that do not hold it, and the pieces of a
text never hold it. The first occurrence of a character is found exactly if there is one.
-/
namespace ModuleArchive.Text

/-! ### The first occurrence -/

lemma splitFirst?_of_notMem {sep : Char} {text : List Char} (h : sep ∉ text) :
    splitFirst? sep text = none := by
  induction text with
  | nil => rfl
  | cons c rest ih =>
    obtain ⟨hc, hr⟩ : sep ≠ c ∧ sep ∉ rest := by simpa using h
    rw [splitFirst?, if_neg (Ne.symm hc), ih hr, Option.map_none]

lemma splitFirst?_append {sep : Char} {before : List Char} (h : sep ∉ before)
    (after : List Char) : splitFirst? sep (before ++ sep :: after) = some (before, after) := by
  induction before with
  | nil => simp [splitFirst?]
  | cons c rest ih =>
    obtain ⟨hc, hr⟩ : sep ≠ c ∧ sep ∉ rest := by simpa using h
    rw [List.cons_append, splitFirst?, if_neg (Ne.symm hc), ih hr, Option.map_some]

lemma eq_append_of_splitFirst? {sep : Char} {text before after : List Char}
    (h : splitFirst? sep text = some (before, after)) :
    text = before ++ sep :: after ∧ sep ∉ before := by
  induction text generalizing before with
  | nil => simp [splitFirst?] at h
  | cons c rest ih =>
    rw [splitFirst?] at h
    split at h
    · next hc =>
      obtain ⟨rfl, rfl⟩ : before = [] ∧ after = rest := by simpa [eq_comm] using h
      simp [hc]
    · next hc =>
      obtain ⟨⟨first, second⟩, hs, heq⟩ := Option.map_eq_some_iff.mp h
      obtain ⟨rfl, rfl⟩ : c :: first = before ∧ second = after := by simpa using heq
      obtain ⟨hrest, hn⟩ := ih hs
      refine ⟨by rw [hrest, List.cons_append], ?_⟩
      simp [hn, Ne.symm hc]

/-! ### All occurrences -/

lemma splitOn_of_notMem {sep : Char} {text : List Char} (h : sep ∉ text) :
    splitOn sep text = [text] := by
  induction text with
  | nil => rfl
  | cons c rest ih =>
    obtain ⟨hc, hr⟩ : sep ≠ c ∧ sep ∉ rest := by simpa using h
    rw [splitOn, if_neg (Ne.symm hc), ih hr]

lemma splitOn_append {sep : Char} {piece : List Char} (h : sep ∉ piece) (rest : List Char) :
    splitOn sep (piece ++ sep :: rest) = piece :: splitOn sep rest := by
  induction piece with
  | nil => simp [splitOn]
  | cons c piece ih =>
    obtain ⟨hc, hp⟩ : sep ≠ c ∧ sep ∉ piece := by simpa using h
    rw [List.cons_append, splitOn, if_neg (Ne.symm hc), ih hp]

/-- What stands before and behind a separator is cut on its own. -/
lemma splitOn_append_cons (sep : Char) (before after : List Char) :
    splitOn sep (before ++ sep :: after) = splitOn sep before ++ splitOn sep after := by
  induction before with
  | nil => simp [splitOn]
  | cons c before ih =>
    rw [List.cons_append, splitOn, splitOn, ih]
    split
    · rfl
    · obtain ⟨piece, pieces, hpieces⟩ := List.exists_cons_of_ne_nil (splitOn_ne_nil sep before)
      rw [hpieces]
      rfl

/-- Pieces that follow separators are cut off again. -/
lemma splitOn_append_flatMap {sep : Char} {piece : List Char} (hp : sep ∉ piece)
    {pieces : List (List Char)} (h : ∀ p ∈ pieces, sep ∉ p) :
    splitOn sep (piece ++ pieces.flatMap (sep :: ·)) = piece :: pieces := by
  induction pieces generalizing piece with
  | nil => rw [List.flatMap_nil, List.append_nil, splitOn_of_notMem hp]
  | cons next rest ih =>
    obtain ⟨hn, hr⟩ := List.forall_mem_cons.mp h
    rw [List.flatMap_cons, List.cons_append, splitOn_append hp, ih hn hr]

lemma mem_of_mem_splitOn {sep c : Char} {text piece : List Char} (h : piece ∈ splitOn sep text)
    (hc : c ∈ piece) : c ∈ text := by
  induction text generalizing piece with
  | nil => simp_all [splitOn]
  | cons d rest ih =>
    rw [splitOn] at h
    split at h
    · rcases List.mem_cons.mp h with rfl | h
      · contradiction
      · exact List.mem_cons_of_mem _ (ih h hc)
    · split at h
      · next first pieces hs =>
        rw [hs] at ih
        rcases List.mem_cons.mp h with rfl | h
        · rcases List.mem_cons.mp hc with rfl | hc
          · exact List.mem_cons_self
          · exact List.mem_cons_of_mem _ (ih List.mem_cons_self hc)
        · exact List.mem_cons_of_mem _ (ih (List.mem_cons_of_mem _ h) hc)
      · rw [List.mem_singleton] at h
        subst h
        obtain rfl := List.mem_singleton.mp hc
        exact List.mem_cons_self

lemma notMem_of_mem_splitOn {sep : Char} {text piece : List Char} (h : piece ∈ splitOn sep text) :
    sep ∉ piece := by
  induction text generalizing piece with
  | nil => simp_all [splitOn]
  | cons c rest ih =>
    rw [splitOn] at h
    split at h
    · rcases List.mem_cons.mp h with rfl | h
      · simp
      · exact ih h
    · next hc =>
      have hcs : sep ≠ c := Ne.symm hc
      split at h
      · next first pieces hs =>
        rw [hs] at ih
        rcases List.mem_cons.mp h with rfl | h
        · exact List.not_mem_cons_of_ne_of_not_mem hcs (ih List.mem_cons_self)
        · exact ih (List.mem_cons_of_mem _ h)
      · rw [List.mem_singleton] at h
        simp [h, hcs]

lemma mem_joinWith {sep c : Char} {pieces : List (List Char)} (h : c ∈ joinWith sep pieces) :
    c = sep ∨ ∃ piece ∈ pieces, c ∈ piece := by
  induction pieces with
  | nil => contradiction
  | cons piece rest ih =>
    by_cases hr : rest = []
    · subst hr
      exact .inr ⟨piece, List.mem_cons_self, h⟩
    · rw [joinWith_cons_of_ne_nil sep piece hr] at h
      rcases List.mem_append.mp h with h | h
      · exact .inr ⟨piece, List.mem_cons_self, h⟩
      · rcases List.mem_cons.mp h with rfl | h
        · exact .inl rfl
        · obtain hc | ⟨p, hp, hc⟩ := ih h
          · exact .inl hc
          · exact .inr ⟨p, List.mem_cons_of_mem _ hp, hc⟩

/-- Cutting gives back the pieces that were joined. -/
theorem splitOn_joinWith {sep : Char} {pieces : List (List Char)} (hne : pieces ≠ [])
    (h : ∀ piece ∈ pieces, sep ∉ piece) : splitOn sep (joinWith sep pieces) = pieces := by
  induction pieces with
  | nil => contradiction
  | cons piece pieces ih =>
    obtain ⟨hp, hr⟩ := List.forall_mem_cons.mp h
    cases pieces with
    | nil => exact splitOn_of_notMem hp
    | cons next rest =>
      rw [joinWith_cons_of_ne_nil _ _ (List.cons_ne_nil next rest), splitOn_append hp,
        ih (List.cons_ne_nil next rest) hr]

/-- Whether a text is cut into these pieces at a separator. -/
structure IsCut (sep : Char) (text : List Char) (pieces : List (List Char)) : Prop where
  nonempty : pieces ≠ []
  notMem : ∀ piece ∈ pieces, sep ∉ piece
  joined : joinWith sep pieces = text

/-- There is exactly one way to cut a text at a separator. -/
theorem splitOn_eq_iff {sep : Char} {text : List Char} {pieces : List (List Char)} :
    splitOn sep text = pieces ↔ IsCut sep text pieces := by
  constructor
  · rintro rfl
    exact ⟨splitOn_ne_nil sep text, fun _ => notMem_of_mem_splitOn, joinWith_splitOn sep text⟩
  · intro h
    rw [← h.joined, splitOn_joinWith h.nonempty h.notMem]

theorem splitFirst?_eq_some_iff {sep : Char} {text before after : List Char} :
    splitFirst? sep text = some (before, after) ↔
      text = before ++ sep :: after ∧ sep ∉ before := by
  constructor
  · exact eq_append_of_splitFirst?
  · rintro ⟨rfl, h⟩
    exact splitFirst?_append h after

theorem splitFirst?_eq_none_iff {sep : Char} {text : List Char} :
    splitFirst? sep text = none ↔ sep ∉ text := by
  constructor
  · intro h hm
    obtain ⟨before, after, heq, hb⟩ := List.eq_append_cons_of_mem hm
    rw [splitFirst?_eq_some_iff.mpr ⟨heq, hb⟩] at h
    contradiction
  · exact splitFirst?_of_notMem

/-! ### The last piece -/

lemma joinWith_concat {sep : Char} {pieces : List (List Char)} (h : pieces ≠ [])
    (last : List Char) : joinWith sep (pieces ++ [last]) = joinWith sep pieces ++ sep :: last := by
  induction pieces with
  | nil => contradiction
  | cons piece rest ih =>
    have hne : rest ++ [last] ≠ [] := by simp
    rw [List.cons_append, joinWith_cons_of_ne_nil sep piece hne]
    by_cases hr : rest = []
    · rw [hr]
      rfl
    · rw [ih hr, joinWith_cons_of_ne_nil sep piece hr, List.append_assoc, List.cons_append]

/-- The last piece is all there is, or what follows a separator. -/
lemma lastPiece_cases (sep : Char) (text : List Char) :
    sep ∉ lastPiece sep text ∧
      (text = lastPiece sep text ∨ ∃ before, text = before ++ sep :: lastPiece sep text) := by
  obtain ⟨pieces, last, hpieces⟩ : ∃ pieces last, splitOn sep text = pieces ++ [last] :=
    ⟨_, _, (List.dropLast_concat_getLast (splitOn_ne_nil sep text)).symm⟩
  have hlast : lastPiece sep text = last := by simp [lastPiece, hpieces]
  have hjoin := joinWith_splitOn sep text
  rw [hpieces] at hjoin
  rw [hlast]
  refine ⟨notMem_of_mem_splitOn (hpieces ▸ List.mem_append_right _ List.mem_cons_self), ?_⟩
  by_cases hne : pieces = []
  · rw [hne] at hjoin
    exact .inl hjoin.symm
  · rw [joinWith_concat hne] at hjoin
    exact .inr ⟨_, hjoin.symm⟩

/-- The last piece is empty if there is nothing at all, or nothing behind the last separator. -/
lemma lastPiece_eq_nil_iff {sep : Char} {text : List Char} :
    lastPiece sep text = [] ↔ text = [] ∨ text.getLast? = some sep := by
  obtain ⟨hsep, hall | ⟨before, hcut⟩⟩ := lastPiece_cases sep text
  · rw [← hall] at hsep ⊢
    exact ⟨.inl, fun h => h.resolve_right fun hl => hsep (List.mem_of_getLast? hl)⟩
  · generalize lastPiece sep text = last at hsep hcut ⊢
    subst hcut
    cases last with
    | nil => simp
    | cons c rest =>
      have hlast : (before ++ sep :: c :: rest).getLast? = (c :: rest).getLast? := by
        simp [List.getLast?_cons]
      rw [hlast]
      have hne : (c :: rest).getLast? ≠ some sep := fun h => hsep (List.mem_of_getLast? h)
      simp [hne]

end ModuleArchive.Text
