import ModuleArchive.Proofs.Location.RoundTrip
import ModuleArchive.Proofs.Url.Base

/-!
# Schemes of URLs

A text that starts with a scheme and a colon is read as a URL with that scheme in lower case, if
it is read as one at all: nothing of a scheme is left out when the text is cleaned, and the scheme
ends at the first colon.
-/
namespace ModuleArchive.Url

open Config (isScheme)

variable {scheme : List Char}

lemma toNat_of_mem_scheme (h : isScheme scheme = true) {c : Char} (hc : c ∈ scheme) :
    0x20 < c.toNat := by
  have hclass : (c.isAlphanum || c == '+' || c == '-' || c == '.') = true := by
    cases scheme with
    | nil => contradiction
    | cons first rest =>
      obtain ⟨hfirst, hrest⟩ := Bool.and_eq_true_iff.mp h
      rcases List.mem_cons.mp hc with rfl | hc
      · simp [Char.isAlphanum, hfirst]
      · exact List.all_eq_true.mp hrest c hc
  simp only [Bool.or_eq_true, beq_iff_eq] at hclass
  rcases hclass with ((halnum | rfl) | rfl) | rfl
  · change (decide (65 ≤ c.val ∧ c.val ≤ 90) || (97 ≤ c.val && c.val ≤ 122) ||
      (48 ≤ c.val && c.val ≤ 57)) = true at halnum
    simp only [Bool.or_eq_true, Bool.and_eq_true, decide_eq_true_eq, UInt32.le_iff_toNat_le]
      at halnum
    change ((65 ≤ c.toNat ∧ c.toNat ≤ 90) ∨ (97 ≤ c.toNat ∧ c.toNat ≤ 122)) ∨
      (48 ≤ c.toNat ∧ c.toNat ≤ 57) at halnum
    omega
  · decide
  · decide
  · decide

/-- Whether a character counts wherever it stands in a URL. -/
def IsVisible (c : Char) : Prop := 0x20 < c.toNat

instance : DecidablePred IsVisible := fun c => inferInstanceAs (Decidable (0x20 < c.toNat))

lemma IsVisible.isControlOrSpace_eq {c : Char} (h : IsVisible c) : isControlOrSpace c = false :=
  decide_eq_false (Nat.not_le.mpr h)

/-- Cleaning a text leaves visible characters at its beginning as they are. -/
lemma clean_append {front : List Char} (hne : front ≠ []) (h : ∀ c ∈ front, IsVisible c)
    (rest : List Char) :
    clean (front ++ rest) = front ++ (Text.trimRight isControlOrSpace rest).filter
      fun c => c != '\t' && c != '\n' && c != '\r' := by
  have hleft : Text.trimLeft isControlOrSpace (front ++ rest) = front ++ rest := by
    cases front with
    | nil => contradiction
    | cons first front =>
      have hfirst := (h first List.mem_cons_self).isControlOrSpace_eq
      rw [List.cons_append, Text.trimLeft, List.dropWhile_cons_of_neg (by simp [hfirst])]
  have hright : Text.trimRight isControlOrSpace (front ++ rest) =
      front ++ Text.trimRight isControlOrSpace rest := by
    have hstop : front.reverse.dropWhile isControlOrSpace = front.reverse := by
      cases hrev : front.reverse with
      | nil => rfl
      | cons last others =>
        have hlast : last ∈ front := List.mem_reverse.mp (hrev ▸ List.mem_cons_self)
        rw [List.dropWhile_cons_of_neg (by simp [(h last hlast).isControlOrSpace_eq])]
    rw [Text.trimRight, List.reverse_append, List.dropWhile_append]
    split
    · next hempty =>
      rw [Text.trimRight, List.isEmpty_iff.mp hempty, hstop]
      simp
    · rw [List.reverse_append, List.reverse_reverse, Text.trimRight]
  have hkept : front.filter (fun c => c != '\t' && c != '\n' && c != '\r') = front := by
    rw [List.filter_eq_self]
    intro c hc
    have hne {d : Char} (hd : d.toNat ≤ 0x20) : c ≠ d := by
      rintro rfl
      exact Nat.not_lt.mpr hd (h c hc)
    simp [hne (show '\t'.toNat ≤ 0x20 by decide), hne (show '\n'.toNat ≤ 0x20 by decide),
      hne (show '\r'.toNat ≤ 0x20 by decide)]
  rw [clean, hleft, hright, List.filter_append, hkept]

lemma clean_eq_self {text : List Char} (h : ∀ c ∈ text, IsVisible c) : clean text = text := by
  rcases eq_or_ne text [] with rfl | hne
  · rfl
  · have hclean := clean_append hne h []
    rwa [Text.trimRight, List.reverse_nil, List.dropWhile_nil, List.reverse_nil, List.filter_nil,
      List.append_nil] at hclean

/-- Cleaning a text leaves a scheme and its colon as they are. -/
lemma exists_clean_append (h : isScheme scheme = true) (rest : List Char) :
    ∃ tail, clean (scheme ++ ':' :: rest) = scheme ++ ':' :: tail := by
  have hvisible : ∀ c ∈ scheme ++ [':'], IsVisible c := by
    intro c hc
    rcases List.mem_append.mp hc with hc | hc
    · exact toNat_of_mem_scheme h hc
    · obtain rfl := List.mem_singleton.mp hc
      exact (by decide : 0x20 < ':'.toNat)
  rw [List.append_cons, clean_append (by simp) hvisible, ← List.append_cons]
  exact ⟨_, rfl⟩

lemma splitScheme?_append (h : isScheme scheme = true) (rest : List Char) :
    splitScheme? (scheme ++ ':' :: rest) = some (scheme.map Char.toLower, rest) := by
  have hcolon := Location.notMem_of_isScheme h
  cases scheme with
  | nil => contradiction
  | cons first name =>
    rw [splitScheme?, Text.splitFirst?_append hcolon]
    exact if_pos h

/-- A URL has the scheme that its text starts with, in lower case. -/
theorem scheme_of_parse? (h : isScheme scheme = true) {rest : List Char} {url : Url}
    (hp : parse? (String.ofList (scheme ++ ':' :: rest)) = some url) :
    url.scheme = scheme.map Char.toLower := by
  obtain ⟨tail, htail⟩ := exists_clean_append h rest
  rw [parse?, String.toList_ofList] at hp
  simp only [read?, htail, splitScheme?_append h] at hp
  exact scheme_withScheme? hp

end ModuleArchive.Url
