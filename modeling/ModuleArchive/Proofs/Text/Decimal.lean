import ModuleArchive.Text.Decimal
import Mathlib.Algebra.Group.Nat.Defs
import Mathlib.Tactic.Lemma

/-!
# Reading back decimal numbers

The digits of a number are its canonical written form: they are read back as the number, there
is no leading zero, and no other canonical run of digits has the same value.
-/
namespace ModuleArchive.Decimal

lemma isDigit_of_mem_digits {n : Nat} {c : Char} (h : c ∈ digits n) : isDigit c = true := by
  have hd := Nat.isDigit_of_mem_toDigits (by decide) (by decide) h
  simp only [Char.isDigit, Bool.and_eq_true, decide_eq_true_eq] at hd
  simp only [isDigit, Bool.and_eq_true, decide_eq_true_eq]
  exact hd

lemma value_eq_ofDigitChars (start : Nat) (text : List Char) :
    value start text = Nat.ofDigitChars 10 text start := by
  simp only [value, Nat.ofDigitChars_eq_foldl, digitValue, Nat.mul_comm]

@[simp] theorem value_digits (n : Nat) : value 0 (digits n) = n := by
  rw [value_eq_ofDigitChars, digits, Nat.ofDigitChars_ten_toDigits]

lemma digits_ne_nil (n : Nat) : digits n ≠ [] := Nat.toDigits_ne_nil

lemma digits_of_lt {n : Nat} (h : n < 10) : digits n = [Nat.digitChar n] :=
  Nat.toDigits_of_lt_base h

lemma digits_of_le {n : Nat} (h : 10 ≤ n) :
    digits n = digits (n / 10) ++ [Nat.digitChar (n % 10)] :=
  Nat.toDigits_of_base_le (by decide) h

/-- The first digits of a number are those of what is left when the others are divided off. -/
lemma take_digits {n k : Nat} (h : k < (digits n).length) :
    (digits n).take ((digits n).length - k) = digits (n / 10 ^ k) := by
  induction k generalizing n with
  | zero => simp
  | succ k ih =>
    have hn : 10 ≤ n := by
      refine Nat.le_of_not_lt fun hlt => ?_
      rw [digits_of_lt hlt, List.length_singleton] at h
      omega
    have hlength : (digits n).length = (digits (n / 10)).length + 1 := by
      rw [digits_of_le hn, List.length_append, List.length_singleton]
    rw [hlength] at h ⊢
    rw [digits_of_le hn, Nat.add_sub_add_right, List.take_append_of_le_length (Nat.sub_le _ _),
      ih (by omega), Nat.div_div_eq_div_mul, Nat.pow_succ']

lemma head?_digits {n : Nat} (h : 0 < n) : (digits n).head? ≠ some '0' := by
  induction n using Nat.strongRecOn with
  | ind n ih =>
    by_cases hn : n < 10
    · have hdigit : ∀ m < 10, 0 < m → [Nat.digitChar m].head? ≠ some '0' := by decide
      rw [digits_of_lt hn]
      exact hdigit n hn h
    · rw [digits_of_le (by omega), List.head?_append, Option.or_of_isSome (by simp [digits_ne_nil])]
      exact ih (n / 10) (by omega) (by omega)

theorem isCanonical_digits (n : Nat) : isCanonical (digits n) = true := by
  have hall : (digits n).all isDigit = true := List.all_eq_true.mpr fun _ h =>
    isDigit_of_mem_digits h
  have hhead : digits n = ['0'] ∨ (digits n).head? ≠ some '0' := by
    rcases Nat.eq_zero_or_pos n with rfl | h
    · exact .inl rfl
    · exact .inr (head?_digits h)
  simpa [isCanonical, hall, digits_ne_nil] using hhead

theorem digits_injective : Function.Injective digits := by
  intro a b h
  have hv := congrArg (value 0) h
  rwa [value_digits, value_digits] at hv

lemma digitChar_digitValue {c : Char} (h : isDigit c = true) :
    digitValue c < 10 ∧ Nat.digitChar (digitValue c) = c := by
  have hc : 48 ≤ c.toNat ∧ c.toNat ≤ 57 := by
    simp only [isDigit, Bool.and_eq_true, decide_eq_true_eq] at h
    exact h
  have hv : digitValue c = c.toNat - 48 := rfl
  refine ⟨by omega, Char.toNat_inj.mp ?_⟩
  rw [Nat.toNat_digitChar_of_lt_ten (by omega)]
  omega

/-- Digits that are read after a number follow the digits of the number. -/
lemma digits_append {start : Nat} (hs : 0 < start) {text : List Char}
    (h : ∀ c ∈ text, isDigit c = true) : digits start ++ text = digits (value start text) := by
  induction text generalizing start with
  | nil => simp [value]
  | cons c rest ih =>
    obtain ⟨hc, hr⟩ := List.forall_mem_cons.mp h
    obtain ⟨hlt, hchar⟩ := digitChar_digitValue hc
    have hstep : digits start ++ [c] = digits (start * 10 + digitValue c) := by
      rw [← hchar, ← digits_of_lt hlt, Nat.mul_comm, hchar]
      exact Nat.toDigits_append_toDigits (by decide) hs hlt
    calc
      digits start ++ c :: rest = (digits start ++ [c]) ++ rest := by simp
      _ = digits (start * 10 + digitValue c) ++ rest := by rw [hstep]
      _ = digits (value (start * 10 + digitValue c) rest) := ih (by omega) hr

/-- A canonical run of digits is the written form of its value. -/
theorem digits_value {text : List Char} (h : isCanonical text = true) :
    digits (value 0 text) = text := by
  obtain ⟨⟨hne, hall⟩, hhead⟩ : (text ≠ [] ∧ ∀ c ∈ text, isDigit c = true) ∧
      (text = ['0'] ∨ text.head? ≠ some '0') := by
    simpa [isCanonical] using h
  rcases hhead with rfl | hhead
  · rfl
  · cases text with
    | nil => contradiction
    | cons c rest =>
      obtain ⟨hc, hr⟩ := List.forall_mem_cons.mp hall
      obtain ⟨hlt, hchar⟩ := digitChar_digitValue hc
      have hpos : 0 < digitValue c := by
        rw [Nat.pos_iff_ne_zero]
        intro hz
        rw [hz] at hchar
        subst hchar
        contradiction
      calc
        digits (value 0 (c :: rest)) = digits (value (digitValue c) rest) := by simp [value]
        _ = digits (digitValue c) ++ rest := (digits_append hpos hr).symm
        _ = c :: rest := by rw [digits_of_lt hlt, hchar, List.singleton_append]

end ModuleArchive.Decimal
