import ModuleArchive.Html.Construction
import ModuleArchive.Proofs.Html.Arena
import ModuleArchive.Proofs.Html.Lexing

/-!
# Building a document

A document is built from the tokens of its page one by one. Between two tokens the builder stands at
a position: in an open element, inside others, with the rules of a mode for the next token.
-/
namespace ModuleArchive.Html

open Node (html texts tokens tokensAll)

namespace Builder

/-! ### Tokens that are settled -/

/-- Whether a token is settled after it has been treated again some times, by rules for HTML
only. -/
inductive Settles (t : Token) : Nat → Builder → Builder → Prop where
  | settled {b b' : Builder} (hf : b.usesForeignRules t = false)
      (h : byMode b t = .settled b') : Settles t 0 b b'
  | again {b b₁ b' : Builder} {rounds : Nat} (hf : b.usesForeignRules t = false)
      (h : byMode b t = .again b₁) (hrest : Settles t rounds b₁ b') : Settles t (rounds + 1) b b'

lemma processRounds_of_settles {t : Token} {rounds : Nat} {b b' : Builder}
    (h : Settles t rounds b b') {limit : Nat} (hl : rounds < limit) :
    processRounds t limit b = b' := by
  induction h generalizing limit with
  | settled hf h =>
    obtain ⟨limit, rfl⟩ := Nat.exists_eq_add_one_of_ne_zero (Nat.ne_of_gt hl)
    rw [processRounds, hf]
    simp only [Bool.false_eq_true, if_false, h]
  | again hf h _ ih =>
    obtain ⟨limit, rfl⟩ := Nat.exists_eq_add_one_of_ne_zero (Nat.ne_of_gt (Nat.zero_lt_of_lt hl))
    rw [processRounds, hf]
    simp only [Bool.false_eq_true, if_false, h]
    exact ih (Nat.lt_of_succ_lt_succ hl)

/-- A token that is settled soon gives the state in which it is settled. -/
lemma process_of_settles {t : Token} {rounds : Nat} {b b' : Builder} (h : Settles t rounds b b')
    (hr : rounds < 32) (hd : b.dropsLineBreak = false) : b.process t = b' := by
  have hsame : { b with dropsLineBreak := false } = b := by
    cases b
    simp_all
  rw [process, hd, hsame]
  exact processRounds_of_settles h (by omega)

/-! ### Tokens one after the other -/

/-- Whether a builder takes some tokens while all text is read as ordinary markup. -/
inductive Takes : Builder → List Token → Builder → Prop where
  | nil {b : Builder} (hb : b.textMode = none) : Takes b [] b
  | cons {b b' : Builder} {t : Token} {tokens : List Token} (hb : b.textMode = none)
      (h : Takes (b.receive t) tokens b') : Takes b (t :: tokens) b'

lemma Takes.textMode_eq {b b' : Builder} {tokens : List Token} (h : Takes b tokens b') :
    b.textMode = none := by
  cases h <;> assumption

lemma with_textMode_none {b : Builder} (h : b.textMode = none) :
    { b with textMode := none } = b := by
  cases b
  cases h
  rfl

/-- What is taken first is received, and the rest is taken from there. -/
lemma Takes.of_append {b b' : Builder} {tokens more : List Token}
    (h : Takes b (tokens ++ more) b') : Takes (tokens.foldl receive b) more b' := by
  induction tokens generalizing b with
  | nil => exact h
  | cons t tokens ih =>
    cases h with
    | cons _ h => exact ih h

/-- A page is read as its tokens are taken. -/
lemma readRest_of_lexes {text : List Char} {tokens : List Token} (hl : Lexes text tokens)
    {b b' : Builder} (ht : Takes b tokens b') {fuel : Nat} (hf : text.length < fuel) :
    readRest fuel .data text b = b'.process .endOfFile := by
  induction hl generalizing b fuel with
  | nil =>
    cases ht
    cases fuel <;> rfl
  | @cons c chunk text tokens more h _ ih =>
    obtain ⟨fuel, rfl⟩ := Nat.exists_eq_add_one_of_ne_zero (Nat.ne_of_gt (Nat.zero_lt_of_lt hf))
    have hmore := ht.of_append
    have hsame : { tokens.foldl receive b with textMode := none } = tokens.foldl receive b :=
      with_textMode_none hmore.textMode_eq
    have hlen : text.length < fuel := by
      rw [List.length_cons, List.length_append] at hf
      omega
    rw [readRest, h]
    simp only [hmore.textMode_eq, Option.getD_none]
    rw [hsame]
    exact ih hmore hlen

end Builder

end ModuleArchive.Html
