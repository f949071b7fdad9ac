import ModuleArchive.Proofs.Traverse
import ModuleArchive.Text.Utf8

/-!
# Reading back UTF-8

The machine that reads UTF-8 gives back every text from its bytes, and reads no other bytes as
that text. A character is read in one go from the state between characters, whatever has been
read before it and whatever follows. Conversely, every state within a character is reached by
the first bytes of one, and by no others.
-/
namespace ModuleArchive.Utf8

/-- The code point of a character lies below or above the surrogates. -/
lemma toNat_range (c : Char) : c.toNat < 0xD800 ∨ 0xDFFF < c.toNat ∧ c.toNat < 0x110000 := by
  have h := c.valid
  simp only [UInt32.isValidChar, Nat.isValidChar] at h
  exact h

lemma toNat_ofNat {n : Nat} (h : n < 256) : (UInt8.ofNat n).toNat = n :=
  UInt8.toNat_ofNat_of_lt' h

lemma encodeChar_ascii {c : Char} (h : c.toNat < 0x80) :
    encodeChar c = [UInt8.ofNat c.toNat] := by
  simp only [encodeChar, if_pos h]

/-! ### One byte -/

lemma decodeInto_ascii (acc : List (Option Char)) {n : Nat} (h : n < 0x80) (rest : Bytes) :
    decodeInto acc none (UInt8.ofNat n :: rest) =
      decodeInto (some (Char.ofNat n) :: acc) none rest := by
  simp only [decodeInto, start, toNat_ofNat (show n < 256 by omega), if_pos h]

/-- A byte that starts a longer character. -/
lemma decodeInto_start (acc : List (Option Char)) {b : UInt8} {p : Pending}
    (hp : start b = .inr p) (rest : Bytes) :
    decodeInto acc none (b :: rest) = decodeInto acc (some p) rest := by
  simp only [decodeInto, hp]

/-- A continuation byte after which others are to come. -/
lemma decodeInto_more (acc : List (Option Char)) {p : Pending} {n : Nat} (h : n < 64)
    (hl : p.low ≤ 0x80 + n) (hh : 0x80 + n ≤ p.high) (hn : 1 < p.needed) (rest : Bytes) :
    decodeInto acc (some p) (UInt8.ofNat (0x80 + n) :: rest) =
      decodeInto acc (some { value := p.value * 64 + n, needed := p.needed - 1 }) rest := by
  have hb := toNat_ofNat (show 0x80 + n < 256 by omega)
  have hv : 0x80 + n - 0x80 = n := by omega
  simp only [decodeInto, hb, if_pos (And.intro hl hh), if_neg (show ¬ p.needed ≤ 1 by omega), hv]

/-- The last continuation byte. -/
lemma decodeInto_last (acc : List (Option Char)) {p : Pending} {n : Nat} (h : n < 64)
    (hl : p.low ≤ 0x80 + n) (hh : 0x80 + n ≤ p.high) (hn : p.needed ≤ 1) (rest : Bytes) :
    decodeInto acc (some p) (UInt8.ofNat (0x80 + n) :: rest) =
      decodeInto (some (Char.ofNat (p.value * 64 + n)) :: acc) none rest := by
  have hb := toNat_ofNat (show 0x80 + n < 256 by omega)
  have hv : 0x80 + n - 0x80 = n := by omega
  simp only [decodeInto, hb, if_pos (And.intro hl hh), if_pos hn, hv]

/-! ### The first byte of a longer character -/

lemma start_two {k : Nat} (hl : 2 ≤ k) (hh : k < 32) :
    start (UInt8.ofNat (0xC0 + k)) = .inr { value := k, needed := 1 } := by
  have hb := toNat_ofNat (show 0xC0 + k < 256 by omega)
  simp only [start, hb]
  rw [if_neg (by omega), if_neg (by omega), if_pos (by omega), Nat.add_sub_cancel_left]

lemma start_three {k : Nat} (hh : k < 16) :
    start (UInt8.ofNat (0xE0 + k)) =
      .inr { value := k, needed := 2, low := if k = 0 then 0xA0 else 0x80,
             high := if k = 13 then 0x9F else 0xBF } := by
  have hb := toNat_ofNat (show 0xE0 + k < 256 by omega)
  have h0 : (0xE0 + k = 0xE0) = (k = 0) := propext (by omega)
  have h13 : (0xE0 + k = 0xED) = (k = 13) := propext (by omega)
  simp only [start, hb, h0, h13]
  rw [if_neg (by omega), if_neg (by omega), if_neg (by omega), if_pos (by omega),
    Nat.add_sub_cancel_left]

lemma start_four {k : Nat} (hh : k < 5) :
    start (UInt8.ofNat (0xF0 + k)) =
      .inr { value := k, needed := 3, low := if k = 0 then 0x90 else 0x80,
             high := if k = 4 then 0x8F else 0xBF } := by
  have hb := toNat_ofNat (show 0xF0 + k < 256 by omega)
  have h0 : (0xF0 + k = 0xF0) = (k = 0) := propext (by omega)
  have h4 : (0xF0 + k = 0xF4) = (k = 4) := propext (by omega)
  simp only [start, hb, h0, h4]
  rw [if_neg (by omega), if_neg (by omega), if_neg (by omega), if_neg (by omega),
    if_pos (by omega), Nat.add_sub_cancel_left]

/-! ### Characters and texts -/

/-- A character is read from its bytes, starting between characters. -/
lemma decodeInto_encodeChar (acc : List (Option Char)) (c : Char) (rest : Bytes) :
    decodeInto acc none (encodeChar c ++ rest) = decodeInto (some c :: acc) none rest := by
  have hr := toNat_range c
  have hc : Char.ofNat c.toNat = c := Char.ofNat_toNat c
  simp only [encodeChar]
  generalize c.toNat = n at hr hc ⊢
  split
  · next h1 =>
    rw [List.singleton_append, decodeInto_ascii acc h1, hc]
  · next h1 =>
    split
    · next h2 =>
      have hv : n / 64 * 64 + n % 64 = n := by omega
      simp only [List.cons_append, List.nil_append]
      rw [decodeInto_start acc (start_two (by omega) (by omega)),
        decodeInto_last acc (by omega) (by simp) (by simp; omega) (by simp), hv, hc]
    · next h2 =>
      split
      · next h3 =>
        have hv : (n / 4096 * 64 + n / 64 % 64) * 64 + n % 64 = n := by omega
        simp only [List.cons_append, List.nil_append]
        -- the narrower range of the second byte excludes overlong forms and surrogates
        rw [decodeInto_start acc (start_three (by omega)),
          decodeInto_more acc (by omega) (by simp only; split <;> omega)
            (by simp only; split <;> omega) (by simp),
          decodeInto_last acc (by omega) (by simp) (by simp; omega) (by simp), hv, hc]
      · next h3 =>
        have hv : ((n / 262144 * 64 + n / 4096 % 64) * 64 + n / 64 % 64) * 64 + n % 64 = n := by
          omega
        simp only [List.cons_append, List.nil_append]
        rw [decodeInto_start acc (start_four (by omega)),
          decodeInto_more acc (by omega) (by simp only; split <;> omega)
            (by simp only; split <;> omega) (by simp),
          decodeInto_more acc (by omega) (by simp) (by simp; omega) (by simp),
          decodeInto_last acc (by omega) (by simp) (by simp; omega) (by simp), hv, hc]

lemma decodeInto_encode (acc : List (Option Char)) (text : List Char) :
    decodeInto acc none (encode text) = (text.map some).reverse ++ acc := by
  induction text generalizing acc with
  | nil => rfl
  | cons c rest ih =>
    rw [encode, List.flatMap_cons, decodeInto_encodeChar, ← encode, ih]
    simp

lemma symbols_encode (text : List Char) : symbols (encode text) = text.map some := by
  rw [symbols, decodeInto_encode, List.append_nil, List.reverse_reverse]

theorem decode?_encode (text : List Char) : decode? (encode text) = some text := by
  rw [decode?, symbols_encode, mapM_eq_some_iff, List.forall₂_map_left_iff]
  simp [List.forall₂_same]

/-- Every text is read back from its bytes, whatever becomes of ill-formed ones. -/
lemma decodeLossy_encode (text : List Char) : decodeLossy (encode text) = text := by
  rw [decodeLossy, symbols_encode, List.map_map]
  exact List.map_id text

theorem encode_injective : Function.Injective encode := by
  intro a b h
  have hd := congrArg decode? h
  rwa [decode?_encode, decode?_encode, Option.some_inj] at hd

@[simp] lemma encode_append (a b : List Char) : encode (a ++ b) = encode a ++ encode b :=
  List.flatMap_append

lemma encodeChar_ne_nil (c : Char) : encodeChar c ≠ [] := by
  simp only [encodeChar]
  split <;> (try split) <;> (try split) <;> simp

lemma encode_ne_nil {text : List Char} (h : text ≠ []) : encode text ≠ [] := by
  cases text with
  | nil => contradiction
  | cons c rest => simp [encode, encodeChar_ne_nil]

/-- A byte of ASCII is a character by itself. -/
lemma toNat_of_mem_encodeChar {c : Char} {b : UInt8} (h : b ∈ encodeChar c)
    (hb : b.toNat < 0x80) : b.toNat = c.toNat := by
  have hrange := toNat_range c
  simp only [encodeChar] at h
  split at h
  · next hlow =>
    obtain rfl := List.mem_singleton.mp h
    exact toNat_ofNat (by omega)
  · next hlow =>
    -- the bytes of a longer character are none of ASCII
    exfalso
    have hhigh {n : Nat} (hl : 0x80 ≤ n) (hh : n < 256) : b ≠ UInt8.ofNat n := by
      rintro rfl
      rw [toNat_ofNat hh] at hb
      omega
    revert h
    repeat' split
    all_goals
      simp only [List.mem_cons, List.not_mem_nil, or_false, not_or, imp_false]
      refine ⟨hhigh (by omega) (by omega), ?_⟩
    · exact hhigh (by omega) (by omega)
    · exact ⟨hhigh (by omega) (by omega), hhigh (by omega) (by omega)⟩
    · exact ⟨hhigh (by omega) (by omega), hhigh (by omega) (by omega),
        hhigh (by omega) (by omega)⟩

/-! ### Only the bytes of a text read as it -/

/-- Whether reading some bytes leads from between characters to a state before the next
character is complete. -/
inductive Starts : Bytes → Option Pending → Prop where
  | nothing : Starts [] none
  | two {k : Nat} (hl : 2 ≤ k) (hh : k < 32) :
      Starts [UInt8.ofNat (0xC0 + k)] (some { value := k, needed := 1 })
  | three {k : Nat} (h : k < 16) :
      Starts [UInt8.ofNat (0xE0 + k)]
        (some { value := k, needed := 2, low := if k = 0 then 0xA0 else 0x80,
                high := if k = 13 then 0x9F else 0xBF })
  | threeNext {k m : Nat} (h : k < 16) (hm : m < 64) (hl : k = 0 → 32 ≤ m)
      (hh : k = 13 → m < 32) :
      Starts [UInt8.ofNat (0xE0 + k), UInt8.ofNat (0x80 + m)]
        (some { value := k * 64 + m, needed := 1 })
  | four {k : Nat} (h : k < 5) :
      Starts [UInt8.ofNat (0xF0 + k)]
        (some { value := k, needed := 3, low := if k = 0 then 0x90 else 0x80,
                high := if k = 4 then 0x8F else 0xBF })
  | fourNext {k m : Nat} (h : k < 5) (hm : m < 64) (hl : k = 0 → 16 ≤ m) (hh : k = 4 → m < 16) :
      Starts [UInt8.ofNat (0xF0 + k), UInt8.ofNat (0x80 + m)]
        (some { value := k * 64 + m, needed := 2 })
  | fourLast {k m l : Nat} (h : k < 5) (hm : m < 64) (hl : k = 0 → 16 ≤ m) (hh : k = 4 → m < 16)
      (hn : l < 64) :
      Starts [UInt8.ofNat (0xF0 + k), UInt8.ofNat (0x80 + m), UInt8.ofNat (0x80 + l)]
        (some { value := (k * 64 + m) * 64 + l, needed := 1 })

lemma toNat_ofNat_char {n : Nat} (h : n < 0xD800 ∨ 0xDFFF < n ∧ n < 0x110000) :
    (Char.ofNat n).toNat = n := by
  have hv : n.isValidChar := h
  rw [Char.ofNat, dif_pos hv]
  rfl

/-- The first byte of a text is a character by itself, starts a longer one, or is none. -/
lemma start_cases (b : UInt8) :
    (∃ c, start b = .inl (some c) ∧ encodeChar c = [b]) ∨
      (∃ p, start b = .inr p ∧ Starts [b] (some p)) ∨ start b = .inl none := by
  have hb : UInt8.ofNat b.toNat = b := UInt8.ofNat_toNat
  have h256 : b.toNat < 256 := b.toNat_lt
  generalize b.toNat = n at hb h256
  subst hb
  by_cases h1 : n < 0x80
  · left
    refine ⟨Char.ofNat n, ?_, ?_⟩
    · simp only [start, toNat_ofNat h256, if_pos h1]
    · have hn := toNat_ofNat_char (n := n) (.inl (by omega))
      rw [encodeChar_ascii (by omega), hn]
  · right
    by_cases h2 : 0xC2 ≤ n ∧ n < 0xE0
    · left
      obtain ⟨k, rfl⟩ : ∃ k, n = 0xC0 + k := ⟨n - 0xC0, by omega⟩
      exact ⟨_, start_two (by omega) (by omega), .two (by omega) (by omega)⟩
    · by_cases h3 : 0xE0 ≤ n ∧ n < 0xF0
      · left
        obtain ⟨k, rfl⟩ : ∃ k, n = 0xE0 + k := ⟨n - 0xE0, by omega⟩
        exact ⟨_, start_three (by omega), .three (by omega)⟩
      · by_cases h4 : 0xF0 ≤ n ∧ n < 0xF5
        · left
          obtain ⟨k, rfl⟩ : ∃ k, n = 0xF0 + k := ⟨n - 0xF0, by omega⟩
          exact ⟨_, start_four (by omega), .four (by omega)⟩
        · right
          simp only [start, toNat_ofNat h256]
          rw [if_neg h1]
          by_cases hc : n < 0xC2
          · rw [if_pos hc]
          · rw [if_neg hc, if_neg (by omega), if_neg (by omega), if_neg (by omega)]

/-- A byte in its range completes a pending character that needs no other one. -/
lemma encodeChar_of_starts {bytes : Bytes} {p : Pending} {n : Nat} (h : Starts bytes (some p))
    (hl : p.low ≤ 0x80 + n) (hh : 0x80 + n ≤ p.high) (hn : p.needed ≤ 1) :
    encodeChar (Char.ofNat (p.value * 64 + n)) = bytes ++ [UInt8.ofNat (0x80 + n)] := by
  cases h with
  | @two k hl hh =>
    simp only at hl hh ⊢
    have hc := toNat_ofNat_char (n := k * 64 + n) (.inl (by omega))
    have hdiv : (k * 64 + n) / 64 = k := by omega
    have hmod : (k * 64 + n) % 64 = n := by omega
    simp only [encodeChar, hc]
    rw [if_neg (by omega), if_pos (by omega), hdiv, hmod]
    rfl
  | three h => simp at hn
  | @threeNext k m h hm hl hh =>
    simp only at hl hh ⊢
    have hc := toNat_ofNat_char (n := (k * 64 + m) * 64 + n) (by omega)
    have h1 : ((k * 64 + m) * 64 + n) / 4096 = k := by omega
    have h2 : ((k * 64 + m) * 64 + n) / 64 % 64 = m := by omega
    have h3 : ((k * 64 + m) * 64 + n) % 64 = n := by omega
    simp only [encodeChar, hc]
    rw [if_neg (by omega), if_neg (by omega), if_pos (by omega), h1, h2, h3]
    rfl
  | four h => simp at hn
  | fourNext h hm hl hh => simp at hn
  | @fourLast k m l h hm hl hh hn =>
    simp only at hl hh ⊢
    have hc := toNat_ofNat_char (n := ((k * 64 + m) * 64 + l) * 64 + n) (by omega)
    have h1 : (((k * 64 + m) * 64 + l) * 64 + n) / 262144 = k := by omega
    have h2 : (((k * 64 + m) * 64 + l) * 64 + n) / 4096 % 64 = m := by omega
    have h3 : (((k * 64 + m) * 64 + l) * 64 + n) / 64 % 64 = l := by omega
    have h4 : (((k * 64 + m) * 64 + l) * 64 + n) % 64 = n := by omega
    simp only [encodeChar, hc]
    rw [if_neg (by omega), if_neg (by omega), if_neg (by omega), h1, h2, h3, h4]
    rfl

/-- A byte in its range continues a pending character that needs others. -/
lemma Starts.next {bytes : Bytes} {p : Pending} {n : Nat} (h : Starts bytes (some p))
    (hl : p.low ≤ 0x80 + n) (hh : 0x80 + n ≤ p.high) (hn : 1 < p.needed) :
    Starts (bytes ++ [UInt8.ofNat (0x80 + n)])
      (some { value := p.value * 64 + n, needed := p.needed - 1 }) := by
  cases h with
  | two hl hh => simp at hn
  | @three k h =>
    simp only at hl hh
    refine .threeNext h ?_ ?_ ?_
    · split at hh <;> omega
    · rintro rfl
      simp at hl
      omega
    · rintro rfl
      simp at hh
      omega
  | threeNext h hm hl hh => simp at hn
  | @four k h =>
    simp only at hl hh
    refine .fourNext h ?_ ?_ ?_
    · split at hh <;> omega
    · rintro rfl
      simp at hl
      omega
    · rintro rfl
      simp at hh
      omega
  | fourNext h hm hlow hhigh =>
    simp only at hl hh
    exact .fourLast h hm hlow hhigh (by omega)
  | fourLast h hm hl hh hn' => simp at hn

/-- A byte in the range of a pending character is a continuation byte. -/
lemma Starts.continuation {bytes : Bytes} {p : Pending} {b : UInt8} (h : Starts bytes (some p))
    (hl : p.low ≤ b.toNat) (hh : b.toNat ≤ p.high) :
    ∃ n < 64, b = UInt8.ofNat (0x80 + n) ∧ b.toNat = 0x80 + n := by
  have hrange : 0x80 ≤ p.low ∧ p.high ≤ 0xBF := by
    constructor <;> cases h <;> simp only <;> (try split) <;> omega
  refine ⟨b.toNat - 0x80, by omega, ?_, by omega⟩
  rw [Nat.add_sub_of_le (by omega), UInt8.ofNat_toNat]

/-- Reading on only adds symbols. -/
lemma suffix_decodeInto (acc : List (Option Char)) (state : Option Pending) (bytes : Bytes) :
    acc <:+ decodeInto acc state bytes := by
  fun_induction decodeInto acc state bytes with
  | case1 => exact List.suffix_rfl
  | case2 => exact List.suffix_cons _ _
  | case3 acc b rest symbol hs ih => exact (List.suffix_cons _ _).trans ih
  | case4 acc b rest pending hs ih => exact ih
  | case5 acc pending b rest n hr value hn ih => exact (List.suffix_cons _ _).trans ih
  | case6 acc pending b rest n hr value hn ih => exact ih
  | case7 acc pending b rest n hr symbol hs ih =>
    exact ((List.suffix_cons _ _).trans (List.suffix_cons _ _)).trans ih
  | case8 acc pending b rest n hr next hs ih => exact (List.suffix_cons _ _).trans ih

/-- A pending character that does not go on is given up, whatever the next byte starts. -/
lemma suffix_of_given_up (acc : List (Option Char)) {p : Pending} {b : UInt8} {rest : Bytes}
    (h : ¬ (p.low ≤ b.toNat ∧ b.toNat ≤ p.high)) :
    none :: acc <:+ decodeInto acc (some p) (b :: rest) := by
  simp only [decodeInto, if_neg h]
  split
  · exact (List.suffix_cons _ _).trans (suffix_decodeInto _ _ _)
  · exact suffix_decodeInto _ _ _

/-- The symbol that is read first is the first character of the text. -/
lemma exists_cons_of_suffix {symbol : Option Char} {acc result : List (Option Char)}
    {text : List Char} (hs : symbol :: acc <:+ result)
    (h : result = (text.map some).reverse ++ acc) :
    ∃ c rest, symbol = some c ∧ text = c :: rest ∧
      result = (rest.map some).reverse ++ symbol :: acc := by
  obtain ⟨more, rfl⟩ := hs
  have hsplit : more ++ [symbol] = (text.map some).reverse :=
    List.append_cancel_right (by simpa using h)
  cases text with
  | nil => simp at hsplit
  | cons c rest =>
    rw [List.map_cons, List.reverse_cons] at hsplit
    obtain ⟨rfl, hc⟩ := List.append_inj' hsplit rfl
    exact ⟨c, rest, by simpa using hc, rfl, rfl⟩

/-- Bytes that are read without an ill-formed stretch are those of the text, together with the
ones that had started its first character before. -/
lemma eq_encode_of_decodeInto {acc : List (Option Char)} {state : Option Pending}
    {begun bytes : Bytes} {text : List Char}
    (h : decodeInto acc state bytes = (text.map some).reverse ++ acc)
    (hb : Starts begun state) : begun ++ bytes = encode text := by
  induction bytes generalizing acc state begun text with
  | nil =>
    cases state with
    | none =>
      cases hb
      obtain rfl : text = [] := by simpa [decodeInto] using h
      rfl
    | some p =>
      obtain ⟨c, rest, hc, -, -⟩ := exists_cons_of_suffix List.suffix_rfl h
      contradiction
  | cons b rest ih =>
    cases state with
    | none =>
      cases hb
      rcases start_cases b with ⟨c, hc, hbyte⟩ | ⟨p, hp, hstarts⟩ | hn
      · simp only [decodeInto, hc] at h
        obtain ⟨c', more, heq, rfl, hrest⟩ := exists_cons_of_suffix (suffix_decodeInto _ _ _) h
        obtain rfl := Option.some_inj.mp heq
        have hmore := ih hrest .nothing
        simp only [encode, List.flatMap_cons, hbyte] at hmore ⊢
        rw [← hmore]
        rfl
      · rw [decodeInto_start acc hp] at h
        exact ih h hstarts
      · simp only [decodeInto, hn] at h
        obtain ⟨c, more, heq, -, -⟩ := exists_cons_of_suffix (suffix_decodeInto _ _ _) h
        contradiction
    | some p =>
      by_cases hr : p.low ≤ b.toNat ∧ b.toNat ≤ p.high
      · obtain ⟨n, hn, rfl, hnat⟩ := hb.continuation hr.1 hr.2
        rw [hnat] at hr
        by_cases hlast : p.needed ≤ 1
        · rw [decodeInto_last acc hn hr.1 hr.2 hlast] at h
          obtain ⟨c, more, heq, rfl, hrest⟩ := exists_cons_of_suffix (suffix_decodeInto _ _ _) h
          obtain rfl := Option.some_inj.mp heq
          have hmore := ih hrest .nothing
          have hchar := encodeChar_of_starts hb hr.1 hr.2 hlast
          simp only [encode, List.flatMap_cons, hchar] at hmore ⊢
          rw [← hmore]
          simp
        · rw [decodeInto_more acc hn hr.1 hr.2 (by omega)] at h
          simpa using ih h (hb.next hr.1 hr.2 (by omega))
      · obtain ⟨c, more, heq, -, -⟩ := exists_cons_of_suffix (suffix_of_given_up acc hr) h
        contradiction

/-- Only the bytes of a text are read as it. -/
theorem decode?_eq_some_iff {bytes : Bytes} {text : List Char} :
    decode? bytes = some text ↔ bytes = encode text := by
  constructor
  · intro h
    have hsymbols : symbols bytes = text.map some := by
      rw [← List.forall₂_eq_eq_eq, List.forall₂_map_right_iff]
      exact mapM_eq_some_iff.mp h
    rw [symbols, List.reverse_eq_iff] at hsymbols
    exact eq_encode_of_decodeInto (by rw [hsymbols, List.append_nil]) .nothing
  · rintro rfl
    exact decode?_encode text

/-- Some bytes never read as the empty text. -/
theorem ne_nil_of_decode? {bytes : Bytes} {text : List Char} (h : decode? bytes = some text)
    (hb : bytes ≠ []) : text ≠ [] := by
  rintro rfl
  exact hb (decode?_eq_some_iff.mp h)

/-! ### Ill-formed bytes -/

/-- A character of which the first bytes have been read is none of ASCII, if it is one. -/
lemma exists_suffix_of_starts {acc : List (Option Char)} {begun bytes : Bytes} {p : Pending}
    (h : Starts begun (some p)) :
    ∃ symbol, symbol :: acc <:+ decodeInto acc (some p) bytes ∧
      ∀ c, symbol = some c → 0x80 ≤ c.toNat := by
  induction bytes generalizing begun p with
  | nil => exact ⟨none, List.suffix_rfl, nofun⟩
  | cons b rest ih =>
    by_cases hr : p.low ≤ b.toNat ∧ b.toNat ≤ p.high
    · obtain ⟨n, hn, rfl, hnat⟩ := h.continuation hr.1 hr.2
      rw [hnat] at hr
      by_cases hlast : p.needed ≤ 1
      · rw [decodeInto_last acc hn hr.1 hr.2 hlast]
        refine ⟨_, suffix_decodeInto _ _ _, ?_⟩
        rintro c hc
        obtain rfl := Option.some_inj.mp hc
        have hchar := encodeChar_of_starts h hr.1 hr.2 hlast
        -- a character of ASCII has one byte, and this one has two at least
        by_contra hascii
        rw [encodeChar_ascii (by omega)] at hchar
        have hlength := congrArg List.length hchar
        cases h <;> simp at hlength
      · rw [decodeInto_more acc hn hr.1 hr.2 (by omega)]
        exact ih (h.next hr.1 hr.2 (by omega))
    · exact ⟨none, suffix_of_given_up acc hr, nofun⟩

lemma head?_symbols {symbol : Option Char} {bytes : Bytes}
    (h : [symbol] <:+ decodeInto [] none bytes) : (symbols bytes).head? = some symbol := by
  obtain ⟨more, hmore⟩ := h
  rw [symbols, ← hmore, List.reverse_append]
  rfl

/-- The first symbol of some bytes is their first byte, if that is one of ASCII, and else is no
character of ASCII. -/
lemma head?_symbols_cons (b : UInt8) (rest : Bytes) :
    ∃ symbol, (symbols (b :: rest)).head? = some symbol ∧
      ((∃ c, symbol = some c ∧ c.toNat < 0x80 ∧ b = UInt8.ofNat c.toNat) ∨
        0x80 ≤ b.toNat ∧ ∀ c, symbol = some c → 0x80 ≤ c.toNat) := by
  have hbyte (h : ∀ c, start b ≠ .inl (some c)) : 0x80 ≤ b.toNat := by
    by_contra hlt
    exact h _ (by simp only [start]; rw [if_pos (by omega)])
  rcases start_cases b with ⟨c, hc, hchar⟩ | ⟨p, hp, hstarts⟩ | hn
  · have hascii : c.toNat < 0x80 := by
      by_contra hlarge
      have hlength := congrArg List.length hchar
      simp only [encodeChar, if_neg hlarge] at hlength
      split at hlength
      · simp at hlength
      · split at hlength <;> simp at hlength
    rw [encodeChar_ascii hascii] at hchar
    refine ⟨some c, head?_symbols ?_, .inl ⟨c, rfl, hascii, (List.singleton_inj.mp hchar).symm⟩⟩
    simp only [decodeInto, hc]
    exact suffix_decodeInto _ _ _
  · obtain ⟨symbol, hsuffix, hsymbol⟩ := exists_suffix_of_starts hstarts
    refine ⟨symbol, head?_symbols ?_, .inr ⟨hbyte fun c hc => ?_, hsymbol⟩⟩
    · rw [decodeInto_start [] hp]
      exact hsuffix
    · rw [hp] at hc
      cases hc
  · refine ⟨none, head?_symbols ?_, .inr ⟨hbyte fun c hc => ?_, nofun⟩⟩
    · simp only [decodeInto, hn]
      exact suffix_decodeInto _ _ _
    · rw [hn] at hc
      cases hc

/-- The first character of some bytes is their first byte, as far as that is one of ASCII. -/
theorem head?_decodeLossy {bytes : Bytes} {c : Char} (hc : c.toNat < 0x80) :
    (decodeLossy bytes).head? = some c ↔ bytes.head? = some (UInt8.ofNat c.toNat) := by
  cases bytes with
  | nil => simp [decodeLossy, symbols, decodeInto]
  | cons b rest =>
    obtain ⟨symbol, hsymbol, ⟨d, rfl, hd, rfl⟩ | ⟨hb, hlarge⟩⟩ := head?_symbols_cons b rest
    · rw [decodeLossy, List.head?_map, hsymbol, List.head?_cons, Option.map_some,
        Option.getD_some, Option.some_inj, Option.some_inj]
      refine ⟨fun h => h ▸ rfl, fun h => ?_⟩
      have hnat := congrArg UInt8.toNat h
      rw [toNat_ofNat (by omega), toNat_ofNat (by omega)] at hnat
      exact Char.toNat_inj.mp hnat
    · rw [decodeLossy, List.head?_map, hsymbol, List.head?_cons, Option.map_some,
        Option.some_inj, Option.some_inj]
      constructor
      · rintro rfl
        cases symbol with
        | none => exact absurd hc (by decide)
        | some d => exact absurd (hlarge d rfl) (by simpa using hc)
      · rintro rfl
        rw [toNat_ofNat (by omega)] at hb
        omega

lemma decodeLossy_eq_nil_iff {bytes : Bytes} : decodeLossy bytes = [] ↔ bytes = [] := by
  refine ⟨fun h => ?_, fun h => h ▸ rfl⟩
  cases bytes with
  | nil => rfl
  | cons b rest =>
    obtain ⟨symbol, hsymbol, -⟩ := head?_symbols_cons b rest
    have hhead := congrArg List.head? h
    rw [decodeLossy, List.head?_map, hsymbol] at hhead
    cases hhead

end ModuleArchive.Utf8
