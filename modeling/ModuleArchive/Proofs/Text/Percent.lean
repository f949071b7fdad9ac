import ModuleArchive.Proofs.Text.Utf8
import ModuleArchive.Text.Percent

/-!
# Reading back percent-encoded texts

Whatever set of characters is escaped, decoding gives back the bytes of the text, provided that
the percent sign itself is in the set. A character that is not escaped stands for itself.
-/
namespace ModuleArchive.Percent

/-! ### Digits and escapes -/

lemma hexValue?_hexDigit {n : Nat} (h : n < 16) : hexValue? (hexDigit n).toNat = some n := by
  revert n
  decide

/-- A hexadecimal digit is a decimal one or a letter of either case. -/
lemma eq_of_hexValue? {n x : Nat} (h : hexValue? n = some x) :
    x < 10 ∧ n = 0x30 + x ∨ (10 ≤ x ∧ x < 16) ∧ (n = 0x37 + x ∨ n = 0x57 + x) := by
  unfold hexValue? at h
  split at h
  · obtain rfl := Option.some_inj.mp h
    omega
  · split at h
    · obtain rfl := Option.some_inj.mp h
      omega
    · split at h
      · obtain rfl := Option.some_inj.mp h
        omega
      · contradiction

lemma hexDigit_lt {n : Nat} (h : n < 16) : (hexDigit n).toNat < 0x80 := by
  revert n
  decide

/-- The bytes of a text in ASCII are its code points. -/
lemma encode_cons_ascii {c : Char} (h : c.toNat < 0x80) (rest : List Char) :
    Utf8.encode (c :: rest) = UInt8.ofNat c.toNat :: Utf8.encode rest := by
  rw [Utf8.encode, List.flatMap_cons, Utf8.encodeChar_ascii h, List.singleton_append, Utf8.encode]

lemma decode_escapeByte (b : UInt8) (rest : Bytes) :
    decode (Utf8.encode (escapeByte b) ++ rest) = b :: decode rest := by
  have hb : b.toNat < 256 := b.toNat_lt
  have hhigh : b.toNat / 16 < 16 := by omega
  have hlow : b.toNat % 16 < 16 := by omega
  have hv : b.toNat / 16 * 16 + b.toNat % 16 = b.toNat := by omega
  have hbytes : Utf8.encode (escapeByte b) = [sign, UInt8.ofNat (hexDigit (b.toNat / 16)).toNat,
      UInt8.ofNat (hexDigit (b.toNat % 16)).toNat] := by
    rw [escapeByte, encode_cons_ascii (by decide), encode_cons_ascii (hexDigit_lt hhigh),
      encode_cons_ascii (hexDigit_lt hlow)]
    rfl
  have hdigit {n : Nat} (h : n < 16) :
      hexValue? (UInt8.ofNat (hexDigit n).toNat).toNat = some n := by
    rw [Utf8.toNat_ofNat (by have := hexDigit_lt h; omega), hexValue?_hexDigit h]
  simp only [hbytes, List.cons_append, List.nil_append, decode, if_true, hdigit hhigh,
    hdigit hlow, hv, UInt8.ofNat_toNat]

lemma decode_escapes (bytes rest : Bytes) :
    decode (Utf8.encode (bytes.flatMap escapeByte) ++ rest) = bytes ++ decode rest := by
  induction bytes with
  | nil => rfl
  | cons b bytes ih =>
    rw [List.flatMap_cons, Utf8.encode_append, List.append_assoc, decode_escapeByte, ih,
      List.cons_append]

/-! ### Reading from the start -/

/-- Whether some bytes start with the escape of a byte, before the rest. -/
inductive IsEscape : Bytes → UInt8 → Bytes → Prop where
  | intro {high low : UInt8} {x y : Nat} (rest : Bytes) (hh : hexValue? high.toNat = some x)
      (hl : hexValue? low.toNat = some y) :
      IsEscape (sign :: high :: low :: rest) (UInt8.ofNat (x * 16 + y)) rest

section Escapes

variable {b c : UInt8} {bytes before rest tail : Bytes}

lemma decode_of_isEscape (h : IsEscape bytes c tail) : decode bytes = c :: decode tail := by
  cases h with
  | intro rest hh hl => simp only [decode, if_true, hh, hl]

/-- A byte that starts no escape stands for itself. -/
lemma decode_of_not_isEscape (h : ∀ c tail, ¬ IsEscape (b :: rest) c tail) :
    decode (b :: rest) = b :: decode rest := by
  match rest with
  | [] | [_] => rfl
  | high :: low :: rest =>
    rw [decode]
    split
    · next hb =>
      subst hb
      split
      · next x y hh hl => exact absurd (.intro rest hh hl) (h _ _)
      · rfl
    · rfl

/-- The first byte starts an escape or stands for itself. -/
lemma decode_cons_cases (b : UInt8) (rest : Bytes) :
    (∃ c tail, IsEscape (b :: rest) c tail ∧ decode (b :: rest) = c :: decode tail) ∨
      (∀ c tail, ¬ IsEscape (b :: rest) c tail) ∧ decode (b :: rest) = b :: decode rest := by
  by_cases he : ∃ c tail, IsEscape (b :: rest) c tail
  · obtain ⟨c, tail, he⟩ := he
    exact .inl ⟨c, tail, he, decode_of_isEscape he⟩
  · have hno : ∀ c tail, ¬ IsEscape (b :: rest) c tail := fun c tail h => he ⟨c, tail, h⟩
    exact .inr ⟨hno, decode_of_not_isEscape hno⟩

/-- A byte other than the percent sign stands for itself. -/
lemma decode_cons (h : b ≠ sign) (rest : Bytes) : decode (b :: rest) = b :: decode rest := by
  apply decode_of_not_isEscape
  rintro c tail ⟨⟩
  exact h rfl

lemma IsEscape.length_lt (h : IsEscape bytes c tail) : tail.length < bytes.length := by
  cases h
  simp only [List.length_cons]
  omega

lemma IsEscape.append (h : IsEscape bytes c tail) (more : Bytes) :
    IsEscape (bytes ++ more) c (tail ++ more) := by
  cases h with
  | intro _ hh hl => exact .intro (tail ++ more) hh hl

/-- An escape ends before a byte that escapes do not hold. -/
lemma IsEscape.of_append (h : IsEscape (before ++ b :: rest) c tail) (hb : b ≠ sign)
    (hx : hexValue? b.toNat = none) : ∃ tail, IsEscape before c tail := by
  generalize hbytes : before ++ b :: rest = bytes at h
  cases h with
  | intro tail hh hl =>
    match before with
    | [] => exact absurd (List.cons.inj hbytes).1 hb
    | [_] =>
      obtain ⟨-, rfl, -⟩ : _ ∧ b = _ ∧ _ := by simpa using hbytes
      rw [hx] at hh
      contradiction
    | [_, _] =>
      obtain ⟨-, -, rfl, -⟩ : _ ∧ _ ∧ b = _ ∧ _ := by simpa using hbytes
      rw [hx] at hl
      contradiction
    | _ :: _ :: _ :: before =>
      obtain ⟨rfl, rfl, rfl, -⟩ := by simpa using hbytes
      exact ⟨before, .intro before hh hl⟩

/-- Reading goes on behind a byte that escapes do not hold. -/
lemma decode_append_cons (hb : b ≠ sign) (hx : hexValue? b.toNat = none) (before rest : Bytes) :
    decode (before ++ b :: rest) = decode before ++ b :: decode rest := by
  induction hn : before.length using Nat.strongRecOn generalizing before with
  | ind n ih =>
    cases before with
    | nil => exact decode_cons hb rest
    | cons first before =>
      obtain ⟨c, tail, he, hread⟩ | ⟨hno, hread⟩ := decode_cons_cases first before
      · have hlt := he.length_lt
        rw [hread, decode_of_isEscape (he.append _), ih _ (by omega) tail rfl, List.cons_append]
      · have hall : ∀ c tail, ¬ IsEscape (first :: (before ++ b :: rest)) c tail := by
          intro c tail h
          rw [← List.cons_append] at h
          obtain ⟨tail, h⟩ := h.of_append hb hx
          exact hno c tail h
        rw [hread, List.cons_append, decode_of_not_isEscape hall,
          ih before.length (by simp [← hn]) before rfl, List.cons_append]

/-- The first byte that is read stands for itself or is escaped. -/
lemma decode_eq_cons {out : Bytes} (h : decode bytes = c :: out) :
    ∃ tail, (bytes = c :: tail ∨ IsEscape bytes c tail) ∧ decode tail = out := by
  cases bytes with
  | nil => simp [decode] at h
  | cons b rest =>
    obtain ⟨c', tail, he, hread⟩ | ⟨-, hread⟩ := decode_cons_cases b rest
    · obtain ⟨rfl, hout⟩ := List.cons.inj (hread.symm.trans h)
      exact ⟨tail, .inr he, hout⟩
    · obtain ⟨rfl, hout⟩ := List.cons.inj (hread.symm.trans h)
      exact ⟨rest, .inl rfl, hout⟩

lemma eq_nil_of_decode (h : decode bytes = []) : bytes = [] := by
  cases bytes with
  | nil => rfl
  | cons b rest =>
    obtain ⟨c, tail, -, hread⟩ | ⟨-, hread⟩ := decode_cons_cases b rest
    · simp [hread] at h
    · simp [hread] at h

end Escapes
/-! ### Lower case -/

/-- A letter in lower case comes from itself or from the letter 32 places before it. -/
lemma eq_or_of_toLower {c d : Char} (h : c.toLower = d) :
    c = d ∨ (65 ≤ c.toNat ∧ c.toNat ≤ 90 ∧ d.toNat = c.toNat + 32) := by
  by_cases hu : c.val ≥ 'A'.val ∧ c.val ≤ 'Z'.val
  · have hlow : c.toLower = _ := dif_pos hu
    have hrange : 65 ≤ c.val.toNat ∧ c.val.toNat ≤ 90 := hu
    have hv : c.val + ('a'.val - 'A'.val) = d.val := congrArg Char.val (hlow.symm.trans h)
    have hn : (c.val.toNat + 32) % 4294967296 = d.val.toNat := by
      simpa using congrArg UInt32.toNat hv
    right
    simp only [Char.toNat]
    omega
  · have hlow : c.toLower = c := dif_neg hu
    exact .inl (hlow.symm.trans h)

lemma toLower_toLower (c : Char) : c.toLower.toLower = c.toLower := by
  obtain heq | ⟨hlow, -, hsum⟩ := eq_or_of_toLower (rfl : c.toLower = c.toLower)
  · rw [← heq, ← heq]
  · obtain heq | ⟨-, hhigh, -⟩ := eq_or_of_toLower (rfl : c.toLower.toLower = c.toLower.toLower)
    · exact heq.symm
    · omega

lemma eq_of_toLower {c d : Char} (hd : d.toNat < 97 ∨ 122 < d.toNat) (h : c.toLower = d) :
    c = d := by
  obtain rfl | hu := eq_or_of_toLower h
  · rfl
  · omega

/-! ### Texts -/

lemma decode_encodeChar {escape : Char → Bool} (hs : escape '%' = true) (c : Char)
    (rest : Bytes) :
    decode (Utf8.encode (encodeChar escape c) ++ rest) = Utf8.encodeChar c ++ decode rest := by
  simp only [encodeChar]
  split
  · next h =>
    obtain ⟨hc, he⟩ : c.toNat < 0x80 ∧ escape c = false := by simpa using h
    have hne : UInt8.ofNat c.toNat ≠ sign := by
      intro heq
      have hn : c.toNat = '%'.toNat := by
        rw [← Utf8.toNat_ofNat (show c.toNat < 256 by omega), heq]
        rfl
      rw [Char.toNat_inj.mp hn, hs] at he
      contradiction
    rw [encode_cons_ascii hc, Utf8.encodeChar_ascii hc]
    exact decode_cons hne rest
  · exact decode_escapes _ rest

theorem decodeText_encode {escape : Char → Bool} (hs : escape '%' = true) (text : List Char) :
    decodeText (encode escape text) = Utf8.encode text := by
  induction text with
  | nil => rfl
  | cons c rest ih =>
    rw [decodeText, encode, List.flatMap_cons, Utf8.encode_append, decode_encodeChar hs,
      ← encode, ← decodeText, ih]
    rfl

lemma decodeText_of_notMem {text : List Char} (h : '%' ∉ text) :
    decodeText text = Utf8.encode text := by
  have hbytes : sign ∉ Utf8.encode text := by
    intro hm
    obtain ⟨c, hc, hb⟩ := List.mem_flatMap.mp hm
    have hsign := Utf8.toNat_of_mem_encodeChar hb (by decide)
    obtain rfl : '%' = c := Char.toNat_inj.mp hsign
    exact h hc
  rw [decodeText]
  generalize Utf8.encode text = bytes at hbytes
  induction bytes with
  | nil => rfl
  | cons b rest ih =>
    obtain ⟨hb, hrest⟩ : sign ≠ b ∧ sign ∉ rest := by simpa using hbytes
    rw [decode_cons (Ne.symm hb), ih hrest]

theorem encode_injective {escape : Char → Bool} (hs : escape '%' = true) :
    Function.Injective (encode escape) := by
  intro a b h
  have hd := congrArg decodeText h
  rw [decodeText_encode hs, decodeText_encode hs] at hd
  exact Utf8.encode_injective hd

/-! ### Characters of the encoded form -/

lemma decodeText_ne_nil {text : List Char} (h : text ≠ []) : decodeText text ≠ [] := fun hd =>
  Utf8.encode_ne_nil h (eq_nil_of_decode hd)

lemma encode_ne_nil {escape : Char → Bool} (hs : escape '%' = true) {text : List Char}
    (h : text ≠ []) : encode escape text ≠ [] := by
  intro he
  have hd := decodeText_encode hs text
  rw [he] at hd
  exact Utf8.encode_ne_nil h hd.symm

/-- The characters that escapes are made of. -/
def escapeAlphabet : List Char := '%' :: "0123456789ABCDEF".toList

lemma hexDigit_mem {n : Nat} (h : n < 16) : hexDigit n ∈ escapeAlphabet := by
  revert n
  decide

/-- What holds of the percent sign and of the digits holds of all characters of escapes. -/
lemma forall_mem_escapeAlphabet {p : Char → Prop} (hs : p '%') (hd : ∀ n < 16, p (hexDigit n)) :
    ∀ c ∈ escapeAlphabet, p c := by
  have halphabet : escapeAlphabet = '%' :: (List.range 16).map hexDigit := by decide
  rw [halphabet]
  exact List.forall_mem_cons.mpr
    ⟨hs, List.forall_mem_map.mpr fun n hn => hd n (List.mem_range.mp hn)⟩

lemma mem_escapeAlphabet {b : UInt8} {c : Char} (h : c ∈ escapeByte b) : c ∈ escapeAlphabet := by
  have hb : b.toNat < 256 := b.toNat_lt
  rw [escapeByte] at h
  rcases List.mem_cons.mp h with rfl | h
  · decide
  · rcases List.mem_pair.mp h with rfl | rfl
    · exact hexDigit_mem (by omega)
    · exact hexDigit_mem (by omega)

lemma mem_encode {escape : Char → Bool} {c : Char} {text : List Char}
    (h : c ∈ encode escape text) : (c ∈ text ∧ escape c = false) ∨ c ∈ escapeAlphabet := by
  obtain ⟨d, hm, hd⟩ := List.mem_flatMap.mp h
  rw [encodeChar] at hd
  split at hd
  · next hplain =>
    obtain rfl := List.mem_singleton.mp hd
    have hescape : escape c = false := by simpa using (Bool.and_eq_true_iff.mp hplain).2
    exact .inl ⟨hm, hescape⟩
  · obtain ⟨b, _, hb⟩ := List.mem_flatMap.mp hd
    exact .inr (mem_escapeAlphabet hb)

lemma toNat_lt_of_mem_encode {escape : Char → Bool} {c : Char} {text : List Char}
    (h : c ∈ encode escape text) : c.toNat < 0x80 := by
  have halphabet : ∀ d ∈ escapeAlphabet, d.toNat < 0x80 :=
    forall_mem_escapeAlphabet (by decide) (by decide)
  obtain ⟨d, -, hd⟩ := List.mem_flatMap.mp h
  rw [encodeChar] at hd
  split at hd
  · next hplain =>
    obtain rfl := List.mem_singleton.mp hd
    exact of_decide_eq_true (Bool.and_eq_true_iff.mp hplain).1
  · obtain ⟨b, -, hb⟩ := List.mem_flatMap.mp hd
    exact halphabet c (mem_escapeAlphabet hb)

/-- A text in ASCII without characters that are escaped is written as it is. -/
lemma encode_eq_self {escape : Char → Bool} {text : List Char}
    (h : ∀ c ∈ text, c.toNat < 0x80 ∧ escape c = false) : encode escape text = text := by
  induction text with
  | nil => rfl
  | cons c rest ih =>
    obtain ⟨⟨hc, he⟩, hrest⟩ := List.forall_mem_cons.mp h
    rw [encode, List.flatMap_cons, ← encode, ih hrest, encodeChar, if_pos (by simp [hc, he])]
    rfl

/-- An escaped character that is no part of escapes does not occur in what is written. -/
theorem notMem_encode {escape : Char → Bool} {c : Char} (he : escape c = true)
    (hc : c ∉ escapeAlphabet) (text : List Char) : c ∉ encode escape text := by
  intro h
  obtain ⟨-, hplain⟩ | hm := mem_encode h
  · rw [he] at hplain
    contradiction
  · exact hc hm

end ModuleArchive.Percent
