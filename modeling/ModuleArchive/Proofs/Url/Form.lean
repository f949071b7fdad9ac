import ModuleArchive.Proofs.Text.Percent
import ModuleArchive.Proofs.Text.Split
import ModuleArchive.Url.Form

/-!
# Reading back forms

A name or a value is read back as it was written, whatever characters it has. What is written of it
holds none of the characters that part a query into pairs and a pair into its two halves. So a pair
that is added to a query is read as the last one, and the query before it as it was read before.
-/
namespace ModuleArchive.Url

/-! ### Names and values -/

/-- A character as it is read: a plus sign stands for a space. -/
def readPlus (c : Char) : Char := if c = '+' then ' ' else c

/-- A byte is written as the character that is read as it, or as an escape. -/
lemma formByte_cases (b : UInt8) :
    Utf8.encode ((formByte b).map readPlus) = [b] ∧ b ≠ Percent.sign ∨
      (formByte b).map readPlus = Percent.escapeByte b := by
  have hall : ∀ n < 256, Utf8.encode ((formByte (UInt8.ofNat n)).map readPlus) = [UInt8.ofNat n] ∧
      UInt8.ofNat n ≠ Percent.sign ∨
        (formByte (UInt8.ofNat n)).map readPlus = Percent.escapeByte (UInt8.ofNat n) := by
    decide +kernel
  simpa only [UInt8.ofNat_toNat] using hall b.toNat b.toNat_lt

/-- The marks of a query are written as escapes. -/
lemma mark_notMem_formByte (b : UInt8) : '&' ∉ formByte b ∧ '=' ∉ formByte b := by
  have hall : ∀ n < 256, '&' ∉ formByte (UInt8.ofNat n) ∧ '=' ∉ formByte (UInt8.ofNat n) := by
    decide +kernel
  simpa only [UInt8.ofNat_toNat] using hall b.toNat b.toNat_lt

lemma decode_formByte (b : UInt8) (rest : Bytes) :
    Percent.decode (Utf8.encode ((formByte b).map readPlus) ++ rest) =
      b :: Percent.decode rest := by
  obtain ⟨hself, hb⟩ | hescape := formByte_cases b
  · rw [hself, List.singleton_append, Percent.decode_cons hb]
  · rw [hescape, Percent.decode_escapeByte]

lemma decodeText_formBytes (bytes : Bytes) :
    Percent.decodeText ((bytes.flatMap formByte).map readPlus) = bytes := by
  rw [Percent.decodeText]
  induction bytes with
  | nil => rfl
  | cons b rest ih =>
    rw [List.flatMap_cons, List.map_append, Utf8.encode_append, decode_formByte, ih]

theorem readFormText_formText (text : List Char) : readFormText (formText text) = text := by
  have hbytes := decodeText_formBytes (Utf8.encode text)
  calc
    readFormText (formText text) = Utf8.decodeLossy (Utf8.encode text) :=
      congrArg Utf8.decodeLossy hbytes
    _ = text := Utf8.decodeLossy_encode text

lemma mark_notMem_formText (text : List Char) : '&' ∉ formText text ∧ '=' ∉ formText text := by
  constructor
  · intro h
    obtain ⟨b, -, hb⟩ := List.mem_flatMap.mp h
    exact (mark_notMem_formByte b).1 hb
  · intro h
    obtain ⟨b, -, hb⟩ := List.mem_flatMap.mp h
    exact (mark_notMem_formByte b).2 hb

/-! ### Queries -/

lemma readPairs_formPair (pair : List Char × List Char) : readPairs (formPair pair) = [pair] := by
  have hmark : '&' ∉ formPair pair := by
    rw [formPair, List.mem_append, List.mem_cons, not_or, not_or]
    exact ⟨(mark_notMem_formText pair.1).1, by decide, (mark_notMem_formText pair.2).1⟩
  have hfirst : Text.splitFirst? '=' (formPair pair) = some (formText pair.1, formText pair.2) :=
    Text.splitFirst?_append (mark_notMem_formText pair.1).2 _
  have hne : (formPair pair).isEmpty = false := by
    rw [List.isEmpty_eq_false_iff]
    exact List.append_ne_nil_of_right_ne_nil _ (List.cons_ne_nil _ _)
  rw [readPairs, Text.splitOn_of_notMem hmark]
  simp [hne, hfirst, readFormText_formText]

lemma readPairs_append (query more : List Char) :
    readPairs (query ++ '&' :: more) = readPairs query ++ readPairs more := by
  rw [readPairs, Text.splitOn_append_cons, List.filter_append, List.map_append]
  rfl

/-- A pair that is added is read behind those that were there. -/
theorem readPairs_addPair (query : List Char) (pair : List Char × List Char) :
    readPairs (addPair query pair) = readPairs query ++ [pair] := by
  rw [addPair]
  split
  · next hempty =>
    rw [List.isEmpty_iff.mp hempty, readPairs_formPair]
    rfl
  · rw [readPairs_append, readPairs_formPair]

lemma readPairs_foldl (query : List Char) (pairs : List (List Char × List Char)) :
    readPairs (pairs.foldl addPair query) = readPairs query ++ pairs := by
  induction pairs generalizing query with
  | nil => rw [List.foldl_nil, List.append_nil]
  | cons pair rest ih => rw [List.foldl_cons, ih, readPairs_addPair, List.append_assoc]; rfl

/-! ### URLs -/

def pairs (u : Url) : List (List Char × List Char) := readPairs (u.query.getD [])

/-- Pairs that are added to a URL are read behind those that it has. -/
@[simp] theorem pairs_withPairs (u : Url) (added : List (List Char × List Char)) :
    (u.withPairs added).pairs = u.pairs ++ added := readPairs_foldl _ added

lemma text_withPairs (u : Url) (added : List (List Char × List Char)) :
    (u.withPairs added).text = u.scheme ++ ':' :: (u.authorityText ++ u.pathText ++
      '?' :: added.foldl addPair (u.query.getD []) ++ optionalPart '#' u.fragment) := rfl

/-- URLs to which pairs were added are printed alike only if the pairs are the same. -/
theorem print_withPairs_injective (u : Url) :
    Function.Injective fun added => (u.withPairs added).print := by
  intro added added' h
  have htext := String.ofList_injective h
  rw [text_withPairs, text_withPairs] at htext
  have hrest := (List.cons.inj (List.append_cancel_left htext)).2
  rw [List.append_left_inj, List.append_right_inj] at hrest
  have hread := congrArg readPairs (List.cons.inj hrest).2
  rw [readPairs_foldl, readPairs_foldl] at hread
  exact List.append_cancel_left hread

end ModuleArchive.Url
