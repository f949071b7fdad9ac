import ModuleArchive.Record
import ModuleArchive.Proofs.Text.Decimal
import ModuleArchive.Proofs.Text.Split

/-!
# Names of sets

No two sets have the same name in the index, so the refresh of one is never taken for that of
another.
-/
namespace ModuleArchive

lemma Bucket.toChar_injective : Function.Injective Bucket.toChar := by
  intro b b' h
  have hread : ofText? [b.toChar] = ofText? [b'.toChar] := by rw [h]
  rwa [ofText?_toChar, ofText?_toChar, Option.some_inj] at hread

namespace Scope

/-- The part of a key behind the grouping. -/
def keyTail : Scope → List (List Char)
  | bucket _ b => ["bucket".toList, [b.toChar]]
  | tracks _ id => ["tracks".toList, Decimal.digits id.toNat]

lemma slash_notMem_groupingKey (g : Grouping) : '/' ∉ g.key.toList := by cases g <;> decide

lemma slash_notMem_bucketText (b : Bucket) : '/' ∉ [b.toChar] := by
  cases b with
  | nonLetter => decide
  | letter i =>
    revert i
    decide

lemma slash_notMem_digits (n : Nat) : '/' ∉ Decimal.digits n := by
  intro h
  exact absurd (Decimal.isDigit_of_mem_digits h) (by decide)

lemma splitOn_key (s : Scope) :
    Text.splitOn '/' s.key.toList = s.grouping.key.toList :: s.keyTail := by
  cases s with
  | bucket g b =>
    have hkey : (bucket g b).key.toList =
        g.key.toList ++ '/' :: ("bucket".toList ++ '/' :: [b.toChar]) := by
      simp [key, Bucket.text]
    rw [hkey, Text.splitOn_append (slash_notMem_groupingKey g), Text.splitOn_append (by decide),
      Text.splitOn_of_notMem (slash_notMem_bucketText b)]
    rfl
  | tracks g id =>
    have hkey : (tracks g id).key.toList =
        g.key.toList ++ '/' :: ("tracks".toList ++ '/' :: Decimal.digits id.toNat) := by
      simp [key, Decimal.digits]
    rw [hkey, Text.splitOn_append (slash_notMem_groupingKey g), Text.splitOn_append (by decide),
      Text.splitOn_of_notMem (slash_notMem_digits id.toNat)]
    rfl

lemma groupingKey_injective {g g' : Grouping} (h : g.key.toList = g'.key.toList) : g = g' := by
  have hk : g.key = g'.key := String.toList_inj.mp h
  have ho : Grouping.ofKey? g.key = Grouping.ofKey? g'.key := by rw [hk]
  rwa [Grouping.ofKey?_key, Grouping.ofKey?_key, Option.some_inj] at ho

lemma keyTail_injective {s t : Scope} (hg : s.grouping = t.grouping) (h : s.keyTail = t.keyTail) :
    s = t := by
  cases s with
  | bucket g b =>
    cases t with
    | bucket g' b' =>
      obtain rfl : g = g' := hg
      have hc : b.toChar = b'.toChar := by simpa [keyTail] using h
      rw [Bucket.toChar_injective hc]
    | tracks g' id' => simp [keyTail] at h
  | tracks g id =>
    cases t with
    | bucket g' b' => simp [keyTail] at h
    | tracks g' id' =>
      obtain rfl : g = g' := hg
      have hd : Decimal.digits id.toNat = Decimal.digits id'.toNat := by simpa [keyTail] using h
      rw [UInt32.toNat_inj.mp (Decimal.digits_injective hd)]

theorem key_injective : Function.Injective key := by
  intro s t h
  have hs := splitOn_key s
  rw [h, splitOn_key t] at hs
  obtain ⟨hg, ht⟩ := List.cons.inj hs
  exact keyTail_injective (groupingKey_injective hg.symm) ht.symm

end Scope

end ModuleArchive
