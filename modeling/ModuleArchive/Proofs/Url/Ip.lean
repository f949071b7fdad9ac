import ModuleArchive.Proofs.Text.Decimal
import ModuleArchive.Proofs.Text.Split
import ModuleArchive.Proofs.Traverse
import ModuleArchive.Url.Host
import Mathlib.Data.Nat.Digits.Defs

/-!
# Printed addresses of hosts

An address of 32 bits that has been printed with dots is read as it was. An address in brackets is
printed without its longest run of zeros, and is read as one of eight pieces.
-/
namespace ModuleArchive.Url

/-! ### Numbers -/

lemma hexValue?_of_isDigit {c : Char} (h : Decimal.isDigit c = true) :
    Percent.hexValue? c.toNat = some (Decimal.digitValue c) ∧ Decimal.digitValue c < 10 := by
  have hc : 48 ≤ c.toNat ∧ c.toNat ≤ 57 := by
    simp only [Decimal.isDigit, Bool.and_eq_true, decide_eq_true_eq] at h
    exact h
  have hv : Decimal.digitValue c = c.toNat - 48 := rfl
  rw [hv, Percent.hexValue?, if_pos hc]
  exact ⟨rfl, by omega⟩

lemma readBase?_of_isDigit {text : List Char} (h : ∀ c ∈ text, Decimal.isDigit c = true) :
    readBase? 10 text = some (Decimal.value 0 text) := by
  suffices hgo : ∀ start, text.foldlM (fun n c => do
      let d ← Percent.hexValue? c.toNat
      if d < 10 then some (n * 10 + d) else none) start = some (Decimal.value start text) from hgo 0
  induction text with
  | nil => exact fun start => rfl
  | cons c rest ih =>
    intro start
    obtain ⟨hc, hrest⟩ := List.forall_mem_cons.mp h
    obtain ⟨hvalue, hlt⟩ := hexValue?_of_isDigit hc
    simp only [List.foldlM_cons, hvalue, Option.bind_eq_bind, Option.bind_some, if_pos hlt]
    exact ih hrest _

lemma readPart?_digits (n : Nat) : readPart? (Decimal.digits n) = some n := by
  have hread : readBase? 10 (Decimal.digits n) = some n := by
    rw [readBase?_of_isDigit fun c hc => Decimal.isDigit_of_mem_digits hc, Decimal.value_digits]
  rcases Nat.eq_zero_or_pos n with rfl | hpos
  · exact hread
  · have hzero := Decimal.head?_digits hpos
    unfold readPart?
    split
    · next heq => exact absurd heq (Decimal.digits_ne_nil n)
    · next heq => exact absurd (by rw [heq]; rfl) hzero
    · next heq => exact absurd (by rw [heq]; rfl) hzero
    · next heq => exact absurd (by rw [heq]; rfl) hzero
    · exact hread

/-- Hexadecimal digits are written in lower case. -/
lemma exists_of_mem_hex {n : Nat} {c : Char} (h : c ∈ Nat.toDigits 16 n) :
    ∃ m < 16, Nat.digitChar m = c := by
  induction n using Nat.strongRecOn with
  | ind n ih =>
    by_cases hn : n < 16
    · rw [Nat.toDigits_of_lt_base hn] at h
      exact ⟨n, hn, (List.mem_singleton.mp h).symm⟩
    · rw [Nat.toDigits_of_base_le (by decide) (by omega)] at h
      rcases List.mem_append.mp h with h | h
      · exact ih (n / 16) (by omega) h
      · exact ⟨n % 16, Nat.mod_lt _ (by decide), (List.mem_singleton.mp h).symm⟩

/-! ### Dotted addresses -/

def dottedParts (address : Nat) : List Nat :=
  [address / 0x1000000, address / 0x10000 % 256, address / 0x100 % 256, address % 256]

lemma labels_joinWith {parts : List (List Char)} (hne : parts ≠ []) (hdot : ∀ p ∈ parts, '.' ∉ p)
    (hlast : parts.getLast? ≠ some []) : labels (Text.joinWith '.' parts) = parts := by
  rw [labels, Text.splitOn_joinWith hne hdot]
  simp [hlast]

lemma labels_ipv4Text (address : Nat) :
    labels (ipv4Text address) = (dottedParts address).map Decimal.digits := by
  refine labels_joinWith (by simp) (fun part hp hdot => ?_) (by simp [Decimal.digits_ne_nil])
  obtain ⟨n, -, rfl⟩ := List.mem_map.mp hp
  exact absurd (Decimal.isDigit_of_mem_digits hdot) (by decide)

lemma readIpv4?_ipv4Text {address : Nat} (h : address < 2 ^ 32) :
    readIpv4? (ipv4Text address) = some address := by
  have hparts : ((dottedParts address).map Decimal.digits).mapM readPart? =
      some (dottedParts address) := by
    rw [mapM_eq_some_iff, List.forall₂_map_left_iff]
    exact List.forall₂_same.mpr fun n _ => readPart?_digits n
  rw [readIpv4?, labels_ipv4Text, hparts]
  simp [dottedParts]
  omega

lemma lt_of_readIpv4? {name : List Char} {address : Nat} (h : readIpv4? name = some address) :
    address < 2 ^ 32 := by
  unfold readIpv4? at h
  simp only at h
  split at h
  · contradiction
  · next hlen =>
    obtain ⟨numbers, hnumbers, h⟩ := Option.bind_eq_some_iff.mp h
    obtain ⟨last, hlast, h⟩ := Option.bind_eq_some_iff.mp h
    split at h
    · contradiction
    · next hfits =>
      have hcount : numbers.length ≤ 4 := by
        rw [← (mapM_eq_some_iff.mp hnumbers).length_eq]
        omega
      obtain rfl := Option.some_inj.mp h
      clear h hnumbers hlen
      match numbers, hcount, hlast, hfits with
      | [], _, _, _ => contradiction
      | [a], _, hlast, hfits => simp_all
      | [a, b], _, hlast, hfits | [a, b, c], _, hlast, hfits | [a, b, c, d], _, hlast, hfits =>
        simp_all
        omega
      | _ :: _ :: _ :: _ :: _ :: rest, hcount, _, _ =>
        simp only [List.length_cons] at hcount
        omega

/-! ### Addresses in brackets -/

/-- Whether a piece of an address is one of 16 bits. -/
def IsPiece (n : Nat) : Prop := n < 0x10000

lemma foldlM_readBase {text : List Char} {start n : Nat} (h : text.foldlM (fun n c => do
      let d ← Percent.hexValue? c.toNat
      if d < 16 then some (n * 16 + d) else none) start = some n) :
    n < (start + 1) * 16 ^ text.length := by
  induction text generalizing start with
  | nil =>
    obtain rfl : start = n := by simpa using h
    simp
  | cons c rest ih =>
    rw [List.foldlM_cons] at h
    obtain ⟨next, hnext, h⟩ := Option.bind_eq_some_iff.mp h
    obtain ⟨d, -, hd⟩ := Option.bind_eq_some_iff.mp hnext
    split at hd
    · next hlt =>
      obtain rfl := Option.some_inj.mp hd
      have hn := ih h
      calc
        n < (start * 16 + d + 1) * 16 ^ rest.length := hn
        _ ≤ ((start + 1) * 16) * 16 ^ rest.length := Nat.mul_le_mul_right _ (by omega)
        _ = (start + 1) * 16 ^ (c :: rest).length := by
          rw [List.length_cons, Nat.pow_succ, Nat.mul_assoc, Nat.mul_comm 16]
    · contradiction

lemma isPiece_of_readPiece? {text : List Char} {n : Nat} (h : readPiece? text = some n) :
    IsPiece n := by
  rw [readPiece?] at h
  split at h
  · contradiction
  · next hlen =>
    have hlt : n < (0 + 1) * 16 ^ text.length := foldlM_readBase h
    have hle : text.length ≤ 4 := by simp_all
    calc
      n < (0 + 1) * 16 ^ text.length := hlt
      _ ≤ (0 + 1) * 16 ^ 4 := Nat.mul_le_mul_left _ (Nat.pow_le_pow_right (by decide) hle)

lemma isPiece_of_readEmbedded? {text : List Char} {pieces : List Nat}
    (h : readEmbedded? text = some pieces) : ∀ n ∈ pieces, IsPiece n := by
  obtain ⟨octets, hoctets, h⟩ := Option.bind_eq_some_iff.mp h
  have hlt : ∀ n ∈ octets, n < 256 := by
    intro n hn
    obtain ⟨text, -, hread⟩ := exists_of_mem_mapM hoctets hn
    rw [readOctet?] at hread
    split at hread
    · next hvalue =>
      obtain rfl := Option.some_inj.mp hread
      exact of_decide_eq_true (Bool.and_eq_true_iff.mp hvalue).2
    · contradiction
  split at h
  · next a b c d =>
    obtain rfl := Option.some_inj.mp h
    simp only [List.forall_mem_cons] at hlt
    intro n hn
    simp only [IsPiece]
    rcases List.mem_pair.mp hn with rfl | rfl <;> omega
  · contradiction

lemma isPiece_of_readPieces? {embedded : Bool} {text : List Char} {pieces : List Nat}
    (h : readPieces? embedded text = some pieces) : ∀ n ∈ pieces, IsPiece n := by
  have hmapM {texts : List (List Char)} {pieces : List Nat}
      (h : texts.mapM readPiece? = some pieces) : ∀ n ∈ pieces, IsPiece n := by
    intro n hn
    obtain ⟨text, -, hread⟩ := exists_of_mem_mapM h hn
    exact isPiece_of_readPiece? hread
  unfold readPieces? at h
  split at h
  · obtain rfl := Option.some_inj.mp h
    exact List.forall_mem_nil _
  · simp only at h
    split at h
    · obtain rfl := Option.some_inj.mp h
      exact List.forall_mem_nil _
    · split at h
      · obtain ⟨first, hfirst, h⟩ := Option.bind_eq_some_iff.mp h
        obtain ⟨last, hlast, h⟩ := Option.bind_eq_some_iff.mp h
        obtain rfl := Option.some_inj.mp h
        exact List.forall_mem_append.mpr ⟨hmapM hfirst, isPiece_of_readEmbedded? hlast⟩
      · exact hmapM h

/-- An address in brackets that is read has eight pieces. -/
lemma isPiece_of_readIpv6? {text : List Char} {pieces : List Nat}
    (h : readIpv6? text = some pieces) : pieces.length = 8 ∧ ∀ n ∈ pieces, IsPiece n := by
  unfold readIpv6? at h
  split at h
  · obtain ⟨read, hread, h⟩ := Option.bind_eq_some_iff.mp h
    split at h
    · next hlen =>
      obtain rfl := Option.some_inj.mp h
      exact ⟨hlen, isPiece_of_readPieces? hread⟩
    · contradiction
  · obtain ⟨first, hfirst, h⟩ := Option.bind_eq_some_iff.mp h
    obtain ⟨second, hsecond, h⟩ := Option.bind_eq_some_iff.mp h
    split at h
    · contradiction
    · obtain rfl := Option.some_inj.mp h
      refine ⟨by simp; omega, ?_⟩
      simp only [List.forall_mem_append]
      refine ⟨⟨isPiece_of_readPieces? hfirst, fun n hn => ?_⟩, isPiece_of_readPieces? hsecond⟩
      rw [List.eq_of_mem_replicate hn]
      exact (by decide : 0 < 0x10000)

lemma readBase?_hex (n : Nat) : readBase? 16 (Nat.toDigits 16 n) = some n := by
  have hdigit : ∀ m < 16, Percent.hexValue? (Nat.digitChar m).toNat = some m := by decide
  induction n using Nat.strongRecOn with
  | ind n ih =>
    by_cases hn : n < 16
    · simp [Nat.toDigits_of_lt_base hn, readBase?, hdigit n hn, hn]
    · have hlast : n % 16 < 16 := Nat.mod_lt _ (by decide)
      have hbefore := ih (n / 16) (by omega)
      rw [readBase?] at hbefore
      rw [Nat.toDigits_of_base_le (by decide) (by omega), readBase?, List.foldlM_append, hbefore]
      simp [hdigit _ hlast, hlast]
      omega

lemma readPiece?_hex {n : Nat} (h : IsPiece n) : readPiece? (Nat.toDigits 16 n) = some n := by
  have hlen : (Nat.toDigits 16 n).length ≤ 4 := Nat.toDigits_length 16 n 4 (by decide) h
  rw [readPiece?, if_neg (by simp [Nat.toDigits_ne_nil]; omega), readBase?_hex]

lemma notMem_hex {c : Char} (hc : ∀ m < 16, Nat.digitChar m ≠ c) (n : Nat) :
    c ∉ Nat.toDigits 16 n := fun h => by
  obtain ⟨m, hm, heq⟩ := exists_of_mem_hex h
  exact hc m hm heq

lemma hexPieces_cons_cons (n m : Nat) (rest : List Nat) : hexPieces (n :: m :: rest) =
    Nat.toDigits 16 n ++ ':' :: hexPieces (m :: rest) := rfl

/-- Written pieces begin with a digit. -/
lemma exists_hexPieces_cons (n : Nat) (rest : List Nat) :
    ∃ c text, hexPieces (n :: rest) = c :: text ∧ c ≠ ':' := by
  obtain ⟨c, digits, hdigits⟩ := List.exists_cons_of_ne_nil (@Nat.toDigits_ne_nil n 16)
  have hc : c ≠ ':' := by
    rintro rfl
    exact notMem_hex (by decide) n (hdigits ▸ List.mem_cons_self)
  cases rest with
  | nil => exact ⟨c, digits, hdigits, hc⟩
  | cons m rest =>
    rw [hexPieces_cons_cons, hdigits]
    exact ⟨c, _, rfl, hc⟩

lemma readPieces?_hexPieces {embedded : Bool} {pieces : List Nat} (h : ∀ n ∈ pieces, IsPiece n) :
    readPieces? embedded (hexPieces pieces) = some pieces := by
  cases pieces with
  | nil => rfl
  | cons n rest =>
    have hsplit : Text.splitOn ':' (hexPieces (n :: rest)) =
        (n :: rest).map (Nat.toDigits 16) :=
      Text.splitOn_joinWith (by simp) fun piece hp => by
        obtain ⟨m, -, rfl⟩ := List.mem_map.mp hp
        exact notMem_hex (by decide) m
    have hread : ((n :: rest).map (Nat.toDigits 16)).mapM readPiece? = some (n :: rest) := by
      rw [mapM_eq_some_iff, List.forall₂_map_left_iff]
      exact List.forall₂_same.mpr fun m hm => readPiece?_hex (h m hm)
    have hne : (hexPieces (n :: rest)).isEmpty = false := by
      obtain ⟨c, text, htext, -⟩ := exists_hexPieces_cons n rest
      rw [htext]
      rfl
    obtain ⟨last, hlast⟩ := Option.isSome_iff_exists.mp (List.getLast?_isSome.mpr
      (by simp : (n :: rest).map (Nat.toDigits 16) ≠ []))
    have hdot : '.' ∉ last := by
      obtain ⟨m, -, rfl⟩ := List.mem_map.mp (List.mem_of_getLast? hlast)
      exact notMem_hex (by decide) m
    rw [readPieces?, hne]
    simp only [Bool.false_eq_true, if_false, hsplit, hlast, hdot, decide_false, Bool.and_false]
    exact hread

/-! ### Double colons -/

lemma splitDoubleColon?_append {piece : List Char} (h : ':' ∉ piece) (rest : List Char) :
    splitDoubleColon? (piece ++ rest) =
      (splitDoubleColon? rest).map fun (before, after) => (piece ++ before, after) := by
  induction piece with
  | nil => simp
  | cons c piece ih =>
    obtain ⟨hc, hp⟩ : ':' ≠ c ∧ ':' ∉ piece := by simpa using h
    rw [List.cons_append, splitDoubleColon?]
    · rw [ih hp, Option.map_map]
      rfl
    · rintro more rfl
      contradiction

lemma splitDoubleColon?_hexPieces (pieces : List Nat) (tail : List Char) :
    splitDoubleColon? (hexPieces pieces ++ tail) =
      (splitDoubleColon? tail).map fun (before, after) => (hexPieces pieces ++ before, after) := by
  induction pieces with
  | nil => simp [hexPieces, Text.joinWith]
  | cons n rest ih =>
    have hn : ':' ∉ Nat.toDigits 16 n := notMem_hex (by decide) n
    cases rest with
    | nil => exact splitDoubleColon?_append hn tail
    | cons m rest =>
      obtain ⟨c, text, htext, hc⟩ := exists_hexPieces_cons m rest
      have hcolon : splitDoubleColon? (':' :: (hexPieces (m :: rest) ++ tail)) =
          (splitDoubleColon? (hexPieces (m :: rest) ++ tail)).map fun (before, after) =>
            (':' :: before, after) := by
        rw [htext, List.cons_append, splitDoubleColon?]
        rintro more - heq
        exact hc (List.cons.inj heq).1
      rw [hexPieces_cons_cons, List.append_assoc, List.cons_append, splitDoubleColon?_append hn,
        hcolon, ih, Option.map_map, Option.map_map]
      refine congrArg (Option.map · _) (funext fun found => ?_)
      simp

lemma add_zeroRun_le {pieces : List Nat} {i : Nat} (hi : i < pieces.length) :
    i + zeroRun (pieces.drop i) ≤ pieces.length := by
  have hle := (List.takeWhile_prefix (p := (· == 0)) (l := pieces.drop i)).length_le
  rw [List.length_drop] at hle
  rw [zeroRun]
  omega

/-- The longest run so far has two zeros at least and lies within the pieces. -/
lemma foldl_zeroRun_spec {pieces : List Nat} (indices : List Nat)
    (hi : ∀ i ∈ indices, i < pieces.length) (best : Option (Nat × Nat))
    (hbest : ∀ s n, best = some (s, n) → 2 ≤ n ∧ s + n ≤ pieces.length) :
    ∀ s n, indices.foldl (fun best i =>
      let run := zeroRun (pieces.drop i)
      let longest := match best with
        | some (_, n) => n
        | none => 1
      if longest < run then some (i, run) else best) best = some (s, n) →
        2 ≤ n ∧ s + n ≤ pieces.length := by
  induction indices generalizing best with
  | nil => exact hbest
  | cons i rest ih =>
    obtain ⟨hfirst, hrest⟩ := List.forall_mem_cons.mp hi
    refine ih hrest _ fun s n hn => ?_
    cases best with
    | none =>
      simp only at hn
      split at hn
      · next hlonger =>
        obtain ⟨rfl, rfl⟩ := Prod.mk.inj (Option.some_inj.mp hn)
        exact ⟨hlonger, add_zeroRun_le hfirst⟩
      · contradiction
    | some found =>
      have hfound := hbest found.1 found.2 rfl
      simp only at hn
      split at hn
      · next hlonger =>
        obtain ⟨rfl, rfl⟩ := Prod.mk.inj (Option.some_inj.mp hn)
        exact ⟨by omega, add_zeroRun_le hfirst⟩
      · exact hbest s n hn

lemma longestZeroRun_spec {pieces : List Nat} {start n : Nat}
    (h : longestZeroRun pieces = some (start, n)) : 2 ≤ n ∧ start + n ≤ pieces.length :=
  foldl_zeroRun_spec (List.range pieces.length) (fun _ hi => List.mem_range.mp hi) none
    (fun _ _ hn => absurd hn (by simp)) start n h

lemma isSome_readIpv6?_ipv6Text {pieces : List Nat} (hlen : pieces.length = 8)
    (h : ∀ n ∈ pieces, IsPiece n) : (readIpv6? (ipv6Text pieces)).isSome = true := by
  cases hrun : longestZeroRun pieces with
  | none =>
    have hcolons : splitDoubleColon? (hexPieces pieces) = none := by
      have hall := splitDoubleColon?_hexPieces pieces []
      rwa [List.append_nil] at hall
    simp [readIpv6?, ipv6Text, hrun, hcolons, readPieces?_hexPieces h, hlen]
  | some found =>
    obtain ⟨start, n⟩ := found
    obtain ⟨htwo, hle⟩ := longestZeroRun_spec hrun
    have hcolons : splitDoubleColon? (hexPieces (pieces.take start) ++
        ([':', ':'] ++ hexPieces (pieces.drop (start + n)))) =
          some (hexPieces (pieces.take start), hexPieces (pieces.drop (start + n))) := by
      rw [splitDoubleColon?_hexPieces]
      simp [splitDoubleColon?]
    have hfirst := @readPieces?_hexPieces false (pieces.take start) fun m hm =>
      h m (List.mem_of_mem_take hm)
    have hsecond := @readPieces?_hexPieces true (pieces.drop (start + n)) fun m hm =>
      h m (List.mem_of_mem_drop hm)
    have hshort : ¬ 8 ≤ (pieces.take start).length + (pieces.drop (start + n)).length := by
      rw [List.length_take, List.length_drop]
      omega
    simp only [readIpv6?, ipv6Text, hrun, List.append_assoc, hcolons, hfirst, hsecond,
      Option.bind_eq_bind, Option.bind_some, if_neg hshort, Option.isSome_some]

end ModuleArchive.Url
