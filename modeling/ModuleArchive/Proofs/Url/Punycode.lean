import ModuleArchive.Url.Domain.Punycode
import Mathlib.Data.List.Basic
import Mathlib.Data.List.InsertIdx
import Mathlib.Data.List.TakeWhile

/-!
# Labels in ASCII are read back

The ASCII form of a label stands for the label. A number that has been written is read again. The
characters are put in by their code points, and by their places among those of one code point; so
when a character is put in, just those before it that count are there already, and all others come
later.
-/
namespace ModuleArchive.Url.Domain.Punycode

/-! ### Numbers -/

lemma threshold_le (bias place : Nat) : threshold bias place ≤ 26 := by
  simp only [threshold]
  omega

lemma digitValue?_digitChar {d : Nat} (h : d < base) : digitValue? (digitChar d) = some d := by
  have hall : ∀ d < 36, digitValue? (digitChar d) = some d := by decide
  exact hall d h

lemma digit_lt_base (bias place n : Nat) :
    threshold bias place + (n - threshold bias place) % (base - threshold bias place) < base := by
  have hmax := threshold_le bias place
  have hpos : 0 < base - threshold bias place := by
    simp only [base]
    omega
  have := Nat.mod_lt (n - threshold bias place) hpos
  omega

lemma lt_base_of_lt_threshold {bias place n : Nat} (h : n < threshold bias place) : n < base := by
  have := threshold_le bias place
  simp only [base]
  omega

/-- A number that has been written is read again, and what follows it is left. -/
theorem readNumber?_writeNumber (bias place weight n : Nat) (rest : List Char) :
    readNumber? bias place weight (writeNumber bias place n ++ rest) = some (n * weight, rest) := by
  induction place, n using writeNumber.induct bias generalizing weight with
  | case1 place n t hlt =>
    rw [writeNumber, if_pos hlt, List.singleton_append, readNumber?,
      digitValue?_digitChar (lt_base_of_lt_threshold hlt)]
    exact if_pos hlt
  | case2 place n t hge ih =>
    have hsplit : t + (n - t) % (base - t) + (n - t) / (base - t) * (base - t) = n := by
      have := Nat.mod_add_div' (n - t) (base - t)
      omega
    have hvalue : (t + (n - t) % (base - t)) * weight +
        (n - t) / (base - t) * (weight * (base - t)) = n * weight := by
      rw [Nat.mul_comm weight, ← Nat.mul_assoc, ← Nat.add_mul, hsplit]
    rw [writeNumber, if_neg hge, List.cons_append, readNumber?,
      digitValue?_digitChar (digit_lt_base bias place n)]
    simp only
    rw [if_neg (by omega), ih, Option.map_some, hvalue]

/-! ### The order of insertions -/

section Sorting

variable {α : Type} (f : α → Nat) {r : α → α → Prop}

/-- Sorting is stable: what has the same number stays in its order. -/
lemma filter_mergeSort_eq (xs : List α) (n : Nat) :
    (xs.mergeSort fun x y => f x ≤ f y).filter (f · = n) = xs.filter (f · = n) := by
  have htrans (x y z : α) (hxy : decide (f x ≤ f y) = true) (hyz : decide (f y ≤ f z) = true) :
      decide (f x ≤ f z) = true := by
    rw [decide_eq_true_iff] at hxy hyz ⊢
    omega
  have htotal (x y : α) : (decide (f x ≤ f y) || decide (f y ≤ f x)) = true := by
    rw [Bool.or_eq_true, decide_eq_true_iff, decide_eq_true_iff]
    omega
  have hequal : (xs.filter (f · = n)).Pairwise fun x y => decide (f x ≤ f y) = true := by
    refine List.pairwise_of_forall_mem_list fun x hx y hy => ?_
    have hx' := (List.mem_filter.mp hx).2
    have hy' := (List.mem_filter.mp hy).2
    rw [decide_eq_true_iff] at hx' hy' ⊢
    omega
  have hsublist :=
    (List.sublist_mergeSort htrans htotal hequal List.filter_sublist).filter (f · = n)
  simp only [List.filter_filter, Bool.and_self] at hsublist
  exact (hsublist.eq_of_length ((List.mergeSort_perm xs _).symm.filter _).length_eq).symm

/-- What has been sorted stands by its numbers, and in the order it had if these are the same. -/
lemma pairwise_mergeSort {xs : List α} (h : xs.Pairwise r) :
    (xs.mergeSort fun x y => f x ≤ f y).Pairwise fun x y => f x < f y ∨ f x = f y ∧ r x y := by
  have hsorted :
      (xs.mergeSort fun x y => f x ≤ f y).Pairwise fun x y => decide (f x ≤ f y) = true :=
    List.pairwise_mergeSort (fun x y z => by simpa using Nat.le_trans)
      (fun x y => by simpa using Nat.le_total _ _) xs
  rw [List.pairwise_iff_forall_sublist] at h hsorted ⊢
  intro x y hxy
  have hle : f x ≤ f y := of_decide_eq_true (hsorted hxy)
  obtain hlt | heq := Nat.lt_or_eq_of_le hle
  · exact .inl hlt
  · refine .inr ⟨heq, h ?_⟩
    have hfilter := hxy.filter (f · = f y)
    rw [filter_mergeSort_eq, List.filter_cons_of_pos (by simpa using heq),
      List.filter_cons_of_pos (by simp)] at hfilter
    exact hfilter.trans List.filter_sublist

end Sorting

/-- A character with its place in a text. -/
abbrev Placed := Char × Nat

/-- Whether a character is put in before another one: by their code points, then by their places. -/
def Precedes (p q : Placed) : Prop := p.1.toNat < q.1.toNat ∨ p.1.toNat = q.1.toNat ∧ p.2 < q.2

/-- The characters of a text that are put in, in this order. -/
def ordered (text : List Char) : List Placed :=
  (text.zipIdx.filter fun (c, _) => 0x80 ≤ c.toNat).mergeSort fun p q => p.1.toNat ≤ q.1.toNat

/-- Where a character is put in: behind those before it that are there already. -/
def placeOf (text : List Char) (p : Placed) : Nat :=
  (text.take p.2).countP fun d => d.toNat ≤ p.1.toNat

lemma insertions_eq (text : List Char) :
    insertions text = (ordered text).map fun p => (p.1, placeOf text p) := rfl

lemma mem_ordered {text : List Char} {p : Placed} :
    p ∈ ordered text ↔ p ∈ text.zipIdx ∧ 0x80 ≤ p.1.toNat := by
  rw [ordered, List.mem_mergeSort, List.mem_filter, decide_eq_true_iff]

lemma pairwise_ordered (text : List Char) : (ordered text).Pairwise Precedes := by
  have hplaces : text.zipIdx.Pairwise fun p q => p.2 < q.2 := by
    rw [← List.pairwise_map, List.zipIdx_map_snd]
    exact List.pairwise_lt_range'
  exact pairwise_mergeSort (fun p : Placed => p.1.toNat) (hplaces.filter _)

/-! ### Reading what has been written -/

section Reading

variable {text : List Char}

/-- The characters that are not to be put in any more. -/
def present (text : List Char) (pending : List Placed) : List Char :=
  (text.zipIdx.filter (· ∉ pending)).map Prod.fst

/-- Whether only those characters are pending that come after a certain one. -/
structure IsPending (text : List Char) (pending : List Placed) : Prop where
  placed : ∀ p ∈ pending, p ∈ text.zipIdx
  inOrder : pending.Pairwise Precedes
  closed : ∀ p ∈ pending, ∀ q ∈ text.zipIdx, Precedes p q → q ∈ pending

lemma IsPending.tail {p : Placed} {pending : List Placed} (h : IsPending text (p :: pending)) :
    IsPending text pending := by
  obtain ⟨hfirst, hinOrder⟩ := List.pairwise_cons.mp h.inOrder
  refine ⟨fun q hq => h.placed q (List.mem_cons_of_mem _ hq), hinOrder, fun q hq r hr hqr => ?_⟩
  obtain rfl | hr := List.mem_cons.mp (h.closed q (List.mem_cons_of_mem _ hq) r hr hqr)
  · have hrq := hfirst q hq
    simp only [Precedes] at hqr hrq
    omega
  · exact hr

/-- The character at a place, with what stands before it and behind it. -/
lemma exists_append_of_mem_zipIdx {p : Placed} (h : p ∈ text.zipIdx) :
    ∃ front back, text = front ++ p.1 :: back ∧ front.length = p.2 := by
  obtain ⟨hlt, hget⟩ := List.getElem?_eq_some_iff.mp (List.mem_zipIdx_iff_getElem?.mp h)
  refine ⟨text.take p.2, text.drop (p.2 + 1), ?_, List.length_take_of_le (Nat.le_of_lt hlt)⟩
  rw [← hget, ← List.drop_eq_getElem_cons hlt, List.take_append_drop]

lemma insertIdx_length_append {α : Type} (front back : List α) (x : α) :
    (front ++ back).insertIdx front.length x = front ++ x :: back := by
  induction front with
  | nil => rfl
  | cons y front ih => rw [List.cons_append, List.length_cons, List.insertIdx_succ_cons, ih]; rfl

section Next

variable {p q : Placed} {pending : List Placed}

lemma IsPending.notMem_tail (h : IsPending text (p :: pending)) : p ∉ pending := by
  intro hp
  have hpp := (List.pairwise_cons.mp h.inOrder).1 p hp
  simp only [Precedes] at hpp
  omega

/-- What is there already, of the characters before the next one, are those that count for it. -/
lemma IsPending.le_iff_notMem (h : IsPending text (p :: pending)) (hq : q ∈ text.zipIdx)
    (hlt : q.2 < p.2) : q.1.toNat ≤ p.1.toNat ↔ q ∉ p :: pending := by
  constructor
  · rintro hle hpending
    obtain rfl | hpending := List.mem_cons.mp hpending
    · omega
    · have hpq := (List.pairwise_cons.mp h.inOrder).1 q hpending
      simp only [Precedes] at hpq
      omega
  · intro hpresent
    by_contra hle
    exact hpresent (h.closed p List.mem_cons_self q hq (.inl (by omega)))

lemma filter_notMem_cons {zipped : List Placed} (hp : p ∉ zipped) :
    zipped.filter (· ∉ p :: pending) = zipped.filter (· ∉ pending) := by
  refine List.filter_congr fun q hq => ?_
  have hne : q ≠ p := fun heq => hp (heq ▸ hq)
  simp [hne]

/-- A pending character is put in behind those before it that are there. -/
lemma insertIdx_present (h : IsPending text (p :: pending)) :
    placeOf text p ≤ (present text (p :: pending)).length ∧
      (present text (p :: pending)).insertIdx (placeOf text p) p.1 = present text pending := by
  obtain ⟨front, back, htext, hplace⟩ := exists_append_of_mem_zipIdx (h.placed p (by simp))
  have hzip : text.zipIdx = front.zipIdx ++ p :: back.zipIdx (p.2 + 1) := by
    rw [htext, List.zipIdx_append, List.zipIdx_cons, Nat.zero_add, hplace]
  have hfront : p ∉ front.zipIdx := by
    intro hp
    have := List.snd_lt_of_mem_zipIdx hp
    omega
  have hback : p ∉ back.zipIdx (p.2 + 1) := by
    intro hp
    have := List.le_snd_of_mem_zipIdx hp
    omega
  let before := (front.zipIdx.filter (· ∉ pending)).map Prod.fst
  let after := ((back.zipIdx (p.2 + 1)).filter (· ∉ pending)).map Prod.fst
  have hwith : present text pending = before ++ p.1 :: after := by
    rw [present, hzip, List.filter_append,
      List.filter_cons_of_pos (by simpa using h.notMem_tail), List.map_append, List.map_cons]
  have hwithout : present text (p :: pending) = before ++ after := by
    rw [present, hzip, List.filter_append, List.filter_cons_of_neg (by simp),
      filter_notMem_cons hfront, filter_notMem_cons hback, List.map_append]
  have hcount : placeOf text p = before.length := by
    have htake : text.take p.2 = front.zipIdx.map Prod.fst := by
      rw [htext, ← hplace, List.take_left, List.zipIdx_map_fst]
    rw [placeOf, htake, List.countP_map, List.length_map, ← filter_notMem_cons hfront,
      ← List.countP_eq_length_filter]
    refine List.countP_congr fun q hq => ?_
    have hlt := List.snd_lt_of_mem_zipIdx hq
    have hmem : q ∈ text.zipIdx := hzip ▸ List.mem_append_left _ hq
    simpa using h.le_iff_notMem hmem (by omega)
  rw [hwith, hwithout, hcount]
  exact ⟨by simp, insertIdx_length_append _ _ _⟩

end Next

/-- A number is read as a character and a place if it counts the places up to that one. -/
lemma readInsertions?_of_readNumber? {s : State} {text digits rest : List Char} {n place : Nat}
    {c : Char} (hread : readNumber? s.bias base 1 digits = some (n, rest))
    (hcode : s.code ≤ c.toNat) (hplace : place ≤ text.length)
    (hcount : s.place + n = (c.toNat - s.code) * (text.length + 1) + place) :
    readInsertions? s text digits = readInsertions?
      ⟨c.toNat, place + 1, text.length + 1, adapt n (text.length + 1) s.isFirst, false⟩
      (text.insertIdx place c) rest := by
  have hdiv : s.code + (s.place + n) / (text.length + 1) = c.toNat := by
    rw [hcount, Nat.add_comm (_ * _), Nat.add_mul_div_right _ _ (Nat.succ_pos _),
      Nat.div_eq_of_lt (by omega)]
    omega
  have hmod : (s.place + n) % (text.length + 1) = place := by
    rw [hcount, Nat.mul_add_mod', Nat.mod_eq_of_lt (by omega)]
  cases digits with
  | nil => contradiction
  | cons d digits =>
    rw [readInsertions?]
    split
    · next hnone => rw [hread] at hnone; contradiction
    · next m after hsome =>
      obtain ⟨rfl, rfl⟩ := Prod.mk.inj (Option.some.inj (hread.symm.trans hsome))
      have hvalid : c.toNat.isValidChar := c.valid
      simp only [hdiv, hmod, hvalid, not_true_eq_false, if_false, Char.ofNat_toNat]

/-- Of two pending characters with one code point, the later one is put in further behind. -/
lemma placeOf_lt_placeOf {p q : Placed} (hp : p ∈ text.zipIdx) (hcode : p.1.toNat = q.1.toNat)
    (hplace : p.2 < q.2) : placeOf text p < placeOf text q := by
  obtain ⟨front, back, htext, hlen⟩ := exists_append_of_mem_zipIdx hp
  have hnext : (text.take (p.2 + 1)).countP (fun d => d.toNat ≤ q.1.toNat) =
      placeOf text p + 1 := by
    have htake : text.take (p.2 + 1) = text.take p.2 ++ [p.1] := by
      rw [htext, ← hlen, List.take_left, List.take_length_add_append, List.take_one]
      rfl
    rw [htake, List.countP_append, placeOf, hcode]
    simp [hcode]
  calc placeOf text p < (text.take (p.2 + 1)).countP (fun d => d.toNat ≤ q.1.toNat) := by omega
    _ ≤ placeOf text q := (List.take_sublist_take_left hplace).countP_le

/-- What numbers have been written for is put in when they are read. -/
lemma readInsertions?_writeInsertions {s : State} {pending : List Placed}
    (h : IsPending text pending) (hlen : s.length = (present text pending).length)
    (hplace : s.place ≤ s.length)
    (hnext : ∀ p ∈ pending, s.code < p.1.toNat ∨ s.code = p.1.toNat ∧ s.place ≤ placeOf text p) :
    readInsertions? s (present text pending)
      (writeInsertions s (pending.map fun p => (p.1, placeOf text p))) = some text := by
  induction pending generalizing s with
  | nil =>
    have hall : present text [] = text := by simp [present]
    rw [hall, List.map_nil, writeInsertions, readInsertions?]
  | cons p pending ih =>
    obtain ⟨hin, hput⟩ := insertIdx_present h
    obtain ⟨hfirst, -⟩ := List.pairwise_cons.mp h.inOrder
    have hcode : s.code ≤ p.1.toNat := by
      have := hnext p (by simp)
      omega
    have hcount : s.place + ((p.1.toNat - s.code) * (s.length + 1) + placeOf text p - s.place) =
        (p.1.toNat - s.code) * (s.length + 1) + placeOf text p := by
      suffices s.place ≤ (p.1.toNat - s.code) * (s.length + 1) + placeOf text p by omega
      obtain hlt | ⟨-, hle⟩ := hnext p (by simp)
      · have hone : 1 * (s.length + 1) ≤ (p.1.toNat - s.code) * (s.length + 1) :=
          Nat.mul_le_mul_right _ (by omega)
        omega
      · omega
    rw [List.map_cons, writeInsertions]
    rw [readInsertions?_of_readNumber? (readNumber?_writeNumber _ _ _ _ _) hcode hin
      (by rw [← hlen, Nat.mul_one]; exact hcount), hput]
    rw [Nat.mul_one, ← hlen]
    refine ih h.tail ?_ ?_ ?_
    · rw [← hput, List.length_insertIdx_of_le_length hin, hlen]
    · exact Nat.succ_le_succ (hlen ▸ hin)
    · intro q hq
      obtain hlt | ⟨hsame, hlt⟩ := hfirst q hq
      · exact .inl hlt
      · exact .inr ⟨hsame, placeOf_lt_placeOf (h.placed p (by simp)) hsame hlt⟩

end Reading

/-! ### Forms -/

lemma exists_of_mem_writeNumber {bias place n : Nat} {c : Char} (h : c ∈ writeNumber bias place n) :
    ∃ d < base, c = digitChar d := by
  induction place, n using writeNumber.induct bias with
  | case1 place n t hlt =>
    rw [writeNumber, if_pos hlt, List.mem_singleton] at h
    exact ⟨n, lt_base_of_lt_threshold hlt, h⟩
  | case2 place n t hge ih =>
    rw [writeNumber, if_neg hge] at h
    obtain rfl | h := List.mem_cons.mp h
    · exact ⟨_, digit_lt_base bias place n, rfl⟩
    · exact ih h

lemma exists_of_mem_writeInsertions {s : State} {pending : List Placed} {c : Char}
    (h : c ∈ writeInsertions s pending) : ∃ d < base, c = digitChar d := by
  induction pending generalizing s with
  | nil => exact absurd h List.not_mem_nil
  | cons p pending ih =>
    rw [writeInsertions] at h
    obtain h | h := List.mem_append.mp h
    · exact exists_of_mem_writeNumber h
    · exact ih h

/-- The characters of a form are ASCII characters of the text, digits, or the mark between them. -/
lemma mem_encode {text : List Char} {c : Char} (h : c ∈ encode text) :
    (c ∈ text ∧ c.toNat < 0x80) ∨ c = '-' ∨ ∃ d < base, c = digitChar d := by
  simp only [encode, List.mem_append, List.mem_filter, decide_eq_true_eq] at h
  obtain (h | h) | h := h
  · exact .inl h
  · split at h
    · exact absurd h List.not_mem_nil
    · exact .inr (.inl (List.mem_singleton.mp h))
  · exact .inr (.inr (exists_of_mem_writeInsertions h))

/-- All that is not of ASCII is pending at first. -/
lemma isPending_ordered (text : List Char) : IsPending text (ordered text) where
  placed _ hp := (mem_ordered.mp hp).1
  inOrder := pairwise_ordered text
  closed p hp q hq hpq := by
    have hp' := (mem_ordered.mp hp).2
    refine mem_ordered.mpr ⟨hq, ?_⟩
    simp only [Precedes] at hpq
    omega

lemma present_ordered (text : List Char) :
    present text (ordered text) = text.filter fun c => c.toNat < 0x80 := by
  have hiff : ∀ q ∈ text.zipIdx, decide (q ∉ ordered text) = decide (q.1.toNat < 0x80) := by
    intro q hq
    simp [mem_ordered, hq]
  calc present text (ordered text)
      = (text.zipIdx.filter ((fun c : Char => decide (c.toNat < 0x80)) ∘ Prod.fst)).map
          Prod.fst := by
        rw [present, List.filter_congr hiff]
        rfl
    _ = text.filter fun c => c.toNat < 0x80 := by rw [← List.filter_map, List.zipIdx_map_fst]

/-- What stands behind the last mark of a form, and what stands before it. -/
lemma cut_form (plain : List Char) {digits form : List Char}
    (hform : form = plain ++ (if plain.isEmpty then [] else ['-']) ++ digits) (h : '-' ∉ digits) :
    (form.reverse.takeWhile (· ≠ '-')).reverse = digits ∧
      form.take (form.length - digits.length - 1) = plain ∧
      (if plain.isEmpty then form else digits) = digits := by
  have hne : ∀ c ∈ digits.reverse, (c ≠ '-' : Bool) = true := by
    intro c hc
    rw [decide_eq_true_eq]
    rintro rfl
    exact h (List.mem_reverse.mp hc)
  cases plain with
  | nil =>
    obtain rfl : form = digits := by simpa using hform
    rw [List.takeWhile_eq_self_iff.mpr hne]
    simp
  | cons c plain =>
    have hform : form = (c :: plain) ++ '-' :: digits := by simpa using hform
    refine ⟨?_, ?_, rfl⟩
    · rw [hform, List.reverse_append, List.reverse_cons, List.append_assoc,
        List.takeWhile_append_of_pos hne]
      simp
    · have hlen : form.length - digits.length - 1 = (c :: plain).length := by
        rw [hform, List.length_append, List.length_cons (a := '-')]
        omega
      rw [hlen, hform, List.take_left]

/-- A text has a form that stands for it. -/
theorem decode?_encode (text : List Char) : decode? (encode text) = some text := by
  let plain := text.filter fun c => c.toNat < 0x80
  let digits := writeInsertions { length := plain.length } (insertions text)
  have hform : encode text = plain ++ (if plain.isEmpty then [] else ['-']) ++ digits := rfl
  have hdigits : ∀ c ∈ digits, c ≠ '-' := by
    intro c hc
    obtain ⟨d, hd, rfl⟩ := exists_of_mem_writeInsertions hc
    have hall : ∀ d < 36, digitChar d ≠ '-' := by decide
    exact hall d hd
  have hascii : ∀ n ∈ (plain.map Char.toNat).max?, n < 0x80 := by
    intro n hn
    obtain ⟨c, hc, rfl⟩ := List.mem_map.mp (List.max?_mem hn)
    simpa using (List.mem_filter.mp hc).2
  have hread : readInsertions? { length := plain.length } plain digits = some text := by
    have h := readInsertions?_writeInsertions (s := { length := plain.length })
      (isPending_ordered text) (by rw [present_ordered]) (Nat.zero_le _) fun p hp => ?_
    · rwa [present_ordered, ← insertions_eq] at h
    · have hp' := (mem_ordered.mp hp).2
      simp only
      omega
  obtain ⟨hlast, hplain, hrest⟩ := cut_form plain hform fun h => hdigits '-' h rfl
  rw [decode?, hlast]
  simp only [hplain, hrest]
  rw [if_neg, hread]
  cases hmax : (plain.map Char.toNat).max? with
  | none => decide
  | some n => exact Nat.not_le.mpr (hascii n hmax)

/-! ### Characters of texts that forms stand for -/

/-- What is put in is not of ASCII. -/
lemma mem_of_readInsertions? {s : State} {text digits out : List Char} (hcode : 0x80 ≤ s.code)
    (h : readInsertions? s text digits = some out) {c : Char} (hc : c ∈ out) :
    c ∈ text ∨ 0x80 ≤ c.toNat := by
  induction s, text, digits using readInsertions?.induct with
  | case1 s text =>
    rw [readInsertions?, Option.some_inj] at h
    exact .inl (h ▸ hc)
  | case2 s text d digits hnone =>
    rw [readInsertions?] at h
    split at h
    · contradiction
    · next hsome => exact absurd (hnone.symm.trans hsome) nofun
  | case3 s text d digits n rest hsome count code hinvalid =>
    rw [readInsertions?] at h
    split at h
    · contradiction
    · next hsome' =>
      obtain ⟨rfl, rfl⟩ := Prod.mk.inj (Option.some.inj (hsome.symm.trans hsome'))
      simp only [count, code] at hinvalid
      simp [hinvalid] at h
  | case4 s text d digits n rest hsome count code place hvalid hlt ih =>
    rw [readInsertions?] at h
    split at h
    · contradiction
    · next hsome' =>
      obtain ⟨rfl, rfl⟩ := Prod.mk.inj (Option.some.inj (hsome.symm.trans hsome'))
      have hcode' : 0x80 ≤ code := Nat.le_trans hcode (Nat.le_add_right _ _)
      rw [if_neg hvalid] at h
      refine (ih hcode' h).elim (fun hm => ?_) .inr
      obtain rfl | hm := List.eq_or_mem_of_mem_insertIdx hm
      · have hnat : (Char.ofNat code).toNat = code := by
          rw [Char.ofNat, dif_pos (not_not.mp hvalid)]
          rfl
        exact .inr (hcode'.trans_eq hnat.symm)
      · exact .inl hm

/-- What a form stands for has no character of ASCII that is not in the form. -/
lemma mem_of_decode? {form text : List Char} (h : decode? form = some text) {c : Char}
    (hc : c ∈ text) : c ∈ form ∨ 0x80 ≤ c.toNat := by
  simp only [decode?] at h
  split at h
  · contradiction
  · exact (mem_of_readInsertions? (Nat.le_refl _) h hc).imp_left List.mem_of_mem_take

end ModuleArchive.Url.Domain.Punycode
