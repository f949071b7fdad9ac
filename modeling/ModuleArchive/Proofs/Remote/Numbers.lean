import ModuleArchive.Proofs.Text.Decimal
import ModuleArchive.Remote.Page

/-!
# Numbers on a listing page

A listing page shows numbers in digits, with commas between groups of three or without. A cell is
read as the number that it shows. The count of a page may be read as less than it shows, since only
whole groups of three count behind its first digits, but it is read. The number of a group is that
of the first field `id` of its link.
-/
namespace ModuleArchive

/-! ### Written numbers -/

namespace Decimal

/-- How a number is written. -/
inductive Form where
  | plain
  /-- With commas between groups of three digits. -/
  | grouped
deriving Repr, DecidableEq

/-- Digits, the last one first, with a comma behind every third one that has another behind it. -/
def withCommas : List Char → List Char
  | a :: b :: c :: d :: rest => a :: b :: c :: ',' :: withCommas (d :: rest)
  | digits => digits

def Form.write : Form → Nat → List Char
  | plain, n => digits n
  | grouped, n => (withCommas (digits n).reverse).reverse

lemma mem_withCommas {c : Char} {text : List Char} (h : c ∈ withCommas text) :
    c = ',' ∨ c ∈ text := by
  fun_induction withCommas text with
  | case1 x y z d rest ih =>
    simp only [List.mem_cons] at h ih ⊢
    grind
  | case2 text _ => exact .inr h

lemma filter_withCommas {text : List Char} (h : ∀ c ∈ text, c ≠ ',') :
    (withCommas text).filter (· != ',') = text := by
  fun_induction withCommas text with
  | case1 x y z d rest ih =>
    obtain ⟨hx, hy, hz, hrest⟩ : x ≠ ',' ∧ y ≠ ',' ∧ z ≠ ',' ∧ ∀ c ∈ d :: rest, c ≠ ',' := by
      simpa only [List.forall_mem_cons] using h
    simp [hx, hy, hz, ih hrest]
  | case2 text _ => exact List.filter_eq_self.mpr fun c hc => by simpa using h c hc

lemma ne_comma_of_mem_digits {n : Nat} {c : Char} (h : c ∈ digits n) : c ≠ ',' := by
  rintro rfl
  exact absurd (isDigit_of_mem_digits h) (by decide)

lemma filter_write (f : Form) (n : Nat) : (f.write n).filter (· != ',') = digits n := by
  cases f with
  | plain =>
    exact List.filter_eq_self.mpr fun c hc => by simpa using ne_comma_of_mem_digits hc
  | grouped =>
    rw [Form.write, List.filter_reverse, filter_withCommas, List.reverse_reverse]
    exact fun c hc => ne_comma_of_mem_digits (List.mem_reverse.mp hc)

lemma mem_write {f : Form} {n : Nat} {c : Char} (h : c ∈ f.write n) :
    c = ',' ∨ isDigit c = true := by
  cases f with
  | plain => exact .inr (isDigit_of_mem_digits h)
  | grouped =>
    rcases mem_withCommas (List.mem_reverse.mp h) with rfl | hc
    · exact .inl rfl
    · exact .inr (isDigit_of_mem_digits (List.mem_reverse.mp hc))

lemma getLast?_withCommas (text : List Char) : (withCommas text).getLast? = text.getLast? := by
  fun_induction withCommas text with
  | case1 x y z d rest ih => simp [List.getLast?_cons, ih]
  | case2 text _ => rfl

/-- A written number begins with a digit. -/
lemma exists_cons_of_write (f : Form) (n : Nat) :
    ∃ c rest, f.write n = c :: rest ∧ isDigit c = true := by
  obtain ⟨c, rest, hdigits⟩ := List.exists_cons_of_ne_nil (digits_ne_nil n)
  have hc : isDigit c = true := by
    refine isDigit_of_mem_digits (n := n) ?_
    rw [hdigits]
    exact List.mem_cons_self
  have hhead : (f.write n).head? = some c := by
    cases f with
    | plain => rw [Form.write, hdigits, List.head?_cons]
    | grouped =>
      rw [Form.write, List.head?_reverse, getLast?_withCommas, List.getLast?_reverse, hdigits,
        List.head?_cons]
  obtain ⟨more, hmore⟩ := List.head?_eq_some_iff.mp hhead
  exact ⟨c, more, hmore, hc⟩

lemma readBelow?_of_isDigit {bound : Nat} {text : List Char} (hne : text ≠ [])
    (h : ∀ c ∈ text, isDigit c = true) (hlt : value 0 text < bound) :
    readBelow? bound text = some (value 0 text) := by
  have hread : read? text = some (value 0 text) := by
    simp [read?, hne, List.all_eq_true.mpr h]
  cases text with
  | nil => contradiction
  | cons c rest =>
    have hplus : c ≠ '+' := by
      rintro rfl
      exact absurd (h '+' List.mem_cons_self) (by decide)
    simp [readBelow?, hplus, hread, hlt]

lemma readBelow?_digits {bound n : Nat} (hn : n < bound) :
    readBelow? bound (digits n) = some n := by
  have hread := readBelow?_of_isDigit (digits_ne_nil n)
    (fun c hc => isDigit_of_mem_digits hc) (by rwa [value_digits])
  rwa [value_digits] at hread

/-- Digits with commas are one to three digits and groups of three that begin with a comma. -/
lemma exists_triples (text : List Char) (hne : text ≠ []) (h : ∀ c ∈ text, isDigit c = true) :
    ∃ (first : List Char) (triples : List (List Char)),
      (withCommas text).reverse = first ++ triples.flatten ∧
      first ≠ [] ∧ first.length ≤ 3 ∧ (∀ c ∈ first, isDigit c = true) ∧
      ∀ t ∈ triples, ∃ a b c, t = [',', a, b, c] ∧ ∀ x ∈ [a, b, c], isDigit x = true := by
  fun_induction withCommas text with
  | case1 x y z d rest ih =>
    obtain ⟨hx, hy, hz, hrest⟩ : isDigit x = true ∧ isDigit y = true ∧ isDigit z = true ∧
        ∀ c ∈ d :: rest, isDigit c = true := by
      simpa only [List.forall_mem_cons] using h
    obtain ⟨first, triples, heq, hfirst, hlength, hdigits, htriples⟩ := ih (by simp) hrest
    refine ⟨first, triples ++ [[',', z, y, x]], by simp [heq], hfirst, hlength, hdigits, ?_⟩
    intro t ht
    rcases List.mem_append.mp ht with ht | ht
    · exact htriples t ht
    · exact ⟨z, y, x, List.mem_singleton.mp ht, by simp [hx, hy, hz]⟩
  | case2 text hshort =>
    refine ⟨text.reverse, [], by simp, by simpa using hne, ?_, fun c hc => ?_, nofun⟩
    · match text, hshort with
      | [], _ => simp
      | [_], _ => simp
      | [_, _], _ => simp
      | [_, _, _], _ => simp
      | a :: b :: c :: d :: rest, hshort => exact (hshort a b c d rest rfl).elim
    · exact h c (List.mem_reverse.mp hc)

end Decimal

/-! ### White space -/

namespace Text

lemma trim_of_ends {text : List Char} (hh : ∀ c ∈ text.head?, isBlank c = false)
    (hl : ∀ c ∈ text.getLast?, isBlank c = false) : trim text = text := by
  have hdrop {xs : List Char} (h : ∀ c ∈ xs.head?, isBlank c = false) :
      xs.dropWhile isBlank = xs := by
    cases xs with
    | nil => rfl
    | cons c rest => rw [List.dropWhile_cons_of_neg (by simp [h c rfl])]
  rw [trim, trimLeft, hdrop hh, trimRight, hdrop (by rwa [List.head?_reverse]),
    List.reverse_reverse]

lemma trim_of_forall {text : List Char} (h : ∀ c ∈ text, isBlank c = false) : trim text = text :=
  trim_of_ends (fun c hc => h c (List.mem_of_mem_head? hc))
    fun c hc => h c (List.mem_of_mem_getLast? hc)

lemma isDecimalDigit_of_isDigit {c : Char} (h : Decimal.isDigit c = true) :
    isDecimalDigit c = true := by
  have hc : 48 ≤ c.toNat ∧ c.toNat ≤ 57 := by
    simp only [Decimal.isDigit, Bool.and_eq_true, decide_eq_true_eq] at h
    exact h
  simp only [isDecimalDigit, List.any_eq_true, Bool.and_eq_true, decide_eq_true_eq]
  exact ⟨0x30, by decide, hc.1, by omega⟩

lemma isBlank_of_isDigit {c : Char} (h : Decimal.isDigit c = true) : isBlank c = false := by
  have hc : 48 ≤ c.toNat ∧ c.toNat ≤ 57 := by
    simp only [Decimal.isDigit, Bool.and_eq_true, decide_eq_true_eq] at h
    exact h
  simp [isBlank]
  omega

end Text

namespace Remote.Page

open Decimal (Form digits)
open Text (isDecimalDigit isBlank)

/-! ### Cells -/

lemma isBlank_of_mem_write {f : Form} {n : Nat} {c : Char} (h : c ∈ f.write n) :
    isBlank c = false := by
  rcases Decimal.mem_write h with rfl | hdigit
  · decide
  · exact Text.isBlank_of_isDigit hdigit

theorem readNumber_write (f : Form) {n : Nat} (h : n < UInt64.size) :
    readNumber (f.write n) = .ok n := by
  have htrim : Text.trim (digits n) = digits n :=
    Text.trim_of_forall fun c hc => Text.isBlank_of_isDigit (Decimal.isDigit_of_mem_digits hc)
  rw [readNumber, Decimal.filter_write, htrim, Decimal.readBelow?_digits h]

/-! ### The count -/

/-- The beginning of a text that does not reach a separator is one of what is before it. -/
lemma prefix_of_notMem {sep : Char} {text before after : List Char}
    (h : text <+: before ++ sep :: after) (hs : sep ∉ text) : text <+: before := by
  rcases List.prefix_or_prefix_of_prefix h (List.prefix_append before (sep :: after)) with
    hle | ⟨more, rfl⟩
  · exact hle
  · rw [List.prefix_append_right_inj] at h
    cases more with
    | nil => simp
    | cons c more =>
      obtain ⟨rfl, -⟩ := List.cons_prefix_cons.mp h
      exact absurd (List.mem_append_right _ List.mem_cons_self) hs

/-- What the count of a page is read as: behind the first three digits without commas, only whole
groups of three count. -/
def readAs : Form → Nat → Nat
  | .plain, n =>
    if (digits n).length ≤ 3 then n else n / 10 ^ ((digits n).length % 3)
  | .grouped, n => n

lemma readAs_le (f : Form) (n : Nat) : readAs f n ≤ n := by
  cases f with
  | plain =>
    rw [readAs]
    split
    · exact Nat.le_refl n
    · exact Nat.div_le_self _ _
  | grouped => exact Nat.le_refl n

/-- The count is read as it is written with commas, or with no more than three digits, or with
whole groups of them; no other count is. -/
theorem readAs_eq_iff {f : Form} {n : Nat} :
    readAs f n = n ↔ f = .grouped ∨ (digits n).length ≤ 3 ∨ 3 ∣ (digits n).length := by
  cases f with
  | grouped => simp [readAs]
  | plain =>
    rw [readAs, Nat.dvd_iff_mod_eq_zero]
    by_cases hshort : (digits n).length ≤ 3
    · simp [hshort]
    · by_cases hmod : (digits n).length % 3 = 0
      · simp [hmod]
      · have hpos : 0 < n := by
          rw [Nat.pos_iff_ne_zero]
          rintro rfl
          exact hshort (by decide)
        have hlt : n / 10 ^ ((digits n).length % 3) < n :=
          Nat.div_lt_self hpos (Nat.one_lt_pow hmod (by decide))
        simp [hshort, hmod, Nat.ne_of_lt hlt]

lemma digitTriple?_of_isDigit {a : Char} (ha : isDecimalDigit a = true) (b c : Char)
    (rest : List Char) : digitTriple? (a :: b :: c :: rest) =
      if isDecimalDigit b && isDecimalDigit c then some ([a, b, c], rest) else none := by
  have hcomma : a ≠ ',' := by
    rintro rfl
    exact absurd ha (by decide)
  simp [digitTriple?, hcomma, ha]

/-- Of digits whole groups of three are read. -/
lemma digitTriples_digits (text : List Char) {fuel : Nat}
    (h : ∀ c ∈ text, isDecimalDigit c = true) (hfuel : text.length ≤ fuel) :
    digitTriples fuel (text ++ " entries".toList) =
      text.take (text.length - text.length % 3) := by
  induction fuel generalizing text with
  | zero =>
    obtain rfl := List.length_eq_zero_iff.mp (Nat.le_zero.mp hfuel)
    rfl
  | succ fuel ih =>
    match text, h, hfuel with
    | [], _, _ => rfl
    | [a], h, _ =>
      have hspace : isDecimalDigit ' ' = false := by decide
      simp [digitTriples, digitTriple?_of_isDigit (h a (by simp)), hspace]
    | [a, b], h, _ =>
      have hspace : isDecimalDigit ' ' = false := by decide
      simp [digitTriples, digitTriple?_of_isDigit (h a (by simp)), hspace]
    | a :: b :: c :: rest, h, hfuel =>
      obtain ⟨ha, hb, hc, hrest⟩ : isDecimalDigit a = true ∧ isDecimalDigit b = true ∧
          isDecimalDigit c = true ∧ ∀ x ∈ rest, isDecimalDigit x = true := by
        simpa only [List.forall_mem_cons] using h
      have hmore := ih rest hrest (by simp only [List.length_cons] at hfuel; omega)
      have hmod := Nat.mod_le rest.length 3
      have hlength : (a :: b :: c :: rest).length - (a :: b :: c :: rest).length % 3 =
          rest.length - rest.length % 3 + 3 := by
        simp only [List.length_cons]
        omega
      rw [hlength, digitTriples]
      simp only [List.cons_append, digitTriple?_of_isDigit ha, hb, hc, Bool.and_self, if_true,
        List.nil_append, hmore, List.take_succ_cons]

/-- What a page says about how many entries were found. -/
def foundText (f : Form) (n : Nat) : List Char :=
  'F' :: 'o' :: 'u' :: 'n' :: 'd' :: ' ' :: (f.write n ++ " entries".toList)

lemma trim_foundText (f : Form) (n : Nat) : Text.trim (foundText f n) = foundText f n := by
  refine Text.trim_of_ends (fun c hc => ?_) fun c hc => ?_
  · obtain rfl : 'F' = c := Option.some_inj.mp hc
    decide
  · have hlast : (foundText f n).getLast? = some 's' := by
      simp [foundText, List.getLast?_cons]
    rw [hlast] at hc
    obtain rfl : 's' = c := Option.some_inj.mp hc
    decide

/-- Of groups that begin with a comma all are read. -/
lemma digitTriples_flatten {fuel : Nat} {triples : List (List Char)}
    (h : ∀ t ∈ triples, ∃ a b c, t = [',', a, b, c] ∧ ∀ x ∈ [a, b, c], isDecimalDigit x = true)
    (hfuel : triples.flatten.length ≤ fuel) :
    digitTriples fuel (triples.flatten ++ " entries".toList) = triples.flatten := by
  induction triples generalizing fuel with
  | nil => exact digitTriples_digits [] nofun hfuel
  | cons t triples ih =>
    obtain ⟨⟨a, b, c, rfl, hdigits⟩, htriples⟩ := List.forall_mem_cons.mp h
    cases fuel with
    | zero => simp at hfuel
    | succ fuel =>
      simp only [List.flatten_cons, List.length_append, List.length_cons] at hfuel
      have hmore : digitTriples fuel (triples.flatten ++ " entries".toList) = triples.flatten :=
        ih htriples (by omega)
      have hall : [a, b, c].all isDecimalDigit = true := List.all_eq_true.mpr hdigits
      simp only [List.flatten_cons, List.cons_append, List.nil_append, digitTriples, digitTriple?,
        hall, if_true, hmore]

/-- One to three digits are read, and the groups behind them. -/
lemma leadingCount?_append (first rest : List Char) (hne : first ≠ [])
    (hlength : first.length ≤ 3) (hfirst : ∀ c ∈ first, isDecimalDigit c = true)
    (hstop : first.length = 3 ∨ ∀ c ∈ rest.head?, isDecimalDigit c = false) :
    leadingCount? (first ++ rest) =
      some (first ++ digitTriples (first ++ rest).length rest) := by
  have htake : ((first ++ rest).take 3).takeWhile isDecimalDigit = first := by
    have hrest : (rest.take (3 - first.length)).takeWhile isDecimalDigit = [] := by
      rcases hstop with hthree | hhead
      · simp [hthree]
      · cases rest with
        | nil => simp
        | cons c rest =>
          have hc := hhead c rfl
          cases 3 - first.length <;> simp [hc]
    rw [List.take_append, List.take_of_length_le hlength, List.takeWhile_append_of_pos hfirst,
      hrest, List.append_nil]
  unfold leadingCount?
  rw [htake]
  split
  · contradiction
  · rw [List.drop_left]

/-- Of three and more digits whole groups of three are read. -/
lemma leadingCount?_digits {text : List Char} (h : ∀ c ∈ text, isDecimalDigit c = true)
    (hlong : 3 ≤ text.length) :
    leadingCount? (text ++ " entries".toList) =
      some (text.take (text.length - text.length % 3)) := by
  match text, h, hlong with
  | a :: b :: c :: rest, h, _ =>
    have hrest : ∀ x ∈ rest, isDecimalDigit x = true := fun x hx => h x (by simp [hx])
    have hread : digitTriples ([a, b, c] ++ (rest ++ " entries".toList)).length
        (rest ++ " entries".toList) = rest.take (rest.length - rest.length % 3) :=
      digitTriples_digits rest hrest (by simp only [List.length_append]; omega)
    have hfirst : ∀ x ∈ [a, b, c], isDecimalDigit x = true := fun x hx =>
      h x (List.mem_append_left rest hx)
    have hmod := Nat.mod_le rest.length 3
    have hlength : (a :: b :: c :: rest).length - (a :: b :: c :: rest).length % 3 =
        rest.length - rest.length % 3 + 3 := by
      simp only [List.length_cons]
      omega
    have hcount := leadingCount?_append [a, b, c] (rest ++ " entries".toList) (by simp)
      (Nat.le_refl 3) hfirst (.inl rfl)
    rw [hread] at hcount
    rw [hlength]
    exact hcount

/-- What is read of a count is the number that it is read as, written in the same way. -/
lemma leadingCount?_write (f : Form) (n : Nat) :
    leadingCount? (f.write n ++ " entries".toList) = some (f.write (readAs f n)) := by
  have hdigit {c : Char} (hc : c ∈ digits n) : isDecimalDigit c = true :=
    Text.isDecimalDigit_of_isDigit (Decimal.isDigit_of_mem_digits hc)
  have hspace : ∀ c ∈ " entries".toList.head?, isDecimalDigit c = false := by
    rintro c ⟨⟩
    decide
  cases f with
  | grouped =>
    obtain ⟨first, triples, heq, hne, hlength, hfirst, htriples⟩ :=
      Decimal.exists_triples (digits n).reverse (by simp [Decimal.digits_ne_nil])
        fun c hc => Decimal.isDigit_of_mem_digits (List.mem_reverse.mp hc)
    have hwrite : Form.grouped.write n = first ++ triples.flatten := heq
    have hread : digitTriples (first ++ (triples.flatten ++ " entries".toList)).length
        (triples.flatten ++ " entries".toList) = triples.flatten := by
      refine digitTriples_flatten (fun t ht => ?_) (by simp only [List.length_append]; omega)
      obtain ⟨a, b, c, rfl, hdigits⟩ := htriples t ht
      exact ⟨a, b, c, rfl, fun x hx => Text.isDecimalDigit_of_isDigit (hdigits x hx)⟩
    rw [readAs, hwrite, List.append_assoc, leadingCount?_append _ _ hne hlength
      (fun c hc => Text.isDecimalDigit_of_isDigit (hfirst c hc)) (.inr ?_), hread]
    cases triples with
    | nil => exact hspace
    | cons t triples =>
      obtain ⟨a, b, c, rfl, -⟩ := htriples t List.mem_cons_self
      rintro c ⟨⟩
      decide
  | plain =>
    change leadingCount? (digits n ++ " entries".toList) = some (digits (readAs .plain n))
    rw [readAs]
    by_cases hshort : (digits n).length ≤ 3
    · have hread : digitTriples (digits n ++ " entries".toList).length " entries".toList = [] :=
        digitTriples_digits [] nofun (Nat.zero_le _)
      rw [if_pos hshort, leadingCount?_append _ _ (Decimal.digits_ne_nil n) hshort
        (fun _ hc => hdigit hc) (.inr hspace), hread, List.append_nil]
    · rw [if_neg hshort, leadingCount?_digits (fun _ hc => hdigit hc) (by omega),
        Decimal.take_digits]
      have hmod := Nat.mod_lt (digits n).length (y := 3) (by decide)
      omega

/-- The count of a page that says how many entries were found is read as a number. -/
theorem foundCount?_foundText (f : Form) (n : Nat) :
    foundCount? (foundText f n) = some (f.write (readAs f n)) := by
  obtain ⟨c, rest, hwrite, hc⟩ := Decimal.exists_cons_of_write f n
  have hword : (' ' :: (f.write n ++ " entries".toList)).dropWhile isBlank =
      f.write n ++ " entries".toList := by
    rw [List.dropWhile_cons_of_pos (by decide), hwrite, List.cons_append,
      List.dropWhile_cons_of_neg (by simp [Text.isBlank_of_isDigit hc])]
  have hafter : countAfterWord? (' ' :: (f.write n ++ " entries".toList)) =
      some (f.write (readAs f n)) := by
    rw [countAfterWord?, if_pos (by decide), hword, leadingCount?_write]
  have hstart : "Found".toList.isPrefixOf (foundText f n) = true := by
    simp [foundText]
  rw [foundText] at hstart ⊢
  rw [foundCount?, if_pos hstart]
  simp only [List.drop_succ_cons, List.drop_zero, hafter]

/-- What a document says about its results. -/
def resultsOf (d : Html.Document) : List (List Char) :=
  (d.select fun node => node.isNamed "div" && node.hasClass "results").map shownText

/-- The count of a document that says how many entries were found. -/
theorem countOf_of_resultsOf {d : Html.Document} {f : Form} {n : Nat} (hn : n < UInt64.size)
    (h : (resultsOf d).head? = some (foundText f n)) :
    countOf d = .ok (some (readAs f n)) := by
  have hread := readNumber_write f (Nat.lt_of_le_of_lt (readAs_le f n) hn)
  rw [resultsOf] at h
  unfold countOf
  cases hselect : d.select fun node => node.isNamed "div" && node.hasClass "results" with
  | nil =>
    rw [hselect] at h
    contradiction
  | cons results more =>
    rw [hselect] at h
    have hshown : shownText results = foundText f n := Option.some_inj.mp h
    simp only [hshown, foundCount?_foundText, hread]
    rfl

/-! ### The number of a group -/

/-- Whether no field `id` begins in a text. -/
def HasNoId (text : List Char) : Prop :=
  ∀ mark, mark = '?' ∨ mark = '&' → ¬ mark :: "id=".toList <:+: text

/-- A link with a field `id`. -/
structure GroupLink where
  /-- What comes before the field: the address of a page, and other fields of the query. -/
  front : List Char := []
  /-- The mark before the field. -/
  mark : Char := '?'
  id : UInt32
  /-- What comes after the number: other fields of the query, and a place on the page. -/
  back : List Char := []

namespace GroupLink

/-- Whether the field of a link is one, and the first one. -/
structure IsProper (l : GroupLink) : Prop where
  front : HasNoId l.front
  mark : l.mark = '?' ∨ l.mark = '&'
  back : endsNumber l.back = true

def target (l : GroupLink) : List Char :=
  l.front ++ l.mark :: ("id=".toList ++ digits l.id.toNat ++ l.back)

end GroupLink

lemma prefix_of_numberField? {text digits : List Char} (h : numberField? text = some digits) :
    "id=".toList <+: text := by
  unfold numberField? at h
  split at h
  · exact ⟨_, rfl⟩
  · contradiction

/-- No number is read from a text in which no field `id` begins. -/
lemma groupNumber?_append {text : List Char} (h : HasNoId text) {mark : Char}
    (hmark : mark = '?' ∨ mark = '&') (rest : List Char) :
    groupNumber? (text ++ mark :: rest) = groupNumber? (mark :: rest) := by
  have hword : mark ∉ "id=".toList := by rcases hmark with rfl | rfl <;> decide
  induction text with
  | nil => rfl
  | cons c text ih =>
    have htail : HasNoId text := fun m hm hin =>
      h m hm (hin.trans (List.suffix_cons c text).isInfix)
    have hnone : (if c = '?' ∨ c = '&' then numberField? (text ++ mark :: rest) else none) =
        none := by
      split
      · next hc =>
        cases hread : numberField? (text ++ mark :: rest) with
        | none => rfl
        | some digits =>
          have hbegins : "id=".toList <+: text :=
            prefix_of_notMem (prefix_of_numberField? hread) hword
          exact absurd ((List.prefix_cons_inj c).mpr hbegins).isInfix (h c hc)
      · rfl
    rw [List.cons_append, groupNumber?, hnone]
    exact ih htail

theorem groupNumber?_target {l : GroupLink} (h : l.IsProper) :
    groupNumber? l.target = some (digits l.id.toNat) := by
  have hdigit : ∀ c ∈ digits l.id.toNat, isDecimalDigit c = true := fun c hc =>
    Text.isDecimalDigit_of_isDigit (Decimal.isDigit_of_mem_digits hc)
  have hstop : l.back.takeWhile isDecimalDigit = [] ∧ l.back.dropWhile isDecimalDigit = l.back := by
    cases hback : l.back with
    | nil => exact ⟨rfl, rfl⟩
    | cons c rest =>
      have hend : c = '&' ∨ c = '#' := by simpa [hback, endsNumber] using h.back
      have hc : ¬ isDecimalDigit c = true := by rcases hend with rfl | rfl <;> decide
      exact ⟨List.takeWhile_cons_of_neg hc, List.dropWhile_cons_of_neg hc⟩
  have htake : (digits l.id.toNat ++ l.back).takeWhile isDecimalDigit = digits l.id.toNat := by
    rw [List.takeWhile_append_of_pos hdigit, hstop.1, List.append_nil]
  have hdrop : (digits l.id.toNat ++ l.back).dropWhile isDecimalDigit = l.back := by
    rw [List.dropWhile_append_of_pos hdigit, hstop.2]
  have hfield : numberField? ("id=".toList ++ digits l.id.toNat ++ l.back) =
      some (digits l.id.toNat) := by
    change (if !((digits l.id.toNat ++ l.back).takeWhile isDecimalDigit).isEmpty &&
      endsNumber ((digits l.id.toNat ++ l.back).dropWhile isDecimalDigit) then
        some ((digits l.id.toNat ++ l.back).takeWhile isDecimalDigit) else none) = _
    rw [htake, hdrop, h.back]
    simp [Decimal.digits_ne_nil]
  rw [GroupLink.target, groupNumber?_append h.front h.mark, groupNumber?, if_pos h.mark, hfield]

end Remote.Page

end ModuleArchive
