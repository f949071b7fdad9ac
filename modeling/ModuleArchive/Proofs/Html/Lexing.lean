import ModuleArchive.Html.Tokenizer
import ModuleArchive.Proofs.Html.Written
import Mathlib.Data.List.Basic

/-!
# Tokens of written pages

A tree that has been written is read as its tags and the characters of its texts, whatever follows
it. References are read as the characters that they were written for.
-/
namespace ModuleArchive.Html

open Tokenizer

/-! ### References -/

namespace Entity

/-- A name that no other one goes on from is the longest one wherever it stands. -/
lemma longest?_append {c : Char} {name : List Char}
    (h : ∀ e ∈ startingWith c, (c :: name) <+: e.1.toList → e.1.toList.length ≤ name.length + 1)
    (rest : List Char) : longest? (c :: (name ++ rest)) = longest? (c :: name) := by
  have hsame : ∀ e ∈ startingWith c,
      e.1.toList.isPrefixOf (c :: (name ++ rest)) = e.1.toList.isPrefixOf (c :: name) := by
    intro e he
    rw [Bool.eq_iff_iff, List.isPrefixOf_iff_prefix, List.isPrefixOf_iff_prefix]
    constructor
    · intro hlong
      rcases List.prefix_or_prefix_of_prefix hlong (List.prefix_append (c :: name) rest) with
        hshort | hover
      · exact hshort
      · have hlen : e.1.toList.length ≤ (c :: name).length := by simpa using h e he hover
        exact hover.eq_of_length_le hlen ▸ List.prefix_rfl
    · exact fun hshort => hshort.trans (List.prefix_append (c :: name) rest)
  rw [longest?, longest?]
  refine List.foldl_ext _ _ none fun best e he => ?_
  simp only [hsame e he]

end Entity

/-- A reference is read if its name ends in a semicolon and no other name goes on from it. -/
lemma reference?_append {inAttribute : Bool} {c first : Char} {name : List Char}
    (hmark : first ≠ '#')
    (hover : ∀ e ∈ Entity.startingWith first, (first :: name) <+: e.1.toList →
      e.1.toList.length ≤ name.length + 1)
    (hlongest : Entity.longest? (first :: name) = some (name.length + 1, [c]))
    (hend : (first :: name).getLast? = some ';') (rest : List Char) :
    reference? inAttribute (first :: (name ++ rest)) = some ([c], rest) := by
  have hfound : Entity.longest? (first :: (name ++ rest)) = some (name.length + 1, [c]) := by
    rw [Entity.longest?_append hover, hlongest]
  have htake : (first :: (name ++ rest)).take (name.length + 1) = first :: name := by simp
  have hdrop : (first :: (name ++ rest)).drop (name.length + 1) = rest := by simp
  unfold reference?
  split
  · next heq => exact absurd (List.cons.inj heq).1 hmark
  · simp only [hfound, htake, hdrop, hend]
    simp

/-- A character is written as it is or as a reference; no quotation mark is left. -/
lemma writeChar_cases (c : Char) : (c ∉ ['&', '<', '"'] ∧ writeChar c = [c]) ∨
    ∃ name, writeChar c = '&' :: name ∧ '"' ∉ name := by
  unfold writeChar
  split
  · exact .inr ⟨_, rfl, by decide⟩
  · exact .inr ⟨_, rfl, by decide⟩
  · exact .inr ⟨_, rfl, by decide⟩
  · exact .inr ⟨_, rfl, by decide⟩
  · next hamp hopen _ hquote =>
    refine .inl ⟨?_, rfl⟩
    simp only [List.mem_cons, List.not_mem_nil, or_false, not_or]
    exact ⟨hamp, hopen, hquote⟩

lemma reference?_writeChar {inAttribute : Bool} {c : Char} {name : List Char}
    (h : writeChar c = '&' :: name) (rest : List Char) :
    reference? inAttribute (name ++ rest) = some ([c], rest) := by
  unfold writeChar at h
  split at h
  · obtain rfl := (List.cons.inj h).2
    exact reference?_append (by decide) (by decide +kernel) (by decide +kernel) rfl rest
  · obtain rfl := (List.cons.inj h).2
    exact reference?_append (by decide) (by decide +kernel) (by decide +kernel) rfl rest
  · obtain rfl := (List.cons.inj h).2
    exact reference?_append (by decide) (by decide +kernel) (by decide +kernel) rfl rest
  · obtain rfl := (List.cons.inj h).2
    exact reference?_append (by decide) (by decide +kernel) (by decide +kernel) rfl rest
  · next hc _ _ _ => exact absurd (List.cons.inj h).1 hc

/-! ### Tokens of a text -/

/-- Whether a text in ordinary markup is read as some tokens, whatever follows it. -/
inductive Lexes : List Char → List Token → Prop where
  | nil : Lexes [] []
  | cons {c : Char} {chunk text : List Char} {tokens more : List Token}
      (h : ∀ foreign element rest,
        next .data foreign element c (chunk ++ rest) = (tokens, .data, rest))
      (hrest : Lexes text more) : Lexes (c :: (chunk ++ text)) (tokens ++ more)

lemma Lexes.append {a b : List Char} {s t : List Token} (ha : Lexes a s) (hb : Lexes b t) :
    Lexes (a ++ b) (s ++ t) := by
  induction ha with
  | nil => exact hb
  | cons h _ ih =>
    rw [List.cons_append, List.append_assoc, List.append_assoc]
    exact .cons h ih

lemma Lexes.chunk {c : Char} {chunk : List Char} {tokens : List Token}
    (h : ∀ foreign element rest,
      next .data foreign element c (chunk ++ rest) = (tokens, .data, rest)) :
    Lexes (c :: chunk) tokens := by
  have hcons := Lexes.cons h .nil
  rwa [List.append_nil, List.append_nil] at hcons

/-- A character is read as it is, or from the reference that it is written as. -/
lemma lexes_writeChar (c : Char) : Lexes (writeChar c) [.char c] := by
  obtain ⟨hc, hwrite⟩ | ⟨name, hwrite, -⟩ := writeChar_cases c
  · obtain ⟨hamp, hopen, -⟩ : c ≠ '&' ∧ c ≠ '<' ∧ c ≠ '"' := by simpa using hc
    rw [hwrite]
    exact .chunk fun foreign element rest => by simp [next, hamp, hopen]
  · rw [hwrite]
    refine .chunk fun foreign element rest => ?_
    simp [next, readReference, reference?_writeChar hwrite rest]

lemma lexes_writeText (text : List Char) : Lexes (writeText text) (text.map .char) := by
  induction text with
  | nil => exact .nil
  | cons c rest ih => exact (lexes_writeChar c).append ih

/-! ### Tags -/

/-- A value without NUL is read as it was before it was written. -/
lemma expand_writeText {value : List Char} (hv : '\x00' ∉ value) {fuel : Nat}
    (hf : (writeText value).length ≤ fuel) : expand true fuel (writeText value) = value := by
  induction value generalizing fuel with
  | nil => cases fuel <;> rfl
  | cons c rest ih =>
    obtain ⟨hc, hrest⟩ : c ≠ '\x00' ∧ '\x00' ∉ rest := by
      simpa [eq_comm] using hv
    have hsplit : writeText (c :: rest) = writeChar c ++ writeText rest := rfl
    rw [hsplit] at hf ⊢
    obtain ⟨hc', hwrite⟩ | ⟨name, hwrite, -⟩ := writeChar_cases c
    all_goals
      rw [hwrite] at hf ⊢
      simp only [List.cons_append, List.nil_append, List.length_cons] at hf ⊢
      obtain ⟨fuel, rfl⟩ := Nat.exists_eq_add_one_of_ne_zero (show fuel ≠ 0 by omega)
    · have hamp : c ≠ '&' := by
        rintro rfl
        simp at hc'
      rw [expand, replaceNul, if_neg hc, ih hrest (by omega)]
      exact fun heq => hamp heq
    · rw [List.length_append] at hf
      rw [expand, reference?_writeChar hwrite (writeText rest)]
      simp only
      rw [ih hrest (by omega), List.singleton_append]

lemma quote_notMem_writeText (value : List Char) : '"' ∉ writeText value := by
  intro hm
  obtain ⟨c, -, hc⟩ := List.mem_flatMap.mp hm
  obtain ⟨hplain, hwrite⟩ | ⟨name, hwrite, hname⟩ := writeChar_cases c
  · rw [hwrite, List.mem_singleton] at hc
    subst hc
    simp at hplain
  · rw [hwrite, List.mem_cons] at hc
    exact hc.elim (by decide) hname

/-- Whether a name is read as it is up to the characters that end it. -/
def IsReadName (ends : Char → Bool) (name : String) : Prop :=
  name.toList ≠ [] ∧ ∀ c ∈ name.toList, ends c = false ∧ (replaceNul c).toLower = c

instance (ends : Char → Bool) (name : String) : Decidable (IsReadName ends name) :=
  decidable_of_iff (name.toList ≠ [] ∧
      name.toList.all (fun c => !ends c && (replaceNul c).toLower == c) = true)
    (by simp [IsReadName])

lemma IsReadName.nameOf_eq {ends : Char → Bool} {name : String} (h : IsReadName ends name) :
    nameOf name.toList = name := by
  have hmap : name.toList.map (fun c => (replaceNul c).toLower) = name.toList :=
    (List.map_congr_left fun c hc => (h.2 c hc).2).trans (List.map_id _)
  rw [nameOf, hmap, String.ofList_toList]

lemma IsReadName.takeWhile_append {ends : Char → Bool} {name : String} (h : IsReadName ends name)
    {c : Char} (hc : ends c = true) (rest : List Char) :
    (name.toList ++ c :: rest).takeWhile (!ends ·) = name.toList ∧
      (name.toList ++ c :: rest).dropWhile (!ends ·) = c :: rest := by
  have hgo : ∀ d ∈ name.toList, (!ends d) = true := fun d hd => by simp [(h.2 d hd).1]
  rw [List.takeWhile_append_of_pos hgo, List.dropWhile_append_of_pos hgo]
  simp [hc]

lemma readAttribute?_write {name : String} (hn : IsReadName endsAttributeName name)
    {value : List Char} (hv : '\x00' ∉ value) {c : Char} {others : List Char}
    (hc : name.toList = c :: others) (rest : List Char) :
    readAttribute? c (others ++ '=' :: '"' :: (writeText value ++ '"' :: rest)) =
      some ((name, value), rest) := by
  have hgo : ∀ d ∈ others, (!endsAttributeName d) = true := by
    intro d hd
    have hd' := (hn.2 d (by rw [hc]; exact List.mem_cons_of_mem c hd)).1
    simp [hd']
  have hname : nameOf (c :: others) = name := by rw [← hc, hn.nameOf_eq]
  have hquote : ∀ d ∈ writeText value, (d != '"') = true := by
    intro d hd
    have hne : d ≠ '"' := fun heq => quote_notMem_writeText value (heq ▸ hd)
    simp [hne]
  have hvalue : readValue? ('"' :: (writeText value ++ '"' :: rest)) =
      some (writeText value, rest) := by
    have hdrop : ('"' :: (writeText value ++ '"' :: rest)).dropWhile Text.isAsciiBlank =
        '"' :: (writeText value ++ '"' :: rest) := rfl
    rw [readValue?, hdrop]
    simp only [upTo?, List.takeWhile_append_of_pos hquote, List.dropWhile_append_of_pos hquote]
    simp
  have hequals : ('=' :: '"' :: (writeText value ++ '"' :: rest)).dropWhile Text.isAsciiBlank =
      '=' :: '"' :: (writeText value ++ '"' :: rest) := rfl
  have hends : endsAttributeName '=' = true := rfl
  simp only [readAttribute?, List.takeWhile_append_of_pos hgo, List.dropWhile_append_of_pos hgo,
    List.takeWhile_cons, List.dropWhile_cons, hends, Bool.not_true, Bool.false_eq_true, if_false,
    List.append_nil, hname, hequals, hvalue, Option.map_some, attributeValue,
    expand_writeText hv (Nat.le_refl _)]

/-- Whether attributes are written so that they can be read. -/
structure AreReadable (attributes : Attributes) : Prop where
  name : ∀ a ∈ attributes, IsReadName endsAttributeName a.1
  value : ∀ a ∈ attributes, '\x00' ∉ a.2 ∧ '\r' ∉ a.2
  nodup : (attributes.map (·.1)).Nodup

lemma readAttributes?_close (before : Attributes) (rest : List Char) :
    readAttributes? before ('>' :: rest) = some (before, false, rest) := by
  have hdrop : ('>' :: rest).dropWhile Text.isAsciiBlank = '>' :: rest := rfl
  unfold readAttributes?
  split
  · next heq => exact absurd (hdrop.symm.trans heq) (List.cons_ne_nil _ _)
  · next heq =>
    obtain ⟨-, rfl⟩ := List.cons.inj (hdrop.symm.trans heq)
    rfl
  · next heq => exact absurd (List.cons.inj (hdrop.symm.trans heq)).1 (by decide)
  · next heq => exact absurd (List.cons.inj (hdrop.symm.trans heq)).1 (by decide)
  · next hclose _ _ heq => exact absurd (List.cons.inj (hdrop.symm.trans heq)).1.symm hclose

lemma readAttributes?_next {before : Attributes} {text : List Char} {c : Char} {more : List Char}
    (hdrop : text.dropWhile Text.isAsciiBlank = c :: more) (hclose : c ≠ '>') (hslash : c ≠ '/')
    {name : String} {value rest : List Char}
    (hread : readAttribute? c more = some ((name, value), rest)) :
    readAttributes? before text = readAttributes? (addAttribute before name value) rest := by
  rw [readAttributes?]
  split
  · next heq => exact absurd (hdrop.symm.trans heq) (List.cons_ne_nil _ _)
  · next heq => exact absurd (List.cons.inj (hdrop.symm.trans heq)).1 hclose
  · next heq => exact absurd (List.cons.inj (hdrop.symm.trans heq)).1 hslash
  · next heq => exact absurd (List.cons.inj (hdrop.symm.trans heq)).1 hslash
  · next heq =>
    obtain ⟨rfl, rfl⟩ := List.cons.inj (hdrop.symm.trans heq)
    split
    · next hnone => exact absurd (hread.symm.trans hnone) (by simp)
    · next hsome =>
      obtain ⟨⟨rfl, rfl⟩, rfl⟩ : (name = _ ∧ value = _) ∧ rest = _ := by
        simpa using hread.symm.trans hsome
      rfl

lemma areReadable_nil : AreReadable [] := ⟨by simp, by simp, by simp⟩

lemma readAttributes?_write {before attributes : Attributes}
    (h : AreReadable (before ++ attributes)) (rest : List Char) :
    readAttributes? before (attributes.flatMap writeAttribute ++ '>' :: rest) =
      some (before ++ attributes, false, rest) := by
  induction attributes generalizing before with
  | nil =>
    rw [List.flatMap_nil, List.nil_append, List.append_nil, readAttributes?_close]
  | cons a attributes ih =>
    obtain ⟨name, value⟩ := a
    have hmem : (name, value) ∈ before ++ (name, value) :: attributes := by simp
    have hname : IsReadName endsAttributeName name := h.name _ hmem
    have hvalue : '\x00' ∉ value := (h.value _ hmem).1
    obtain ⟨c, others, hc⟩ := List.exists_cons_of_ne_nil hname.1
    have hfirst := (hname.2 c (by rw [hc]; exact List.mem_cons_self)).1
    obtain ⟨⟨hblank, hslash, hclose⟩, -⟩ :
        (Text.isAsciiBlank c = false ∧ c ≠ '/' ∧ c ≠ '>') ∧ c ≠ '=' := by
      simpa [endsAttributeName, endsName, and_assoc] using hfirst
    have hnew : before.any (·.1 = name) = false := by
      have hnodup := h.nodup
      rw [List.map_append, List.nodup_append] at hnodup
      rw [List.any_eq_false]
      rintro b hb heq
      exact hnodup.2.2 b.1 (List.mem_map_of_mem hb) name (by simp) (of_decide_eq_true heq)
    have htext : ((name, value) :: attributes).flatMap writeAttribute ++ '>' :: rest =
        ' ' :: c :: (others ++ '=' :: '"' :: (writeText value ++ '"' ::
          (attributes.flatMap writeAttribute ++ '>' :: rest))) := by
      simp [writeAttribute, hc]
    have hdrop : (' ' :: c :: (others ++ '=' :: '"' :: (writeText value ++ '"' ::
        (attributes.flatMap writeAttribute ++ '>' :: rest)))).dropWhile Text.isAsciiBlank =
          c :: (others ++ '=' :: '"' :: (writeText value ++ '"' ::
            (attributes.flatMap writeAttribute ++ '>' :: rest))) := by
      rw [List.dropWhile_cons_of_pos rfl, List.dropWhile_cons_of_neg (by simp [hblank])]
    rw [htext, readAttributes?_next hdrop hclose hslash (readAttribute?_write hname hvalue hc _),
      addAttribute, hnew, if_neg Bool.false_ne_true, List.append_cons before _ attributes]
    rw [List.append_cons] at h
    exact ih h

/-- Whether the name of an element is read as it is. -/
def IsTagName (name : String) : Prop :=
  IsReadName endsName name ∧ ∀ c ∈ name.toList.head?, c.isAlpha = true

instance (name : String) : Decidable (IsTagName name) :=
  decidable_of_iff (IsReadName endsName name ∧ name.toList.head?.all Char.isAlpha = true)
    (by cases hhead : name.toList.head? <;> simp [IsTagName, hhead])

lemma readTag?_write {name : String} (hn : IsReadName endsName name) {attributes : Attributes}
    (ha : AreReadable attributes) (rest : List Char) :
    readTag? (name.toList ++ (attributes.flatMap writeAttribute ++ '>' :: rest)) =
      some (⟨name, attributes, false⟩, rest) := by
  obtain ⟨c, more, hmore, hc⟩ : ∃ c more,
      attributes.flatMap writeAttribute ++ '>' :: rest = c :: more ∧ endsName c = true := by
    cases attributes with
    | nil => exact ⟨'>', rest, rfl, rfl⟩
    | cons a attributes => exact ⟨' ', _, by rw [List.flatMap_cons, writeAttribute]; rfl, rfl⟩
  have hread : readAttributes? [] (attributes.flatMap writeAttribute ++ '>' :: rest) =
      some (attributes, false, rest) := readAttributes?_write (by rwa [List.nil_append]) rest
  rw [hmore] at hread ⊢
  obtain ⟨htake, hdrop⟩ := hn.takeWhile_append hc more
  simp only [readTag?, htake, hdrop, hn.nameOf_eq, hread]
  rfl

/-- A letter is none of the marks that may stand behind an opening bracket. -/
lemma ne_mark_of_isAlpha {c : Char} (h : c.isAlpha = true) :
    c ≠ '!' ∧ c ≠ '?' ∧ c ≠ '/' ∧ c ≠ '>' := by
  refine ⟨?_, ?_, ?_, ?_⟩
  all_goals
    rintro rfl
    exact absurd h (by decide)

lemma lexes_writeStart {name : String} (hn : IsTagName name) {attributes : Attributes}
    (ha : AreReadable attributes) :
    Lexes (writeStart name attributes) [.startTag ⟨name, attributes, false⟩] := by
  obtain ⟨c, others, hc⟩ := List.exists_cons_of_ne_nil hn.1.1
  have halpha : c.isAlpha = true := hn.2 c (by rw [hc]; rfl)
  obtain ⟨hbang, hquery, hslash, -⟩ := ne_mark_of_isAlpha halpha
  have hmarkup (foreign : Bool) (rest : List Char) : readMarkup foreign
      (name.toList ++ (attributes.flatMap writeAttribute ++ '>' :: rest)) =
        ([.startTag ⟨name, attributes, false⟩], rest) := by
    have htag := readTag?_write hn.1 ha rest
    rw [hc, List.cons_append] at htag ⊢
    unfold readMarkup
    split
    · next heq => exact absurd (List.cons.inj heq).1 hbang
    · next heq => exact absurd (List.cons.inj heq).1 hquery
    · next heq => exact absurd (List.cons.inj heq).1 hslash
    · next heq =>
      obtain ⟨rfl, rfl⟩ := List.cons.inj heq
      rw [if_pos halpha, htag]
    · next heq => exact absurd heq (List.cons_ne_nil _ _)
  have hwrite : writeStart name attributes =
      '<' :: (name.toList ++ (attributes.flatMap writeAttribute ++ ['>'])) := by
    simp [writeStart]
  rw [hwrite]
  refine .chunk fun foreign element rest => ?_
  have hrest : name.toList ++ (attributes.flatMap writeAttribute ++ ['>']) ++ rest =
      name.toList ++ (attributes.flatMap writeAttribute ++ '>' :: rest) := by simp
  rw [hrest]
  simp only [next, if_true, hmarkup]

lemma lexes_writeEnd {name : String} (hn : IsTagName name) :
    Lexes (writeEnd name) [.endTag name] := by
  obtain ⟨c, others, hc⟩ := List.exists_cons_of_ne_nil hn.1.1
  have halpha : c.isAlpha = true := hn.2 c (by rw [hc]; rfl)
  obtain ⟨-, -, -, hclose⟩ := ne_mark_of_isAlpha halpha
  have hmarkup (foreign : Bool) (rest : List Char) :
      readMarkup foreign ('/' :: (name.toList ++ '>' :: rest)) = ([.endTag name], rest) := by
    have htag := readTag?_write hn.1 areReadable_nil rest
    rw [List.flatMap_nil, List.nil_append, hc, List.cons_append] at htag
    rw [hc, List.cons_append]
    simp only [readMarkup, if_pos halpha, htag]
  have hwrite : writeEnd name = '<' :: '/' :: (name.toList ++ ['>']) := by simp [writeEnd]
  rw [hwrite]
  refine .chunk fun foreign element rest => ?_
  have hrest : '/' :: (name.toList ++ ['>']) ++ rest = '/' :: (name.toList ++ '>' :: rest) := by
    simp
  rw [hrest]
  simp only [next, if_true, hmarkup]

/-! ### Tokens of a tree -/

namespace Node

mutual

/-- The tags and characters that a tree is written as. -/
def tokens : Node → List Token
  | text chars => chars.map .char
  | comment chars => [.comment chars]
  | element _ name attributes children =>
    .startTag ⟨name, attributes, false⟩ :: (tokensAll children ++ [.endTag name])

/-- The tags and characters that some trees are written as. -/
def tokensAll : List Node → List Token
  | [] => []
  | node :: rest => tokens node ++ tokensAll rest

end

lemma tokensAll_append {nodes more : List Node} :
    tokensAll (nodes ++ more) = tokensAll nodes ++ tokensAll more := by
  induction nodes with
  | nil => rfl
  | cons node nodes ih => rw [List.cons_append, tokensAll, tokensAll, ih, List.append_assoc]

lemma tokensAll_texts {chars : List Char} : tokensAll (texts chars) = chars.map .char := by
  cases chars with
  | nil => rfl
  | cons c chars => simp [texts, tokensAll, tokens]

mutual

/-- Whether a tree is one of elements and texts that can be read when it has been written. -/
def IsReadable : Node → Prop
  | text chars => '\r' ∉ chars
  | comment _ => False
  | element _ name attributes children =>
    IsTagName name ∧ AreReadable attributes ∧ AreAllReadable children

/-- Whether some trees can be read when they have been written. -/
def AreAllReadable : List Node → Prop
  | [] => True
  | node :: rest => IsReadable node ∧ AreAllReadable rest

end

mutual

/-- A tree that has been written is read as its tags and characters. -/
theorem lexes_write : ∀ {node : Node}, IsReadable node → Lexes (write node) (tokens node)
  | text chars, _ => lexes_writeText chars
  | comment _, h => h.elim
  | element _ name attributes children, ⟨hn, ha, hc⟩ => by
    have hinner := ((lexes_writeStart hn ha).append (lexes_writeAll hc)).append (lexes_writeEnd hn)
    exact hinner

theorem lexes_writeAll : ∀ {nodes : List Node}, AreAllReadable nodes →
    Lexes (writeAll nodes) (tokensAll nodes)
  | [], _ => .nil
  | _ :: _, ⟨hnode, hrest⟩ => (lexes_write hnode).append (lexes_writeAll hrest)

end

lemma areAllReadable_append {nodes more : List Node} :
    AreAllReadable (nodes ++ more) ↔ AreAllReadable nodes ∧ AreAllReadable more := by
  induction nodes with
  | nil => simp [AreAllReadable]
  | cons node nodes ih => simp [AreAllReadable, ih, and_assoc]

lemma areAllReadable_flatMap {α : Type} {f : α → List Node} {xs : List α} :
    AreAllReadable (xs.flatMap f) ↔ ∀ x ∈ xs, AreAllReadable (f x) := by
  induction xs with
  | nil => simp [AreAllReadable]
  | cons x xs ih => simp [areAllReadable_append, ih]

lemma areAllReadable_texts {chars : List Char} (h : '\r' ∉ chars) :
    AreAllReadable (texts chars) := by
  cases chars with
  | nil => trivial
  | cons c chars => exact ⟨h, trivial⟩

end Node

/-! ### Line ends -/

lemma return_notMem_writeText {text : List Char} (h : '\r' ∉ text) : '\r' ∉ writeText text := by
  intro hm
  obtain ⟨c, hc, hwritten⟩ := List.mem_flatMap.mp hm
  unfold writeChar at hwritten
  split at hwritten
  · simp at hwritten
  · simp at hwritten
  · simp at hwritten
  · simp at hwritten
  · rw [List.mem_singleton] at hwritten
    exact h (hwritten ▸ hc)

lemma IsReadName.return_notMem {ends : Char → Bool} (hends : ends '\r' = true) {name : String}
    (h : IsReadName ends name) : '\r' ∉ name.toList := by
  intro hm
  exact absurd ((h.2 _ hm).1.symm.trans hends) Bool.false_ne_true

lemma return_notMem_writeStart {name : String} (hn : IsTagName name) {attributes : Attributes}
    (ha : AreReadable attributes) : '\r' ∉ writeStart name attributes := by
  have hattribute : ∀ a ∈ attributes, '\r' ∉ writeAttribute a := by
    intro a hm
    have hname := (ha.name a hm).return_notMem rfl
    have hvalue := return_notMem_writeText (ha.value a hm).2
    simp [writeAttribute, hname, hvalue]
  simp only [writeStart, List.cons_append, List.mem_cons, List.mem_append, List.mem_flatMap,
    not_or, not_exists, not_and]
  exact ⟨by decide, ⟨hn.1.return_notMem rfl, hattribute⟩, by decide⟩

namespace Node

mutual

lemma return_notMem_write : ∀ {node : Node}, IsReadable node → '\r' ∉ write node
  | text _, h => return_notMem_writeText h
  | comment _, h => h.elim
  | element _ name attributes children, ⟨hn, ha, hc⟩ => by
    have hstart := return_notMem_writeStart hn ha
    have hinner := return_notMem_writeAll hc
    have hend := hn.1.return_notMem rfl
    simp [write, writeEnd, hstart, hinner, hend]

lemma return_notMem_writeAll : ∀ {nodes : List Node}, AreAllReadable nodes →
    '\r' ∉ writeAll nodes
  | [], _ => List.not_mem_nil
  | _ :: _, ⟨hnode, hrest⟩ => by
    have hfirst := return_notMem_write hnode
    have hmore := return_notMem_writeAll hrest
    simp [writeAll, hfirst, hmore]

end

end Node

lemma normalizeLines_eq {acc text : List Char} (h : '\r' ∉ text) :
    normalizeLines acc text = acc.reverse ++ text := by
  induction text generalizing acc with
  | nil => rw [normalizeLines, List.append_nil]
  | cons c text ih =>
    rw [List.mem_cons, not_or] at h
    rw [normalizeLines, ih h.2, List.reverse_cons, List.append_assoc, List.singleton_append]
    · rintro rest rfl
      exact absurd rfl h.1
    · rintro rfl
      exact absurd rfl h.1

/-- A page without carriage returns and without a byte order mark is read as it is. -/
lemma normalize_eq {page : List Char} (h : '\r' ∉ page) (hb : page.head? ≠ some '\uFEFF') :
    Tokenizer.normalize page = page := by
  unfold Tokenizer.normalize
  split
  · exact absurd rfl hb
  · exact normalizeLines_eq h

end ModuleArchive.Html
