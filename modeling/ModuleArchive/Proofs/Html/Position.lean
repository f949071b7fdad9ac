import ModuleArchive.Proofs.Html.Building
import Mathlib.Data.List.Induction

/-!
# Positions

Between two tokens a builder stands at a position: in an innermost open element, inside of others,
with the rules of a mode for the next token, and with formatting elements that it would open again.
Here is what the operations of a builder do at a position.
-/
namespace ModuleArchive.Html

open Node (html texts)
open ModuleArchive.Html.Frame (sizeAll opened)

/-- An open element of HTML. -/
abbrev Frame.element (name : String) (attributes : Attributes) (children : List Node) : Frame :=
  ⟨.element .html ⟨name, attributes, false⟩, children⟩

namespace Frame

variable {f : Frame} {nodes more : List Node}

@[simp] lemma add_nil : f.add [] = f := by simp [add]

lemma endsPlain_element_nil {name : String} {attributes : Attributes} :
    (element name attributes []).EndsPlain := by
  intro chars
  simp

/-- A frame that ends with an element does not end with a text. -/
lemma endsPlain_add_html {name : String} {attributes : Attributes} {children : List Node} :
    (f.add [html name attributes children]).EndsPlain := by
  intro chars
  simp [add]

end Frame

/-- Where a builder stands between two tokens. -/
structure Position where
  /-- The open nodes around the innermost one, from the document on. -/
  outer : List Frame
  /-- The innermost open node. -/
  here : Frame
  mode : Mode
  formatting : List Formatting

namespace Builder

/-- Whether a builder stands at a position. -/
structure IsAt (b : Builder) (p : Position) : Prop where
  shows : b.arena.Shows p.outer p.here
  openNodes : b.openNodes = (opened 0 p.outer ++ [sizeAll p.outer]).tail.reverse
  mode : b.mode = p.mode
  formatting : b.formatting = p.formatting
  templateModes : b.templateModes = []
  fosters : b.fosters = false
  dropsLineBreak : b.dropsLineBreak = false
  textMode : b.textMode = none

namespace IsAt

variable {b : Builder} {outer : List Frame} {f : Frame} {mode : Mode} {marks : List Formatting}

lemma with_mode (h : b.IsAt ⟨outer, f, mode, marks⟩) (new : Mode) :
    { b with mode := new }.IsAt ⟨outer, f, new, marks⟩ :=
  { h with mode := rfl }

lemma with_formatting (h : b.IsAt ⟨outer, f, mode, marks⟩) (new : List Formatting) :
    { b with formatting := new }.IsAt ⟨outer, f, mode, new⟩ :=
  { h with formatting := rfl }

lemma with_framesetOk {p : Position} (h : b.IsAt p) (new : Bool) :
    { b with framesetOk := new }.IsAt p :=
  { h with }

lemma with_headNode {p : Position} (h : b.IsAt p) (new : Option Nat) :
    { b with headNode := new }.IsAt p :=
  { h with }

lemma with_isOld {p : Position} (h : b.IsAt p) (new : Bool) : { b with isOld := new }.IsAt p :=
  { h with }

/-! ### The innermost element -/

section Innermost

variable {name : String} {attributes : Attributes} {children : List Node} {names : List String}

lemma openNodes_eq (h : b.IsAt ⟨outer, f, mode, marks⟩) (ho : outer ≠ []) :
    b.openNodes = sizeAll outer :: (opened 0 outer).tail.reverse := by
  obtain ⟨g, outer, rfl⟩ := List.exists_cons_of_ne_nil ho
  rw [h.openNodes, Frame.opened, List.cons_append, List.tail_cons, List.tail_cons,
    List.reverse_append]
  rfl

lemma current?_eq (h : b.IsAt ⟨outer, f, mode, marks⟩) (ho : outer ≠ []) :
    b.current? = some (sizeAll outer) := by
  rw [current?, h.openNodes_eq ho]
  rfl

lemma place_eq (h : b.IsAt ⟨outer, f, mode, marks⟩) : b.place = ⟨sizeAll outer, none⟩ := by
  have hcurrent : b.current?.getD 0 = sizeAll outer := by
    cases outer with
    | nil => rw [current?, h.openNodes]; rfl
    | cons g outer => rw [h.current?_eq (List.cons_ne_nil g outer)]; rfl
  rw [place, placeIn, h.fosters, hcurrent]
  rfl

variable (h : b.IsAt ⟨outer, .element name attributes children, mode, marks⟩)

include h

lemma element?_eq : b.element? (sizeAll outer) = some (.html, name) := by
  rw [element?, kind, h.shows.kind_eq]

lemma isHtml_eq : b.isHtml (sizeAll outer) names = decide (name ∈ names) := by
  rw [isHtml, h.element?_eq]

lemma currentIs_eq (ho : outer ≠ []) : b.currentIs names = decide (name ∈ names) := by
  rw [currentIs, h.current?_eq ho]
  exact h.isHtml_eq

lemma usesForeignRules_eq (t : Token) : b.usesForeignRules t = false := by
  have hforeign : b.isForeign (sizeAll outer) = false := by rw [isForeign, h.element?_eq]
  cases outer with
  | nil => rw [usesForeignRules, current?, h.openNodes]; rfl
  | cons g outer =>
    rw [usesForeignRules, h.current?_eq (List.cons_ne_nil g outer)]
    simp only [hforeign, Bool.false_and]

/-- Elements need not be closed to get back to the innermost one. -/
lemma dropWhile_eq (ho : outer ≠ []) (hn : name ∈ names) :
    b.openNodes.dropWhile (!b.isHtml · names) = b.openNodes := by
  have hfound : b.isHtml (sizeAll outer) names = true := by rw [h.isHtml_eq, decide_eq_true hn]
  rw [h.openNodes_eq ho, List.dropWhile_cons_of_neg (by simp [hfound])]

lemma popUntil_eq (ho : outer ≠ []) (hn : name ∈ names) : b.popUntil names = b.pop := by
  rw [popUntil, h.dropWhile_eq ho hn, pop]

lemma clearBackTo_eq (ho : outer ≠ []) (hn : name ∈ names) : b.clearBackTo names = b := by
  rw [clearBackTo, h.dropWhile_eq ho hn]

lemma closeImplied_eq (ho : outer ≠ []) (hn : name ∉ impliedEnds) : b.closeImplied = b := by
  have hfound : b.isHtml (sizeAll outer) impliedEnds = false := by
    rw [h.isHtml_eq, decide_eq_false hn]
  rw [closeImplied, h.openNodes_eq ho, List.dropWhile_cons_of_neg (by simp [hfound]),
    ← h.openNodes_eq ho]

omit h in
lemma inScopeWith_eq (h : b.IsAt ⟨outer, f, mode, marks⟩) (ho : outer ≠ []) (ends : Nat → Bool)
    {found : Nat → Bool} (hf : found (sizeAll outer) = true) : b.inScopeWith ends found = true := by
  rw [inScopeWith, h.openNodes_eq ho, List.find?_cons_of_pos (by simp [hf])]
  exact hf

lemma inScope_eq (ho : outer ≠ []) (hn : name ∈ names) : b.inScope names = true :=
  h.inScopeWith_eq ho _ (by rw [h.isHtml_eq, decide_eq_true hn])

lemma inTableScope_eq (ho : outer ≠ []) (hn : name ∈ names) : b.inTableScope names = true :=
  h.inScopeWith_eq ho _ (by rw [h.isHtml_eq, decide_eq_true hn])

end Innermost

/-! ### Elements that are opened and closed -/

lemma insertElement {name : String} {attributes : Attributes}
    (h : b.IsAt ⟨outer, f, mode, marks⟩) : (b.insertElement ⟨name, attributes, false⟩).IsAt
      ⟨outer ++ [f], .element name attributes [], mode, marks⟩ := by
  have hpush := h.shows.pushAt (x := html name attributes []) (k := .element .html
    ⟨name, attributes, false⟩) fun parent n => rfl
  rw [Arena.Shows, ← Frame.arena_concat] at hpush
  refine { h with shows := ?_, openNodes := ?_ }
  · rw [Builder.insertElement, insertForeign, h.place_eq]
    exact hpush
  · have hsize : b.arena.nodes.size = sizeAll (outer ++ [f]) := by
      rw [h.shows.size_eq, Frame.sizeAll_concat]
    rw [Frame.opened_concat, Nat.zero_add, ← hsize, List.tail_append_of_ne_nil (by simp),
      List.reverse_append, ← h.openNodes]
    rfl

lemma pop {name : String} {attributes : Attributes} {children : List Node}
    (h : b.IsAt ⟨outer ++ [f], .element name attributes children, mode, marks⟩) :
    b.pop.IsAt ⟨outer, f.add [html name attributes children], mode, marks⟩ := by
  refine { h with shows := ?_, openNodes := ?_ }
  · exact h.shows.trans Frame.arena_concat
  · rw [Builder.pop, h.openNodes_eq (by simp), List.tail_cons, Frame.opened_concat, Nat.zero_add]

/-- A character goes on with the text at the end of the innermost element. -/
lemma insertChar {chars : List Char} (h : b.IsAt ⟨outer, f.add (texts chars), mode, marks⟩)
    (ho : outer ≠ []) (hf : f.EndsPlain) (c : Char) :
    (b.insertChar c).IsAt ⟨outer, f.add (texts (chars ++ [c])), mode, marks⟩ := by
  have hroot : sizeAll outer ≠ 0 := by
    obtain ⟨g, outer, rfl⟩ := List.exists_cons_of_ne_nil ho
    simp [sizeAll, Frame.size]
  have hinsert : b.insertChar c =
      { b with arena := b.arena.attachChar ⟨sizeAll outer, none⟩ c } := by
    rw [Builder.insertChar, h.place_eq]
    simp only [if_neg hroot]
  rw [hinsert]
  exact { h with shows := h.shows.attachChar hf c }

lemma insertChars {chars : List Char} (h : b.IsAt ⟨outer, f, mode, marks⟩) (ho : outer ≠ [])
    (hf : f.EndsPlain) :
    (chars.foldl Builder.insertChar b).IsAt ⟨outer, f.add (texts chars), mode, marks⟩ := by
  induction chars using List.reverseRecOn with
  | nil => rwa [texts, List.isEmpty_nil, if_pos rfl, Frame.add_nil]
  | append_singleton chars c ih =>
    rw [List.foldl_append]
    exact ih.insertChar ho hf c

lemma fittingMode_eq {attributes : Attributes} {children : List Node}
    (h : b.IsAt ⟨outer, .element "body" attributes children, mode, marks⟩) (ho : outer ≠ []) :
    b.fittingMode = .inBody := by
  rw [fittingMode, h.openNodes_eq ho, fittingMode.go, h.element?_eq]
  simp

/-! ### Elements that are not open -/

/-- Whether no open element has a name. -/
def Lacks (outer : List Frame) (f : Frame) (name : String) : Prop :=
  ∀ g ∈ outer ++ [f], ∀ v tag, g.kind = .element v tag → tag.name ≠ name

lemma inButtonScope_eq (h : b.IsAt ⟨outer, f, mode, marks⟩) {name : String}
    (hl : Lacks outer f name) : b.inButtonScope name = false := by
  rw [inButtonScope, inScopeWith]
  split
  · next n hfound =>
    have hmem : b.kind n ∈ (outer ++ [f]).map Frame.kind := by
      have hn := List.mem_reverse.mp (h.openNodes ▸ List.mem_of_find?_eq_some hfound)
      have hopened := List.mem_of_mem_tail hn
      rw [← h.shows.map_kind_opened, Frame.opened_concat, Nat.zero_add]
      exact List.mem_map_of_mem hopened
    obtain ⟨g, hg, hkind⟩ := List.mem_map.mp hmem
    by_contra hopen
    rw [Bool.not_eq_false, isHtml, element?, ← hkind] at hopen
    cases hk : g.kind with
    | element v tag =>
      rw [hk] at hopen
      cases v <;> simp at hopen
      exact hl g hg _ tag hk hopen
    | _ => simp [hk] at hopen
  · rfl

lemma closeParagraphInScope_eq (h : b.IsAt ⟨outer, f, mode, marks⟩) (hl : Lacks outer f "p") :
    b.closeParagraphInScope = b := by
  rw [closeParagraphInScope, h.inButtonScope_eq hl, if_neg Bool.false_ne_true]

/-! ### Formatting elements -/

/-- Whether no formatting element has to be opened again: the latest one since the last border, if
there is any, is the innermost open element. -/
def IsCalm (outer : List Frame) : List Formatting → Prop
  | .element n _ :: _ => n = sizeAll outer
  | _ => True

/-- Whether there are no formatting elements, but only borders. -/
def IsFresh (marks : List Formatting) : Prop := ∀ e ∈ marks, e = .marker

lemma IsFresh.isCalm (hm : IsFresh marks) : IsCalm outer marks := by
  cases marks with
  | nil => trivial
  | cons e marks =>
    rw [hm e List.mem_cons_self]
    trivial

lemma reconstruct_eq (h : b.IsAt ⟨outer, f, mode, marks⟩) (ho : outer ≠ [])
    (hm : IsCalm outer marks) : b.reconstruct = b := by
  have hopen : sizeAll outer ∈ b.openNodes := by
    rw [h.openNodes_eq ho]
    exact List.mem_cons_self
  rw [reconstruct, recentFormatting, h.formatting]
  match marks, hm with
  | [], _ => rfl
  | .marker :: marks, _ => rfl
  | .element n tag :: marks, hn =>
    subst hn
    simp [Formatting.isMarker, hopen]

lemma recentFormatting_eq (h : b.IsAt ⟨outer, f, mode, marks⟩) (hm : IsFresh marks) :
    b.recentFormatting = [] := by
  rw [recentFormatting, h.formatting]
  cases marks with
  | nil => rfl
  | cons e marks =>
    rw [hm e List.mem_cons_self]
    rfl

lemma insertFormatting {name : String} {attributes : Attributes}
    (h : b.IsAt ⟨outer, f, mode, marks⟩) (ho : outer ≠ []) (hm : IsFresh marks) :
    (b.insertFormatting ⟨name, attributes, false⟩).IsAt
      ⟨outer ++ [f], .element name attributes [], mode,
        .element (sizeAll (outer ++ [f])) ⟨name, attributes, false⟩ :: marks⟩ := by
  have hopened : (b.insertElement ⟨name, attributes, false⟩).IsAt
      ⟨outer ++ [f], .element name attributes [], mode, marks⟩ := h.insertElement
  have hinsert : b.insertFormatting ⟨name, attributes, false⟩ =
      { b.insertElement ⟨name, attributes, false⟩ with
        formatting := .element (sizeAll (outer ++ [f])) ⟨name, attributes, false⟩ :: marks } := by
    rw [Builder.insertFormatting, h.reconstruct_eq ho hm.isCalm]
    simp only [pushFormatting, hopened.recentFormatting_eq hm, hopened.current?_eq (by simp),
      hopened.formatting]
    rfl
  rw [hinsert]
  exact hopened.with_formatting _

lemma closeFormatting {name : String} {attributes : Attributes} {children : List Node}
    (h : b.IsAt ⟨outer ++ [f], .element name attributes children, mode,
      .element (sizeAll (outer ++ [f])) ⟨name, attributes, false⟩ :: marks⟩) (hm : IsFresh marks) :
    (b.closeFormatting name).IsAt ⟨outer, f.add [html name attributes children], mode, marks⟩ := by
  have ho : outer ++ [f] ≠ [] := by simp
  have hopen := h.openNodes_eq ho
  have hscope : b.nodeInScope (sizeAll (outer ++ [f])) = true :=
    h.inScopeWith_eq ho _ (by simp)
  have hnamed : b.formattingNamed? name =
      some (sizeAll (outer ++ [f]), ⟨name, attributes, false⟩) := by
    rw [formattingNamed?, recentFormatting, h.formatting]
    simp [Formatting.isMarker]
  have hself : Formatting.isNode (sizeAll (outer ++ [f]))
      (.element (sizeAll (outer ++ [f])) ⟨name, attributes, false⟩) = true := beq_self_eq_true _
  have hkept : ∀ e ∈ marks, Formatting.isNode (sizeAll (outer ++ [f])) e = false := by
    intro e he
    rw [hm e he]
    rfl
  have hclose : b.closeFormatting name = { b.pop with formatting := marks } := by
    have hlisted : b.formatting.any (Formatting.isNode (sizeAll (outer ++ [f]))) = true := by
      rw [h.formatting, List.any_cons, hself, Bool.true_or]
    rw [Builder.closeFormatting, h.current?_eq ho]
    simp only [hlisted, Bool.not_true, Bool.and_false, Bool.false_eq_true, if_false]
    rw [closeFormattingRounds, hnamed]
    simpa [hscope, hopen, removeFormatting, h.formatting, hself, Builder.pop] using hkept
  rw [hclose]
  exact h.pop.with_formatting _

end IsAt

end Builder

end ModuleArchive.Html
