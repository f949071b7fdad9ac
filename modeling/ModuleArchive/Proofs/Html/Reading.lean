import ModuleArchive.Proofs.Html.Position

/-!
# Reading elements

How the tokens of an element lead a builder from one position to another: through a start tag into
the element, through its content, and through its end tag back, with the element behind what was
there before.
-/
namespace ModuleArchive.Html

open Node (html texts tokens tokensAll)
open ModuleArchive.Html.Frame (sizeAll)

namespace Builder

/-- Where a builder stands between two tokens. -/
inductive Stage where
  | on (p : Position)
  /-- In the white space between the parts of a table. -/
  | amid (p : Position) (gap : List Char)

/-- Whether a builder has stopped in white space that began at a position. -/
structure IsAmid (b : Builder) (p : Position) (gap : List Char) : Prop where
  mode : b.mode = .inTableText
  returnMode : b.returnMode = p.mode
  tableText : b.tableText = gap.reverse
  isAt : { b with mode := p.mode }.IsAt p

/-- Whether a builder is at a stage. -/
def IsIn (b : Builder) : Stage → Prop
  | .on p => b.IsAt p
  | .amid p gap => b.IsAmid p gap

lemma IsIn.with_lastStart {b : Builder} {s : Stage} (h : b.IsIn s) (name : String) :
    { b with lastStart := name }.IsIn s := by
  match s, h with
  | .on _, (h : b.IsAt _) => exact { h with }
  | .amid _ _, (h : b.IsAmid _ _) => exact { h with isAt := { h.isAt with } }

lemma IsIn.textMode_eq {b : Builder} {s : Stage} (h : b.IsIn s) : b.textMode = none := by
  match s, h with
  | .on _, (h : b.IsAt _) => exact h.textMode
  | .amid _ _, (h : b.IsAmid _ _) => exact h.isAt.textMode

lemma IsIn.dropsLineBreak_eq {b : Builder} {s : Stage} (h : b.IsIn s) :
    b.dropsLineBreak = false := by
  match s, h with
  | .on _, (h : b.IsAt _) => exact h.dropsLineBreak
  | .amid _ _, (h : b.IsAmid _ _) => exact h.isAt.dropsLineBreak

/-! ### Steps -/

/-- Whether a token leads from one stage to another, after it has been treated again some times. -/
def Step (rounds : Nat) (s : Stage) (t : Token) (s' : Stage) : Prop :=
  ∀ b, b.IsIn s → ∃ b', Settles t rounds b b' ∧ b'.IsIn s'

/-- Whether tokens lead from one stage to another. -/
inductive Leads : Stage → List Token → Stage → Prop where
  | nil {s : Stage} : Leads s [] s
  | cons {s s₁ s' : Stage} {rounds : Nat} {t : Token} {tokens : List Token} (hr : rounds < 16)
      (hstep : Step rounds s t s₁) (h : Leads s₁ tokens s') : Leads s (t :: tokens) s'

section Step

variable {s s₁ s' : Stage} {t : Token} {rounds : Nat} {tokens more : List Token}

lemma Leads.append (h : Leads s tokens s₁) (h' : Leads s₁ more s') :
    Leads s (tokens ++ more) s' := by
  induction h with
  | nil => exact h'
  | cons hr hstep _ ih => exact .cons hr hstep (ih h')

lemma Step.leads (h : Step rounds s t s') (hr : rounds < 16) : Leads s [t] s' := .cons hr h .nil

/-- An element is read from its start tag, its content and its end tag. -/
lemma Leads.element {s₂ : Stage} {name : String} {attributes : Attributes} {children : List Node}
    {last : Nat} (hstart : Step rounds s (.startTag ⟨name, attributes, false⟩) s₁)
    (hr : rounds < 16) (hinner : Leads s₁ (tokensAll children) s₂)
    (hend : Step last s₂ (.endTag name) s') (hl : last < 16) :
    Leads s (Node.tokens (html name attributes children)) s' :=
  .cons hr hstart (hinner.append (hend.leads hl))

lemma Step.process (h : Step rounds s t s') (hr : rounds < 32) {b : Builder} (hb : b.IsIn s) :
    (b.process t).IsIn s' := by
  obtain ⟨b', hsettles, hb'⟩ := h b hb
  rwa [process_of_settles hsettles hr hb.dropsLineBreak_eq]

/-- A builder takes a token that leads to another stage, and then others. -/
lemma Step.exists_takes (h : Step rounds s t s₁) (hr : rounds < 32) {b : Builder} (hb : b.IsIn s)
    (hrest : ∀ b₁ : Builder, b₁.IsIn s₁ → ∃ b', Takes b₁ tokens b' ∧ b'.IsIn s') :
    ∃ b', Takes b (t :: tokens) b' ∧ b'.IsIn s' := by
  have hprocess := h.process hr hb
  have hreceive : (b.receive t).IsIn s₁ := by
    cases t with
    | startTag tag => exact hprocess.with_lastStart tag.name
    | _ => exact hprocess
  obtain ⟨b', htakes, hb'⟩ := hrest _ hreceive
  exact ⟨b', .cons hb.textMode_eq htakes, hb'⟩

/-- A builder takes tokens that lead to another stage. -/
lemma Leads.exists_takes (h : Leads s tokens s') {b : Builder} (hb : b.IsIn s) :
    ∃ b', Takes b tokens b' ∧ b'.IsIn s' := by
  induction h generalizing b with
  | nil => exact ⟨b, .nil hb.textMode_eq, hb⟩
  | cons hr hstep _ ih => exact hstep.exists_takes (by omega) hb fun b₁ hb₁ => ih hb₁

variable {outer : List Frame} {name : String} {attributes : Attributes} {children : List Node}
  {mode : Mode} {marks : List Formatting}

/-- A token that the rules settle at once. -/
lemma Step.settled
    (h : ∀ b, b.IsAt ⟨outer, .element name attributes children, mode, marks⟩ →
      ∃ b', byMode b t = .settled b' ∧ b'.IsIn s') :
    Step 0 (.on ⟨outer, .element name attributes children, mode, marks⟩) t s' := by
  intro b hb
  obtain ⟨b', hmode, hb'⟩ := h b hb
  exact ⟨b', .settled (hb.usesForeignRules_eq t) hmode, hb'⟩

/-- A token that is treated again at another stage. -/
lemma Step.again (hrest : Step rounds s₁ t s')
    (h : ∀ b, b.IsAt ⟨outer, .element name attributes children, mode, marks⟩ →
      ∃ b₁, byMode b t = .again b₁ ∧ b₁.IsIn s₁) :
    Step (rounds + 1) (.on ⟨outer, .element name attributes children, mode, marks⟩) t s' := by
  intro b hb
  obtain ⟨b₁, hmode, hb₁⟩ := h b hb
  obtain ⟨b', hsettles, hb'⟩ := hrest b₁ hb₁
  exact ⟨b', .again (hb.usesForeignRules_eq t) hmode hsettles, hb'⟩

/-- A token that is treated again before any element is open. -/
lemma Step.again_document (hrest : Step rounds s₁ t s')
    (h : ∀ b, b.IsAt ⟨[], ⟨.document, []⟩, mode, marks⟩ →
      ∃ b₁, byMode b t = .again b₁ ∧ b₁.IsIn s₁) :
    Step (rounds + 1) (.on ⟨[], ⟨.document, []⟩, mode, marks⟩) t s' := by
  rintro b (hb : b.IsAt _)
  have hforeign : b.usesForeignRules t = false := by
    rw [usesForeignRules, current?, hb.openNodes]
    rfl
  obtain ⟨b₁, hmode, hb₁⟩ := h b hb
  obtain ⟨b', hsettles, hb'⟩ := hrest b₁ hb₁
  exact ⟨b', .again hforeign hmode hsettles, hb'⟩

end Step

/-! ### Texts and formatting -/

section Flow

variable {outer : List Frame} {name : String} {attributes : Attributes} {children : List Node}
  {mode : Mode} {marks : List Formatting} {chars : List Char}

/-- Whether text and formatting elements are read by the rules of a body. -/
def IsFlow (mode : Mode) : Prop := mode = .inBody ∨ mode = .inCell

lemma byMode_char {b : Builder} (hm : IsFlow b.mode) (c : Char) :
    byMode b (.char c) = inBody b (.char c) := by
  obtain hm | hm := hm <;> rw [byMode, hm]
  rfl

lemma step_char (ho : outer ≠ []) (hm : IsFlow mode) (hk : IsAt.IsCalm outer marks)
    (hf : (Frame.element name attributes children).EndsPlain) {c : Char} (hc : c ≠ '\x00') :
    Step 0 (.on ⟨outer, (Frame.element name attributes children).add (texts chars), mode, marks⟩)
      (.char c)
      (.on ⟨outer, (Frame.element name attributes children).add (texts (chars ++ [c])), mode,
        marks⟩) := by
  refine .settled fun b hb => ?_
  have hinsert := IsAt.insertChar hb ho hf c
  have hmode : b.mode = mode := hb.mode
  rw [byMode_char (hmode ▸ hm), inBody, if_neg hc, hb.reconstruct_eq ho hk]
  split
  · exact ⟨_, rfl, hinsert⟩
  · exact ⟨_, rfl, hinsert.with_framesetOk false⟩

lemma leads_texts (ho : outer ≠ []) (hm : IsFlow mode) (hk : IsAt.IsCalm outer marks)
    (hf : (Frame.element name attributes children).EndsPlain) (hc : '\x00' ∉ chars) :
    Leads (.on ⟨outer, .element name attributes children, mode, marks⟩) (chars.map .char)
      (.on ⟨outer, (Frame.element name attributes children).add (texts chars), mode, marks⟩) := by
  induction chars using List.reverseRecOn with
  | nil =>
    have hnil : texts [] = [] := rfl
    rw [hnil, Frame.add_nil]
    exact .nil
  | append_singleton chars c ih =>
    rw [List.mem_append, not_or, List.mem_singleton] at hc
    rw [List.map_append]
    exact (ih hc.1).append ((step_char ho hm hk hf (Ne.symm hc.2)).leads (by omega))

/-- Formatting elements that are read like others. -/
def formattingLike : List String := ["a", "b"]

lemma step_startFormatting {inner : String} {attributes' : Attributes} (ho : outer ≠ [])
    (hm : IsFlow mode) (hi : inner ∈ formattingLike) (hk : IsAt.IsFresh marks) :
    Step 0 (.on ⟨outer, .element name attributes children, mode, marks⟩)
      (.startTag ⟨inner, attributes', false⟩)
      (.on ⟨outer ++ [.element name attributes children], .element inner attributes' [], mode,
        .element (sizeAll (outer ++ [.element name attributes children]))
          ⟨inner, attributes', false⟩ :: marks⟩) := by
  refine .settled fun b hb => ?_
  refine ⟨_, ?_, hb.insertFormatting ho hk⟩
  have hrecent := hb.recentFormatting_eq hk
  have hbody : startInBody b ⟨inner, attributes', false⟩ =
      .settled (b.insertFormatting ⟨inner, attributes', false⟩) := by
    simp only [formattingLike, List.mem_cons, List.not_mem_nil, or_false] at hi
    obtain rfl | rfl := hi <;>
      simp [startInBody, blocks, headings, formattingNames, formattingNamed?, hrecent]
  have hflow : byMode b (.startTag ⟨inner, attributes', false⟩) =
      inBody b (.startTag ⟨inner, attributes', false⟩) := by
    have hmode : b.mode = mode := hb.mode
    simp only [formattingLike, List.mem_cons, List.not_mem_nil, or_false] at hi
    obtain rfl | rfl := hm <;> obtain rfl | rfl := hi <;> simp [byMode, hmode, inCell]
  rw [hflow, inBody, hbody]

lemma step_endFormatting {inner : String} {attributes' : Attributes} {f : Frame}
    {content : List Node} (hm : IsFlow mode) (hi : inner ∈ formattingLike)
    (hk : IsAt.IsFresh marks) :
    Step 0 (.on ⟨outer ++ [f], .element inner attributes' content, mode,
        .element (sizeAll (outer ++ [f])) ⟨inner, attributes', false⟩ :: marks⟩) (.endTag inner)
      (.on ⟨outer, f.add [html inner attributes' content], mode, marks⟩) := by
  refine .settled fun b hb => ⟨_, ?_, hb.closeFormatting hk⟩
  have hmode : b.mode = mode := hb.mode
  simp only [formattingLike, List.mem_cons, List.not_mem_nil, or_false] at hi
  obtain rfl | rfl := hm <;> obtain rfl | rfl := hi <;>
    simp [byMode, hmode, inCell, inBody, endInBody, blocks, headings, formattingNames]

/-- A formatting element with a text is read where there is no other one. -/
lemma leads_formatting {inner : String} {attributes' : Attributes} (ho : outer ≠ [])
    (hm : IsFlow mode) (hi : inner ∈ formattingLike) (hk : IsAt.IsFresh marks)
    (hc : '\x00' ∉ chars) :
    Leads (.on ⟨outer, .element name attributes children, mode, marks⟩)
      (tokens (html inner attributes' (texts chars)))
      (.on ⟨outer, (Frame.element name attributes children).add
        [html inner attributes' (texts chars)], mode, marks⟩) := by
  refine .element (step_startFormatting ho hm hi hk) (by omega) ?_
    (step_endFormatting hm hi hk) (by omega)
  rw [Node.tokensAll_texts]
  exact leads_texts (by simp) hm rfl Frame.endsPlain_element_nil hc

end Flow

/-! ### Blocks -/

section Block

variable {outer : List Frame} {name : String} {attributes : Attributes} {children : List Node}
  {marks : List Formatting}

/-- Elements that stand on their own in a body. -/
def blockLike : List String := ["div", "h2"]

lemma step_startBlock {inner : String} {attributes' : Attributes} (ho : outer ≠ [])
    (hi : inner ∈ blockLike) (hn : name ∉ headings)
    (hl : IsAt.Lacks outer (.element name attributes children) "p") :
    Step 0 (.on ⟨outer, .element name attributes children, .inBody, marks⟩)
      (.startTag ⟨inner, attributes', false⟩)
      (.on ⟨outer ++ [.element name attributes children], .element inner attributes' [], .inBody,
        marks⟩) := by
  refine .settled fun b hb => ⟨_, ?_, hb.insertElement⟩
  have hmode : b.mode = .inBody := hb.mode
  have hheading : b.currentIs headings = false := by rw [hb.currentIs_eq ho, decide_eq_false hn]
  simp only [blockLike, List.mem_cons, List.not_mem_nil, or_false] at hi
  obtain rfl | rfl := hi
  · simp [byMode, hmode, inBody, startInBody, blocks, hb.closeParagraphInScope_eq hl]
  · simp [byMode, hmode, inBody, startInBody, blocks, hb.closeParagraphInScope_eq hl, hheading]
    simp [headings]

lemma step_endBlock {inner : String} {attributes' : Attributes} {f : Frame} {content : List Node}
    (hi : inner ∈ blockLike) :
    Step 0 (.on ⟨outer ++ [f], .element inner attributes' content, .inBody, marks⟩) (.endTag inner)
      (.on ⟨outer, f.add [html inner attributes' content], .inBody, marks⟩) := by
  have ho : outer ++ [f] ≠ [] := by simp
  refine .settled fun b hb => ⟨_, ?_, hb.pop⟩
  have hmode : b.mode = .inBody := hb.mode
  simp only [blockLike, List.mem_cons, List.not_mem_nil, or_false] at hi
  obtain rfl | rfl := hi
  · have hscope : b.inScope ["div"] = true := hb.inScope_eq ho (by simp)
    have hclose : b.closeImplied.popUntil ["div"] = b.pop := by
      rw [hb.closeImplied_eq ho (by decide), hb.popUntil_eq ho (by simp)]
    simp [byMode, hmode, inBody, endInBody, blocks, hscope, hclose]
  · have hscope : b.inScope headings = true := hb.inScope_eq ho (by decide)
    have hclose : b.closeImplied.popUntil headings = b.pop := by
      rw [hb.closeImplied_eq ho (by decide), hb.popUntil_eq ho (by decide)]
    have hnamed : "h2" ∈ headings := by decide
    simp [byMode, hmode, inBody, endInBody, blocks, hnamed, hscope, hclose]

/-- An element that stands on its own is read where no paragraph is open. -/
lemma leads_block {inner : String} {attributes' : Attributes} {content : List Node}
    (ho : outer ≠ []) (hi : inner ∈ blockLike) (hn : name ∉ headings)
    (hl : IsAt.Lacks outer (.element name attributes children) "p")
    (hinner : Leads
      (.on ⟨outer ++ [.element name attributes children], .element inner attributes' [], .inBody,
        marks⟩)
      (tokensAll content)
      (.on ⟨outer ++ [.element name attributes children], .element inner attributes' content,
        .inBody, marks⟩)) :
    Leads (.on ⟨outer, .element name attributes children, .inBody, marks⟩)
      (tokens (html inner attributes' content))
      (.on ⟨outer, (Frame.element name attributes children).add [html inner attributes' content],
        .inBody, marks⟩) :=
  .element (step_startBlock ho hi hn hl) (by omega) hinner (step_endBlock hi) (by omega)

end Block

/-! ### Tables -/

section Table

variable {outer : List Frame} {f : Frame} {name : String} {attributes : Attributes}
  {children : List Node} {marks : List Formatting}

lemma step_startTable {attributes' : Attributes}
    (hl : IsAt.Lacks outer (.element name attributes children) "p") :
    Step 0 (.on ⟨outer, .element name attributes children, .inBody, marks⟩)
      (.startTag ⟨"table", attributes', false⟩)
      (.on ⟨outer ++ [.element name attributes children], .element "table" attributes' [],
        .inTable, marks⟩) := by
  refine .settled fun b hb =>
    ⟨_, ?_, (hb.insertElement.with_mode .inTable).with_framesetOk false⟩
  have hmode : b.mode = .inBody := hb.mode
  simp [byMode, hmode, inBody, startInBody, blocks, headings, formattingNames,
    hb.closeParagraphInScope_eq hl]

lemma step_startRow :
    Step 0 (.on ⟨outer ++ [f], .element "tbody" [] children, .inTableBody, marks⟩)
      (.startTag ⟨"tr", [], false⟩)
      (.on ⟨outer ++ [f] ++ [.element "tbody" [] children], .element "tr" [] [], .inRow,
        marks⟩) := by
  have ho : outer ++ [f] ≠ [] := by simp
  refine .settled fun b hb => ⟨_, ?_, hb.insertElement.with_mode .inRow⟩
  have hmode : b.mode = .inTableBody := hb.mode
  have hclear : b.clearToSection = b := hb.clearBackTo_eq ho (by simp)
  simp [byMode, hmode, inTableBody, hclear]

/-- The first row of a table opens a section for it. -/
lemma step_startFirstRow :
    Step 1 (.on ⟨outer ++ [f], .element "table" attributes children, .inTable, marks⟩)
      (.startTag ⟨"tr", [], false⟩)
      (.on ⟨outer ++ [f] ++ [.element "table" attributes children] ++ [.element "tbody" [] []],
        .element "tr" [] [], .inRow, marks⟩) := by
  have ho : outer ++ [f] ≠ [] := by simp
  refine .again step_startRow fun b hb => ⟨_, ?_, hb.insertElement.with_mode .inTableBody⟩
  have hmode : b.mode = .inTable := hb.mode
  have hclear : b.clearToTable = b := hb.clearBackTo_eq ho (by simp)
  simp [byMode, hmode, inTable, hclear]

lemma step_endRow :
    Step 0 (.on ⟨outer ++ [f], .element "tr" [] children, .inRow, marks⟩) (.endTag "tr")
      (.on ⟨outer, f.add [html "tr" [] children], .inTableBody, marks⟩) := by
  have ho : outer ++ [f] ≠ [] := by simp
  refine .settled fun b hb => ⟨_, ?_, hb.pop.with_mode .inTableBody⟩
  have hmode : b.mode = .inRow := hb.mode
  have hclear : b.clearToRow = b := hb.clearBackTo_eq ho (by simp)
  have hscope : b.inTableScope ["tr"] = true := hb.inTableScope_eq ho (by simp)
  simp [byMode, hmode, inRow, hclear, hscope]

/-- The cells of a table. -/
def cellLike : List String := ["td", "th"]

lemma step_startCell {cell : String} (hc : cell ∈ cellLike) :
    Step 0 (.on ⟨outer ++ [f], .element "tr" [] children, .inRow, marks⟩)
      (.startTag ⟨cell, [], false⟩)
      (.on ⟨outer ++ [f] ++ [.element "tr" [] children], .element cell [] [], .inCell,
        .marker :: marks⟩) := by
  have ho : outer ++ [f] ≠ [] := by simp
  refine .settled fun b hb =>
    ⟨_, ?_, (hb.insertElement.with_mode .inCell).with_formatting (.marker :: marks)⟩
  have hmode : b.mode = .inRow := hb.mode
  have hclear : b.clearToRow = b := hb.clearBackTo_eq ho (by simp)
  have hmarks : (b.insertElement ⟨cell, [], false⟩).formatting = marks :=
    hb.insertElement.formatting
  simp only [cellLike, List.mem_cons, List.not_mem_nil, or_false] at hc
  obtain rfl | rfl := hc <;> simp [byMode, hmode, inRow, hclear, pushMarker, hmarks]

lemma step_endCell {cell : String} (hc : cell ∈ cellLike) :
    Step 0 (.on ⟨outer ++ [f], .element cell [] children, .inCell, .marker :: marks⟩)
      (.endTag cell) (.on ⟨outer, f.add [html cell [] children], .inRow, marks⟩) := by
  have ho : outer ++ [f] ≠ [] := by simp
  refine .settled fun b hb => ⟨_, ?_, (hb.pop.with_formatting marks).with_mode .inRow⟩
  have hmode : b.mode = .inCell := hb.mode
  have hmarks : b.pop.formatting = .marker :: marks := hb.formatting
  have hscope : b.inTableScope [cell] = true := hb.inTableScope_eq ho (by simp)
  have himplied : cell ∉ impliedEnds := by
    simp only [cellLike, List.mem_cons, List.not_mem_nil, or_false] at hc
    obtain rfl | rfl := hc <;> decide
  have hclose : b.closeImplied.popUntil [cell] = b.pop := by
    rw [hb.closeImplied_eq ho himplied, hb.popUntil_eq ho (by simp)]
  simp only [cellLike, List.mem_cons, List.not_mem_nil, or_false] at hc
  obtain rfl | rfl := hc <;>
    simp [byMode, hmode, inCell, hscope, hclose, clearToMarker, hmarks, Formatting.isMarker]

/-- A cell is read behind the other cells of its row. -/
lemma leads_cell {cell : String} {content : List Node} (hc : cell ∈ cellLike)
    (hinner : Leads
      (.on ⟨outer ++ [f] ++ [.element "tr" [] children], .element cell [] [], .inCell,
        .marker :: marks⟩)
      (tokensAll content)
      (.on ⟨outer ++ [f] ++ [.element "tr" [] children], .element cell [] content, .inCell,
        .marker :: marks⟩)) :
    Leads (.on ⟨outer ++ [f], .element "tr" [] children, .inRow, marks⟩)
      (tokens (html cell [] content))
      (.on ⟨outer ++ [f], .element "tr" [] (children ++ [html cell [] content]), .inRow, marks⟩) :=
  .element (step_startCell hc) (by omega) hinner (step_endCell hc) (by omega)

/-- The end of a table ends the section that is open in it. -/
lemma step_endTable {attributes' : Attributes} {content rows : List Node} (ho : outer ≠ []) :
    Step 1 (.on ⟨outer ++ [.element "body" attributes children] ++
        [.element "table" attributes' content], .element "tbody" [] rows, .inTableBody, marks⟩)
      (.endTag "table")
      (.on ⟨outer, (Frame.element "body" attributes children).add
        [html "table" attributes' (content ++ [html "tbody" [] rows])], .inBody, marks⟩) := by
  have hlast : Step 0 (.on ⟨outer ++ [.element "body" attributes children],
      .element "table" attributes' (content ++ [html "tbody" [] rows]), .inTable, marks⟩)
      (.endTag "table")
      (.on ⟨outer, (Frame.element "body" attributes children).add
        [html "table" attributes' (content ++ [html "tbody" [] rows])], .inBody, marks⟩) := by
    refine .settled fun b hb => ⟨_, ?_, hb.pop.with_mode .inBody⟩
    have hmode : b.mode = .inTable := hb.mode
    have hscope : b.inTableScope ["table"] = true := hb.inTableScope_eq (by simp) (by simp)
    have hclose : b.popUntil ["table"] = b.pop := hb.popUntil_eq (by simp) (by simp)
    have hfits : b.pop.fittingMode = .inBody := hb.pop.fittingMode_eq ho
    simp [byMode, hmode, inTable, hscope, hclose, resetMode, hfits]
  refine .again hlast fun b hb => ⟨_, ?_, hb.pop.with_mode .inTable⟩
  have hmode : b.mode = .inTableBody := hb.mode
  have hscope : b.inTableScope ["tbody", "tfoot", "thead"] = true :=
    hb.inTableScope_eq (by simp) (by simp)
  have hclear : b.clearToSection = b := hb.clearBackTo_eq (by simp) (by simp)
  simp [byMode, hmode, inTableBody, hscope, hclear]

/-! ### White space between the parts of a table -/

/-- Whether white space of its own may stand in an element, with the rules of a mode. -/
def HoldsGaps (name : String) (mode : Mode) : Prop :=
  (name = "table" ∧ mode = .inTable) ∨ (name = "tbody" ∧ mode = .inTableBody)

lemma step_gap {gap : List Char} {c : Char} (hc : c ≠ '\x00') {mode : Mode} :
    Step 0 (.amid ⟨outer, .element name attributes children, mode, marks⟩ gap) (.char c)
      (.amid ⟨outer, .element name attributes children, mode, marks⟩ (gap ++ [c])) := by
  rintro b (hb : b.IsAmid _ _)
  have hforeign : b.usesForeignRules (.char c) = false := hb.isAt.usesForeignRules_eq (.char c)
  refine ⟨{ b with tableText := c :: b.tableText }, .settled hforeign ?_, ?_⟩
  · have hmode : byMode b (.char c) = inTableText b (.char c) := by rw [byMode, hb.mode]
    rw [hmode, inTableText, if_neg hc]
  · exact { hb with tableText := by simp [hb.tableText], isAt := { hb.isAt with } }

lemma step_beginGap (ho : outer ≠ []) {c : Char} (hc : c ≠ '\x00') {mode : Mode}
    (hg : HoldsGaps name mode) :
    Step 1 (.on ⟨outer, .element name attributes children, mode, marks⟩) (.char c)
      (.amid ⟨outer, .element name attributes children, mode, marks⟩ [c]) := by
  have hfirst : Step 0 (.amid ⟨outer, .element name attributes children, mode, marks⟩ [])
      (.char c) (.amid ⟨outer, .element name attributes children, mode, marks⟩ [c]) :=
    step_gap hc
  refine .again hfirst fun b hb =>
    ⟨{ b with tableText := [], returnMode := b.mode, mode := .inTableText }, ?_, ?_⟩
  · have hmode : b.mode = mode := hb.mode
    have hcurrent : b.currentIs ["table", "tbody", "template", "tfoot", "thead", "tr"] = true := by
      rw [hb.currentIs_eq ho]
      obtain ⟨rfl, -⟩ | ⟨rfl, -⟩ := hg <;> simp
    obtain ⟨-, rfl⟩ | ⟨-, rfl⟩ := hg <;> simp [byMode, hmode, inTableBody, inTable, hcurrent]
  · exact ⟨rfl, hb.mode, rfl, { hb with mode := rfl }⟩

lemma step_endGap {gap : List Char} {mode : Mode} (ho : outer ≠ [])
    (hf : (Frame.element name attributes children).EndsPlain)
    (hb : ∀ c ∈ gap, Text.isAsciiBlank c = true) {t : Token} (ht : ∀ c, t ≠ .char c)
    {rounds : Nat} {s : Stage} (h : Step rounds
      (.on ⟨outer, (Frame.element name attributes children).add (texts gap), mode, marks⟩) t s) :
    Step (rounds + 1) (.amid ⟨outer, .element name attributes children, mode, marks⟩ gap) t s := by
  rintro b (hamid : b.IsAmid _ _)
  have hforeign : b.usesForeignRules t = false := hamid.isAt.usesForeignRules_eq t
  have hreturn : b.returnMode = mode := hamid.returnMode
  have hflush : b.flushTableText.IsAt
      ⟨outer, (Frame.element name attributes children).add (texts gap), mode, marks⟩ := by
    have hblank : gap.all Text.isAsciiBlank = true := List.all_eq_true.mpr hb
    rw [flushTableText, hamid.tableText, List.reverse_reverse]
    simp only [hblank, if_true, hreturn]
    exact IsAt.insertChars { hamid.isAt with } ho hf
  obtain ⟨b', hsettles, hb'⟩ := h _ hflush
  refine ⟨b', .again hforeign ?_ hsettles, hb'⟩
  rw [byMode, hamid.mode]
  cases t with
  | char c => exact absurd rfl (ht c)
  | _ => rfl

/-- White space before a tag in a table is read as a text. -/
lemma Leads.gap {gap : List Char} {mode : Mode} (ho : outer ≠ []) (hg : HoldsGaps name mode)
    (hf : (Frame.element name attributes children).EndsPlain)
    (hb : ∀ c ∈ gap, Text.isAsciiBlank c = true) {t : Token} (ht : ∀ c, t ≠ .char c)
    {rounds : Nat} (hr : rounds < 15) {s s' : Stage} {tokens : List Token} (hstep : Step rounds
      (.on ⟨outer, (Frame.element name attributes children).add (texts gap), mode, marks⟩) t s)
    (h : Leads s tokens s') :
    Leads (.on ⟨outer, .element name attributes children, mode, marks⟩)
      (gap.map .char ++ t :: tokens) s' := by
  have hnul : ∀ c ∈ gap, c ≠ '\x00' := by
    rintro c hc rfl
    exact absurd (hb _ hc) (by decide)
  cases gap with
  | nil =>
    rw [texts, List.isEmpty_nil, if_pos rfl, Frame.add_nil] at hstep
    exact .cons (Nat.lt_succ_of_lt hr) hstep h
  | cons c gap =>
    have hgap (before : List Char) (hn : ∀ c ∈ gap, c ≠ '\x00') :
        Leads (.amid ⟨outer, .element name attributes children, mode, marks⟩ before)
          (gap.map .char)
          (.amid ⟨outer, .element name attributes children, mode, marks⟩ (before ++ gap)) := by
      clear hb hnul hstep
      induction gap generalizing before with
      | nil => rw [List.append_nil]; exact .nil
      | cons d gap ih =>
        rw [List.append_cons]
        exact .cons (by omega) (step_gap (hn d List.mem_cons_self))
          (ih (before ++ [d]) fun e he => hn e (List.mem_cons_of_mem d he))
    refine .cons (by omega) (step_beginGap ho (hnul c List.mem_cons_self) hg) ?_
    exact (hgap [c] fun d hd => hnul d (List.mem_cons_of_mem c hd)).append
      (.cons (by omega) (step_endGap ho hf hb ht hstep) h)

/-! ### Rows behind white space -/

section Rows

variable {gap : List Char} {cells rows : List Node}

/-- A row is read behind the other rows of its section, with white space before it. -/
lemma leads_row (hf : (Frame.element "tbody" [] rows).EndsPlain)
    (hb : ∀ c ∈ gap, Text.isAsciiBlank c = true)
    (hcells : Leads
      (.on ⟨outer ++ [f] ++ [.element "tbody" [] (rows ++ texts gap)], .element "tr" [] [], .inRow,
        marks⟩)
      (tokensAll cells)
      (.on ⟨outer ++ [f] ++ [.element "tbody" [] (rows ++ texts gap)], .element "tr" [] cells,
        .inRow, marks⟩)) :
    Leads (.on ⟨outer ++ [f], .element "tbody" [] rows, .inTableBody, marks⟩)
      (tokensAll (texts gap ++ [html "tr" [] cells]))
      (.on ⟨outer ++ [f], .element "tbody" [] (rows ++ texts gap ++ [html "tr" [] cells]),
        .inTableBody, marks⟩) := by
  have hrow := hcells.append (step_endRow.leads (by omega))
  rw [Node.tokensAll_append, Node.tokensAll_texts, tokensAll, tokensAll, List.append_nil]
  exact .gap (by simp) (.inr ⟨rfl, rfl⟩) hf hb (by simp) (by omega) step_startRow hrow

/-- The first row of a table is read with white space before the section of the row. -/
lemma leads_firstRow (hb : ∀ c ∈ gap, Text.isAsciiBlank c = true)
    (hcells : Leads
      (.on ⟨outer ++ [f] ++ [.element "table" attributes (texts gap)] ++ [.element "tbody" [] []],
        .element "tr" [] [], .inRow, marks⟩)
      (tokensAll cells)
      (.on ⟨outer ++ [f] ++ [.element "table" attributes (texts gap)] ++ [.element "tbody" [] []],
        .element "tr" [] cells, .inRow, marks⟩)) :
    Leads (.on ⟨outer ++ [f], .element "table" attributes [], .inTable, marks⟩)
      (tokensAll (texts gap ++ [html "tr" [] cells]))
      (.on ⟨outer ++ [f] ++ [.element "table" attributes (texts gap)],
        .element "tbody" [] [html "tr" [] cells], .inTableBody, marks⟩) := by
  have hrow := hcells.append (step_endRow.leads (by omega))
  rw [Node.tokensAll_append, Node.tokensAll_texts, tokensAll, tokensAll, List.append_nil]
  exact .gap (by simp) (.inl ⟨rfl, rfl⟩) Frame.endsPlain_element_nil hb (by simp) (by omega)
    step_startFirstRow hrow

/-- A table ends with white space behind its last row. -/
lemma leads_endTable {attributes' : Attributes} {content : List Node} (ho : outer ≠ [])
    (hf : (Frame.element "tbody" [] rows).EndsPlain)
    (hb : ∀ c ∈ gap, Text.isAsciiBlank c = true) :
    Leads (.on ⟨outer ++ [.element "body" attributes children] ++
        [.element "table" attributes' content], .element "tbody" [] rows, .inTableBody, marks⟩)
      (tokensAll (texts gap) ++ [.endTag "table"])
      (.on ⟨outer, (Frame.element "body" attributes children).add
        [html "table" attributes' (content ++ [html "tbody" [] (rows ++ texts gap)])], .inBody,
          marks⟩) := by
  rw [Node.tokensAll_texts]
  exact .gap (by simp) (.inr ⟨rfl, rfl⟩) hf hb (by simp) (by omega) (step_endTable ho) .nil

end Rows

end Table

/-! ### Pages -/

/-- The document and its root, with the head. -/
def root : List Frame := [⟨.document, []⟩, .element "html" [] [html "head" [] []]]

/-- The stage in the body of a page, with what it holds. -/
def bodyStage (nodes : List Node) : Stage := .on ⟨root, .element "body" [] nodes, .inBody, []⟩

lemma lacks_body {nodes : List Node} : IsAt.Lacks root (.element "body" [] nodes) "p" := by
  intro g hg v tag hk
  simp only [root, List.cons_append, List.nil_append, List.mem_cons, List.not_mem_nil,
    or_false] at hg
  obtain rfl | rfl | rfl := hg
  · exact absurd hk (by simp)
  all_goals
    cases hk
    decide

/-- Elements with which the body of a page may begin. -/
def beginners : List String := ["div", "h2", "table"]

/-- The first tag of a page opens the head and the body. -/
lemma step_begin {name : String} {attributes : Attributes} (hn : name ∈ beginners) {rounds : Nat}
    {s : Stage} (h : Step rounds (bodyStage []) (.startTag ⟨name, attributes, false⟩) s) :
    Step (rounds + 5) (.on ⟨[], ⟨.document, []⟩, .initial, []⟩)
      (.startTag ⟨name, attributes, false⟩) s := by
  simp only [beginners, List.mem_cons, List.not_mem_nil, or_false] at hn
  have hafter : Step (rounds + 1) (.on ⟨[⟨.document, []⟩], .element "html" [] [html "head" [] []],
      .afterHead, []⟩) (.startTag ⟨name, attributes, false⟩) s := by
    refine .again h fun b hb => ⟨_, ?_, hb.insertElement.with_mode .inBody⟩
    have hmode : b.mode = .afterHead := hb.mode
    simp only [byMode, hmode]
    unfold aroundBody
    simp only [hmode]
    obtain rfl | rfl | rfl := hn <;> rfl
  have hhead : Step (rounds + 2) (.on ⟨[⟨.document, []⟩, .element "html" [] []],
      .element "head" [] [], .inHead, []⟩) (.startTag ⟨name, attributes, false⟩) s := by
    refine .again hafter fun b hb =>
      ⟨_, ?_, (@IsAt.pop b [⟨.document, []⟩] (.element "html" [] []) _ _ _ _ _ hb).with_mode
        .afterHead⟩
    have hmode : b.mode = .inHead := hb.mode
    simp only [byMode, hmode, inHead]
    obtain rfl | rfl | rfl := hn <;> rfl
  have hbefore : Step (rounds + 3) (.on ⟨[⟨.document, []⟩], .element "html" [] [], .beforeHead,
      []⟩) (.startTag ⟨name, attributes, false⟩) s := by
    refine .again hhead fun b hb => ⟨_, ?_, (hb.insertElement.with_mode .inHead).with_headNode
      (b.insertElement (plainTag "head")).current?⟩
    have hmode : b.mode = .beforeHead := hb.mode
    simp only [byMode, hmode]
    unfold aroundBody
    simp only [hmode]
    obtain rfl | rfl | rfl := hn <;> rfl
  have hhtml : Step (rounds + 4) (.on ⟨[], ⟨.document, []⟩, .beforeHtml, []⟩)
      (.startTag ⟨name, attributes, false⟩) s := by
    refine .again_document hbefore fun b hb => ⟨_, ?_, hb.insertElement.with_mode .beforeHead⟩
    have hmode : b.mode = .beforeHtml := hb.mode
    simp only [byMode, hmode]
    unfold aroundBody
    simp only [hmode]
    obtain rfl | rfl | rfl := hn <;> rfl
  refine .again_document hhtml fun b hb =>
    ⟨_, ?_, (hb.with_mode .beforeHtml).with_isOld true⟩
  have hmode : b.mode = .initial := hb.mode
  simp only [byMode, hmode]
  unfold aroundBody
  simp only [hmode]

/-- A page whose tokens lead through its body stands for what the body holds then. -/
theorem ofPage_eq {page : List Char} {name : String} {attributes : Attributes}
    {tokens : List Token} {nodes : List Node}
    (hpage : Lexes page (.startTag ⟨name, attributes, false⟩ :: tokens))
    (hreturn : '\r' ∉ page) (hmark : page.head? ≠ some '\uFEFF') (hn : name ∈ beginners)
    (h : Leads (bodyStage []) (.startTag ⟨name, attributes, false⟩ :: tokens) (bodyStage nodes)) :
    Document.ofPage page = ⟨[html "html" [] [html "head" [] [], html "body" [] nodes]]⟩ := by
  cases h with
  | cons hr hstep hrest =>
    have hstart : ({} : Builder).IsAt ⟨[], ⟨.document, []⟩, .initial, []⟩ :=
      ⟨rfl, rfl, rfl, rfl, rfl, rfl, rfl, rfl⟩
    obtain ⟨b, htakes, hb⟩ := (step_begin hn hstep).exists_takes (by omega) hstart
      fun b₁ hb₁ => hrest.exists_takes hb₁
    have hend : Step 0 (bodyStage nodes) .endOfFile (bodyStage nodes) := by
      refine .settled fun b hb => ⟨b, ?_, hb⟩
      have hmode : b.mode = .inBody := hb.mode
      simp [byMode, hmode, inBody, hb.templateModes]
    have hlast : (b.process .endOfFile).IsAt _ := hend.process (by omega) hb
    -- Neither the body nor the root is closed by a tag of its own.
    have hbody : Frame.arena root (.element "body" [] nodes) = Frame.arena [⟨.document, []⟩]
        (.element "html" [] [html "head" [] [], html "body" [] nodes]) :=
      @Frame.arena_concat [⟨.document, []⟩] _ _ _ _ _
    have hroot : Frame.arena [⟨.document, []⟩]
        (.element "html" [] [html "head" [] [], html "body" [] nodes]) =
          Frame.arena [] ⟨.document, [html "html" [] [html "head" [] [], html "body" [] nodes]]⟩ :=
      @Frame.arena_concat [] _ _ _ _ _
    rw [Document.ofPage, normalize_eq hreturn hmark,
      readRest_of_lexes hpage htakes (Nat.lt_succ_self _)]
    exact Arena.Shows.toDocument_eq (hlast.shows.trans (hbody.trans hroot))

end Builder

end ModuleArchive.Html
