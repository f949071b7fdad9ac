import ModuleArchive.Proofs.Html.Reading
import ModuleArchive.Proofs.Remote.Layout

/-!
# Listing pages as they are written

A listing page is written with its characters escaped. It is read as the document that it stands
for: whatever its texts are, they are not taken for markup, and the rows of the table stand in a
section of it.
-/
namespace ModuleArchive.Remote

open Html Html.Node Html.Builder
open Decimal (Form)

/-- Whether a text has none of the characters that are changed while a page is read. -/
def IsStable (text : List Char) : Prop := '\x00' ∉ text ∧ '\r' ∉ text

/-- Whether a text is white space as it may stand between the parts of a page. -/
def IsGap (text : List Char) : Prop := ∀ c ∈ text, Text.isAsciiBlank c = true ∧ c ≠ '\r'

lemma IsGap.isStable {text : List Char} (h : IsGap text) : IsStable text := by
  constructor
  · intro hm
    exact absurd (h _ hm).1 (by decide)
  · intro hm
    exact (h _ hm).2 rfl

instance (text : List Char) : Decidable (IsStable text) := inferInstanceAs (Decidable (_ ∧ _))

lemma isStable_write (f : Form) (n : Nat) : IsStable (f.write n) := by
  constructor
  all_goals
    intro hm
    exact (Decimal.mem_write hm).elim (by decide) (by decide)

/-! ### Rows -/

section Row

variable {outer : List Frame} {f : Frame} {children : List Html.Node} {chars : List Char}

/-- A cell with a text is read behind the other cells of its row. -/
lemma leads_textCell {cell : String} (hc : cell ∈ cellLike) (hs : IsStable chars) :
    Leads (.on ⟨outer ++ [f], .element "tr" [] children, .inRow, []⟩)
      (tokens (html cell [] (texts chars)))
      (.on ⟨outer ++ [f], .element "tr" [] (children ++ [html cell [] (texts chars)]), .inRow,
        []⟩) := by
  refine leads_cell hc ?_
  rw [tokensAll_texts]
  exact leads_texts (by simp) (.inr rfl) trivial Frame.endsPlain_element_nil hs.1

/-- The cells of an entry are read in their row. -/
lemma leads_entry {e : Entry} (hs : IsStable e.shown) :
    Leads (.on ⟨outer ++ [f], .element "tr" [] [], .inRow, []⟩)
      (tokensAll [html "td" [] [e.link], html "td" [] (texts (e.form.write e.number))])
      (.on ⟨outer ++ [f], .element "tr" []
        [html "td" [] [e.link], html "td" [] (texts (e.form.write e.number))], .inRow, []⟩) := by
  have hcell : "td" ∈ cellLike := by decide
  have hlink : Leads (.on ⟨outer ++ [f], .element "tr" [] [], .inRow, []⟩)
      (tokens (html "td" [] [e.link]))
      (.on ⟨outer ++ [f], .element "tr" [] [html "td" [] [e.link]], .inRow, []⟩) := by
    refine leads_cell hcell ?_
    rw [tokensAll, tokensAll, List.append_nil]
    exact leads_formatting (by simp) (.inr rfl) (by decide) (by simp [IsAt.IsFresh]) hs.1
  rw [tokensAll, tokensAll, tokensAll, List.append_nil]
  exact hlink.append (leads_textCell hcell (isStable_write e.form e.number))

lemma leads_columns {columns : List (List Char)} (hs : ∀ name ∈ columns, IsStable name) :
    Leads (.on ⟨outer ++ [f], .element "tr" [] children, .inRow, []⟩)
      (tokensAll (columns.map fun name => html "th" [] (texts name)))
      (.on ⟨outer ++ [f], .element "tr" []
        (children ++ columns.map fun name => html "th" [] (texts name)), .inRow, []⟩) := by
  have hcell : "th" ∈ cellLike := by decide
  induction columns generalizing children with
  | nil =>
    rw [List.map_nil, List.append_nil]
    exact .nil
  | cons name columns ih =>
    rw [List.map_cons, tokensAll, List.append_cons children]
    exact (leads_textCell hcell (hs name List.mem_cons_self)).append
      (ih fun other ho => hs other (List.mem_cons_of_mem name ho))

end Row

/-! ### Pages -/

/-- Whether the texts of an entry are read as they are. -/
structure Entry.IsClean (e : Entry) : Prop where
  target : IsStable e.target
  shown : IsStable e.shown

namespace Layout

/-- Whether the texts of a page around its entries are read as they are. -/
structure IsClean (p : Layout) : Prop where
  heading : ∀ name ∈ p.heading, IsStable name
  columns : ∀ name ∈ p.columns, IsStable name
  next : ∀ target ∈ p.next, IsStable target
  gap : IsGap p.gap
  indent : IsGap p.indent

variable {p : Layout} {nodes : List Html.Node}

lemma leads_entries {outer : List Frame} {f : Frame} {entries : List Entry} {indent : List Char}
    (hi : IsGap indent) (hs : ∀ e ∈ entries, e.IsClean) {rows : List Html.Node}
    (hf : (Frame.element "tbody" [] rows).EndsPlain) :
    Leads (.on ⟨outer ++ [f], .element "tbody" [] rows, .inTableBody, []⟩)
        (tokensAll (entries.flatMap fun e => texts indent ++ [e.row]))
        (.on ⟨outer ++ [f],
          .element "tbody" [] (rows ++ entries.flatMap fun e => texts indent ++ [e.row]),
          .inTableBody, []⟩) ∧
      (Frame.element "tbody" []
        (rows ++ entries.flatMap fun e => texts indent ++ [e.row])).EndsPlain := by
  induction entries generalizing rows with
  | nil =>
    rw [List.flatMap_nil, List.append_nil]
    exact ⟨.nil, hf⟩
  | cons e entries ih =>
    have hrow := leads_row hf (fun c hc => (hi c hc).1)
      (@leads_entry (outer ++ [f]) (.element "tbody" [] (rows ++ texts indent)) e
        (hs e List.mem_cons_self).shown)
    have hplain : (Frame.element "tbody" [] (rows ++ texts indent ++ [e.row])).EndsPlain :=
      @Frame.endsPlain_add_html (.element "tbody" [] (rows ++ texts indent)) "tr" [] _
    obtain ⟨hrest, hend⟩ := ih (fun other ho => hs other (List.mem_cons_of_mem e ho)) hplain
    rw [List.flatMap_cons, tokensAll_append, ← List.append_assoc rows, ← List.append_assoc rows]
    exact ⟨hrow.append hrest, hend⟩

lemma leads_table (h : p.IsClean) (he : ∀ e ∈ p.entries, e.IsClean) : Leads (bodyStage nodes) (tokens (p.table id))
    (bodyStage (nodes ++ [p.documentTable])) := by
  have hrows : texts p.indent ++ p.rows = (texts p.indent ++ [p.columnRow]) ++
      ((p.entries.flatMap fun e => texts p.indent ++ [e.row]) ++ texts p.gap) := by
    rw [rows, List.append_assoc (texts p.indent), List.singleton_append, List.cons_append]
  have hplain : (Frame.element "tbody" [] [p.columnRow]).EndsPlain :=
    @Frame.endsPlain_add_html (.element "tbody" [] []) "tr" [] _
  have hfirst := leads_firstRow (fun c hc => (h.indent c hc).1)
    (@leads_columns (root ++ [.element "body" [] nodes] ++ [.element "table"
      [("class", "modland".toList)] (texts p.indent)]) (.element "tbody" [] []) [] _ h.columns)
  obtain ⟨hentries, hend⟩ := @leads_entries (root ++ [.element "body" [] nodes])
    (.element "table" [("class", "modland".toList)] (texts p.indent)) _ _ h.indent he _ hplain
  have hlast := @leads_endTable root [] nodes [] p.gap _ [("class", "modland".toList)]
    (texts p.indent) (by simp [root]) hend fun c hc => (h.gap c hc).1
  rw [table, id, hrows, tokens, tokensAll_append,
    @tokensAll_append (p.entries.flatMap fun e => texts p.indent ++ [e.row]), List.append_assoc,
    List.append_assoc]
  exact .cons (by omega) (step_startTable lacks_body) (hfirst.append (hentries.append hlast))

/-- Whether a part of a page is read as an element in its body, whatever is there before. -/
def IsReadAs (written read : Html.Node) : Prop :=
  (∃ name attributes children, read = html name attributes children) ∧
    ∀ nodes, Leads (bodyStage nodes) (tokens written) (bodyStage (nodes ++ [read]))

lemma heading_isReadAs {name : List Char} (hs : IsStable name) :
    IsReadAs (headingNode name) (headingNode name) := by
  refine ⟨⟨_, _, _, rfl⟩, fun nodes => ?_⟩
  refine leads_block (by simp [root]) (by decide) (by decide) lacks_body ?_
  rw [tokensAll_texts]
  exact leads_texts (by simp) (.inl rfl) trivial Frame.endsPlain_element_nil hs.1

lemma found_isReadAs (n : Nat) (f : Form) : IsReadAs (foundNode n f) (foundNode n f) := by
  refine ⟨⟨_, _, _, rfl⟩, fun nodes => ?_⟩
  refine leads_block (by simp [root]) (by decide) (by decide) lacks_body ?_
  have ho : root ++ [.element "body" [] nodes] ≠ [] := by simp
  have hbefore := @leads_texts (root ++ [.element "body" [] nodes]) "div"
    [("class", "results".toList)] [] .inBody [] "Found ".toList ho (.inl rfl) trivial
      Frame.endsPlain_element_nil (by decide)
  have hnumber := @leads_formatting (root ++ [.element "body" [] nodes]) "div"
    [("class", "results".toList)] [.text "Found ".toList] .inBody [] (f.write n) "b" [] ho
      (.inl rfl) (by decide) (by simp [IsAt.IsFresh]) (isStable_write f n).1
  have hafter := @leads_texts (root ++ [.element "body" [] nodes]) "div"
    [("class", "results".toList)] [.text "Found ".toList, html "b" [] (texts (f.write n))] .inBody
      [] " entries".toList ho (.inl rfl) trivial
      (@Frame.endsPlain_add_html (.element "div" _ [.text "Found ".toList]) "b" [] _) (by decide)
  rw [tokensAll, tokensAll, tokensAll, tokensAll, List.append_nil]
  exact hbefore.append (hnumber.append hafter)

lemma next_isReadAs {target : List Char} : IsReadAs (nextNode target) (nextNode target) := by
  refine ⟨⟨_, _, _, rfl⟩, fun nodes => ?_⟩
  exact @leads_formatting root "body" [] nodes .inBody [] "Next".toList "a"
    [("class", "next".toList), ("href", target)] (by simp [root]) (.inl rfl) (by decide)
    (by simp [IsAt.IsFresh]) (by decide)

/-- Parts of a page are read one after the other, with white space behind each. -/
lemma leads_parts {gap : List Char} (hg : IsGap gap) {written read : List Html.Node}
    (h : List.Forall₂ IsReadAs written read) :
    Leads (bodyStage nodes) (tokensAll (written.flatMap fun part => part :: texts gap))
      (bodyStage (nodes ++ read.flatMap fun part => part :: texts gap)) := by
  induction h generalizing nodes with
  | nil =>
    rw [List.flatMap_nil, List.append_nil]
    exact .nil
  | @cons w r written read hpart _ ih =>
    obtain ⟨⟨name, attributes, children, rfl⟩, hread⟩ := hpart
    have hgap : Leads (bodyStage (nodes ++ [html name attributes children])) (gap.map .char)
        (bodyStage (nodes ++ [html name attributes children] ++ texts gap)) :=
      leads_texts (by simp [root]) (.inl rfl) trivial
        (@Frame.endsPlain_add_html (.element "body" [] nodes) name attributes children)
        hg.isStable.1
    have hsame : nodes ++ [html name attributes children] ++ texts gap ++
        read.flatMap (fun part => part :: texts gap) =
          nodes ++ (html name attributes children :: read).flatMap fun part => part :: texts gap := by
      simp
    rw [List.flatMap_cons, tokensAll_append, tokensAll, tokensAll_texts, ← hsame]
    exact ((hread nodes).append hgap).append ih

/-- The parts of a page are read as those of its document. -/
lemma leads_page (h : p.IsClean) (he : ∀ e ∈ p.entries, e.IsClean) : Leads (bodyStage []) (tokensAll (p.parts id))
    (bodyStage (p.parts fun rows => [html "tbody" [] rows])) := by
  have hheading : ∀ part ∈ p.heading.toList.map headingNode, IsReadAs part part := by
    intro part hm
    obtain ⟨name, hname, rfl⟩ := List.mem_map.mp hm
    exact heading_isReadAs (h.heading name (Option.mem_toList.mp hname))
  have hfound : ∀ part ∈ p.found.toList.map fun f => foundNode f.1 f.2, IsReadAs part part := by
    intro part hm
    obtain ⟨found, -, rfl⟩ := List.mem_map.mp hm
    exact found_isReadAs found.1 found.2
  have hnext : ∀ part ∈ p.next.toList.map nextNode, IsReadAs part part := by
    intro part hm
    obtain ⟨target, -, rfl⟩ := List.mem_map.mp hm
    exact next_isReadAs
  have htable : IsReadAs (p.table id) p.documentTable := ⟨⟨_, _, _, rfl⟩, fun _ => leads_table h he⟩
  exact leads_parts h.gap (List.rel_append (List.rel_append (List.forall₂_same.mpr hheading)
    (List.forall₂_same.mpr hfound)) (.cons htable (List.forall₂_same.mpr hnext)))

/-- A page begins with an element that opens its body. -/
lemma exists_parts_eq (sections : List Html.Node → List Html.Node) : ∃ name attributes children rest,
    name ∈ beginners ∧ p.parts sections = html name attributes children :: rest := by
  cases hh : p.heading with
  | some name => exact ⟨"h2", _, _, _, by decide, by rw [parts, hh]; rfl⟩
  | none =>
    cases hf : p.found with
    | some found => exact ⟨"div", _, _, _, by decide, by rw [parts, hh, hf]; rfl⟩
    | none => exact ⟨"table", _, _, _, by decide, by rw [parts, hh, hf]; rfl⟩

/-! ### Escaped texts -/

lemma areReadable_cons {name : String} {value : List Char} {attributes : Attributes}
    (hn : IsReadName Tokenizer.endsAttributeName name) (hv : IsStable value)
    (hnew : name ∉ attributes.map (·.1)) (h : AreReadable attributes) :
    AreReadable ((name, value) :: attributes) where
  name := List.forall_mem_cons.mpr ⟨hn, h.name⟩
  value := List.forall_mem_cons.mpr ⟨hv, h.value⟩
  nodup := List.nodup_cons.mpr ⟨hnew, h.nodup⟩

lemma areReadable_href {target : List Char} (h : IsStable target) :
    AreReadable [("href", target)] :=
  areReadable_cons (by decide) h (by simp) areReadable_nil

lemma areReadable_class {name : String} (hn : IsStable name.toList) {attributes : Attributes}
    (hnew : "class" ∉ attributes.map (·.1)) (h : AreReadable attributes) :
    AreReadable (("class", name.toList) :: attributes) :=
  areReadable_cons (by decide) hn hnew h

lemma isReadable_row {e : Entry} (h : e.IsClean) : IsReadable e.row := by
  have hlink : IsReadable e.link :=
    ⟨by decide, areReadable_href h.target, areAllReadable_texts h.shown.2⟩
  have hnumber : IsReadable (html "td" [] (texts (e.form.write e.number))) :=
    ⟨by decide, areReadable_nil, areAllReadable_texts (isStable_write e.form e.number).2⟩
  exact ⟨by decide, areReadable_nil, ⟨by decide, areReadable_nil, hlink, trivial⟩, hnumber,
    trivial⟩

lemma isReadable_columnRow (h : p.IsClean) : IsReadable p.columnRow := by
  refine ⟨by decide, areReadable_nil, ?_⟩
  rw [List.map_eq_flatMap, areAllReadable_flatMap]
  exact fun name hn =>
    ⟨⟨by decide, areReadable_nil, areAllReadable_texts (h.columns name hn).2⟩, trivial⟩

lemma isReadable_table (h : p.IsClean) (he : ∀ e ∈ p.entries, e.IsClean) : IsReadable (p.table id) := by
  refine ⟨by decide, areReadable_class (by decide) (by simp) areReadable_nil, ?_⟩
  rw [areAllReadable_append, id, rows, areAllReadable_append]
  refine ⟨areAllReadable_texts h.indent.isStable.2, ⟨isReadable_columnRow h, ?_⟩,
    areAllReadable_texts h.gap.isStable.2⟩
  rw [areAllReadable_flatMap]
  intro e hm
  rw [areAllReadable_append]
  exact ⟨areAllReadable_texts h.indent.isStable.2, isReadable_row (he e hm), trivial⟩

lemma isReadable_heading {name : List Char} (h : IsStable name) : IsReadable (headingNode name) :=
  ⟨by decide, areReadable_class (by decide) (by simp) areReadable_nil, areAllReadable_texts h.2⟩

lemma isReadable_found (n : Nat) (f : Form) : IsReadable (foundNode n f) := by
  have hnumber : IsReadable (html "b" [] (texts (f.write n))) :=
    ⟨by decide, areReadable_nil, areAllReadable_texts (isStable_write f n).2⟩
  refine ⟨by decide, areReadable_class (by decide) (by simp) areReadable_nil, ?_, hnumber, ?_, trivial⟩
  all_goals
    rw [IsReadable]
    decide

lemma isReadable_next {target : List Char} (h : IsStable target) :
    IsReadable (nextNode target) := by
  refine ⟨by decide, areReadable_class (by decide) (by simp) (areReadable_href h), ?_, trivial⟩
  rw [IsReadable]
  decide

/-- All parts of a page can be read when they have been written. -/
lemma areAllReadable_parts (h : p.IsClean) (he : ∀ e ∈ p.entries, e.IsClean) :
    AreAllReadable (p.parts id) := by
  rw [parts, areAllReadable_flatMap]
  intro part hm
  refine ⟨?_, areAllReadable_texts h.gap.isStable.2⟩
  rw [List.mem_append, List.mem_append, List.mem_cons] at hm
  obtain (hm | hm) | rfl | hm := hm
  · obtain ⟨name, hname, rfl⟩ := List.mem_map.mp hm
    exact isReadable_heading (h.heading name (Option.mem_toList.mp hname))
  · obtain ⟨found, -, rfl⟩ := List.mem_map.mp hm
    exact isReadable_found found.1 found.2
  · exact isReadable_table h he
  · obtain ⟨target, htarget, rfl⟩ := List.mem_map.mp hm
    exact isReadable_next (h.next target (Option.mem_toList.mp htarget))

/-- A listing page is read as the document that it stands for. -/
theorem ofPage_text (h : p.IsClean) (he : ∀ e ∈ p.entries, e.IsClean) :
    Document.ofPage p.text = p.document := by
  obtain ⟨name, attributes, children, rest, hn, hparts⟩ := p.exists_parts_eq id
  have hreadable := areAllReadable_parts h he
  have hlexes := lexes_writeAll hreadable
  have hleads := leads_page h he
  have hhead : (writeAll (p.parts id)).head? ≠ some '\uFEFF' := by
    rw [hparts, writeAll, write, writeStart]
    simp
  have htokens : tokensAll (p.parts id) = .startTag ⟨name, attributes, false⟩ ::
      (tokensAll children ++ [.endTag name] ++ tokensAll rest) := by
    rw [hparts, tokensAll, tokens, List.cons_append]
  rw [htokens] at hlexes hleads
  exact ofPage_eq hlexes (return_notMem_writeAll hreadable) hhead hn hleads

end Layout

end ModuleArchive.Remote
