import ModuleArchive.Proofs.Html.Written
import ModuleArchive.Proofs.Remote.Numbers
import ModuleArchive.Proofs.Traverse

/-!
# The layout of a listing page

A listing page may name a group and say how many entries were found. A table follows with a heading
row, which has no links, and a row for every entry, with a link and a number. The page may link to a
next one. Between its parts there may be white space. Written down, the rows of the table stand in
no section of it; a document has them in one.
-/
namespace ModuleArchive.Remote

open Html Html.Node
open Decimal (Form)

namespace Page

/-- The rows with a link, each with the link and where it leads. -/
def linked (d : Document) : List (Html.Node × Html.Node × List Char) :=
  (rows d).filterMap fun row => (link? row).map fun found => (row, found.1, found.2)

lemma ofDocument_eq {α : Type}
    (readRow : Html.Node → Html.Node → List Char → Except Catalog.Error α) (d : Document) :
    ofDocument readRow d = (do
      let items ← (linked d).mapM fun entry => readRow entry.1 entry.2.1 entry.2.2
      let count ← countOf d
      return ⟨count, headingOf d, items, linksNext d⟩) := rfl

end Page

/-- An entry of a listing page. -/
structure Entry where
  /-- Where its link leads. -/
  target : List Char
  /-- The text of the link. -/
  shown : List Char
  number : Nat
  /-- How the number is written. -/
  form : Form

namespace Entry

def link (e : Entry) : Html.Node := html "a" [("href", e.target)] (texts e.shown)

def row (e : Entry) : Html.Node :=
  html "tr" [] [html "td" [] [e.link], html "td" [] (texts (e.form.write e.number))]

end Entry

/-- A listing page. -/
structure Layout where
  /-- The name of the group that is listed. -/
  heading : Option (List Char) := none
  /-- How many entries are said to be found, and how that is written. -/
  found : Option (Nat × Form) := none
  /-- The heading row of the table. -/
  columns : List (List Char) := []
  entries : List Entry
  /-- Where the link to the next page leads. -/
  next : Option (List Char) := none
  /-- What stands behind a part, and behind the last row. -/
  gap : List Char := []
  /-- What stands before a row. -/
  indent : List Char := []

namespace Layout

def headingNode (name : List Char) : Html.Node := html "h2" [("class", "group".toList)] (texts name)

/-- What the page says about how many entries were found. -/
def foundNode (n : Nat) (f : Form) : Html.Node :=
  html "div" [("class", "results".toList)]
    [.text "Found ".toList, html "b" [] (texts (f.write n)), .text " entries".toList]

def nextNode (target : List Char) : Html.Node :=
  html "a" [("class", "next".toList), ("href", target)] [.text "Next".toList]

variable (p : Layout)

def columnRow : Html.Node := html "tr" [] (p.columns.map fun name => html "th" [] (texts name))

/-- The rows of the table, from the heading row on. -/
def rows : List Html.Node :=
  p.columnRow :: p.entries.flatMap (fun e => texts p.indent ++ [e.row]) ++ texts p.gap

/-- The table, with its rows in sections of it. -/
def table (sections : List Html.Node → List Html.Node) : Html.Node :=
  html "table" [("class", "modland".toList)] (texts p.indent ++ sections p.rows)

def parts (sections : List Html.Node → List Html.Node) : List Html.Node :=
  (p.heading.toList.map headingNode ++ p.found.toList.map (fun f => foundNode f.1 f.2) ++
    p.table sections :: p.next.toList.map nextNode).flatMap fun part => part :: texts p.gap

def text : List Char := writeAll (p.parts id)

/-- The document that the page stands for. -/
def document : Document :=
  ⟨[html "html" [] [html "head" [] [],
    html "body" [] (p.parts fun rows => [html "tbody" [] rows])]]⟩

end Layout

/-! ### What is found in a document -/

section Search

variable {outer inner : Html.Node → Bool} {isInside : Bool}

@[simp] lemma innerTexts_texts (chars : List Char) : innerTexts (texts chars) = chars := by
  cases chars <;> simp [texts, innerTexts, innerText]

lemma allInside_append (a b : List Html.Node) :
    allInside outer inner isInside (a ++ b) =
      allInside outer inner isInside a ++ allInside outer inner isInside b := by
  induction a with
  | nil => rfl
  | cons node a ih => rw [List.cons_append, allInside, allInside, ih, List.append_assoc]

lemma allInside_flatMap {α : Type} (f : α → List Html.Node) (xs : List α) :
    allInside outer inner isInside (xs.flatMap f) =
      xs.flatMap fun x => allInside outer inner isInside (f x) := by
  induction xs with
  | nil => rfl
  | cons x xs ih => rw [List.flatMap_cons, allInside_append, ih, List.flatMap_cons]

@[simp] lemma allInside_texts (chars : List Char) :
    allInside outer inner isInside (texts chars) = [] := by
  cases chars <;> simp [texts, allInside, inside]

lemma allBelow_append (a b : List Html.Node) : allBelow (a ++ b) = allBelow a ++ allBelow b := by
  induction a with
  | nil => rfl
  | cons node a ih => rw [List.cons_append, allBelow, allBelow, ih, List.append_assoc]

lemma allBelow_flatMap {α : Type} (f : α → List Html.Node) (xs : List α) :
    allBelow (xs.flatMap f) = xs.flatMap fun x => allBelow (f x) := by
  induction xs with
  | nil => rfl
  | cons x xs ih => rw [List.flatMap_cons, allBelow_append, ih, List.flatMap_cons]

@[simp] lemma allBelow_texts (chars : List Char) : allBelow (texts chars) = texts chars := by
  cases chars <;> simp [texts, allBelow, selfAndBelow]

lemma filter_texts {P : Html.Node → Bool} (h : ∀ chars, P (.text chars) = false) (chars : List Char) :
    (texts chars).filter P = [] := by
  cases chars <;> simp [texts, h]

@[simp] lemma filter_isNamed_texts (name : String) (chars : List Char) :
    (texts chars).filter (isNamed name) = [] := filter_texts (fun _ => rfl) chars

lemma filter_map_of_neg {α : Type} {f : α → Html.Node} {P : Html.Node → Bool} (h : ∀ x, P (f x) = false)
    (xs : List α) : (xs.map f).filter P = [] := by
  simp [List.filter_map, Function.comp_def, h]

lemma filter_map_of_pos {α : Type} {f : α → Html.Node} {P : Html.Node → Bool} (h : ∀ x, P (f x) = true)
    (xs : List α) : (xs.map f).filter P = xs.map f := by
  simp [List.filter_map, Function.comp_def, h]

@[simp] lemma isNamed_html (name other : String) (attributes : Attributes) (children : List Html.Node) :
    (html other attributes children).isNamed name = (other == name) := by rw [isNamed]

end Search

/-! ### The rows -/

namespace Entry

variable (e : Entry)

lemma descendants_row : e.row.descendants =
    html "td" [] [e.link] :: e.link :: (texts e.shown ++
      html "td" [] (texts (e.form.write e.number)) :: texts (e.form.write e.number)) := by
  simp [row, link, descendants, allBelow, selfAndBelow]

lemma link?_row : Page.link? e.row = some (e.link, e.target) := by
  rw [Page.link?, descendants_row]
  rfl

lemma secondCell?_row : Page.secondCell? e.row = some (e.form.write e.number) := by
  have htrim : Text.trim (e.form.write e.number) = e.form.write e.number :=
    Text.trim_of_forall fun c hc => Page.isBlank_of_mem_write hc
  have hcells : e.row.descendants.filter (isNamed "td") =
      [html "td" [] [e.link], html "td" [] (texts (e.form.write e.number))] := by
    simp [descendants_row, link]
  simp [Page.secondCell?, hcells, Page.shownText, innerText, htrim]

/-- The link of an entry shows its text without the white space at its ends. -/
lemma shownText_link : Page.shownText e.link = Text.trim e.shown := by
  simp [Page.shownText, link, innerText]

end Entry

namespace Layout

variable (p : Layout)

lemma link?_columnRow : Page.link? p.columnRow = none := by
  have hlinks : p.columnRow.descendants.filter (isNamed "a") = [] := by
    simp only [columnRow, descendants, List.map_eq_flatMap, allBelow_flatMap,
      List.filter_flatMap, List.flatMap_eq_nil_iff]
    intro name _
    simp [allBelow, selfAndBelow]
  rw [Page.link?, hlinks]
  rfl

/-- The rows of the listing are those of the table. -/
lemma rows_document : Page.rows p.document = p.columnRow :: p.entries.map Entry.row := by
  let outer := fun node : Html.Node => node.isNamed "table" && node.hasClass "modland"
  have hcolumns : inside outer (isNamed "tr") true p.columnRow = [p.columnRow] := by
    have hnone : allInside outer (isNamed "tr") true
        (p.columns.map fun name => html "th" [] (texts name)) = [] := by
      rw [List.map_eq_flatMap, allInside_flatMap, List.flatMap_eq_nil_iff]
      intro name _
      simp [allInside, inside]
    simp [columnRow, inside, hnone]
  have hentry (e : Entry) : inside outer (isNamed "tr") true e.row = [e.row] := by
    simp [Entry.row, Entry.link, inside, allInside]
  have hrows : allInside outer (isNamed "tr") true p.rows =
      p.columnRow :: p.entries.map Entry.row := by
    simp [rows, allInside, allInside_append, allInside_flatMap, hcolumns, hentry,
      List.map_eq_flatMap]
  have htable : inside outer (isNamed "tr") false (p.table fun rows => [html "tbody" [] rows]) =
      p.columnRow :: p.entries.map Entry.row := by
    have houter : outer (p.table fun rows => [html "tbody" [] rows]) = true := rfl
    have htbody : inside outer (isNamed "tr") true (html "tbody" [] p.rows) =
      p.columnRow :: p.entries.map Entry.row := by
      rw [inside, Bool.true_or, hrows]
      rfl
    have hinside : inside outer (isNamed "tr") false
        (p.table fun rows => [html "tbody" [] rows]) =
        allInside outer (isNamed "tr") true (texts p.indent ++ [html "tbody" [] p.rows]) := by
      simp only [table, inside, Bool.false_and, Bool.false_or] at houter ⊢
      rw [houter]
      rfl
    rw [hinside, allInside_append, allInside_texts, allInside, allInside, htbody, List.append_nil]
    rfl
  have hheading (name : List Char) : inside outer (isNamed "tr") false (headingNode name) = [] := by
    simp [headingNode, inside]
  have hfound (f : Nat × Form) : inside outer (isNamed "tr") false (foundNode f.1 f.2) = [] := by
    simp [foundNode, inside, allInside]
  have hnext (target : List Char) : inside outer (isNamed "tr") false (nextNode target) = [] := by
    simp [nextNode, inside, allInside]
  have hparts : allInside outer (isNamed "tr") false
      (p.parts fun rows => [html "tbody" [] rows]) = p.columnRow :: p.entries.map Entry.row := by
    have hnil {α : Type} (xs : List α) : xs.flatMap (fun _ => ([] : List Html.Node)) = [] :=
      List.flatMap_eq_nil_iff.mpr fun _ _ => rfl
    rw [parts, allInside_flatMap]
    simp [allInside, List.flatMap_map, hheading, hfound, hnext, htable, hnil]
  simp only [Page.rows, document, Document.selectInside]
  change allInside outer _ _ _ = _
  have hplain (name : String) (children : List Html.Node) : outer (html name [] children) = false := by
    simp [outer, hasClass, attribute?]
  simp [allInside, inside, hplain, hparts]

def documentTable : Html.Node := p.table fun rows => [html "tbody" [] rows]

/-- The elements of the document that have attributes. -/
def marked : List Html.Node :=
  p.heading.toList.map headingNode ++ p.found.toList.map (fun f => foundNode f.1 f.2) ++
    p.documentTable :: p.entries.map Entry.link ++ p.next.toList.map nextNode

/-- A search for something that only elements with attributes have. -/
lemma select_document {P : Html.Node → Bool} (ht : ∀ chars, P (.text chars) = false)
    (hplain : ∀ name children, P (html name [] children) = false) :
    p.document.select P = p.marked.filter P := by
  have hcolumns : (selfAndBelow p.columnRow).filter P = [] := by
    simp [columnRow, selfAndBelow, List.map_eq_flatMap, allBelow_flatMap, List.filter_flatMap,
      allBelow, hplain, filter_texts ht]
  have hentry (e : Entry) : (selfAndBelow e.row).filter P = [e.link].filter P := by
    have hbelow : selfAndBelow e.row = e.row :: e.row.descendants := rfl
    rw [hbelow, Entry.descendants_row]
    simp [Entry.row, hplain, filter_texts ht, List.filter_cons]
  have htable : (selfAndBelow p.documentTable).filter P =
      (p.documentTable :: p.entries.map Entry.link).filter P := by
    have hrows : (allBelow p.rows).filter P = (p.entries.map Entry.link).filter P := by
      simp [rows, allBelow, allBelow_append, allBelow_flatMap, List.filter_flatMap, hcolumns,
        hentry, List.map_eq_flatMap, filter_texts ht]
    have hbelow : (allBelow (texts p.indent ++ [html "tbody" [] p.rows])).filter P =
        (p.entries.map Entry.link).filter P := by
      simp [allBelow_append, allBelow, selfAndBelow, hplain, filter_texts ht, hrows]
    rw [documentTable, table, selfAndBelow, List.filter_cons, List.filter_cons, hbelow]
  have hheading (name : List Char) :
      (selfAndBelow (headingNode name)).filter P = [headingNode name].filter P := by
    simp [headingNode, selfAndBelow, List.filter_cons, filter_texts ht]
  have hfound (f : Nat × Form) :
      (selfAndBelow (foundNode f.1 f.2)).filter P = [foundNode f.1 f.2].filter P := by
    simp [foundNode, selfAndBelow, allBelow, List.filter_cons, hplain, ht, filter_texts ht]
  have hnext (target : List Char) :
      (selfAndBelow (nextNode target)).filter P = [nextNode target].filter P := by
    simp [nextNode, selfAndBelow, allBelow, List.filter_cons, ht]
  have hparts : (allBelow (p.parts fun rows => [html "tbody" [] rows])).filter P =
      p.marked.filter P := by
    have hgap (part : Html.Node) : (allBelow (part :: texts p.gap)).filter P =
        (selfAndBelow part).filter P := by
      simp [allBelow, filter_texts ht]
    rw [parts, ← documentTable, allBelow_flatMap, List.filter_flatMap]
    simp only [hgap, marked, List.flatMap_append, List.flatMap_cons, List.flatMap_map, hheading, hfound,
      hnext, htable, ← List.filter_flatMap, ← List.map_eq_flatMap, ← List.filter_append]
    rw [List.append_assoc _ _ (p.next.toList.map nextNode), List.cons_append]
  simp [document, Document.select, allBelow, selfAndBelow, hplain, hparts]

/-- Whether the number of entries that the page shows is one of 64 bits. -/
def CountFits : Prop := ∀ found ∈ p.found, found.1 < UInt64.size

/-- A page says how many entries were found if it has a place for that. -/
lemma resultsOf_document :
    Page.resultsOf p.document = p.found.toList.map fun f => Page.foundText f.2 f.1 := by
  let isResults := fun node : Html.Node => node.isNamed "div" && node.hasClass "results"
  have hresults : p.document.select isResults = p.found.toList.map fun f => foundNode f.1 f.2 := by
    have hheading (name : List Char) : isResults (headingNode name) = false := rfl
    have hfound (f : Nat × Form) : isResults (foundNode f.1 f.2) = true := rfl
    have htable : isResults p.documentTable = false := rfl
    have hlink (e : Entry) : isResults e.link = false := rfl
    have hnext (target : List Char) : isResults (nextNode target) = false := rfl
    rw [select_document p (fun _ => rfl) fun name _ => by simp [isResults, hasClass, attribute?]]
    simp only [marked, List.filter_append, List.filter_cons, htable, filter_map_of_neg hheading,
      filter_map_of_pos hfound, filter_map_of_neg hlink, filter_map_of_neg hnext]
    simp
  have hshown (f : Nat × Form) :
      Page.shownText (foundNode f.1 f.2) = Page.foundText f.2 f.1 := by
    rw [← Page.trim_foundText]
    simp [Page.shownText, foundNode, innerText, innerTexts, Page.foundText]
  rw [Page.resultsOf, hresults, List.map_map]
  exact List.map_congr_left fun f _ => hshown f

lemma exists_countOf_document (h : p.CountFits) :
    ∃ count, Page.countOf p.document = .ok count := by
  have hresults := p.resultsOf_document
  cases hf : p.found with
  | none =>
    rw [hf, Option.toList_none, List.map_nil, Page.resultsOf, List.map_eq_nil_iff] at hresults
    exact ⟨none, by rw [Page.countOf, hresults]⟩
  | some found =>
    rw [hf, Option.toList_some, List.map_singleton] at hresults
    exact ⟨_, Page.countOf_of_resultsOf (h found hf) (by rw [hresults]; rfl)⟩

lemma linksNext_document : Page.linksNext p.document = p.next.isSome := by
  let isNext := fun node : Html.Node =>
    node.isNamed "a" && node.hasClass "next" && (node.attribute? "href").isSome
  have hselect : p.document.select isNext = p.next.toList.map nextNode := by
    have hheading (name : List Char) : isNext (headingNode name) = false := rfl
    have hfound (f : Nat × Form) : isNext (foundNode f.1 f.2) = false := rfl
    have htable : isNext p.documentTable = false := rfl
    have hlink (e : Entry) : isNext e.link = false := rfl
    have hnext (target : List Char) : isNext (nextNode target) = true := rfl
    rw [select_document p (fun _ => rfl) fun name _ => by simp [isNext, hasClass, attribute?]]
    simp only [marked, List.filter_append, List.filter_cons, htable, filter_map_of_neg hheading,
      filter_map_of_neg hfound, filter_map_of_neg hlink, filter_map_of_pos hnext]
    simp
  rw [Page.linksNext, hselect]
  cases p.next <;> rfl

/-- If the row of each entry is read as a record, then the page shows these records. -/
theorem exists_ofDocument {β α : Type} {shown : List β} {entry : β → Entry} {record : β → α}
    {readRow : Html.Node → Html.Node → List Char → Except Catalog.Error α}
    (hentries : p.entries = shown.map entry)
    (hread : ∀ x ∈ shown,
      readRow (entry x).row (entry x).link (entry x).target = .ok (record x)) (h : p.CountFits) :
    ∃ page, Page.ofDocument readRow p.document = .ok page ∧
      page.items = shown.map record ∧ page.hasNext = p.next.isSome := by
  obtain ⟨count, hcount⟩ := p.exists_countOf_document h
  have hfound : Page.linked p.document =
      shown.map fun x => ((entry x).row, (entry x).link, (entry x).target) := by
    rw [Page.linked, rows_document, List.filterMap_cons, link?_columnRow, hentries]
    simp [List.filterMap_map, Entry.link?_row]
  have hitems : (shown.map fun x => ((entry x).row, (entry x).link, (entry x).target)).mapM
      (fun x => readRow x.1 x.2.1 x.2.2) = .ok (shown.map record) := by
    rw [mapM_eq_ok_iff, List.forall₂_map_left_iff, List.forall₂_map_right_iff]
    exact List.forall₂_same.mpr hread
  refine ⟨⟨count, Page.headingOf p.document, shown.map record, Page.linksNext p.document⟩,
    ?_, rfl, p.linksNext_document⟩
  rw [Page.ofDocument_eq, hfound, hitems, hcount]
  rfl

end Layout

end ModuleArchive.Remote
