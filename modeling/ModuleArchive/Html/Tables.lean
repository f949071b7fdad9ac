import ModuleArchive.Html.Body

/-!
# Rules for tables and selections

What stands between the parts of a table goes before the table, unless it is white space.
-/
namespace ModuleArchive.Html.Builder

open Outcome

/-- Treat a token by the rules for a body, with what does not belong into the table going
before it. -/
def outsideTable (b : Builder) (t : Token) : Outcome :=
  (inBody { b with fosters := true } t).map fun b => { b with fosters := false }

/-- Close elements until a table is the innermost one. -/
def clearToTable (b : Builder) : Builder := b.clearBackTo ["table", "template", "html"]

/-- Close elements until a section of a table is the innermost one. -/
def clearToSection (b : Builder) : Builder :=
  b.clearBackTo ["tbody", "tfoot", "thead", "template", "html"]

/-- Close elements until a row is the innermost one. -/
def clearToRow (b : Builder) : Builder := b.clearBackTo ["tr", "template", "html"]

/-- The rules for a table. -/
def inTable (b : Builder) (t : Token) : Outcome :=
  match t with
  | .char _ =>
    if b.currentIs ["table", "tbody", "template", "tfoot", "thead", "tr"] then
      again { b with tableText := [], returnMode := b.mode, mode := .inTableText }
    else outsideTable b t
  | .comment text => settled (b.insertComment text)
  | .doctype _ => settled b
  | .startTag tag =>
    let name := tag.name
    if name = "caption" then
      settled { (b.clearToTable.pushMarker).insertElement tag with mode := .inCaption }
    else if name = "colgroup" then
      settled { b.clearToTable.insertElement tag with mode := .inColumnGroup }
    else if name = "col" then
      again { b.clearToTable.insertElement ⟨"colgroup", [], false⟩ with mode := .inColumnGroup }
    else if name ∈ ["tbody", "tfoot", "thead"] then
      settled { b.clearToTable.insertElement tag with mode := .inTableBody }
    else if name ∈ ["td", "th", "tr"] then
      again { b.clearToTable.insertElement ⟨"tbody", [], false⟩ with mode := .inTableBody }
    else if name = "table" then
      if b.inTableScope ["table"] then again (b.popUntil ["table"]).resetMode else settled b
    else if name ∈ ["style", "script", "template"] then inHead b t
    else if name = "input" then
      if lowerAttribute tag "type" = "hidden".toList then settled (b.insertVoid tag)
      else outsideTable b t
    else if name = "form" then
      if b.hasOpen ["template"] || b.formNode.isSome then settled b
      else
        let b := b.insertElement tag
        settled { b with formNode := b.current? }.pop
    else outsideTable b t
  | .endTag name =>
    if name = "table" then
      settled (if b.inTableScope ["table"] then (b.popUntil ["table"]).resetMode else b)
    else if name ∈ ["body", "caption", "col", "colgroup", "html", "tbody", "td", "tfoot", "th",
        "thead", "tr"] then settled b
    else if name = "template" then inHead b t
    else outsideTable b t
  | .endOfFile => inBody b t

/-- The characters found in a table, put where they belong. -/
def flushTableText (b : Builder) : Builder :=
  let chars := b.tableText.reverse
  let b := { b with tableText := [], mode := b.returnMode }
  if chars.all Text.isAsciiBlank then chars.foldl insertChar b
  else chars.foldl (fun b c => (outsideTable b (.char c)).builder) b

/-- The rules for text in a table. -/
def inTableText (b : Builder) (t : Token) : Outcome :=
  match t with
  | .char c => settled (if c = '\x00' then b else { b with tableText := c :: b.tableText })
  | _ => again b.flushTableText

def inCaption (b : Builder) (t : Token) : Outcome :=
  let close (b : Builder) : Builder :=
    { ((b.closeImplied.popUntil ["caption"]).clearToMarker) with mode := .inTable }
  let starts : Bool := match t with
    | .startTag tag =>
      tag.name ∈ ["caption", "col", "colgroup", "tbody", "td", "tfoot", "th", "thead", "tr"]
    | .endTag name => name = "table"
    | _ => false
  if starts then if b.inTableScope ["caption"] then again (close b) else settled b
  else
    match t with
    | .endTag name =>
      if name = "caption" then settled (if b.inTableScope ["caption"] then close b else b)
      else if name ∈ ["body", "col", "colgroup", "html", "tbody", "td", "tfoot", "th", "thead",
          "tr"] then settled b
      else inBody b t
    | _ => inBody b t

/-- The rules for a group of columns. -/
def inColumnGroup (b : Builder) (t : Token) : Outcome :=
  let leave (b : Builder) : Outcome :=
    if b.currentIs ["colgroup"] then again { b.pop with mode := .inTable } else settled b
  match t with
  | .char c => if Text.isAsciiBlank c then settled (b.insertChar c) else leave b
  | .comment text => settled (b.insertComment text)
  | .doctype _ => settled b
  | .startTag tag =>
    if tag.name = "html" then settled b
    else if tag.name = "col" then settled (b.insertVoid tag)
    else if tag.name = "template" then inHead b t
    else leave b
  | .endTag name =>
    if name = "colgroup" then
      settled (if b.currentIs ["colgroup"] then { b.pop with mode := .inTable } else b)
    else if name = "col" then settled b
    else if name = "template" then inHead b t
    else leave b
  | .endOfFile => inBody b t

/-- The rules for a section of a table. -/
def inTableBody (b : Builder) (t : Token) : Outcome :=
  let sections := ["tbody", "tfoot", "thead"]
  let leave (b : Builder) : Outcome :=
    if b.inTableScope sections then again { b.clearToSection.pop with mode := .inTable }
    else settled b
  match t with
  | .startTag tag =>
    let name := tag.name
    if name = "tr" then settled { b.clearToSection.insertElement tag with mode := .inRow }
    else if name ∈ ["td", "th"] then
      again { b.clearToSection.insertElement ⟨"tr", [], false⟩ with mode := .inRow }
    else if name ∈ ["caption", "col", "colgroup"] ++ sections then leave b
    else inTable b t
  | .endTag name =>
    if name ∈ sections then
      settled (if b.inTableScope [name] then { b.clearToSection.pop with mode := .inTable } else b)
    else if name = "table" then leave b
    else if name ∈ ["body", "caption", "col", "colgroup", "html", "td", "th", "tr"] then settled b
    else inTable b t
  | _ => inTable b t

def inRow (b : Builder) (t : Token) : Outcome :=
  let close (b : Builder) : Builder := { b.clearToRow.pop with mode := .inTableBody }
  let leave (b : Builder) : Outcome :=
    if b.inTableScope ["tr"] then again (close b) else settled b
  match t with
  | .startTag tag =>
    let name := tag.name
    if name ∈ ["td", "th"] then
      settled ({ b.clearToRow.insertElement tag with mode := .inCell }).pushMarker
    else if name ∈ ["caption", "col", "colgroup", "tbody", "tfoot", "thead", "tr"] then leave b
    else inTable b t
  | .endTag name =>
    if name = "tr" then settled (if b.inTableScope ["tr"] then close b else b)
    else if name = "table" then leave b
    else if name ∈ ["tbody", "tfoot", "thead"] then
      if b.inTableScope [name] then leave b else settled b
    else if name ∈ ["body", "caption", "col", "colgroup", "html", "td", "th"] then settled b
    else inTable b t
  | _ => inTable b t

def inCell (b : Builder) (t : Token) : Outcome :=
  let close (b : Builder) (names : List String) : Builder :=
    { (b.closeImplied.popUntil names).clearToMarker with mode := .inRow }
  match t with
  | .startTag tag =>
    if tag.name ∈ ["caption", "col", "colgroup", "tbody", "td", "tfoot", "th", "thead", "tr"] then
      if b.inTableScope ["td", "th"] then again (close b ["td", "th"]) else settled b
    else inBody b t
  | .endTag name =>
    if name ∈ ["td", "th"] then
      settled (if b.inTableScope [name] then close b [name] else b)
    else if name ∈ ["body", "caption", "col", "colgroup", "html"] then settled b
    else if name ∈ ["table", "tbody", "tfoot", "thead", "tr"] then
      if b.inTableScope [name] then again (close b ["td", "th"]) else settled b
    else inBody b t
  | _ => inBody b t

def inSelect (b : Builder) (t : Token) : Outcome :=
  let close (b : Builder) : Builder := (b.popUntil ["select"]).resetMode
  match t with
  | .char c => settled (if c = '\x00' then b else b.insertChar c)
  | .comment text => settled (b.insertComment text)
  | .doctype _ => settled b
  | .startTag tag =>
    let name := tag.name
    if name = "html" then settled b
    else if name = "option" then
      settled ((if b.currentIs ["option"] then b.pop else b).insertElement tag)
    else if name ∈ ["optgroup", "hr"] then
      let b := if b.currentIs ["option"] then b.pop else b
      let b := if b.currentIs ["optgroup"] then b.pop else b
      settled (if name = "hr" then b.insertVoid tag else b.insertElement tag)
    else if name = "select" then settled (if b.inSelectScope "select" then close b else b)
    else if name ∈ ["input", "keygen", "textarea"] then
      if b.inSelectScope "select" then again (close b) else settled b
    else if name ∈ ["script", "template"] then inHead b t
    else settled b
  | .endTag name =>
    if name = "optgroup" then
      let inner := b.openNodes.tail.head?.map (b.isHtml · ["optgroup"])
      let b := if b.currentIs ["option"] && inner = some true then b.pop else b
      settled (if b.currentIs ["optgroup"] then b.pop else b)
    else if name = "option" then settled (if b.currentIs ["option"] then b.pop else b)
    else if name = "select" then settled (if b.inSelectScope "select" then close b else b)
    else if name = "template" then inHead b t
    else settled b
  | .endOfFile => inBody b t

def inSelectInTable (b : Builder) (t : Token) : Outcome :=
  let names := ["caption", "table", "tbody", "tfoot", "thead", "tr", "td", "th"]
  let leave (b : Builder) : Outcome := again (b.popUntil ["select"]).resetMode
  match t with
  | .startTag tag => if tag.name ∈ names then leave b else inSelect b t
  | .endTag name =>
    if name ∈ names then if b.inTableScope [name] then leave b else settled b
    else inSelect b t
  | _ => inSelect b t

/-- The rules for the content of a template. -/
def inTemplate (b : Builder) (t : Token) : Outcome :=
  let turn (b : Builder) (mode : Mode) : Outcome :=
    again { b with templateModes := mode :: b.templateModes.tail, mode := mode }
  match t with
  | .startTag tag =>
    let name := tag.name
    if name ∈ ["base", "basefont", "bgsound", "link", "meta", "noframes", "script", "style",
        "template", "title"] then inHead b t
    else if name ∈ ["caption", "colgroup", "tbody", "tfoot", "thead"] then turn b .inTable
    else if name = "col" then turn b .inColumnGroup
    else if name = "tr" then turn b .inTableBody
    else if name ∈ ["td", "th"] then turn b .inRow
    else turn b .inBody
  | .endTag name => if name = "template" then inHead b t else settled b
  | .endOfFile => endInTemplate b
  | _ => inBody b t

end ModuleArchive.Html.Builder
