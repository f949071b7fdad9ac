import ModuleArchive.Html.Adoption
import ModuleArchive.Html.Doctype

/-!
# Rules for heads and bodies

How the tokens of the head and the body of a page change the document under construction. A
rule either settles a token or leaves it to be treated again in the state it gives.
-/
namespace ModuleArchive.Html

/-- What becomes of a token. -/
inductive Outcome where
  | settled (b : Builder)
  /-- The token is treated again. -/
  | again (b : Builder)

namespace Outcome

/-- The state after a rule. -/
def builder : Outcome → Builder
  | settled b | again b => b

def map (f : Builder → Builder) : Outcome → Outcome
  | settled b => settled (f b)
  | again b => again (f b)

end Outcome

namespace Builder

open Outcome

/-- The mode that fits the open elements. -/
def fittingMode (b : Builder) : Mode :=
  go b.openNodes
where
  /-- The mode that fits the elements from one outwards. -/
  go : List Nat → Mode
    | [] => .inBody
    | n :: rest =>
      let isLast := rest.isEmpty
      match b.element? n with
      | some (.html, name) =>
        if name = "select" then
          if (rest.takeWhile (!b.isHtml · ["template"])).any (b.isHtml · ["table"]) then
            .inSelectInTable
          else .inSelect
        else if name ∈ ["td", "th"] && !isLast then .inCell
        else if name = "tr" then .inRow
        else if name ∈ ["tbody", "thead", "tfoot"] then .inTableBody
        else if name = "caption" then .inCaption
        else if name = "colgroup" then .inColumnGroup
        else if name = "table" then .inTable
        else if name = "template" then b.templateModes.headD .inTemplate
        else if name = "head" && !isLast then .inHead
        else if name = "body" then .inBody
        else if name = "frameset" then .inFrameset
        else if name = "html" then if b.headNode.isNone then .beforeHead else .afterHead
        else go rest
      | _ => go rest

/-- The builder in the mode that fits its open elements. -/
def resetMode (b : Builder) : Builder := { b with mode := b.fittingMode }

/-- Close a template and all that is open in it. -/
def closeTemplate (b : Builder) : Builder :=
  let b := (b.popUntil ["template"]).clearToMarker
  { b with templateModes := b.templateModes.tail }.resetMode

/-- The rules for the head of a page. -/
def inHead (b : Builder) (t : Token) : Outcome :=
  match t with
  | .char c =>
    if Text.isAsciiBlank c then settled (b.insertChar c)
    else again { b.pop with mode := .afterHead }
  | .comment text => settled (b.insertComment text)
  | .doctype _ => settled b
  | .startTag tag =>
    if tag.name ∈ ["base", "basefont", "bgsound", "link", "meta"] then settled (b.insertVoid tag)
    else if tag.name = "title" then settled (b.insertText tag .rcdata)
    else if tag.name ∈ ["noscript", "noframes", "style"] then settled (b.insertText tag .rawtext)
    else if tag.name = "script" then settled (b.insertText tag .script)
    else if tag.name = "template" then
      let b := (b.insertElement tag).pushMarker
      settled { b with
        framesetOk := false, mode := .inTemplate, templateModes := .inTemplate :: b.templateModes }
    else if tag.name = "head" then settled b
    else if tag.name = "html" then settled b
    else again { b.pop with mode := .afterHead }
  | .endTag name =>
    if name = "head" then settled { b.pop with mode := .afterHead }
    else if name ∈ ["body", "html", "br"] then again { b.pop with mode := .afterHead }
    else if name = "template" then
      if b.hasOpen ["template"] then settled b.closeImpliedThoroughly.closeTemplate else settled b
    else settled b
  | .endOfFile => again { b.pop with mode := .afterHead }

/-- The rules for a page that ends inside a template. -/
def endInTemplate (b : Builder) : Outcome :=
  if b.hasOpen ["template"] then again b.closeTemplate else settled b

/-- Close the item of a list or a definition that is open, if any: one with a name of
`names`. -/
def closeItem (b : Builder) (names : List String) : Builder :=
  let found := b.openNodes.find? fun n =>
    b.isHtml n names || (b.isSpecial n && !b.isHtml n ["address", "div", "p"])
  match found.bind b.element? with
  | some (.html, name) =>
    if name ∈ names then (b.closeImplied [name]).popUntil [name] else b
  | _ => b

def headings : List String := ["h1", "h2", "h3", "h4", "h5", "h6"]

/-- Elements that end a paragraph. -/
def blocks : List String :=
  ["address", "article", "aside", "blockquote", "center", "details", "dialog", "dir", "div", "dl",
    "fieldset", "figcaption", "figure", "footer", "header", "hgroup", "main", "menu", "nav", "ol",
    "p", "search", "section", "summary", "ul"]

/-- Elements that format text. -/
def formattingNames : List String :=
  ["b", "big", "code", "em", "font", "i", "s", "small", "strike", "strong", "tt", "u"]

def lowerAttribute (tag : Tag) (name : String) : List Char :=
  ((tag.attributes.lookup name).getD []).map Char.toLower

/-- The rules for a start tag in a body. -/
def startInBody (b : Builder) (tag : Tag) : Outcome :=
  let name := tag.name
  if name = "html" then settled b
  else if name ∈ ["base", "basefont", "bgsound", "link", "meta", "noframes", "script", "style",
      "template", "title"] then inHead b (.startTag tag)
  else if name = "body" then
    if b.hasOpen ["template"] then settled b else settled { b with framesetOk := false }
  else if name = "frameset" then
    match b.openNodes.reverse with
    | html :: body :: _ =>
      if b.framesetOk && b.isHtml body ["body"] then
        let b := { b.detach body with openNodes := [html] }.insertElement tag
        settled { b with mode := .inFrameset }
      else settled b
    | _ => settled b
  else if name ∈ blocks then settled (b.closeParagraphInScope.insertElement tag)
  else if name ∈ headings then
    let b := b.closeParagraphInScope
    let b := if b.currentIs headings then b.pop else b
    settled (b.insertElement tag)
  else if name ∈ ["pre", "listing"] then
    settled { b.closeParagraphInScope.insertElement tag with
      dropsLineBreak := true, framesetOk := false }
  else if name = "form" then
    if b.formNode.isSome && !b.hasOpen ["template"] then settled b
    else
      let inTemplate := b.hasOpen ["template"]
      let b := b.closeParagraphInScope.insertElement tag
      settled (if inTemplate then b else { b with formNode := b.current? })
  else if name = "li" then
    let b := { b with framesetOk := false }.closeItem ["li"]
    settled (b.closeParagraphInScope.insertElement tag)
  else if name ∈ ["dd", "dt"] then
    let b := { b with framesetOk := false }.closeItem ["dd", "dt"]
    settled (b.closeParagraphInScope.insertElement tag)
  else if name = "plaintext" then
    settled { b.closeParagraphInScope.insertElement tag with textMode := some .plaintext }
  else if name = "button" then
    let b := if b.inScope ["button"] then b.closeImplied.popUntil ["button"] else b
    settled { b.reconstruct.insertElement tag with framesetOk := false }
  else if name = "a" then
    let b := match b.formattingNamed? "a" with
      | some (n, _) => ((b.closeFormatting "a").removeFormatting n).removeOpen n
      | none => b
    settled (b.insertFormatting tag)
  else if name ∈ formattingNames then settled (b.insertFormatting tag)
  else if name = "nobr" then
    let b := b.reconstruct
    let b := if b.inScope ["nobr"] then b.closeFormatting "nobr" else b
    settled (b.insertFormatting tag)
  else if name ∈ ["applet", "marquee", "object"] then
    settled { (b.reconstruct.insertElement tag).pushMarker with framesetOk := false }
  else if name = "table" then
    let b := if b.isOld then b else b.closeParagraphInScope
    settled { b.insertElement tag with framesetOk := false, mode := .inTable }
  else if name ∈ ["area", "br", "embed", "img", "keygen", "wbr"] then
    settled { b.reconstruct.insertVoid tag with framesetOk := false }
  else if name = "input" then
    let b' := b.reconstruct.insertVoid tag
    settled (if lowerAttribute tag "type" = "hidden".toList then b'
      else { b' with framesetOk := false })
  else if name ∈ ["param", "source", "track"] then settled (b.insertVoid tag)
  else if name = "hr" then
    settled { b.closeParagraphInScope.insertVoid tag with framesetOk := false }
  else if name = "image" then
    settled { b.reconstruct.insertVoid { tag with name := "img" } with framesetOk := false }
  else if name = "textarea" then
    let b := b.insertText tag .rcdata
    settled { b with dropsLineBreak := true, framesetOk := false }
  else if name = "xmp" then
    let b := { b.closeParagraphInScope.reconstruct with framesetOk := false }
    settled (b.insertText tag .rawtext)
  else if name = "iframe" then settled ({ b with framesetOk := false }.insertText tag .rawtext)
  else if name ∈ ["noembed", "noscript"] then settled (b.insertText tag .rawtext)
  else if name = "select" then
    let b := { b.reconstruct.insertElement tag with framesetOk := false }
    let inTable := b.mode ∈
      [Mode.inTable, .inCaption, .inTableBody, .inRow, .inCell]
    settled { b with mode := if inTable then .inSelectInTable else .inSelect }
  else if name ∈ ["optgroup", "option"] then
    let b := if b.currentIs ["option"] then b.pop else b
    settled (b.reconstruct.insertElement tag)
  else if name ∈ ["rb", "rtc"] then
    settled ((if b.inScope ["ruby"] then b.closeImplied else b).insertElement tag)
  else if name ∈ ["rp", "rt"] then
    settled ((if b.inScope ["ruby"] then b.closeImplied ["rtc"] else b).insertElement tag)
  else if name = "math" then
    let b := b.reconstruct.insertForeign .math tag
    settled (if tag.selfClosing then b.pop else b)
  else if name = "svg" then
    let b := b.reconstruct.insertForeign .svg tag
    settled (if tag.selfClosing then b.pop else b)
  else if name ∈ ["caption", "col", "colgroup", "frame", "head", "tbody", "td", "tfoot", "th",
      "thead", "tr"] then settled b
  else settled (b.reconstruct.insertElement tag)

def endInBody (b : Builder) (name : String) : Outcome :=
  if name = "template" then inHead b (.endTag name)
  else if name = "body" then
    settled (if b.inScope ["body"] then { b with mode := .afterBody } else b)
  else if name = "html" then
    if b.inScope ["body"] then again { b with mode := .afterBody } else settled b
  else if name = "p" then
    let b := if b.inButtonScope "p" then b else b.insertElement ⟨"p", [], false⟩
    settled b.closeParagraph
  else if name ∈ blocks ∨ name ∈ ["button", "listing", "pre"] then
    settled (if b.inScope [name] then b.closeImplied.popUntil [name] else b)
  else if name = "form" then
    if b.hasOpen ["template"] then
      settled (if b.inScope ["form"] then b.closeImplied.popUntil ["form"] else b)
    else
      let node := b.formNode
      let b := { b with formNode := none }
      match node with
      | some n => settled (if b.nodeInScope n then b.closeImplied.removeOpen n else b)
      | none => settled b
  else if name = "li" then
    settled (if b.inListScope "li" then (b.closeImplied ["li"]).popUntil ["li"] else b)
  else if name ∈ ["dd", "dt"] then
    settled (if b.inScope [name] then (b.closeImplied [name]).popUntil [name] else b)
  else if name ∈ headings then
    settled (if b.inScope headings then b.closeImplied.popUntil headings else b)
  else if name ∈ formattingNames ∨ name ∈ ["a", "nobr"] then settled (b.closeFormatting name)
  else if name ∈ ["applet", "marquee", "object"] then
    settled (if b.inScope [name] then (b.closeImplied.popUntil [name]).clearToMarker else b)
  else if name = "br" then
    settled { b.reconstruct.insertVoid ⟨"br", [], false⟩ with framesetOk := false }
  else settled (b.closeOther name)

/-- The rules for the body of a page. -/
def inBody (b : Builder) (t : Token) : Outcome :=
  match t with
  | .char c =>
    if c = '\x00' then settled b
    else if Text.isAsciiBlank c then settled (b.reconstruct.insertChar c)
    else settled { b.reconstruct.insertChar c with framesetOk := false }
  | .comment text => settled (b.insertComment text)
  | .doctype _ => settled b
  | .startTag tag => startInBody b tag
  | .endTag name => endInBody b name
  | .endOfFile => if b.templateModes.isEmpty then settled b else endInTemplate b

end Builder

end ModuleArchive.Html
