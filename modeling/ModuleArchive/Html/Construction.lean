import ModuleArchive.Html.Tables
import ModuleArchive.Html.Tokenizer

/-!
# Construction of documents

A page is read token by token; each token is treated by the rules of the current mode, or by
those for foreign elements. Every text has a document.
-/
namespace ModuleArchive.Html

namespace Builder

open Outcome

def plainTag (name : String) : Tag := ⟨name, [], false⟩

/-- The rules for what stands before and around the body. -/
def aroundBody (b : Builder) (t : Token) : Outcome :=
  match b.mode, t with
  | .initial, .char c =>
    if Text.isAsciiBlank c then settled b
    else again { b with isOld := true, mode := .beforeHtml }
  | .initial, .comment text => settled (b.insertCommentIn 0 text)
  | .initial, .doctype d => settled { b with isOld := d.isOld, mode := .beforeHtml }
  | .initial, _ => again { b with isOld := true, mode := .beforeHtml }
  | .beforeHtml, .doctype _ => settled b
  | .beforeHtml, .comment text => settled (b.insertCommentIn 0 text)
  | .beforeHtml, _ =>
    let openHtml (b : Builder) (tag : Tag) : Builder :=
      { b.insertElement tag with mode := .beforeHead }
    match t with
    | .char c =>
      if Text.isAsciiBlank c then settled b else again (openHtml b (plainTag "html"))
    | .startTag tag =>
      if tag.name = "html" then settled (openHtml b tag) else again (openHtml b (plainTag "html"))
    | .endTag name =>
      if name ∈ ["head", "body", "html", "br"] then again (openHtml b (plainTag "html"))
      else settled b
    | _ => again (openHtml b (plainTag "html"))
  | .beforeHead, .doctype _ => settled b
  | .beforeHead, .comment text => settled (b.insertComment text)
  | .beforeHead, _ =>
    let openHead (b : Builder) (tag : Tag) : Builder :=
      let b := b.insertElement tag
      { b with headNode := b.current?, mode := .inHead }
    match t with
    | .char c =>
      if Text.isAsciiBlank c then settled b else again (openHead b (plainTag "head"))
    | .startTag tag =>
      if tag.name = "html" then settled b
      else if tag.name = "head" then settled (openHead b tag)
      else again (openHead b (plainTag "head"))
    | .endTag name =>
      if name ∈ ["head", "body", "html", "br"] then again (openHead b (plainTag "head"))
      else settled b
    | _ => again (openHead b (plainTag "head"))
  | .afterHead, .doctype _ => settled b
  | .afterHead, .comment text => settled (b.insertComment text)
  | .afterHead, _ =>
    let openBody (b : Builder) (tag : Tag) : Builder := { b.insertElement tag with mode := .inBody }
    match t with
    | .char c =>
      if Text.isAsciiBlank c then settled (b.insertChar c) else again (openBody b (plainTag "body"))
    | .startTag tag =>
      if tag.name = "html" then settled b
      else if tag.name = "body" then settled { openBody b tag with framesetOk := false }
      else if tag.name = "frameset" then settled { b.insertElement tag with mode := .inFrameset }
      else if tag.name ∈ ["base", "basefont", "bgsound", "link", "meta", "noframes", "script",
          "style", "template", "title"] then
        match b.headNode with
        | some head =>
          let opened := { b with openNodes := head :: b.openNodes }
          (inHead opened t).map (·.removeOpen head)
        | none => inHead b t
      else if tag.name = "head" then settled b
      else again (openBody b (plainTag "body"))
    | .endTag name =>
      if name = "template" then inHead b t
      else if name ∈ ["body", "html", "br"] then again (openBody b (plainTag "body"))
      else settled b
    | _ => again (openBody b (plainTag "body"))
  | .afterBody, .comment text =>
    settled (b.insertCommentIn (b.openNodes.getLast?.getD 0) text)
  | .afterBody, .char c =>
    if Text.isAsciiBlank c then inBody b t else again { b with mode := .inBody }
  | .afterBody, .doctype _ => settled b
  | .afterBody, .startTag tag =>
    if tag.name = "html" then settled b else again { b with mode := .inBody }
  | .afterBody, .endTag name =>
    if name = "html" then settled { b with mode := .afterAfterBody }
    else again { b with mode := .inBody }
  | .afterBody, .endOfFile => settled b
  | .inFrameset, .char c => settled (if Text.isAsciiBlank c then b.insertChar c else b)
  | .inFrameset, .comment text => settled (b.insertComment text)
  | .inFrameset, .startTag tag =>
    if tag.name = "frameset" then settled (b.insertElement tag)
    else if tag.name = "frame" then settled (b.insertVoid tag)
    else if tag.name = "noframes" then inHead b t
    else settled b
  | .inFrameset, .endTag name =>
    if name = "frameset" ∧ b.openNodes.length ≠ 1 then
      let b := b.pop
      settled (if b.currentIs ["frameset"] then b else { b with mode := .afterFrameset })
    else settled b
  | .inFrameset, _ => settled b
  | .afterFrameset, .char c => settled (if Text.isAsciiBlank c then b.insertChar c else b)
  | .afterFrameset, .comment text => settled (b.insertComment text)
  | .afterFrameset, .startTag tag =>
    if tag.name = "noframes" then inHead b t else settled b
  | .afterFrameset, .endTag name =>
    settled (if name = "html" then { b with mode := .afterAfterFrameset } else b)
  | .afterFrameset, _ => settled b
  | .afterAfterBody, .comment text => settled (b.insertCommentIn 0 text)
  | .afterAfterBody, .doctype _ | .afterAfterBody, .endOfFile => settled b
  | .afterAfterBody, .char c =>
    if Text.isAsciiBlank c then inBody b t else again { b with mode := .inBody }
  | .afterAfterBody, .startTag tag =>
    if tag.name = "html" then settled b else again { b with mode := .inBody }
  | .afterAfterBody, .endTag _ => again { b with mode := .inBody }
  | .afterAfterFrameset, .comment text => settled (b.insertCommentIn 0 text)
  | .afterAfterFrameset, .char c => if Text.isAsciiBlank c then inBody b t else settled b
  | .afterAfterFrameset, .startTag tag =>
    if tag.name = "noframes" then inHead b t else settled b
  | _, _ => settled b

/-- The rules for text that is read in its own way. -/
def inText (b : Builder) (t : Token) : Outcome :=
  match t with
  | .char c => settled (b.insertChar c)
  | .endOfFile => again { b.pop with mode := b.returnMode }
  | .endTag _ => settled { b.pop with mode := b.returnMode }
  | _ => settled b

/-- The rules of the current mode. -/
def byMode (b : Builder) (t : Token) : Outcome :=
  match b.mode with
  | .inHead => inHead b t
  | .inBody => inBody b t
  | .text => inText b t
  | .inTable => inTable b t
  | .inTableText => inTableText b t
  | .inCaption => inCaption b t
  | .inColumnGroup => inColumnGroup b t
  | .inTableBody => inTableBody b t
  | .inRow => inRow b t
  | .inCell => inCell b t
  | .inSelect => inSelect b t
  | .inSelectInTable => inSelectInTable b t
  | .inTemplate => inTemplate b t
  | _ => aroundBody b t

/-! ### Foreign elements -/

/-- Whether a node is an element of MathML in which text is text. -/
def isMathText (b : Builder) (n : Nat) : Bool :=
  match b.element? n with
  | some (.math, name) => name ∈ ["mi", "mo", "mn", "ms", "mtext"]
  | _ => false

/-- Whether a node is a foreign element whose content is HTML. -/
def holdsHtml (b : Builder) (n : Nat) : Bool :=
  match b.kind n with
  | .element .svg tag => tag.name ∈ ["foreignobject", "desc", "title"]
  | .element .math tag =>
    tag.name = "annotation-xml" &&
      String.ofList (lowerAttribute tag "encoding") ∈ ["text/html", "application/xhtml+xml"]
  | _ => false

def isForeign (b : Builder) (n : Nat) : Bool :=
  match b.element? n with
  | some (.svg, _) | some (.math, _) => true
  | _ => false

/-- Whether the rules for foreign elements apply to a token. -/
def usesForeignRules (b : Builder) (t : Token) : Bool :=
  match b.current? with
  | none => false
  | some n =>
    let isNote := match b.element? n with
      | some (.math, name) => name = "annotation-xml"
      | _ => false
    b.isForeign n &&
      match t with
      | .endOfFile => false
      | .char _ => !b.isMathText n && !b.holdsHtml n
      | .startTag tag =>
        !(b.isMathText n && !(tag.name ∈ ["mglyph", "malignmark"])) &&
          !(isNote && tag.name = "svg") && !b.holdsHtml n
      | _ => true

/-- The start tags that end foreign elements. -/
def breakouts : List String :=
  ["b", "big", "blockquote", "body", "br", "center", "code", "dd", "div", "dl", "dt", "em", "embed",
    "h1", "h2", "h3", "h4", "h5", "h6", "head", "hr", "i", "img", "li", "listing", "menu", "meta",
    "nobr", "ol", "p", "pre", "ruby", "s", "small", "span", "strong", "strike", "sub", "sup",
    "table", "tt", "u", "ul", "var"]

/-- Close foreign elements until HTML can go on. -/
def leaveForeign (b : Builder) : Builder :=
  { b with openNodes := b.openNodes.dropWhile fun n =>
      b.isForeign n && !b.isMathText n && !b.holdsHtml n }

/-- The rules for foreign elements. -/
def inForeign (b : Builder) (t : Token) : Outcome :=
  match t with
  | .char c =>
    if c = '\x00' then settled (b.insertChar '\uFFFD')
    else if Text.isAsciiBlank c then settled (b.insertChar c)
    else settled { b.insertChar c with framesetOk := false }
  | .comment text => settled (b.insertComment text)
  | .doctype _ | .endOfFile => settled b
  | .startTag tag =>
    let isBreakout := tag.name ∈ breakouts || (tag.name = "font" &&
      tag.attributes.any fun (name, _) => name ∈ ["color", "face", "size"])
    if isBreakout then again b.leaveForeign
    else
      let vocabulary := match b.current?.bind b.element? with
        | some (v, _) => v
        | none => .html
      let b := b.insertForeign vocabulary tag
      settled (if tag.selfClosing then b.pop else b)
  | .endTag name =>
    if name ∈ ["br", "p"] then again b.leaveForeign
    else
      let named (n : Nat) : Bool := match b.element? n with
        | some (_, other) => other = name
        | none => false
      match b.openNodes.tail.find? fun n => named n || !b.isForeign n with
      | some n =>
        if b.current?.any named then settled b.pop
        else if b.isForeign n then
          settled { b with openNodes := (b.openNodes.dropWhile (· != n)).tail }
        else byMode b t
      | none => settled (if b.current?.any named then b.pop else b)

/-! ### Pages -/

/-- Treat a token until it is settled, at most as often as `rounds`. -/
def processRounds (t : Token) : Nat → Builder → Builder
  | 0, b => b
  | rounds + 1, b =>
    match if b.usesForeignRules t then inForeign b t else byMode b t with
    | .settled b => b
    | .again b => processRounds t rounds b

/-- Treat a token. A token is treated again at most once per open element and mode. -/
def process (b : Builder) (t : Token) : Builder :=
  let dropped := b.dropsLineBreak && t = .char '\n'
  let b := { b with dropsLineBreak := false }
  if dropped then b else processRounds t (2 * b.openNodes.length + 32) b

/-- Treat a token as it is read, noting the name of a start tag. -/
def receive (b : Builder) (t : Token) : Builder :=
  match t with
  | .startTag tag => { b.process t with lastStart := tag.name }
  | _ => b.process t

/-- Whether marked sections are text here. -/
def isInForeign (b : Builder) : Bool := b.current?.any b.isForeign

/-- Read the rest of a page; `fuel` is at least its length. -/
def readRest : Nat → TextMode → List Char → Builder → Builder
  | 0, _, _, b => b.process .endOfFile
  | _ + 1, _, [], b => b.process .endOfFile
  | fuel + 1, mode, c :: rest, b =>
    let (tokens, mode, rest) := Tokenizer.next mode b.isInForeign b.lastStart c rest
    let b := tokens.foldl receive b
    readRest fuel (b.textMode.getD mode) rest { b with textMode := none }

end Builder

def Document.ofPage (page : List Char) : Document :=
  let page := Tokenizer.normalize page
  (Builder.readRest (page.length + 1) .data page {}).arena.toDocument

end ModuleArchive.Html
