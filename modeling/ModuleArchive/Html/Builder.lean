import ModuleArchive.Html.Arena

/-!
# Documents under construction

While a page is read its nodes stand in an arena. The builder keeps besides the elements that
are open, the formatting elements that have to be opened again, and where the next token is
to be treated. Here are the operations on it that the rules of the single modes are made of.
-/
namespace ModuleArchive.Html

/-- The rules that apply to the next token. -/
inductive Mode where
  | initial
  | beforeHtml
  | beforeHead
  | inHead
  | afterHead
  | inBody
  | text
  | inTable
  | inTableText
  | inCaption
  | inColumnGroup
  | inTableBody
  | inRow
  | inCell
  | inSelect
  | inSelectInTable
  | inTemplate
  | afterBody
  | inFrameset
  | afterFrameset
  | afterAfterBody
  | afterAfterFrameset
deriving Repr, DecidableEq

/-- An entry of the list of formatting elements. -/
inductive Formatting where
  /-- The border of a cell, a caption or an object. -/
  | marker
  | element (node : Nat) (tag : Tag)
deriving Repr

/-- A document under construction. -/
structure Builder where
  arena : Arena := {}
  mode : Mode := .initial
  /-- The mode to return to from a mode for text. -/
  returnMode : Mode := .inBody
  templateModes : List Mode := []
  /-- The open elements, innermost first. -/
  openNodes : List Nat := []
  /-- The formatting elements, latest first. -/
  formatting : List Formatting := []
  headNode : Option Nat := none
  formNode : Option Nat := none
  /-- Whether frames may still take the place of the body. -/
  framesetOk : Bool := true
  /-- Whether the page is laid out by the old rules. -/
  isOld : Bool := false
  /-- Whether what does not belong into a table goes before it. -/
  fosters : Bool := false
  /-- Characters found between the parts of a table, latest first. -/
  tableText : List Char := []
  /-- Whether a line break that comes next is dropped. -/
  dropsLineBreak : Bool := false
  /-- How the text behind the last start tag is to be read. -/
  textMode : Option TextMode := none
  /-- The name of the last start tag. -/
  lastStart : String := ""

namespace Builder

/-! ### Nodes -/

def kind (b : Builder) (n : Nat) : NodeKind := b.arena.kind n

/-- The vocabulary and the name of an element. -/
def element? (b : Builder) (n : Nat) : Option (Vocabulary × String) :=
  match b.kind n with
  | .element v tag => some (v, tag.name)
  | _ => none

def isHtml (b : Builder) (n : Nat) (names : List String) : Bool :=
  match b.element? n with
  | some (.html, name) => name ∈ names
  | _ => false

def detach (b : Builder) (n : Nat) : Builder := { b with arena := b.arena.detach n }

def attach (b : Builder) (place : Place) (n : Nat) : Builder :=
  { b with arena := b.arena.attach place n }

/-- Make a node that is nowhere in the tree yet. -/
def create (b : Builder) (kind : NodeKind) : Builder × Nat :=
  let n := b.arena.nodes.size
  ({ b with arena := b.arena.push kind }, n)

/-! ### Open elements -/

/-- The innermost open element. -/
def current? (b : Builder) : Option Nat := b.openNodes.head?

/-- Whether the innermost open element is an HTML element with one of the names. -/
def currentIs (b : Builder) (names : List String) : Bool :=
  match b.current? with
  | some n => b.isHtml n names
  | none => false

def hasOpen (b : Builder) (names : List String) : Bool := b.openNodes.any (b.isHtml · names)

/-- Close the innermost element. -/
def pop (b : Builder) : Builder := { b with openNodes := b.openNodes.tail }

/-- Close elements up to and with the first HTML element of one of the names. -/
def popUntil (b : Builder) (names : List String) : Builder :=
  { b with openNodes := (b.openNodes.dropWhile (!b.isHtml · names)).tail }

/-- Close elements until an HTML element of one of the names is the innermost one. -/
def clearBackTo (b : Builder) (names : List String) : Builder :=
  { b with openNodes := b.openNodes.dropWhile (!b.isHtml · names) }

/-- Close an element wherever it stands. -/
def removeOpen (b : Builder) (n : Nat) : Builder :=
  { b with openNodes := b.openNodes.filter (· != n) }

/-- The elements at which the search for an open element ends. -/
def endsScope (b : Builder) (n : Nat) : Bool :=
  match b.element? n with
  | some (.html, name) =>
    name ∈ ["applet", "caption", "html", "table", "td", "th", "marquee", "object", "template"]
  | some (.math, name) => name ∈ ["mi", "mo", "mn", "ms", "mtext", "annotation-xml"]
  | some (.svg, name) => name ∈ ["foreignobject", "desc", "title"]
  | none => false

/-- Whether one of the elements comes before any that ends the search. -/
def inScopeWith (b : Builder) (ends : Nat → Bool) (found : Nat → Bool) : Bool :=
  match b.openNodes.find? fun n => found n || ends n with
  | some n => found n
  | none => false

/-- Whether an HTML element with one of the names is in scope. -/
def inScope (b : Builder) (names : List String) : Bool :=
  b.inScopeWith b.endsScope (b.isHtml · names)

def nodeInScope (b : Builder) (n : Nat) : Bool := b.inScopeWith b.endsScope (· == n)

/-- Whether an element is in scope, not looking out of a list. -/
def inListScope (b : Builder) (name : String) : Bool :=
  b.inScopeWith (fun n => b.endsScope n || b.isHtml n ["ol", "ul"]) (b.isHtml · [name])

/-- Whether an element is in scope, not looking out of a button. -/
def inButtonScope (b : Builder) (name : String) : Bool :=
  b.inScopeWith (fun n => b.endsScope n || b.isHtml n ["button"]) (b.isHtml · [name])

/-- Whether an element is in scope within a table. -/
def inTableScope (b : Builder) (names : List String) : Bool :=
  b.inScopeWith (b.isHtml · ["html", "table", "template"]) (b.isHtml · names)

/-- Whether an element is in scope within a selection. -/
def inSelectScope (b : Builder) (name : String) : Bool :=
  b.inScopeWith (!b.isHtml · ["optgroup", "option"]) (b.isHtml · [name])

/-- Elements that other tags close without their own end tag. -/
def impliedEnds : List String :=
  ["dd", "dt", "li", "optgroup", "option", "p", "rb", "rp", "rt", "rtc"]

/-- Close elements whose end is implied, except one. -/
def closeImplied (b : Builder) (except : List String := []) : Builder :=
  let isImplied := fun n => b.isHtml n impliedEnds && !b.isHtml n except
  { b with openNodes := b.openNodes.dropWhile isImplied }

/-- Close elements whose end is implied at the end of a template. -/
def closeImpliedThoroughly (b : Builder) : Builder :=
  { b with openNodes := b.openNodes.dropWhile (b.isHtml · (impliedEnds ++
      ["caption", "colgroup", "tbody", "td", "tfoot", "th", "thead", "tr"])) }

/-! ### Insertion -/

/-- Where the next node goes, if it belongs into `target`. -/
def placeIn (b : Builder) (target : Nat) : Place :=
  if b.fosters && b.isHtml target ["table", "tbody", "tfoot", "thead", "tr"] then
    match b.openNodes.find? (b.isHtml · ["table", "template"]) with
    | none => ⟨b.openNodes.getLast?.getD 0, none⟩
    | some n =>
      if b.isHtml n ["template"] then ⟨n, none⟩
      else
        match b.arena.parent? n with
        | some p => ⟨p, some n⟩
        | none => ⟨((b.openNodes.dropWhile (· != n)).tail.head?).getD 0, none⟩
  else ⟨target, none⟩

/-- Where the next node goes. -/
def place (b : Builder) : Place := b.placeIn (b.current?.getD 0)

def insertChar (b : Builder) (c : Char) : Builder :=
  let place := b.place
  if place.parent = 0 then b else { b with arena := b.arena.attachChar place c }

def insertComment (b : Builder) (text : List Char) : Builder :=
  let place := b.place
  { b with arena := b.arena.pushAt place (.comment text) }

/-- Insert a comment at the end of a node. -/
def insertCommentIn (b : Builder) (parent : Nat) (text : List Char) : Builder :=
  { b with arena := b.arena.pushAt ⟨parent, none⟩ (.comment text) }

/-- Insert an element and open it. -/
def insertForeign (b : Builder) (v : Vocabulary) (tag : Tag) : Builder :=
  let place := b.place
  let n := b.arena.nodes.size
  { b with
    arena := b.arena.pushAt place (.element v tag)
    openNodes := n :: b.openNodes }

/-- Insert an HTML element and open it. -/
def insertElement (b : Builder) (tag : Tag) : Builder := b.insertForeign .html tag

/-- Insert an HTML element that has no content. -/
def insertVoid (b : Builder) (tag : Tag) : Builder := (b.insertElement tag).pop

/-- Insert an element whose text is read in its own way. -/
def insertText (b : Builder) (tag : Tag) (mode : TextMode) : Builder :=
  let b := b.insertElement tag
  { b with textMode := some mode, returnMode := b.mode, mode := .text }

def closeParagraph (b : Builder) : Builder := (b.closeImplied ["p"]).popUntil ["p"]

/-- Close a paragraph if one is open here. -/
def closeParagraphInScope (b : Builder) : Builder :=
  if b.inButtonScope "p" then b.closeParagraph else b

/-! ### Formatting elements -/

def Formatting.isNode (n : Nat) : Formatting → Bool
  | .marker => false
  | .element m _ => m == n

/-- Whether an entry is a border. -/
def Formatting.isMarker : Formatting → Bool
  | .marker => true
  | .element _ _ => false

/-- The entries since the last border. -/
def recentFormatting (b : Builder) : List Formatting :=
  b.formatting.takeWhile (!Formatting.isMarker ·)

/-- The last formatting element with a name since the last border. -/
def formattingNamed? (b : Builder) (name : String) : Option (Nat × Tag) :=
  b.recentFormatting.findSome? fun
    | .marker => none
    | .element n tag => if tag.name = name then some (n, tag) else none

/-- Whether two tags have the same name and the same attributes in any order. -/
def sameTag (s t : Tag) : Bool :=
  s.name == t.name && s.attributes.length == t.attributes.length &&
    s.attributes.all fun (name, value) => t.attributes.lookup name == some value

/-- Add a formatting element; of four alike the first is forgotten. -/
def pushFormatting (b : Builder) (n : Nat) (tag : Tag) : Builder :=
  let alike := b.recentFormatting.filterMap fun
    | .marker => none
    | .element m other => if sameTag tag other then some m else none
  let kept := match alike[2]? with
    | some m => b.formatting.filter (!Formatting.isNode m ·)
    | none => b.formatting
  { b with formatting := .element n tag :: kept }

/-- Forget a formatting element. -/
def removeFormatting (b : Builder) (n : Nat) : Builder :=
  { b with formatting := b.formatting.filter (!Formatting.isNode n ·) }

/-- Add a border. -/
def pushMarker (b : Builder) : Builder := { b with formatting := .marker :: b.formatting }

/-- Forget the formatting elements up to the last border, and the border. -/
def clearToMarker (b : Builder) : Builder :=
  { b with formatting := (b.formatting.dropWhile (!Formatting.isMarker ·)).tail }

/-- Open an element again, in place of a formatting element that was closed. -/
def reopen (b : Builder) (n : Nat) (tag : Tag) : Builder :=
  let b := b.insertElement tag
  let new := b.current?.getD 0
  { b with formatting := b.formatting.map fun e =>
      if Formatting.isNode n e then .element new tag else e }

/-- Open the formatting elements again that were closed since the last border. -/
def reconstruct (b : Builder) : Builder :=
  let closed := b.recentFormatting.takeWhile fun
    | .marker => false
    | .element n _ => !(n ∈ b.openNodes)
  closed.reverse.foldl (fun b e =>
    match e with
    | .marker => b
    | .element n tag => b.reopen n tag) b

def insertFormatting (b : Builder) (tag : Tag) : Builder :=
  let b := b.reconstruct.insertElement tag
  b.pushFormatting (b.current?.getD 0) tag

end Builder

end ModuleArchive.Html
