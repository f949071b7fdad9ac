import ModuleArchive.Catalog.Error
import ModuleArchive.Html.Construction
import ModuleArchive.Record
import ModuleArchive.Url.Parser

/-!
# Listing pages

A listing page shows its entries as the rows of a table of the class `modland`. The first
link of a row leads to the entry; the second cell holds a number, the track count of a group
or the size of a track. Rows without a link are headings. The page may say how many entries
were found in all, may name the group it belongs to, and may link to a next page.
-/
namespace ModuleArchive.Remote

open Html

structure Page (α : Type) where
  /-- How many entries the whole listing is said to have. -/
  count : Option Nat
  /-- The name of the group that is listed. -/
  heading : Option String
  items : List α
  hasNext : Bool

namespace Page

/-! ### Numbers -/

/-- Whether a number in a query ends here. -/
def endsNumber : List Char → Bool
  | [] => true
  | c :: _ => c == '&' || c == '#'

/-- The digits of a field `id` whose mark has been read, if it holds nothing else. -/
def numberField? : List Char → Option (List Char)
  | 'i' :: 'd' :: '=' :: rest =>
    let digits := rest.takeWhile Text.isDecimalDigit
    if !digits.isEmpty && endsNumber (rest.dropWhile Text.isDecimalDigit) then some digits else none
  | _ => none

/-- The digits of the first field `id` of a link that holds nothing else. -/
def groupNumber? : List Char → Option (List Char)
  | [] => none
  | c :: rest =>
    match if c = '?' ∨ c = '&' then numberField? rest else none with
    | some digits => some digits
    | none => groupNumber? rest

/-- Three digits at the start of a text, after a comma or not, and what follows them. -/
def digitTriple? : List Char → Option (List Char × List Char)
  | ',' :: a :: b :: c :: rest =>
    if [a, b, c].all Text.isDecimalDigit then some ([',', a, b, c], rest) else none
  | a :: b :: c :: rest =>
    if [a, b, c].all Text.isDecimalDigit then some ([a, b, c], rest) else none
  | _ => none

/-- The groups of three digits at the start of a text; `fuel` is at least its length. -/
def digitTriples : Nat → List Char → List Char
  | 0, _ => []
  | fuel + 1, text =>
    match digitTriple? text with
    | some (triple, rest) => triple ++ digitTriples fuel rest
    | none => []

/-- One to three digits and the groups of three digits that follow them. -/
def leadingCount? (text : List Char) : Option (List Char) :=
  match (text.take 3).takeWhile Text.isDecimalDigit with
  | [] => none
  | first => some (first ++ digitTriples text.length (text.drop first.length))

/-- The count after the word `Found`, which has been read. -/
def countAfterWord? (text : List Char) : Option (List Char) :=
  match text with
  | [] => none
  | c :: _ => if Text.isBlank c then leadingCount? (text.dropWhile Text.isBlank) else none

/-- The first count in a text that follows the word `Found`. -/
def foundCount? : List Char → Option (List Char)
  | [] => none
  | c :: rest =>
    match if "Found".toList.isPrefixOf (c :: rest) then countAfterWord? (rest.drop 4) else none with
    | some count => some count
    | none => foundCount? rest

/-- The number that a text shows. Commas do not count. -/
def readNumber (text : List Char) : Except Catalog.Error Nat :=
  match Decimal.readBelow? UInt64.size (Text.trim (text.filter (· != ','))) with
  | some n => .ok n
  | none => .error (.parse ("not a number: " ++ String.ofList (Text.quoted text)))

/-! ### Parts of a page -/

def shownText (node : Html.Node) : List Char := Text.trim node.innerText

def secondCell? (row : Html.Node) : Option (List Char) :=
  ((row.descendants.filter (Html.Node.isNamed "td"))[1]?).map shownText

/-- The first link of a row and where it leads. -/
def link? (row : Html.Node) : Option (Html.Node × List Char) :=
  (row.descendants.filter (Html.Node.isNamed "a")).findSome? fun node =>
    (node.attribute? "href").map fun target => (node, target)

def rows (d : Document) : List Html.Node :=
  d.selectInside (fun node => node.isNamed "table" && node.hasClass "modland")
    (Html.Node.isNamed "tr")

/-- How many entries the whole listing is said to have. -/
def countOf (d : Document) : Except Catalog.Error (Option Nat) :=
  match d.select fun node => node.isNamed "div" && node.hasClass "results" with
  | [] => .ok none
  | results :: _ =>
    match foundCount? (shownText results) with
    | none => .ok none
    | some digits => (readNumber digits).map some

/-- The name of the group that is listed. -/
def headingOf (d : Document) : Option String :=
  match d.select fun node => node.isNamed "h2" && node.hasClass "group" with
  | [] => none
  | heading :: _ =>
    let name := shownText heading
    if name.isEmpty then none else some (String.ofList name)

def linksNext (d : Document) : Bool :=
  !(d.select fun node =>
    node.isNamed "a" && node.hasClass "next" && (node.attribute? "href").isSome).isEmpty

/-- Read a page, given how a row with a link is read. -/
def ofDocument {α : Type} (readRow : Html.Node → Html.Node → List Char → Except Catalog.Error α)
    (d : Document) : Except Catalog.Error (Page α) := do
  let entries := (rows d).filterMap fun row =>
    (link? row).map fun (link, target) => (row, link, target)
  let items ← entries.mapM fun (row, link, target) => readRow row link target
  let count ← countOf d
  return ⟨count, headingOf d, items, linksNext d⟩

/-! ### Rows -/

/-- A link of a row after the name of what is wrong with it. -/
def aboutLink (what : String) (target : List Char) : Catalog.Error :=
  .parse (what ++ ": " ++ String.ofList target)

def readGroup (row link : Html.Node) (target : List Char) : Except Catalog.Error Group := do
  let some digits := groupNumber? target | .error (aboutLink "group link without id" target)
  let some id := Decimal.readBelow? UInt32.size digits
    | .error (aboutLink "group id out of range" target)
  let name := shownText link
  if name.isEmpty then .error (.parse s!"group {id} has no name")
  match secondCell? row with
  | none => return ⟨UInt32.ofNat id, String.ofList name, 0⟩
  | some cell =>
    let tracks ← readNumber cell
    if tracks < UInt32.size then return ⟨UInt32.ofNat id, String.ofList name, UInt32.ofNat tracks⟩
    else .error (aboutLink "track count out of range" cell)

/-- The track that a row shows. Its link is relative to the storage host. -/
def readTrack (storage : Url) (row _link : Html.Node) (target : List Char) :
    Except Catalog.Error Track := do
  let some url := Url.join? storage (String.ofList target)
    | .error (aboutLink "invalid track link" target)
  let path := Utf8.decodeLossy (Percent.decodeText url.pathText)
  if path.getLast? = some '/' then .error (aboutLink "track link is a directory" target)
  let some cell := secondCell? row | .error (aboutLink "track without size" target)
  let size ← readNumber cell
  return Track.ofPath (String.ofList path) (UInt64.ofNat size)

def readRow (storage : Url) :
    (s : Scope) → Html.Node → Html.Node → List Char → Except Catalog.Error s.Item
  | .bucket _ _ => readGroup
  | .tracks _ _ => readTrack storage

def ofText (storage : Url) (s : Scope) (page : List Char) : Except Catalog.Error (Page s.Item) :=
  ofDocument (readRow storage s) (Document.ofPage page)

end Page

end ModuleArchive.Remote
