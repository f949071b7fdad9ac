import ModuleArchive.Html.Builder

/-!
# Misnested formatting

An end tag of a formatting element may come while other elements are open inside it. The
formatting element is then split: a copy of it takes over the content of the outermost
special element inside.
-/
namespace ModuleArchive.Html.Builder

/-- The HTML elements with rules of their own. -/
def specialNames : List String :=
  ["address", "applet", "area", "article", "aside", "base", "basefont", "bgsound", "blockquote",
    "body", "br", "button", "caption", "center", "col", "colgroup", "dd", "details", "dir", "div",
    "dl", "dt", "embed", "fieldset", "figcaption", "figure", "footer", "form", "frame", "frameset",
    "h1", "h2", "h3", "h4", "h5", "h6", "head", "header", "hgroup", "hr", "html", "iframe", "img",
    "input", "isindex", "li", "link", "listing", "main", "marquee", "menu", "meta", "nav",
    "noembed", "noframes", "noscript", "object", "ol", "p", "param", "plaintext", "pre", "script",
    "section", "select", "source", "style", "summary", "table", "tbody", "td", "template",
    "textarea", "tfoot", "th", "thead", "title", "tr", "track", "ul", "wbr", "xmp"]

def isSpecial (b : Builder) (n : Nat) : Bool :=
  match b.element? n with
  | some (.html, name) => name ∈ specialNames
  | some (.math, name) => name ∈ ["mi", "mo", "mn", "ms", "mtext", "annotation-xml"]
  | some (.svg, name) => name ∈ ["foreignobject", "desc", "title"]
  | none => false

/-- Treat an end tag without rules of its own: close the innermost element with that name,
unless a special element is open inside it. -/
def closeOther (b : Builder) (name : String) : Builder :=
  match b.openNodes.find? fun n => b.isHtml n [name] || b.isSpecial n with
  | some n =>
    if b.isHtml n [name] then
      let b := b.closeImplied [name]
      { b with openNodes := (b.openNodes.dropWhile (· != n)).tail }
    else b
  | none => b

def tagOf (b : Builder) (n : Nat) : Tag :=
  match b.kind n with
  | .element _ tag => tag
  | _ => ⟨"", [], false⟩

/-- The list with an element put in place of another one. -/
def replaceIn (old new : Nat) (nodes : List Nat) : List Nat :=
  nodes.map fun n => if n = old then new else n

/-- Where the copy of the formatting element goes in the list of formatting elements:
right after (that is, later than) an element, or in place of the old one. -/
inductive Bookmark where
  | inPlace
  | after (node : Nat)

/-- Go up from the special element to the formatting element, putting copies of the
formatting elements between them around `last`. `above` are the elements that were above the
last one treated, innermost first. -/
def adoptBetween (formattingNode : Nat) : Nat → Nat → Nat → Bookmark → List Nat → Builder →
    Builder × Nat × Bookmark
  | 0, _, last, mark, _, b => (b, last, mark)
  | _, _, last, mark, [], b => (b, last, mark)
  | fuel + 1, count, last, mark, node :: above, b =>
    if node = formattingNode then (b, last, mark)
    else
      let isListed := b.formatting.any (Formatting.isNode node)
      let (b, isListed) :=
        if 3 ≤ count && isListed then (b.removeFormatting node, false) else (b, isListed)
      if !isListed then
        adoptBetween formattingNode fuel (count + 1) last mark above (b.removeOpen node)
      else
        let tag := b.tagOf node
        let (b, new) := b.create (.element .html tag)
        let b := { b with
          formatting := b.formatting.map fun e =>
            if Formatting.isNode node e then .element new tag else e
          openNodes := replaceIn node new b.openNodes }
        let mark := match mark with
          | .inPlace => .after new
          | .after m => .after m
        adoptBetween formattingNode fuel (count + 1) new mark above (b.attach ⟨new, none⟩ last)

/-- The entries with the copy of the formatting element put where it belongs. -/
def placeFormatting (old : Nat) (entry : Formatting) (mark : Bookmark)
    (entries : List Formatting) : List Formatting :=
  match mark with
  | .inPlace => entries.map fun e => if Formatting.isNode old e then entry else e
  | .after m =>
    (entries.filter (!Formatting.isNode old ·)).flatMap fun e =>
      if Formatting.isNode m e then [entry, e] else [e]

/-- Split a formatting element around the special element `furthest`; `above` are the open
elements above that one. -/
def adopt (b : Builder) (old : Nat) (tag : Tag) (furthest : Nat) (above : List Nat) : Builder :=
  let ancestor := (above.dropWhile (· != old)).tail.head?.getD 0
  let (b, last, mark) := adoptBetween old (above.length + 1) 0 furthest .inPlace above b
  let b := b.attach (b.placeIn ancestor) last
  let (b, new) := b.create (.element .html tag)
  let b := (b.arena.children furthest).toList.foldl (fun b child => b.attach ⟨new, none⟩ child) b
  let b := b.attach ⟨furthest, none⟩ new
  { b with
    formatting := placeFormatting old (.element new tag) mark b.formatting
    openNodes := (b.openNodes.filter (· != old)).flatMap fun n =>
      if n = furthest then [new, n] else [n] }

/-- Treat the end tag of a formatting element, splitting it as often as needed, at most as
many times as `rounds`. -/
def closeFormattingRounds (name : String) : Nat → Builder → Builder
  | 0, b => b
  | rounds + 1, b =>
    match b.formattingNamed? name with
    | none => b.closeOther name
    | some (node, tag) =>
      if !(node ∈ b.openNodes) then b.removeFormatting node
      else if !b.nodeInScope node then b
      else
        let inner := b.openNodes.takeWhile (· != node)
        match inner.reverse.find? b.isSpecial with
        | none =>
          { b with openNodes := (b.openNodes.dropWhile (· != node)).tail }.removeFormatting node
        | some furthest =>
          let above := (b.openNodes.dropWhile (· != furthest)).tail
          closeFormattingRounds name rounds (b.adopt node tag furthest above)

/-- Treat the end tag of a formatting element. -/
def closeFormatting (b : Builder) (name : String) : Builder :=
  let isListed := match b.current? with
    | some n => b.formatting.any (Formatting.isNode n)
    | none => false
  if b.currentIs [name] && !isListed then b.pop else closeFormattingRounds name 8 b

end ModuleArchive.Html.Builder
