import ModuleArchive.Html.Document

/-!
# Nodes under construction

While a page is read its nodes stand in an arena, where they are known by number and can be
moved. The first node is the document.
-/
namespace ModuleArchive.Html

inductive NodeKind where
  | document
  | text (reversed : List Char)
  | comment (chars : List Char)
  | element (vocabulary : Vocabulary) (tag : Tag)
deriving Repr

structure ArenaNode where
  kind : NodeKind
  parent : Option Nat := none
  children : Array Nat := #[]
deriving Repr

/-- Nodes that are known by number. -/
structure Arena where
  nodes : Array ArenaNode := #[⟨.document, none, #[]⟩]

/-- A place for a node: in a parent, before one of its children or at the end. -/
structure Place where
  parent : Nat
  before : Option Nat := none

namespace Place

/-- The index of the child before which a place lies. -/
def index? (place : Place) (children : Array Nat) : Option Nat :=
  match place.before with
  | some sibling => children.findIdx? (· == sibling)
  | none => none

/-- The children with one more at a place. -/
def insertInto (place : Place) (children : Array Nat) (n : Nat) : Array Nat :=
  match place.index? children with
  | some i => (children.extract 0 i).push n ++ children.extract i children.size
  | none => children.push n

end Place

namespace Arena

def kind (a : Arena) (n : Nat) : NodeKind :=
  match a.nodes[n]? with
  | some node => node.kind
  | none => .document

def parent? (a : Arena) (n : Nat) : Option Nat := a.nodes[n]? |>.bind (·.parent)

def children (a : Arena) (n : Nat) : Array Nat :=
  match a.nodes[n]? with
  | some node => node.children
  | none => #[]

def modify (a : Arena) (n : Nat) (f : ArenaNode → ArenaNode) : Arena := ⟨a.nodes.modify n f⟩

/-- The arena after a node has been taken out of its parent. -/
def detach (a : Arena) (n : Nat) : Arena :=
  match a.parent? n with
  | none => a
  | some p =>
    (a.modify p fun node => { node with children := node.children.filter (· != n) }).modify n
      fun node => { node with parent := none }

def attach (a : Arena) (place : Place) (n : Nat) : Arena :=
  ((a.detach n).modify place.parent fun node =>
      { node with children := place.insertInto node.children n }).modify n
    fun node => { node with parent := some place.parent }

/-- Make a node that is nowhere in the tree yet; its number is the size of the arena. -/
def push (a : Arena) (kind : NodeKind) : Arena := ⟨a.nodes.push ⟨kind, none, #[]⟩⟩

def pushAt (a : Arena) (place : Place) (kind : NodeKind) : Arena :=
  let n := a.nodes.size
  (a.push kind).attach place n

/-- The child before which a place lies, on its left side. -/
def leftOf? (a : Arena) (place : Place) : Option Nat :=
  let children := a.children place.parent
  match place.index? children with
  | some i => if i = 0 then none else children[i - 1]?
  | none => children.back?

/-- The text that lies on the left side of a place, with its characters latest first. -/
def textLeftOf? (a : Arena) (place : Place) : Option (Nat × List Char) :=
  match a.leftOf? place with
  | none => none
  | some n =>
    match a.kind n with
    | .text reversed => some (n, reversed)
    | _ => none

/-- Put a character at a place, into the text that is there or a new one. -/
def attachChar (a : Arena) (place : Place) (c : Char) : Arena :=
  match a.textLeftOf? place with
  | some (n, reversed) => a.modify n fun node => { node with kind := .text (c :: reversed) }
  | none => a.pushAt place (.text [c])

/-- The node with a number and all below it; `fuel` is at least the depth of the arena. -/
def toNode (a : Arena) : Nat → Nat → Option Node
  | 0, _ => none
  | fuel + 1, n =>
    match a.nodes[n]? with
    | none => none
    | some node =>
      match node.kind with
      | .document => none
      | .text reversed => some (.text reversed.reverse)
      | .comment chars => some (.comment chars)
      | .element v tag =>
        some (.element v tag.name tag.attributes
          (node.children.toList.filterMap (toNode a fuel)))

/-- The document as far as it has been built. -/
def toDocument (a : Arena) : Document :=
  ⟨(a.children 0).toList.filterMap (a.toNode (a.nodes.size + 1))⟩

end Arena

end ModuleArchive.Html
