import ModuleArchive.Html.Token
import ModuleArchive.Text.Split
import ModuleArchive.Text.Classes

/-!
# Documents

The tree of a page: elements with attributes, and text. Elements are found by name and
class among the descendants of a node, in document order.
-/
namespace ModuleArchive.Html

inductive Vocabulary where
  | html
  | svg
  | math
deriving Repr, DecidableEq

inductive Node where
  | text (chars : List Char)
  | comment (chars : List Char)
  | element (vocabulary : Vocabulary) (name : String) (attributes : Attributes)
      (children : List Node)

namespace Node

mutual

def innerText : Node → List Char
  | text chars => chars
  | comment _ => []
  | element _ _ _ children => innerTexts children

def innerTexts : List Node → List Char
  | [] => []
  | node :: rest => innerText node ++ innerTexts rest

end

def attribute? : Node → String → Option (List Char)
  | element _ _ attributes _, name => attributes.lookup name
  | _, _ => none

def isNamed (name : String) : Node → Bool
  | element _ n _ _ => n == name
  | _ => false

/-- The words of a text, with white space of any script between them. -/
def words (text : List Char) : List (List Char) :=
  (Text.splitOn ' ' (text.map fun c => if Text.isBlank c then ' ' else c)).filter (!·.isEmpty)

def hasClass (name : String) (node : Node) : Bool :=
  match node.attribute? "class" with
  | some value => name.toList ∈ words value
  | none => false

mutual

def selfAndBelow (node : Node) : List Node :=
  match node with
  | element _ _ _ children => node :: allBelow children
  | _ => [node]

/-- Some nodes and all below them, in document order. -/
def allBelow : List Node → List Node
  | [] => []
  | node :: rest => selfAndBelow node ++ allBelow rest

end

/-- All nodes below a node, in document order. -/
def descendants : Node → List Node
  | element _ _ _ children => allBelow children
  | _ => []

mutual

/-- The nodes with a property that lie below a node with another one, in document order.
`isInside` tells whether the node lies below such a node itself. -/
def inside (outer inner : Node → Bool) (isInside : Bool) (node : Node) : List Node :=
  match node with
  | element _ _ _ children =>
    let found := allInside outer inner (isInside || outer node) children
    if isInside && inner node then node :: found else found
  | _ => []

/-- The nodes with a property in some trees. -/
def allInside (outer inner : Node → Bool) (isInside : Bool) : List Node → List Node
  | [] => []
  | node :: rest => inside outer inner isInside node ++ allInside outer inner isInside rest

end

end Node

/-- A document: the nodes at its top. -/
structure Document where
  nodes : List Node

namespace Document

/-- All elements with a property, in document order. -/
def select (d : Document) (p : Node → Bool) : List Node := (Node.allBelow d.nodes).filter p

/-- All elements with a property that lie below an element with another one. -/
def selectInside (d : Document) (outer inner : Node → Bool) : List Node :=
  Node.allInside outer inner false d.nodes

end Document

end ModuleArchive.Html
