import ModuleArchive.Text.CodeTable
import ModuleArchive.Url.Domain.Direction.Table

/-!
# Directions of labels

In a domain name with a character that is written from right to left, every label has to have
a direction that shows at both of its ends: it starts with a letter, contains nothing of the
other direction, and ends with a letter or digit of its own, marks apart.
-/
namespace ModuleArchive.Url.Domain.Direction

open Text

/-- The direction of a character. -/
inductive Kind where
  | left
  | right
  | arabicNumber
  | number
  | mark
  | neutral
deriving Repr, DecidableEq

/-- The kinds of characters with their tables. -/
def tables : List (Kind × Array (Nat × Nat × List Nat)) :=
  [(.right, CodeTable.ranges rightTable), (.arabicNumber, CodeTable.ranges arabicNumberTable),
    (.number, CodeTable.ranges numberTable), (.mark, CodeTable.ranges markTable),
    (.neutral, CodeTable.ranges neutralTable)]

def kind (c : Char) : Kind :=
  match tables.find? fun (_, table) => CodeTable.mem table c.toNat with
  | some (k, _) => k
  | none => .left

/-- The kinds of characters that make a domain name one with letters from right to left. -/
def rightKinds : List Kind := [.right, .arabicNumber]

/-- Whether a character is written from right to left. -/
def isRight (c : Char) : Bool := kind c ∈ rightKinds

/-- Whether the last character, marks apart, is of one of some kinds. -/
def endsIn (allowed kinds : List Kind) : Bool :=
  (kinds.reverse.find? (· ≠ .mark)).any (· ∈ allowed)

/-- Whether the kinds of the characters of a label go together. -/
def checkKinds (kinds : List Kind) : Bool :=
  match kinds.head? with
  | none => true
  | some .left => kinds.all (· ∉ rightKinds) && endsIn [.left, .number] kinds
  | some .right =>
    kinds.all (· ≠ .left) && endsIn [.right, .number, .arabicNumber] kinds &&
      !(Kind.number ∈ kinds && Kind.arabicNumber ∈ kinds)
  | some _ => false

/-- Whether the labels of a domain name have proper directions. -/
def check (labels : List (List Char)) : Bool :=
  !(labels.any (·.any isRight)) || labels.all fun label => checkKinds (label.map kind)

end ModuleArchive.Url.Domain.Direction
