import ModuleArchive.Text.NormalForm
import ModuleArchive.Url.Domain.Joining.Table

/-!
# Marks and joiners

A label does not start with a mark. A joiner may stand only where it makes a difference that
readers see: behind a mark that kills the vowel of a letter, or, if it keeps letters apart,
between two letters that would join.
-/
namespace ModuleArchive.Url.Domain.Joining

open Text

def marks : Array (Nat × Nat × List Nat) := CodeTable.ranges markTable
def transparent : Array (Nat × Nat × List Nat) := CodeTable.ranges transparentTable
def forward : Array (Nat × Nat × List Nat) := CodeTable.ranges forwardTable
def backward : Array (Nat × Nat × List Nat) := CodeTable.ranges backwardTable
def both : Array (Nat × Nat × List Nat) := CodeTable.ranges bothTable

/-- Whether a character combines with the one before it. -/
def isMark (c : Char) : Bool := CodeTable.mem marks c.toNat

/-- Whether joining passes through a character. -/
def isTransparent (c : Char) : Bool := CodeTable.mem transparent c.toNat

def joinsNext (c : Char) : Bool :=
  CodeTable.mem forward c.toNat || CodeTable.mem both c.toNat

/-- Whether a character joins the one before it. -/
def joinsPrevious (c : Char) : Bool :=
  CodeTable.mem backward c.toNat || CodeTable.mem both c.toNat

/-- The character that keeps its neighbours apart, and the one that makes them join. -/
def nonJoiner : Char := '\u200c'
def joiner : Char := '\u200d'

/-- The combining class of marks that kill the vowel of a letter. -/
def vowelKiller : Nat := 9

/-- The first character that joining does not pass through. -/
def firstSolid? (text : List Char) : Option Char := text.find? fun c => !isTransparent c

/-- Whether the joiners in a text are where they may be. What is before the text is given last
character first. -/
def joinersAllowed (before : List Char) : List Char → Bool
  | [] => true
  | c :: rest =>
    let followsKiller := before.head?.any fun b => NormalForm.combiningClass b = vowelKiller
    let separates := (firstSolid? before).any joinsNext && (firstSolid? rest).any joinsPrevious
    let isAllowed :=
      if c = nonJoiner then followsKiller || separates
      else if c = joiner then followsKiller
      else true
    isAllowed && joinersAllowed (c :: before) rest

/-- Whether the marks and joiners of a label are where they may be. -/
def check (label : List Char) : Bool :=
  !label.head?.any isMark && joinersAllowed [] label

end ModuleArchive.Url.Domain.Joining
