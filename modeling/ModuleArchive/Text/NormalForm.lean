import ModuleArchive.Text.Classes
import ModuleArchive.Text.CodeTable
import ModuleArchive.Text.NormalForm.Table

/-!
# The composed normal form

Texts that look the same may be written differently: a letter with an accent is one character
or two, and marks on a letter may come in different orders. The normal form takes all
characters apart, sorts the marks by their classes, and puts together what can be put together.
-/
namespace ModuleArchive.Text.NormalForm

/-! ### Data -/

/-- Marks and their combining classes. -/
def classes : Array (Nat × Nat × List Nat) := CodeTable.ranges classTable

/-- Characters with the two that they are made of. -/
def composites : Array (Char × Char × Char) :=
  (CodeTable.rows compositeTable).filterMap fun
    | [whole, first, second] => some (.ofNat whole, .ofNat first, .ofNat second)
    | _ => none

/-- Characters that are only taken apart, with their parts. -/
def apart : Array (Char × List Char) :=
  (CodeTable.rows apartTable).filterMap fun
    | whole :: parts => some (.ofNat whole, parts.map Char.ofNat)
    | [] => none

/-- The combining class of a character; 0 for all that are no marks. -/
def combiningClass (c : Char) : Nat :=
  match CodeTable.find? classes c.toNat with
  | some [k] => k
  | _ => 0

/-! ### Syllables -/

/-- Where the composed syllables and their leading, vowel and trailing parts begin. -/
def syllableBase : Nat := 0xAC00
def leadBase : Nat := 0x1100
def vowelBase : Nat := 0x1161
def trailBase : Nat := 0x11A7

/-- How many leading parts there are, how many vowels, and how many trailing parts with none. -/
def leadCount : Nat := 19
def vowelCount : Nat := 21
def trailCount : Nat := 28

def syllableParts? (c : Char) : Option (List Char) :=
  let i := c.toNat - syllableBase
  if c.toNat < syllableBase ∨ leadCount * vowelCount * trailCount ≤ i then none
  else
    let front := [Char.ofNat (leadBase + i / (vowelCount * trailCount)),
      Char.ofNat (vowelBase + i / trailCount % vowelCount)]
    some (if i % trailCount = 0 then front else front ++ [Char.ofNat (trailBase + i % trailCount)])

/-- The syllable of a leading part and a vowel, or of a syllable without a trailing part and
one. -/
def joinSyllable? (a b : Char) : Option Char :=
  let lead := a.toNat - leadBase
  let vowel := b.toNat - vowelBase
  let syllable := a.toNat - syllableBase
  let trail := b.toNat - trailBase
  if leadBase ≤ a.toNat ∧ lead < leadCount ∧ vowelBase ≤ b.toNat ∧ vowel < vowelCount then
    some (.ofNat (syllableBase + (lead * vowelCount + vowel) * trailCount))
  else if syllableBase ≤ a.toNat ∧ syllable < leadCount * vowelCount * trailCount ∧
      syllable % trailCount = 0 ∧ trailBase < b.toNat ∧ trail < trailCount then
    some (.ofNat (a.toNat + trail))
  else none

/-! ### Taking apart and putting together -/

/-- The parts of a character; `steps` bounds how often a part has parts itself. -/
def partsWithin : Nat → Char → List Char
  | 0, c => [c]
  | steps + 1, c =>
    match syllableParts? c with
    | some parts => parts
    | none =>
      match composites.find? (·.1 = c) with
      | some (_, first, second) => partsWithin steps first ++ [second]
      | none => ((apart.find? (·.1 = c)).map (·.2)).getD [c]

def parts (c : Char) : List Char := partsWithin 4 c

/-- The character that two characters make. -/
def join? (a b : Char) : Option Char :=
  match joinSyllable? a b with
  | some c => some c
  | none => (composites.find? fun (_, first, second) => first = a && second = b).map (·.1)

/-- Put a character behind others, last one first, and before the marks of higher classes that
they end with. -/
def insertMark (c : Char) : List Char → List Char
  | [] => [c]
  | last :: before =>
    if combiningClass c ≠ 0 ∧ combiningClass c < combiningClass last then
      last :: insertMark c before
    else c :: last :: before

/-- All characters taken apart, with their marks in order. -/
def decompose (text : List Char) : List Char :=
  ((text.flatMap parts).foldl (fun done c => insertMark c done) []).reverse

/-- Put together what follows a character that is no mark, or the start of the text. The marks
between that character and the rest are given last one first. A character joins only if no
mark of its class or of a higher one is in between. -/
def composeFrom : Option Char → List Char → List Char → List Char
  | starter, marks, [] => starter.toList ++ marks.reverse
  | starter, marks, c :: rest =>
    let isBlocked := match marks with
      | [] => false
      | last :: _ => combiningClass c ≤ combiningClass last
    match if isBlocked then none else starter.bind (join? · c) with
    | some whole => composeFrom (some whole) marks rest
    | none =>
      if combiningClass c = 0 then starter.toList ++ marks.reverse ++ composeFrom (some c) [] rest
      else composeFrom starter (c :: marks) rest

/-- The normal form of a text. In ASCII nothing is taken apart or put together. -/
def compose (text : List Char) : List Char :=
  if text.all isAscii then text else composeFrom none [] (decompose text)

end ModuleArchive.Text.NormalForm
