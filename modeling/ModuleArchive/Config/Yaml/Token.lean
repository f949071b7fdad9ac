/-!
# Tokens of a YAML text

A text is read with a cursor that knows its line and column, since indentation has meaning.
Line breaks are those of Unicode; a carriage return with a line feed is a single one.
-/
namespace ModuleArchive.Config.Yaml

/-- A piece of a text with a meaning of its own. -/
inductive Token where
  | version
  /-- The handle stands for the start of a tag. -/
  | tagHandle (handle start : List Char)
  | documentStart
  | documentEnd
  | blockSequenceStart
  | blockMappingStart
  | blockEnd
  | flowSequenceStart
  | flowSequenceEnd
  | flowMappingStart
  | flowMappingEnd
  | blockEntry
  | flowEntry
  | key
  | value
  | alias (name : List Char)
  | anchor (name : List Char)
  | tag (handle suffix : List Char)
  | scalar (text : List Char) (plain : Bool)
  | streamEnd
deriving Repr, DecidableEq

/-- A place in a text. -/
structure Cursor where
  rest : List Char
  line : Nat := 0
  column : Nat := 0
  index : Nat := 0

def isBreak (c : Char) : Bool :=
  c == '\n' || c == '\r' || c == '\u0085' || c == '\u2028' || c == '\u2029'

/-- Whether a character is a space or a tab. -/
def isBlank (c : Char) : Bool := c == ' ' || c == '\t'

/-- Whether a character may occur in a text at all. -/
def isAllowed (c : Char) : Bool :=
  let n := c.toNat
  n == 0x9 || n == 0xA || n == 0xD || (0x20 ≤ n && n ≤ 0x7E) || n == 0x85 ||
    (0xA0 ≤ n && n ≤ 0xFFFD) || 0x10000 ≤ n

namespace Cursor

/-- The place behind the next `n` characters, none of which is a line break. -/
def skip (c : Cursor) (n : Nat := 1) : Cursor :=
  { c with rest := c.rest.drop n, column := c.column + n, index := c.index + n }

/-- The next characters with a property, and the place behind them. -/
def readWhile (c : Cursor) (p : Char → Bool) : List Char × Cursor :=
  let run := c.rest.takeWhile p
  (run, c.skip run.length)

/-- The place behind the next characters with a property. -/
def skipWhile (c : Cursor) (p : Char → Bool) : Cursor := (c.readWhile p).2

/-- The place at the start of the line behind the next `n` characters. -/
def nextLine (c : Cursor) (n : Nat) : Cursor :=
  { rest := c.rest.drop n, line := c.line + 1, column := 0, index := c.index + n }

/-- The line break at the cursor as it counts in a text, and the place behind it. -/
def readBreak? (c : Cursor) : Option (List Char × Cursor) :=
  match c.rest with
  | '\r' :: '\n' :: _ => some (['\n'], c.nextLine 2)
  | d :: _ =>
    if d = '\u2028' ∨ d = '\u2029' then some ([d], c.nextLine 1)
    else if isBreak d then some (['\n'], c.nextLine 1)
    else none
  | [] => none

/-- Whether a blank, a line break or the end of the text follows `n` characters. -/
def endsAt (c : Cursor) (n : Nat := 0) : Bool :=
  match c.rest.drop n with
  | [] => true
  | d :: _ => isBlank d || isBreak d

/-- Whether a word of three characters stands alone at the start of a line. -/
def isAtMark (c : Cursor) (mark : String) : Bool :=
  c.column == 0 && mark.toList.isPrefixOf c.rest && c.endsAt 3

/-- Whether a document starts or ends here. -/
def isAtDocumentMark (c : Cursor) : Bool := c.isAtMark "---" || c.isAtMark "..."

/-- The place behind a comment, if there is one. -/
def skipComment (c : Cursor) : Cursor :=
  match c.rest with
  | '#' :: _ => c.skipWhile (!isBreak ·)
  | _ => c

end Cursor

end ModuleArchive.Config.Yaml
