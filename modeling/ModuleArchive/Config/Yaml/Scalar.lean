import ModuleArchive.Config.Yaml.Token
import ModuleArchive.Text.Escape

/-!
# Texts in YAML

Plain, quoted and block texts. Line breaks between the words of a text are folded: a single
one is a space, and of several all but the first are kept.
-/
namespace ModuleArchive.Config.Yaml

/-- What the first line break of some and the others stand for between two words. -/
def folded (first others : List Char) : List Char :=
  if first.head? = some '\n' then if others.isEmpty then [' '] else others
  else first ++ others

/-- The space between two words. -/
structure Space where
  text : List Char
  hasBreak : Bool

/-- Read blanks and line breaks. The line breaks that were read are given by `breaks`, if
there were any. A tab that stands for indentation before the column `limit` is refused;
`fuel` is at least the length of the text. -/
def readSpace? (limit : Nat) : Nat → List Char → Option (List Char × List Char) → Cursor →
    Option (Space × Cursor)
  | 0, _, _, _ => none
  | fuel + 1, blanks, breaks, c =>
    match c.readBreak? with
    | some (b, c) =>
      match breaks with
      | none => readSpace? limit fuel [] (some (b, [])) c
      | some (first, others) => readSpace? limit fuel [] (some (first, others ++ b)) c
    | none =>
      match c.rest, breaks with
      | d :: _, none =>
        if isBlank d then readSpace? limit fuel (blanks ++ [d]) none c.skip
        else some (⟨blanks, false⟩, c)
      | d :: _, some (first, others) =>
        if d = '\t' ∧ c.column < limit then none
        else if isBlank d then readSpace? limit fuel [] breaks c.skip
        else some (⟨folded first others, true⟩, c)
      | [], none => some (⟨blanks, false⟩, c)
      | [], some (first, others) => some (⟨folded first others, true⟩, c)

/-! ### Plain texts -/

/-- Whether a character has a meaning between brackets. -/
def isFlowIndicator (c : Char) : Bool :=
  c == ',' || c == '[' || c == ']' || c == '\x7b' || c == '\x7d'

/-- The length of the word of a plain text at the start of the characters, unless it is ill
formed. -/
def wordLength? (inFlow : Bool) : List Char → Option Nat
  | [] => some 0
  | c :: rest =>
    if isBlank c || isBreak c || (inFlow && isFlowIndicator c) then some 0
    else if c = ':' then
      match rest with
      | [] => some 0
      | d :: _ =>
        if isBlank d || isBreak d then some 0
        else if inFlow && (isFlowIndicator d || d == '?') then none
        else (wordLength? inFlow rest).map (· + 1)
    else (wordLength? inFlow rest).map (· + 1)

/-- Read on in a plain text. The space before the next word is given by `space`. Tells whether
line breaks follow the text. -/
def readPlain? (inFlow : Bool) (indent : Nat) : Nat → List Char → Space → Cursor →
    Option (List Char × Bool × Cursor)
  | 0, _, _, _ => none
  | fuel + 1, done, space, c =>
    if c.isAtDocumentMark || c.rest.head? = some '#' then some (done, space.hasBreak, c)
    else
      match wordLength? inFlow c.rest with
      | none => none
      | some n =>
        let word := c.rest.take n
        let (done, hasBreak) :=
          if n = 0 then (done, space.hasBreak) else (done ++ space.text ++ word, false)
        let c := c.skip n
        match c.rest with
        | [] => some (done, hasBreak, c)
        | d :: _ =>
          if !isBlank d && !isBreak d then some (done, hasBreak, c)
          else
            match readSpace? indent (c.rest.length + 1) [] none c with
            | none => none
            | some (space, c) =>
              if !inFlow && c.column < indent then some (done, space.hasBreak, c)
              else readPlain? inFlow indent fuel done space c

/-! ### Quoted texts -/

/-- The character that a letter after a backslash stands for. -/
def escaped? (c : Char) : Option Char :=
  match c with
  | '0' => some '\x00'
  | 'a' => some '\x07'
  | 'b' => some '\x08'
  | 't' | '\t' => some '\t'
  | 'n' => some '\n'
  | 'v' => some '\x0b'
  | 'f' => some '\x0c'
  | 'r' => some '\r'
  | 'e' => some '\x1b'
  | ' ' | '"' | '/' | '\\' => some c
  | 'N' => some '\u0085'
  | '_' => some '\u00A0'
  | 'L' => some '\u2028'
  | 'P' => some '\u2029'
  | _ => none

/-- The character that an escape stands for, whose backslash has been read. -/
def readEscape? (c : Cursor) : Option (Char × Cursor) :=
  match c.rest with
  | [] => none
  | d :: rest =>
    let digits := if d = 'x' then 2 else if d = 'u' then 4 else if d = 'U' then 8 else 0
    if digits = 0 then (escaped? d).map (·, c.skip)
    else (Text.readCharCode? digits rest).map fun (e, _) => (e, c.skip (digits + 1))

/-- Read on in a text between `quote`s; `fuel` is more than the length of the text. -/
def readQuoted? (quote : Char) : Nat → List Char → Cursor → Option (List Char × Cursor)
  | 0, _, _ => none
  | fuel + 1, done, c =>
    if c.isAtDocumentMark then none
    else
      match c.rest with
      | [] => none
      | d :: rest =>
        if d = quote then
          if quote = '\'' ∧ rest.head? = some '\'' then
            readQuoted? quote fuel ('\'' :: done) (c.skip 2)
          else some (done.reverse, c.skip)
        else if d = '\\' ∧ quote = '"' then
          match c.skip.readBreak? with
          | some (_, c) =>
            match readSpace? 0 (c.rest.length + 1) [] (some ([], [])) c with
            | some (space, c) => readQuoted? quote fuel (space.text.reverse ++ done) c
            | none => none
          | none =>
            match readEscape? c.skip with
            | some (e, c) => readQuoted? quote fuel (e :: done) c
            | none => none
        else if isBlank d || isBreak d then
          match readSpace? 0 (c.rest.length + 1) [] none c with
          | some (space, c) => readQuoted? quote fuel (space.text.reverse ++ done) c
          | none => none
        else readQuoted? quote fuel (d :: done) c.skip

/-! ### Block texts -/

/-- What becomes of the line breaks at the end of a block text. -/
inductive Chomping where
  | clip
  | strip
  | keep
deriving DecidableEq

/-- The mark of a chomping. -/
def chomping? (c : Char) : Option Chomping :=
  if c = '+' then some .keep else if c = '-' then some .strip else none

/-- The indentation that a digit tells. -/
def indentation? (c : Char) : Option Nat :=
  if Decimal.isDigit c then some (Decimal.digitValue c) else none

/-- Read the marks behind the indicator of a block text. No indentation is 0. -/
def readBlockMarks? (c : Cursor) : Option (Chomping × Nat × Cursor) :=
  let marks : Chomping × Option Nat × Cursor :=
    match c.rest with
    | d :: e :: _ =>
      match chomping? d, indentation? e, indentation? d, chomping? e with
      | some ch, some n, _, _ | _, _, some n, some ch => (ch, some n, c.skip 2)
      | some ch, none, _, _ => (ch, none, c.skip)
      | _, _, some n, none => (.clip, some n, c.skip)
      | _, _, _, _ => (.clip, none, c)
    | [d] =>
      match chomping? d, indentation? d with
      | some ch, _ => (ch, none, c.skip)
      | none, some n => (.clip, some n, c.skip)
      | none, none => (.clip, none, c)
    | [] => (.clip, none, c)
  match marks with
  | (_, some 0, _) => none
  | (ch, n, c) => some (ch, n.getD 0, c)

/-- Read the empty lines of a block text and the indentation of the next line. While the
indentation of the text is not known it is 0; `widest` is that of the widest empty line. -/
def readEmptyLines? (indent : Nat) : Nat → Nat → List Char → Cursor →
    Option (List Char × Nat × Cursor)
  | 0, _, _, _ => none
  | fuel + 1, widest, done, c =>
    let spaces := (c.rest.takeWhile (· == ' ')).length
    let c := c.skip (if indent = 0 then spaces else min spaces (indent - c.column))
    let widest := max widest c.column
    if (indent = 0 ∨ c.column < indent) ∧ c.rest.head? = some '\t' then none
    else
      match c.readBreak? with
      | some (b, c) => readEmptyLines? indent fuel widest (done ++ b) c
      | none => some (done, widest, c)

/-- Read the lines of a block text, given the line break before them, whether the line before
started with a blank, and the empty lines. -/
def readBlockLines? (literal : Bool) (indent : Nat) : Nat → List Char → List Char → Bool →
    List Char → Cursor → Option (List Char × List Char × List Char × Cursor)
  | 0, _, _, _, _, _ => none
  | fuel + 1, done, lead, leadBlank, empty, c =>
    match c.rest with
    | [] => some (done, lead, empty, c)
    | d :: _ =>
      if c.column ≠ indent then some (done, lead, empty, c)
      else
        let blank := isBlank d
        let folds := !literal && lead.head? = some '\n' && !leadBlank && !blank
        let between := if folds then (if empty.isEmpty then [' '] else []) else lead
        let (line, c) := c.readWhile (!isBreak ·)
        let (lead, c) := c.readBreak?.getD ([], c)
        match readEmptyLines? indent (c.rest.length + 1) 0 [] c with
        | none => none
        | some (nextEmpty, _, c) =>
          readBlockLines? literal indent fuel (done ++ between ++ empty ++ line) lead blank
            nextEmpty c

/-- Read a block text behind its indicator; `outer` is one more than the indentation of what
surrounds it. -/
def readBlock? (literal : Bool) (outer : Nat) (c : Cursor) : Option (List Char × Cursor) := do
  let (chomping, extra, c) ← readBlockMarks? c
  let c := (c.skipWhile isBlank).skipComment
  let c ← if c.rest.isEmpty then some c else c.readBreak?.map (·.2)
  let indent := if extra = 0 then 0 else outer - 1 + extra
  let (empty, widest, c) ← readEmptyLines? indent (c.rest.length + 1) 0 [] c
  let indent := if indent = 0 then max (max widest outer) 1 else indent
  let (text, lead, empty, c) ←
    readBlockLines? literal indent (c.rest.length + 2) [] [] false empty c
  return match chomping with
    | .strip => (text, c)
    | .clip => (text ++ lead, c)
    | .keep => (text ++ lead ++ empty, c)

end ModuleArchive.Config.Yaml
