import ModuleArchive.Config.Yaml.Scalar

/-!
# Cutting a YAML text into tokens

The scanner keeps the columns at which block collections are open and, for every level of
brackets, the place where a key may have started. A colon turns what stands at that place into
a key, and opens a block mapping if the place is indented further than the surroundings. A key
without a mark has to end on the line it started on, within 1024 characters.
-/
namespace ModuleArchive.Config.Yaml

/-- A place where a key may have started. -/
structure KeyStart where
  /-- How many tokens stand before it. -/
  tokens : Nat
  /-- Whether a colon has to follow, since nothing else may stand at this indentation. -/
  isRequired : Bool
  line : Nat
  column : Nat
  index : Nat

/-- A text that is being cut into tokens. -/
structure Scanner where
  cursor : Cursor
  /-- The tokens that were found, the last one first. -/
  tokens : List Token := []
  /-- One more than the column of the innermost block collection, or 0. -/
  indent : Nat := 0
  /-- The same for the collections around it, the innermost first. -/
  outer : List Nat := []
  /-- The place where a key may have started, per level of brackets, the innermost first. -/
  keyStarts : List (Option KeyStart) := [none]
  /-- Whether a key may start here. -/
  mayStartKey : Bool := true

namespace Scanner

/-- Whether the scanner is between brackets. -/
def inFlow (s : Scanner) : Bool := 1 < s.keyStarts.length

def add (s : Scanner) (t : Token) : Scanner := { s with tokens := t :: s.tokens }

/-- The scanner with a token put behind the first `n`. -/
def insert (s : Scanner) (n : Nat) (t : Token) : Scanner :=
  let later := s.tokens.length - n
  { s with tokens := s.tokens.take later ++ t :: s.tokens.drop later }

/-- The scanner behind the next `n` characters. -/
def advance (s : Scanner) (n : Nat) : Scanner := { s with cursor := s.cursor.skip n }

/-! ### Places of keys -/

/-- Forget the place where a key may have started on this level. -/
def dropKeyStart? (s : Scanner) : Option Scanner :=
  match s.keyStarts with
  | some k :: rest => if k.isRequired then none else some { s with keyStarts := none :: rest }
  | _ => some s

/-- Note that a key may start here. -/
def noteKeyStart? (s : Scanner) : Option Scanner :=
  if !s.mayStartKey then some s
  else
    (dropKeyStart? s).map fun s =>
      let c := s.cursor
      let start : KeyStart :=
        ⟨s.tokens.length, !s.inFlow && s.indent == c.column + 1, c.line, c.column, c.index⟩
      { s with keyStarts := some start :: s.keyStarts.tail }

/-- Forget the places of keys that would be too long by now. -/
def dropStaleKeyStarts? (s : Scanner) : Option Scanner :=
  let isStale := fun (k : KeyStart) =>
    k.line < s.cursor.line || k.index + 1024 < s.cursor.index
  if s.keyStarts.any (fun k? => k?.any fun k => isStale k && k.isRequired) then none
  else some { s with keyStarts := s.keyStarts.map (·.filter (!isStale ·)) }

/-! ### Block collections -/

/-- Close the block collections that are indented at `column` or further; the rest of the
columns is given by `outer`. -/
def closeBlocks (column : Nat) : List Nat → Scanner → Scanner
  | outer, s =>
    match outer with
    | [] => s
    | up :: rest =>
      if column < s.indent then
        closeBlocks column rest { s.add .blockEnd with indent := up, outer := rest }
      else s

/-- Close the block collections that are indented further than the cursor. -/
def unroll (s : Scanner) : Scanner :=
  if s.inFlow then s else closeBlocks (s.cursor.column + 1) s.outer s

def unrollAll (s : Scanner) : Scanner := if s.inFlow then s else closeBlocks 0 s.outer s

/-- Open a block collection at a column, behind the first `n` tokens, unless one is open
there. -/
def roll (s : Scanner) (column n : Nat) (t : Token) : Scanner :=
  if s.inFlow || column + 1 ≤ s.indent then s
  else { s.insert n t with indent := column + 1, outer := s.indent :: s.outer }

/-! ### Single tokens -/

def moveTo (s : Scanner) (c : Cursor) : Scanner := { s with cursor := c }

/-- Read the start of a collection in brackets. -/
def openFlow? (s : Scanner) (t : Token) : Option Scanner :=
  (noteKeyStart? s).map fun s =>
    { (s.add t).advance 1 with keyStarts := none :: s.keyStarts, mayStartKey := true }

/-- Read the end of a collection in brackets. -/
def closeFlow? (s : Scanner) (t : Token) : Option Scanner :=
  (dropKeyStart? s).map fun s =>
    let keyStarts := if s.inFlow then s.keyStarts.tail else s.keyStarts
    { (s.add t).advance 1 with keyStarts, mayStartKey := false }

/-- Read a comma between brackets. -/
def flowEntry? (s : Scanner) : Option Scanner :=
  (dropKeyStart? s).map fun s => { (s.add .flowEntry).advance 1 with mayStartKey := true }

/-- Read the dash of an item. -/
def blockEntry? (s : Scanner) : Option Scanner :=
  if !s.inFlow && !s.mayStartKey then none
  else
    (dropKeyStart? (s.roll s.cursor.column s.tokens.length .blockSequenceStart)).map fun s =>
      { (s.add .blockEntry).advance 1 with mayStartKey := true }

def keyMark? (s : Scanner) : Option Scanner :=
  if !s.inFlow && !s.mayStartKey then none
  else
    (dropKeyStart? (s.roll s.cursor.column s.tokens.length .blockMappingStart)).map fun s =>
      { (s.add .key).advance 1 with mayStartKey := !s.inFlow }

/-- Read the colon of a value. -/
def valueMark? (s : Scanner) : Option Scanner :=
  match s.keyStarts with
  | some k :: rest =>
    let s := { s with keyStarts := none :: rest }
    let s := (s.insert k.tokens .key).roll k.column k.tokens .blockMappingStart
    some { (s.add .value).advance 1 with mayStartKey := false }
  | _ =>
    if !s.inFlow && !s.mayStartKey then none
    else
      let s := s.roll s.cursor.column s.tokens.length .blockMappingStart
      some { (s.add .value).advance 1 with mayStartKey := !s.inFlow }

/-- Whether a character may be part of a name. -/
def isNameChar (c : Char) : Bool := c.isAlphanum || c == '_' || c == '-'

/-- Read an anchor or an alias. -/
def name? (s : Scanner) (t : List Char → Token) : Option Scanner := do
  let s ← noteKeyStart? s
  let (name, c) := s.cursor.skip.readWhile isNameChar
  let ends := match c.rest with
    | [] => true
    | d :: _ => c.endsAt || d ∈ ['?', ':', ',', ']', '\x7d', '%', '@', '\x60']
  if name.isEmpty || !ends then none
  else some { (s.add (t name)).moveTo c with mayStartKey := false }

/-- Whether a character may be part of a tag. -/
def isTagChar (c : Char) : Bool :=
  c.isAlphanum || c ∈ [';', '/', '?', ':', '@', '&', '=', '+', '$', '.', '%', '!', '~', '*',
    '\'', '(', ')', '-', '_', ',', '[', ']']

/-- Read the name of a tag: its handle, its suffix, and the place behind it. -/
def readTag? (inFlow : Bool) (c : Cursor) : Option (List Char × List Char × Cursor) :=
  match c.rest with
  | '!' :: '<' :: _ =>
    let (uri, c) := (c.skip 2).readWhile isTagChar
    match c.rest with
    | '>' :: _ => if uri.isEmpty then none else some ([], uri, c.skip)
    | _ => none
  | _ =>
    let isSuffixChar := fun d => isTagChar d && !(inFlow && isFlowIndicator d)
    let (word, after) := c.skip.readWhile isNameChar
    match after.rest with
    | '!' :: _ =>
      let (suffix, c) := after.skip.readWhile isSuffixChar
      if suffix.isEmpty then none else some ('!' :: (word ++ ['!']), suffix, c)
    | _ =>
      let (suffix, c) := c.skip.readWhile isSuffixChar
      some (['!'], suffix, c)

def tag? (s : Scanner) : Option Scanner := do
  let s ← noteKeyStart? s
  let (handle, suffix, c) ← readTag? s.inFlow s.cursor
  let ends := c.endsAt || (s.inFlow && c.rest.head? = some ',')
  if ends then some { (s.add (.tag handle suffix)).moveTo c with mayStartKey := false } else none

def quoted? (s : Scanner) (quote : Char) : Option Scanner := do
  let s ← noteKeyStart? s
  let (text, c) ← readQuoted? quote (s.cursor.rest.length + 1) [] s.cursor.skip
  some { (s.add (.scalar text false)).moveTo c with mayStartKey := false }

def block? (s : Scanner) (literal : Bool) : Option Scanner := do
  let s ← dropKeyStart? s
  let (text, c) ← readBlock? literal s.indent s.cursor.skip
  some { (s.add (.scalar text false)).moveTo c with mayStartKey := true }

def plain? (s : Scanner) : Option Scanner := do
  let s ← noteKeyStart? s
  let (text, hasBreak, c) ←
    readPlain? s.inFlow s.indent (s.cursor.rest.length + 1) [] ⟨[], false⟩ s.cursor
  some { (s.add (.scalar text true)).moveTo c with mayStartKey := hasBreak }

/-- The token of a directive and the place behind it. -/
def readDirective? (c : Cursor) : Option (Token × Cursor) :=
  let (name, c) := c.readWhile isNameChar
  let c := c.skipWhile isBlank
  if name = "YAML".toList then
    match c.rest with
    | '1' :: '.' :: minor :: _ =>
      if minor = '1' ∨ minor = '2' then some (.version, c.skip 3) else none
    | _ => none
  else if name = "TAG".toList then
    let (handle, c) := c.readWhile fun d => isNameChar d || d == '!'
    let (start, after) := (c.skipWhile isBlank).readWhile isTagChar
    let formed := handle.head? = some '!' && handle.getLast? = some '!' && c.endsAt &&
      !start.isEmpty
    if formed then some (.tagHandle handle start, after) else none
  else none

/-- Read a directive, which takes a line of its own. -/
def directive? (s : Scanner) : Option Scanner := do
  let s ← dropKeyStart? s.unrollAll
  let (t, c) ← readDirective? s.cursor.skip
  if !c.endsAt then none
  else
    let c := (c.skipWhile isBlank).skipComment
    if c.endsAt then some { (s.add t).moveTo c with mayStartKey := false } else none

/-- Read the mark of the start or the end of a document. -/
def documentMark? (s : Scanner) (t : Token) : Option Scanner :=
  (dropKeyStart? s.unrollAll).map fun s => { (s.add t).advance 3 with mayStartKey := false }

/-! ### Whole texts -/

/-- Move on to the next token; `fuel` is more than the length of the text. -/
def skipFiller : Nat → Scanner → Scanner
  | 0, s => s
  | fuel + 1, s =>
    let c := if s.cursor.index = 0 ∧ s.cursor.rest.head? = some '\uFEFF' then s.cursor.skip
      else s.cursor
    let isBlank := fun d => d == ' ' || (d == '\t' && (s.inFlow || !s.mayStartKey))
    let c := (c.skipWhile isBlank).skipComment
    match c.readBreak? with
    | some (_, c) =>
      skipFiller fuel { s.moveTo c with mayStartKey := s.mayStartKey || !s.inFlow }
    | none => s.moveTo c

/-- Whether no plain text may start with a character. -/
def isIndicator (c : Char) : Bool :=
  c ∈ ['-', '?', ':', ',', '[', ']', '\x7b', '\x7d', '#', '&', '*', '!', '|', '>', '\'', '"',
    '%', '@', '\x60']

/-- Read the next token, which starts at the cursor. -/
def readToken? (s : Scanner) : Option Scanner :=
  let c := s.cursor
  let stands := c.endsAt 1
  match c.rest with
  | [] => none
  | d :: rest =>
    if c.column = 0 ∧ d = '%' then directive? s
    else if c.isAtMark "---" then documentMark? s .documentStart
    else if c.isAtMark "..." then documentMark? s .documentEnd
    else if d = '[' then openFlow? s .flowSequenceStart
    else if d = '\x7b' then openFlow? s .flowMappingStart
    else if d = ']' then closeFlow? s .flowSequenceEnd
    else if d = '\x7d' then closeFlow? s .flowMappingEnd
    else if d = ',' then flowEntry? s
    else if d = '-' ∧ stands then blockEntry? s
    else if d = '?' ∧ (s.inFlow ∨ stands) then keyMark? s
    else if d = ':' ∧ (s.inFlow ∨ stands) then valueMark? s
    else if d = '*' then name? s .alias
    else if d = '&' then name? s .anchor
    else if d = '!' then tag? s
    else if d = '|' ∧ !s.inFlow then block? s true
    else if d = '>' ∧ !s.inFlow then block? s false
    else if d = '\'' ∨ d = '"' then quoted? s d
    else if (!isIndicator d && !isBlank d) || (d = '-' && !rest.head?.any isBlank) ||
        (!s.inFlow && (d = '?' || d = ':')) then plain? s
    else none

/-- Read the rest of a text; `fuel` is more than its length. -/
def run? : Nat → Scanner → Option Scanner
  | 0, _ => none
  | fuel + 1, s =>
    let s := skipFiller (s.cursor.rest.length + 1) s
    match dropStaleKeyStarts? s with
    | none => none
    | some s =>
      let s := s.unroll
      if s.cursor.rest.isEmpty then (dropKeyStart? s.unrollAll).map (·.add .streamEnd)
      else (readToken? s).bind (run? fuel)

end Scanner

def tokens? (text : List Char) : Option (List Token) :=
  if !text.all isAllowed then none
  else (Scanner.run? (text.length + 1) { cursor := ⟨text, 0, 0, 0⟩ }).map (·.tokens.reverse)

end ModuleArchive.Config.Yaml
