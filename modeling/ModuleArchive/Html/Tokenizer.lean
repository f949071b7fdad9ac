import ModuleArchive.Html.Token
import ModuleArchive.Html.Entity
import ModuleArchive.Text.Decimal
import ModuleArchive.Text.Classes
import ModuleArchive.Text.Percent

/-!
# Reading tokens

The next token of a page. How text is read depends on the element it stands in, which the
construction of the document tells; so tokens are read one at a time. Nothing is ever
refused: what is malformed is read as text or as a comment, or dropped.
-/
namespace ModuleArchive.Html.Tokenizer

/-- Drop a prefix that may be in any case. -/
def dropPrefix? (lower : List Char) (text : List Char) : Option (List Char) :=
  match lower, text with
  | [], rest => some rest
  | _ :: _, [] => none
  | l :: lower, c :: rest => if c.toLower = l then dropPrefix? lower rest else none

/-- A character of a name or a value, where NUL is replaced. -/
def replaceNul (c : Char) : Char := if c = '\x00' then '\uFFFD' else c

/-! ### Character references -/

/-- What the numbers from 128 to 159 stand for. -/
def windowsCodes : List (Nat × Nat) :=
  [(0x80, 0x20AC), (0x82, 0x201A), (0x83, 0x0192), (0x84, 0x201E), (0x85, 0x2026), (0x86, 0x2020),
    (0x87, 0x2021), (0x88, 0x02C6), (0x89, 0x2030), (0x8A, 0x0160), (0x8B, 0x2039),
    (0x8C, 0x0152), (0x8E, 0x017D), (0x91, 0x2018), (0x92, 0x2019), (0x93, 0x201C),
    (0x94, 0x201D), (0x95, 0x2022), (0x96, 0x2013), (0x97, 0x2014), (0x98, 0x02DC),
    (0x99, 0x2122), (0x9A, 0x0161), (0x9B, 0x203A), (0x9C, 0x0153), (0x9E, 0x017E), (0x9F, 0x0178)]

/-- The character that a number stands for. -/
def numbered (n : Nat) : Char :=
  match windowsCodes.lookup n with
  | some code => Char.ofNat code
  | none =>
    if n = 0 ∨ 0x10FFFF < n ∨ (0xD800 ≤ n ∧ n ≤ 0xDFFF) then '\uFFFD' else Char.ofNat n

/-- A numeric reference behind its `#`, and what follows it. -/
def numericReference? (text : List Char) : Option (Char × List Char) :=
  let (base, digits) : Nat × List Char := match text with
    | 'x' :: rest | 'X' :: rest => (16, rest)
    | _ => (10, text)
  let isDigit (c : Char) := match Percent.hexValue? c.toNat with
    | some d => d < base
    | none => false
  let run := digits.takeWhile isDigit
  if run.isEmpty then none
  else
    let n := run.foldl (fun n c => min 0x110000 (n * base + (Percent.hexValue? c.toNat).getD 0)) 0
    let rest := match digits.dropWhile isDigit with
      | ';' :: rest => rest
      | rest => rest
    some (numbered n, rest)

/-- The reference behind an ampersand, and what follows it. In the value of an attribute a
name without semicolon does not count if it could be the name of a parameter. -/
def reference? (inAttribute : Bool) (text : List Char) : Option (List Char × List Char) :=
  match text with
  | '#' :: rest => (numericReference? rest).map fun (c, rest) => ([c], rest)
  | _ =>
    match Entity.longest? text with
    | none => none
    | some (n, value) =>
      let rest := text.drop n
      let ends := (text.take n).getLast? = some ';'
      let goesOn := match rest with
        | c :: _ => c == '=' || c.isAlphanum
        | [] => false
      if inAttribute && !ends && goesOn then none else some (value, rest)

/-- A text with its references replaced; `fuel` is at least its length. -/
def expand (inAttribute : Bool) : Nat → List Char → List Char
  | 0, _ => []
  | _ + 1, [] => []
  | fuel + 1, '&' :: rest =>
    match reference? inAttribute rest with
    | some (value, rest) => value ++ expand inAttribute fuel rest
    | none => '&' :: expand inAttribute fuel rest
  | fuel + 1, c :: rest => replaceNul c :: expand inAttribute fuel rest

def attributeValue (raw : List Char) : List Char := expand true raw.length raw

/-! ### Tags -/

/-- What follows the first `mark`, and the text before it; `none` if there is no `mark`. -/
def upTo? (mark : Char) (text : List Char) : Option (List Char × List Char) :=
  match text.dropWhile (· != mark) with
  | [] => none
  | _ :: rest => some (text.takeWhile (· != mark), rest)

theorem length_dropWhile_le {α : Type} (p : α → Bool) (xs : List α) :
    (xs.dropWhile p).length ≤ xs.length :=
  (List.dropWhile_suffix p).length_le

/-- What follows the element at which dropping stops is shorter than the list. -/
theorem length_lt_of_dropWhile {α : Type} {p : α → Bool} {xs rest : List α} {x : α}
    (h : xs.dropWhile p = x :: rest) : rest.length < xs.length := by
  have hle := length_dropWhile_le p xs
  rw [h, List.length_cons] at hle
  omega

/-- What follows a mark is shorter than the text. -/
theorem length_lt_of_upTo? {mark : Char} {text before rest : List Char}
    (h : upTo? mark text = some (before, rest)) : rest.length < text.length := by
  unfold upTo? at h
  split at h
  · cases h
  · next hd =>
    cases h
    exact length_lt_of_dropWhile hd

def endsName (c : Char) : Bool := Text.isAsciiBlank c || c == '/' || c == '>'

def nameOf (raw : List Char) : String := String.ofList (raw.map fun c => (replaceNul c).toLower)

/-- The attributes with one more, unless its name was there before. -/
def addAttribute (attributes : Attributes) (name : String) (value : List Char) : Attributes :=
  if attributes.any (·.1 = name) then attributes else attributes ++ [(name, value)]

/-- The value behind the equals sign of an attribute, and what follows it. -/
def readValue? (text : List Char) : Option (List Char × List Char) :=
  match text.dropWhile Text.isAsciiBlank with
  | '"' :: rest => upTo? '"' rest
  | '\'' :: rest => upTo? '\'' rest
  | rest =>
    let ends (c : Char) := Text.isAsciiBlank c || c == '>'
    some (rest.takeWhile (!ends ·), rest.dropWhile (!ends ·))

theorem length_le_of_readValue? {text raw rest : List Char}
    (h : readValue? text = some (raw, rest)) : rest.length ≤ text.length := by
  unfold readValue? at h
  split at h
  · next hd => exact Nat.le_of_lt (Nat.lt_trans (length_lt_of_upTo? h) (length_lt_of_dropWhile hd))
  · next hd => exact Nat.le_of_lt (Nat.lt_trans (length_lt_of_upTo? h) (length_lt_of_dropWhile hd))
  · cases h
    exact Nat.le_trans (length_dropWhile_le _ _) (length_dropWhile_le _ _)

def endsAttributeName (c : Char) : Bool := endsName c || c == '='

/-- The attribute that starts with `c`, and what follows it; `none` if the page ends inside
its value. -/
def readAttribute? (c : Char) (text : List Char) : Option ((String × List Char) × List Char) :=
  let name := nameOf (c :: text.takeWhile (!endsAttributeName ·))
  let rest := text.dropWhile (!endsAttributeName ·)
  match rest.dropWhile Text.isAsciiBlank with
  | '=' :: afterEquals =>
    (readValue? afterEquals).map fun (raw, rest) => ((name, attributeValue raw), rest)
  | _ => some ((name, []), rest)

theorem length_le_of_readAttribute? {c : Char} {text rest : List Char}
    {found : String × List Char} (h : readAttribute? c text = some (found, rest)) :
    rest.length ≤ text.length := by
  have hle := length_dropWhile_le (!endsAttributeName ·) text
  simp only [readAttribute?] at h
  split at h
  · next hd =>
    obtain ⟨⟨raw, after⟩, hv, he⟩ := Option.map_eq_some_iff.1 h
    simp only [Prod.mk.injEq] at he
    obtain ⟨-, rfl⟩ := he
    exact Nat.le_trans (length_le_of_readValue? hv)
      (Nat.le_trans (Nat.le_of_lt (length_lt_of_dropWhile hd)) hle)
  · cases h
    exact hle

/-- The attributes of a tag, whether it closes itself, and what follows it; `none` if the
page ends inside the tag. -/
def readAttributes? (attributes : Attributes) (text : List Char) :
    Option (Attributes × Bool × List Char) :=
  match h : text.dropWhile Text.isAsciiBlank with
  | [] => none
  | '>' :: rest => some (attributes, false, rest)
  | '/' :: '>' :: rest => some (attributes, true, rest)
  | '/' :: rest =>
    have := length_lt_of_dropWhile h
    readAttributes? attributes rest
  | c :: rest =>
    match found : readAttribute? c rest with
    | none => none
    | some ((name, value), after) =>
      have := Nat.lt_of_le_of_lt (length_le_of_readAttribute? found) (length_lt_of_dropWhile h)
      readAttributes? (addAttribute attributes name value) after
termination_by text.length
decreasing_by all_goals exact this

/-- A tag from its name on, and what follows it. -/
def readTag? (text : List Char) : Option (Tag × List Char) :=
  let name := nameOf (text.takeWhile (!endsName ·))
  let rest := text.dropWhile (!endsName ·)
  (readAttributes? [] rest).map fun (attributes, selfClosing, rest) =>
    (⟨name, attributes, selfClosing⟩, rest)

/-! ### Comments and declarations -/

/-- The text of a comment with two dashes at its start, and what follows it. -/
def readComment (acc : List Char) : List Char → List Char × List Char
  | '-' :: '-' :: '>' :: rest => (acc.reverse, rest)
  | '-' :: '-' :: '!' :: '>' :: rest => (acc.reverse, rest)
  | ['-', '-', '!'] | ['-', '-'] | ['-'] => (acc.reverse, [])
  | c :: rest => readComment (replaceNul c :: acc) rest
  | [] => (acc.reverse, [])

def comment : List Char → List Char × List Char
  | '>' :: rest | '-' :: '>' :: rest => ([], rest)
  | text => readComment [] text

/-- A declaration that is nothing known: a comment up to the next closing bracket. -/
def bogusComment (text : List Char) : List Char × List Char :=
  ((text.takeWhile (· != '>')).map replaceNul, (text.dropWhile (· != '>')).drop 1)

/-- A quoted identifier of a document type: the text, whether it was closed, and what
follows it. -/
def readIdentifier (quote : Char) (text : List Char) : List Char × Bool × List Char :=
  let ends (c : Char) := c == quote || c == '>'
  let value := (text.takeWhile (!ends ·)).map replaceNul
  match text.dropWhile (!ends ·) with
  | c :: rest => if c = quote then (value, true, rest) else (value, false, c :: rest)
  | [] => (value, false, [])

/-- What follows the end of a declaration. -/
def afterDeclaration (text : List Char) : List Char := (text.dropWhile (· != '>')).drop 1

/-- Whether a declaration is closed at all. -/
def isClosed (text : List Char) : Bool := text.any (· == '>')

/-- The system identifier of a document type, if there is one, and what follows the
declaration. -/
def readSystem (d : Doctype) (text : List Char) : Doctype × List Char :=
  match text.dropWhile Text.isAsciiBlank with
  | [] => ({ d with isBroken := true }, [])
  | c :: rest =>
    if c = '>' then (d, rest)
    else if c = '"' ∨ c = '\'' then
      let (value, closed, rest) := readIdentifier c rest
      ({ d with
          systemId := some value
          isBroken := d.isBroken || !closed || !isClosed rest },
        afterDeclaration rest)
    else ({ d with isBroken := true }, afterDeclaration (c :: rest))

/-- A document type behind its keyword, and what follows it. -/
def readDoctype (text : List Char) : Doctype × List Char :=
  match text.dropWhile Text.isAsciiBlank with
  | [] => ({ isBroken := true }, [])
  | '>' :: rest => ({ isBroken := true }, rest)
  | text =>
    let ends (c : Char) := Text.isAsciiBlank c || c == '>'
    let name := (text.takeWhile (!ends ·)).map fun c => (replaceNul c).toLower
    let d : Doctype := { name := some name }
    match (text.dropWhile (!ends ·)).dropWhile Text.isAsciiBlank with
    | [] => ({ d with isBroken := true }, [])
    | '>' :: rest => (d, rest)
    | rest =>
      match dropPrefix? "public".toList rest with
      | some rest =>
        match rest.dropWhile Text.isAsciiBlank with
        | [] => ({ d with isBroken := true }, [])
        | c :: rest =>
          if c = '"' ∨ c = '\'' then
            let (value, closed, rest) := readIdentifier c rest
            let d := { d with publicId := some value }
            if closed then readSystem d rest
            else ({ d with isBroken := true }, afterDeclaration rest)
          else ({ d with isBroken := true }, afterDeclaration (c :: rest))
      | none =>
        match dropPrefix? "system".toList rest with
        | some rest =>
          match rest.dropWhile Text.isAsciiBlank with
          | '"' :: _ | '\'' :: _ => readSystem d rest
          | rest => ({ d with isBroken := true }, afterDeclaration rest)
        | none => ({ d with isBroken := true }, afterDeclaration rest)

/-- The text of a marked section, and what follows it. -/
def readSection (acc : List Char) : List Char → List Char × List Char
  | ']' :: ']' :: '>' :: rest => (acc.reverse, rest)
  | c :: rest => readSection (c :: acc) rest
  | [] => (acc.reverse, [])

/-- What follows `<!`. Marked sections are text, but only in foreign elements. -/
def readDeclaration (inForeign : Bool) (text : List Char) : List Token × List Char :=
  match text with
  | '-' :: '-' :: rest => let (body, rest) := comment rest; ([.comment body], rest)
  | _ =>
    match dropPrefix? "doctype".toList text with
    | some rest => let (d, rest) := readDoctype rest; ([.doctype d], rest)
    | none =>
      if inForeign && "[CDATA[".toList.isPrefixOf text then
        let (body, rest) := readSection [] (text.drop 7)
        (body.map .char, rest)
      else let (body, rest) := bogusComment text; ([.comment body], rest)

/-! ### Text -/

/-- An end tag of the element `name` behind `</`, and what follows it. -/
def readEndTag? (name : String) (text : List Char) : Option (List Char) := do
  let rest ← dropPrefix? name.toList text
  match rest with
  | [] => none
  | c :: _ =>
    if endsName c then
      match readAttributes? [] rest with
      | some (_, _, rest) => some rest
      | none => some []
    else none

/-- Whether a tag with the name `script` starts here, behind `<` or `</`. -/
def startsScript (text : List Char) : Bool :=
  match dropPrefix? "script".toList text with
  | some (c :: _) => endsName c
  | _ => false

/-- How deep in comments the text of a script is. -/
inductive ScriptDepth where
  | plain
  | escaped
  | doubleEscaped
deriving DecidableEq

/-- The text of a script up to its end tag: the text, newest character first, and what
follows it from the end tag on. -/
def readScript (depth : ScriptDepth) (acc : List Char) : List Char → List Char × List Char
  | [] => (acc, [])
  | c :: rest =>
    match depth with
    | .plain =>
      if c = '<' ∧ rest.head? = some '/' ∧ startsScript (rest.drop 1) then (acc, c :: rest)
      else if c = '<' ∧ "!--".toList.isPrefixOf rest then
        let depth := if ['>'].isPrefixOf (rest.drop 3) ∨ "->".toList.isPrefixOf (rest.drop 3)
          then .plain else .escaped
        readScript depth (c :: acc) rest
      else readScript .plain (replaceNul c :: acc) rest
    | .escaped =>
      if c = '<' ∧ rest.head? = some '/' ∧ startsScript (rest.drop 1) then (acc, c :: rest)
      else if c = '<' ∧ startsScript rest then readScript .doubleEscaped (c :: acc) rest
      else if c = '-' ∧ "->".toList.isPrefixOf rest then readScript .plain (c :: acc) rest
      else readScript .escaped (replaceNul c :: acc) rest
    | .doubleEscaped =>
      if c = '<' ∧ rest.head? = some '/' ∧ startsScript (rest.drop 1) then
        readScript .escaped (c :: acc) rest
      else if c = '-' ∧ "->".toList.isPrefixOf rest then readScript .plain (c :: acc) rest
      else readScript .doubleEscaped (replaceNul c :: acc) rest

/-- What a `<` starts in ordinary text. -/
def readMarkup (inForeign : Bool) (text : List Char) : List Token × List Char :=
  match text with
  | '!' :: rest => readDeclaration inForeign rest
  | '?' :: _ => let (body, rest) := bogusComment text; ([.comment body], rest)
  | '/' :: rest =>
    match rest with
    | [] => ([.char '<', .char '/'], [])
    | '>' :: rest => ([], rest)
    | c :: _ =>
      if c.isAlpha then
        match readTag? rest with
        | some (tag, rest) => ([.endTag tag.name], rest)
        | none => ([], [])
      else let (body, rest) := bogusComment rest; ([.comment body], rest)
  | c :: _ =>
    if c.isAlpha then
      match readTag? text with
      | some (tag, rest) => ([.startTag tag], rest)
      | none => ([], [])
    else ([.char '<'], text)
  | [] => ([.char '<'], [])

/-- The characters of the reference behind an ampersand in text. -/
def readReference (text : List Char) : List Token × List Char :=
  match reference? false text with
  | some (value, rest) => (value.map .char, rest)
  | none => ([.char '&'], text)

/-- The next tokens of a text, which is not empty, and what follows them. `element` is the
name of the last start tag; its end tag ends a text with a mode of its own. -/
def next (mode : TextMode) (inForeign : Bool) (element : String) (c : Char) (rest : List Char) :
    List Token × TextMode × List Char :=
  let closing? := match c, rest with
    | '<', '/' :: rest => readEndTag? element rest
    | _, _ => none
  match mode with
  | .data =>
    if c = '<' then
      let (tokens, rest) := readMarkup inForeign rest
      (tokens, .data, rest)
    else if c = '&' then
      let (tokens, rest) := readReference rest
      (tokens, .data, rest)
    else ([.char c], .data, rest)
  | .rcdata =>
    match closing? with
    | some rest => ([.endTag element], .data, rest)
    | none =>
      if c = '&' then
        let (tokens, rest) := readReference rest
        (tokens, .rcdata, rest)
      else ([.char (replaceNul c)], .rcdata, rest)
  | .rawtext =>
    match closing? with
    | some rest => ([.endTag element], .data, rest)
    | none => ([.char (replaceNul c)], .rawtext, rest)
  | .script =>
    match closing? with
    | some rest => ([.endTag element], .data, rest)
    | none =>
      let (body, rest) := readScript .plain [] (c :: rest)
      (body.reverse.map .char, .script, rest)
  | .plaintext => ([.char (replaceNul c)], .plaintext, rest)

/-- A text with its line ends in one form, behind the characters read so far, newest first. -/
def normalizeLines (acc : List Char) : List Char → List Char
  | '\r' :: '\n' :: rest => normalizeLines ('\n' :: acc) rest
  | '\r' :: rest => normalizeLines ('\n' :: acc) rest
  | c :: rest => normalizeLines (c :: acc) rest
  | [] => acc.reverse

/-- A page with its line ends in one form, and without a byte order mark. -/
def normalize (page : List Char) : List Char :=
  match page with
  | '\uFEFF' :: rest => normalizeLines [] rest
  | _ => normalizeLines [] page

end ModuleArchive.Html.Tokenizer
