import ModuleArchive.Config.Json
import ModuleArchive.Text.Classes
import ModuleArchive.Text.Split

/-!
# Inline values

The notation for values in environment variables: `true` and `false`, numbers, quoted texts,
lists in brackets, tables in braces with `=` between name and value, and anything else as
text. A variable that cannot be read as a whole is text, too.
-/
namespace ModuleArchive.Config.Inline

/-- Whether a character ends an unquoted value. -/
def isSeparator (c : Char) : Bool :=
  c == ',' || c == '\x7b' || c == '\x7d' || c == '[' || c == ']'

/-- Whether a character may be part of an unquoted name. -/
def isNameChar (c : Char) : Bool := c.isAlphanum || c == '_' || c == '-'

def dropBlanks (text : List Char) : List Char := text.dropWhile Text.isAsciiBlank

/-! ### Quoted texts -/

/-- The character that a letter after a backslash stands for. -/
def escaped? (c : Char) : Option Char :=
  if c = '"' ∨ c = '\\' then some c
  else if c = 'b' then some '\x08'
  else if c = 'f' then some '\x0c'
  else if c = 'n' then some '\n'
  else if c = 'r' then some '\r'
  else if c = 't' then some '\t'
  else none

/-- Whether a character may stand for itself between double quotes. -/
def isPlain (c : Char) : Bool := c == '\t' || (0x20 ≤ c.toNat && c.toNat != 0x7F)

/-- Read on in a text in double quotes; `fuel` is at least the length of the text. -/
def readQuoted? : Nat → List Char → List Char → Option (String × List Char)
  | 0, _, _ | _, _, [] => none
  | fuel + 1, done, c :: rest =>
    if c = '"' then some (String.ofList done.reverse, rest)
    else if c = '\\' then
      match rest with
      | [] => none
      | d :: rest =>
        if d = 'u' ∨ d = 'U' then
          match Text.readCharCode? (if d = 'u' then 4 else 8) rest with
          | some (e, rest) => readQuoted? fuel (e :: done) rest
          | none => none
        else
          match escaped? d with
          | some e => readQuoted? fuel (e :: done) rest
          | none => none
    else if isPlain c then readQuoted? fuel (c :: done) rest
    else none

/-- Read on in a text in single quotes. -/
def readLiteral? (text : List Char) : Option (String × List Char) :=
  (Text.splitFirst? '\'' text).map fun (inner, rest) => (String.ofList inner, rest)

/-! ### Unquoted values -/

/-- Whether a text is a number with a point, with or without an exponent. -/
def isReal (text : List Char) : Bool :=
  let unsigned := match text with
    | '+' :: rest | '-' :: rest => rest
    | _ => text
  let whole := unsigned.takeWhile Decimal.isDigit
  match unsigned.drop whole.length with
  | '.' :: rest =>
    let fraction := rest.takeWhile Decimal.isDigit
    !(whole.isEmpty && fraction.isEmpty) &&
      match Json.readExponent? (rest.drop fraction.length) with
      | some (_, []) => true
      | _ => false
  | _ => false

def bareValue (text : List Char) : Value :=
  if isReal text then .real
  else
    match Decimal.readBelow? UInt64.size text with
    | some n => .integer n
    | none =>
      match text with
      | '-' :: digits =>
        match Decimal.read? digits with
        | some n => if n ≤ Decimal.signedBound then .integer (-n) else .text (String.ofList text)
        | none => .text (String.ofList text)
      | _ => .text (String.ofList text)

def readName? (text : List Char) : Option (String × List Char) :=
  match text with
  | '"' :: rest => readQuoted? text.length [] rest
  | '\'' :: rest => readLiteral? rest
  | _ =>
    match text.takeWhile isNameChar with
    | [] => none
    | name => some (String.ofList name, text.drop name.length)

/-! ### Values -/

mutual

/-- Read a value; `fuel` is more than twice the length of the text. -/
def readValue? : Nat → List Char → Option (Value × List Char)
  | 0, _ => none
  | fuel + 1, text =>
    let text := dropBlanks text
    let read : Option (Value × List Char) :=
      match Json.dropWord? "true" text, Json.dropWord? "false" text with
      | some rest, _ => some (.bool true, rest)
      | none, some rest => some (.bool false, rest)
      | none, none =>
        match text with
        | '\x7b' :: rest => (readEntries? fuel [] rest).map fun (v, rest) => (.ofEntries v, rest)
        | '[' :: rest => (readItems? fuel [] rest).map fun (v, rest) => (.list v, rest)
        | '"' :: rest => (readQuoted? text.length [] rest).map fun (s, rest) => (.text s, rest)
        | '\'' :: rest => (readLiteral? rest).map fun (s, rest) => (.text s, rest)
        | _ =>
          some (bareValue (Text.trim (text.takeWhile (!isSeparator ·))),
            text.dropWhile (!isSeparator ·))
    read.map fun (v, rest) => (v, dropBlanks rest)

/-- Read the items of a list up to its end. A comma may stand behind the last one. -/
def readItems? : Nat → List Value → List Char → Option (List Value × List Char)
  | 0, _, _ => none
  | _, done, ']' :: rest => some (done.reverse, rest)
  | fuel + 1, done, text =>
    match readValue? fuel text with
    | none => none
    | some (v, ',' :: rest) => readItems? fuel (v :: done) rest
    | some (v, ']' :: rest) => some ((v :: done).reverse, rest)
    | some _ => none

/-- Read the entries of a table up to its end. A comma may stand behind the last one. -/
def readEntries? : Nat → List (String × Value) → List Char →
    Option (List (String × Value) × List Char)
  | 0, _, _ => none
  | _, done, '\x7d' :: rest => some (done.reverse, rest)
  | fuel + 1, done, text =>
    match readName? (dropBlanks text) with
    | none => none
    | some (name, rest) =>
      match dropBlanks rest with
      | '=' :: rest =>
        match readValue? fuel rest with
        | none => none
        | some (v, ',' :: rest) => readEntries? fuel ((name, v) :: done) rest
        | some (v, '\x7d' :: rest) => some (((name, v) :: done).reverse, rest)
        | some _ => none
      | _ => none

end

def read (text : String) : Value :=
  match readValue? (2 * text.length + 2) text.toList with
  | some (v, []) => v
  | _ => .text text

end ModuleArchive.Config.Inline
