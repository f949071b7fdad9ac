import ModuleArchive.Config.Value
import ModuleArchive.Text.Escape

/-!
# JSON

Reading a text in JSON. Of equal names in an object the last one counts. Arrays and objects
may be nested 127 deep; a number that is too large for double precision is refused.
-/
namespace ModuleArchive.Config.Json

/-- Whether a character may stand between tokens. -/
def isBlank (c : Char) : Bool := c == ' ' || c == '\n' || c == '\t' || c == '\r'

/-- How deep arrays and objects may be nested. -/
def maxDepth : Nat := 127

/-! ### Strings -/

/-- The character that a code after a backslash and `u` stands for, and what follows it. Two
codes stand for one character if they are a surrogate pair. -/
def readCode? (text : List Char) : Option (Char × List Char) :=
  match Text.readHex? 0 4 text with
  | none => none
  | some (high, rest) =>
    if 0xD800 ≤ high ∧ high < 0xDC00 then
      match rest with
      | '\\' :: 'u' :: rest =>
        match Text.readHex? 0 4 rest with
        | some (low, rest) =>
          if 0xDC00 ≤ low ∧ low < 0xE000 then
            (Text.charOf? (0x10000 + (high - 0xD800) * 0x400 + (low - 0xDC00))).map (·, rest)
          else none
        | none => none
      | _ => none
    else (Text.charOf? high).map (·, rest)

/-- The character that a letter after a backslash stands for. -/
def escaped? (c : Char) : Option Char :=
  if c = '"' ∨ c = '\\' ∨ c = '/' then some c
  else if c = 'b' then some '\x08'
  else if c = 'f' then some '\x0c'
  else if c = 'n' then some '\n'
  else if c = 'r' then some '\r'
  else if c = 't' then some '\t'
  else none

/-- Read on in a string; `fuel` is at least the length of the text. -/
def readString? : Nat → List Char → List Char → Option (String × List Char)
  | 0, _, _ | _, _, [] => none
  | fuel + 1, done, c :: rest =>
    if c = '"' then some (String.ofList done.reverse, rest)
    else if c = '\\' then
      match rest with
      | 'u' :: rest =>
        match readCode? rest with
        | some (d, rest) => readString? fuel (d :: done) rest
        | none => none
      | d :: rest =>
        match escaped? d with
        | some d => readString? fuel (d :: done) rest
        | none => none
      | [] => none
    else if c.toNat < 0x20 then none
    else readString? fuel (c :: done) rest

/-! ### Numbers -/

/-- A run of digits at the start of a text, which has to be there, and what follows it. -/
def readDigits? (text : List Char) : Option (List Char × List Char) :=
  match text.takeWhile Decimal.isDigit with
  | [] => none
  | digits => some (digits, text.drop digits.length)

/-- The digits behind the point, if there is one. -/
def readFraction? : List Char → Option (List Char × List Char)
  | '.' :: rest => readDigits? rest
  | text => some ([], text)

def readExponent? : List Char → Option (Option Int × List Char)
  | c :: rest =>
    if c = 'e' ∨ c = 'E' then
      let (negative, rest) := match rest with
        | '-' :: rest => (true, rest)
        | '+' :: rest => (false, rest)
        | _ => (false, rest)
      (readDigits? rest).map fun (digits, rest) =>
        let n : Int := Decimal.value 0 digits
        (some (if negative then -n else n), rest)
    else some (none, c :: rest)
  | [] => some (none, [])

/-- The value of an integer in decimal digits. One that is too large for 64 bits, and zero
with a minus sign, is taken for a real number. -/
def integerValue (negative : Bool) (n : Nat) : Value :=
  if negative then if 0 < n ∧ n ≤ Decimal.signedBound then .integer (-n) else .real
  else if n < UInt64.size then .integer n else .real

def readNumber? (negative : Bool) (text : List Char) : Option (Value × List Char) :=
  match readDigits? text with
  | none => none
  | some (whole, rest) =>
    if 1 < whole.length ∧ whole.head? = some '0' then none
    else
      match readFraction? rest with
      | none => none
      | some (fraction, rest) =>
        match readExponent? rest with
        | none => none
        | some (exponent, rest) =>
          let mantissa := Decimal.value 0 (whole ++ fraction)
          if Text.overflows mantissa (exponent.getD 0 - fraction.length) then none
          else if fraction.isEmpty && exponent.isNone then
            some (integerValue negative mantissa, rest)
          else some (.real, rest)

/-! ### Values -/

/-- A text without a given start. -/
def dropWord? (word : String) (text : List Char) : Option (List Char) :=
  if word.toList.isPrefixOf text then some (text.drop word.length) else none

mutual

/-- Read a value; `fuel` is more than the length of the text, and `depth` is how deep it may
be nested. -/
def readValue? : Nat → Nat → List Char → Option (Value × List Char)
  | 0, _, _ => none
  | fuel + 1, depth, text =>
    match text.dropWhile isBlank with
    | '"' :: rest => (readString? text.length [] rest).map fun (s, rest) => (.text s, rest)
    | '-' :: rest => readNumber? true rest
    | '[' :: rest =>
      if depth = 0 then none
      else
        match rest.dropWhile isBlank with
        | ']' :: rest => some (.list [], rest)
        | rest => (readItems? fuel (depth - 1) [] rest).map fun (v, rest) => (.list v, rest)
    | '\x7b' :: rest =>
      if depth = 0 then none
      else
        match rest.dropWhile isBlank with
        | '\x7d' :: rest => some (.table [], rest)
        | rest =>
          (readMembers? fuel (depth - 1) [] rest).map fun (v, rest) => (.ofEntries v, rest)
    | text =>
      match dropWord? "true" text, dropWord? "false" text, dropWord? "null" text with
      | some rest, _, _ => some (.bool true, rest)
      | _, some rest, _ => some (.bool false, rest)
      | _, _, some rest => some (.null, rest)
      | none, none, none => readNumber? false text

/-- Read the items of an array up to its end. -/
def readItems? : Nat → Nat → List Value → List Char → Option (List Value × List Char)
  | 0, _, _, _ => none
  | fuel + 1, depth, done, text =>
    match readValue? fuel depth text with
    | none => none
    | some (v, rest) =>
      match rest.dropWhile isBlank with
      | ',' :: rest => readItems? fuel depth (v :: done) rest
      | ']' :: rest => some ((v :: done).reverse, rest)
      | _ => none

/-- Read the members of an object up to its end. -/
def readMembers? : Nat → Nat → List (String × Value) → List Char →
    Option (List (String × Value) × List Char)
  | 0, _, _, _ => none
  | fuel + 1, depth, done, text =>
    match text.dropWhile isBlank with
    | '"' :: rest =>
      match readString? rest.length.succ [] rest with
      | none => none
      | some (name, rest) =>
        match rest.dropWhile isBlank with
        | ':' :: rest =>
          match readValue? fuel depth rest with
          | none => none
          | some (v, rest) =>
            match rest.dropWhile isBlank with
            | ',' :: rest => readMembers? fuel depth ((name, v) :: done) rest
            | '\x7d' :: rest => some (((name, v) :: done).reverse, rest)
            | _ => none
        | _ => none
    | _ => none

end

def read? (text : List Char) : Option Value :=
  match readValue? (2 * text.length + 1) maxDepth text with
  | some (v, rest) => if (rest.dropWhile isBlank).isEmpty then some v else none
  | none => none

end ModuleArchive.Config.Json
