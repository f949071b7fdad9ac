import ModuleArchive.Config.Json
import ModuleArchive.Text.Split

/-!
# Keys, texts, numbers and times in TOML

The pieces of a document that hold no other values.
-/
namespace ModuleArchive.Config.Toml

/-- Whether a character is a space or a tab. -/
def isBlank (c : Char) : Bool := c == ' ' || c == '\t'

/-- Whether a character may stand in a comment or for itself in a text. -/
def isPlain (c : Char) : Bool := c == '\t' || (0x20 ≤ c.toNat && c.toNat != 0x7F)

/-- A text without the line break at its start, if there is one. -/
def dropBreak? : List Char → Option (List Char)
  | '\n' :: rest => some rest
  | '\r' :: '\n' :: rest => some rest
  | _ => none

/-! ### Texts -/

/-- The character that a letter after a backslash stands for. -/
def escaped? (c : Char) : Option Char :=
  if c = '"' ∨ c = '\\' then some c
  else if c = 'b' then some '\x08'
  else if c = 'f' then some '\x0c'
  else if c = 'n' then some '\n'
  else if c = 'r' then some '\r'
  else if c = 't' then some '\t'
  else none

/-- The character that an escape stands for, whose backslash has been read. -/
def readEscape? : List Char → Option (Char × List Char)
  | 'u' :: rest => Text.readCharCode? 4 rest
  | 'U' :: rest => Text.readCharCode? 8 rest
  | c :: rest => (escaped? c).map (·, rest)
  | [] => none

/-- A text without blanks and line breaks at its start; `fuel` is at least its length. -/
def dropSpace : Nat → List Char → List Char
  | 0, text => text
  | fuel + 1, text =>
    match text with
    | c :: rest =>
      if isBlank c then dropSpace fuel rest
      else
        match dropBreak? text with
        | some rest => dropSpace fuel rest
        | none => text
    | [] => []

/-- What follows a backslash at the end of a line, with the space before the next word. -/
def dropFoldedBreak? (text : List Char) : Option (List Char) :=
  (dropBreak? (text.dropWhile isBlank)).map fun rest => dropSpace rest.length rest

/-- Read on in a text of one line between `quote`s. Only double quotes know escapes. -/
def readLine? (quote : Char) : Nat → List Char → List Char → Option (String × List Char)
  | 0, _, _ | _, _, [] => none
  | fuel + 1, done, c :: rest =>
    if c = quote then some (String.ofList done.reverse, rest)
    else if c = '\\' ∧ quote = '"' then
      match readEscape? rest with
      | some (d, rest) => readLine? quote fuel (d :: done) rest
      | none => none
    else if isPlain c then readLine? quote fuel (c :: done) rest
    else none

/-- Read on in a text of several lines between triple `quote`s. Up to two quotes may stand
before the last three. -/
def readLines? (quote : Char) : Nat → List Char → List Char → Option (String × List Char)
  | 0, _, _ | _, _, [] => none
  | fuel + 1, done, c :: rest =>
    if c = quote then
      let run := ((c :: rest).takeWhile (· == quote)).length
      if run < 3 then readLines? quote fuel (c :: done) rest
      else
        let inner := min (run - 3) 2
        some (String.ofList (done.reverse ++ List.replicate inner quote), rest.drop (inner + 2))
    else if c = '\\' ∧ quote = '"' then
      match dropFoldedBreak? rest with
      | some rest => readLines? quote fuel done rest
      | none =>
        match readEscape? rest with
        | some (d, rest) => readLines? quote fuel (d :: done) rest
        | none => none
    else
      match dropBreak? (c :: rest) with
      | some rest => readLines? quote fuel ('\n' :: done) rest
      | none => if isPlain c then readLines? quote fuel (c :: done) rest else none

/-- Read a text behind its first `quote`. A line break right behind three quotes is no part
of the text. -/
def readText? (quote : Char) (text : List Char) : Option (String × List Char) :=
  match text with
  | a :: b :: rest =>
    if a = quote ∧ b = quote then
      readLines? quote (rest.length + 1) [] ((dropBreak? rest).getD rest)
    else readLine? quote (text.length + 1) [] text
  | _ => readLine? quote (text.length + 1) [] text

/-! ### Keys -/

/-- Whether a character may be part of a bare key. -/
def isBareKeyChar (c : Char) : Bool := c.isAlphanum || c == '_' || c == '-'

def readKeyPart? (text : List Char) : Option (String × List Char) :=
  match text with
  | '"' :: rest => readLine? '"' (rest.length + 1) [] rest
  | '\'' :: rest => readLine? '\'' (rest.length + 1) [] rest
  | _ =>
    match text.takeWhile isBareKeyChar with
    | [] => none
    | name => some (String.ofList name, text.drop name.length)

/-- Read a key: what stands before the last point, the last part, and what follows behind
blanks. -/
def readKey? : Nat → List Char → Option (List String × String × List Char)
  | 0, _ => none
  | fuel + 1, text =>
    match readKeyPart? (text.dropWhile isBlank) with
    | none => none
    | some (part, rest) =>
      match rest.dropWhile isBlank with
      | '.' :: rest =>
        (readKey? fuel rest).map fun (path, name, rest) => (part :: path, name, rest)
      | rest => some ([], part, rest)

/-! ### Numbers -/

/-- The digits of a run in which single underscores may stand between digits. -/
def dropUnderscores? (isDigit : Char → Bool) (text : List Char) : Option (List Char) :=
  let runs := Text.splitOn '_' text
  if runs.all fun run => !run.isEmpty && run.all isDigit then some runs.flatten else none

def valueInBase (base : Nat) (digits : List Char) : Nat :=
  digits.foldl (fun n c => n * base + (Percent.hexValue? c.toNat).getD 0) 0

/-- The value of a whole number with a mark for its base. -/
def basedInteger? (base : Nat) (text : List Char) : Option Value :=
  let isDigit := fun (c : Char) => match Percent.hexValue? c.toNat with
    | some d => d < base
    | none => false
  match dropUnderscores? isDigit text with
  | some digits =>
    let n := valueInBase base digits
    if n < Decimal.signedBound then some (.integer n) else none
  | none => none

def splitSign : List Char → Bool × List Char
  | '-' :: rest => (true, rest)
  | '+' :: rest => (false, rest)
  | text => (false, text)

/-- The digits of a whole number without a leading zero. -/
def wholeDigits? (text : List Char) : Option (List Char) :=
  (dropUnderscores? Decimal.isDigit text).filter fun digits =>
    digits.length = 1 || digits.head? != some '0'

/-- The value of a decimal number with its sign. -/
def decimalNumber? (text : List Char) : Option Value :=
  let (negative, unsigned) := splitSign text
  if unsigned = "inf".toList ∨ unsigned = "nan".toList then some .real
  else
    let isExponentMark := fun c => c == 'e' || c == 'E'
    let mantissa := unsigned.takeWhile (!isExponentMark ·)
    let exponent? : Option (Option Int) := match unsigned.drop mantissa.length with
      | [] => some none
      | _ :: exponent =>
        let (below, digits) := splitSign exponent
        (dropUnderscores? Decimal.isDigit digits).map fun digits =>
          some (if below then -(Decimal.value 0 digits : Int) else Decimal.value 0 digits)
    let fraction? : Option (List Char × Option (List Char)) :=
      match Text.splitFirst? '.' mantissa with
      | none => some (mantissa, none)
      | some (whole, fraction) =>
        (dropUnderscores? Decimal.isDigit fraction).map fun digits => (whole, some digits)
    match fraction?, exponent? with
    | some (whole, fraction), some exponent =>
      match wholeDigits? whole, fraction, exponent with
      | none, _, _ => none
      | some digits, none, none =>
        let n := Decimal.value 0 digits
        if negative then if n ≤ Decimal.signedBound then some (.integer (-n)) else none
        else if n < Decimal.signedBound then some (.integer n) else none
      | some digits, fraction, exponent =>
        let fraction := fraction.getD []
        let isHuge := Text.overflows (Decimal.value 0 (digits ++ fraction))
          (exponent.getD 0 - fraction.length)
        if isHuge && !negative then none else some .real
    | _, _ => none

def number? (text : List Char) : Option Value :=
  match text with
  | '0' :: 'x' :: rest => basedInteger? 16 rest
  | '0' :: 'o' :: rest => basedInteger? 8 rest
  | '0' :: 'b' :: rest => basedInteger? 2 rest
  | _ => decimalNumber? text

/-! ### Times -/

def twoDigits? : List Char → Option (Nat × List Char)
  | a :: b :: rest =>
    if Decimal.isDigit a && Decimal.isDigit b then some (Decimal.value 0 [a, b], rest) else none
  | _ => none

def daysIn (year month : Nat) : Nat :=
  if month = 2 then
    if year % 4 = 0 ∧ (year % 100 ≠ 0 ∨ year % 400 = 0) then 29 else 28
  else if month ∈ [4, 6, 9, 11] then 30
  else 31

def dropDate? (text : List Char) : Option (List Char) := do
  let (century, text) ← twoDigits? text
  let (year, text) ← twoDigits? text
  let '-' :: text := text | none
  let (month, text) ← twoDigits? text
  let '-' :: text := text | none
  let (day, text) ← twoDigits? text
  if 1 ≤ month ∧ month ≤ 12 ∧ 1 ≤ day ∧ day ≤ daysIn (century * 100 + year) month then some text
  else none

def dropTime? (text : List Char) : Option (List Char) := do
  let (hour, text) ← twoDigits? text
  let ':' :: text := text | none
  let (minute, text) ← twoDigits? text
  let ':' :: text := text | none
  let (second, text) ← twoDigits? text
  if 24 ≤ hour ∨ 60 ≤ minute ∨ 61 ≤ second then none
  else
    match text with
    | '.' :: rest =>
      if (rest.takeWhile Decimal.isDigit).isEmpty then none
      else some (rest.dropWhile Decimal.isDigit)
    | _ => some text

/-- Whether a text is empty or the distance from universal time. -/
def isOffset (text : List Char) : Bool :=
  match text with
  | [] => true
  | ['Z'] | ['z'] => true
  | sign :: rest =>
    (sign == '+' || sign == '-') &&
      match twoDigits? rest with
      | some (hour, ':' :: rest) =>
        match twoDigits? rest with
        | some (minute, []) => hour < 24 && minute < 60
        | _ => false
      | _ => false

/-- Whether a text is a date, a time or both. -/
def isTime (text : List Char) : Bool :=
  match dropDate? text with
  | some [] => true
  | some (c :: rest) =>
    (c == 'T' || c == 't' || c == ' ') &&
      match dropTime? rest with
      | some rest => isOffset rest
      | none => false
  | none => dropTime? text == some []

/-- The value of a date or time: a table that holds its text. -/
def timeValue (text : List Char) : Value := .table [("date and time", .text (String.ofList text))]

/-! ### Bare values -/

/-- Whether a character may be part of a bare value. -/
def isBareChar (c : Char) : Bool :=
  c.isAlphanum || c == '_' || c == '+' || c == '-' || c == '.' || c == ':'

def bareValue? (text : List Char) : Option Value :=
  if text = "true".toList then some (.bool true)
  else if text = "false".toList then some (.bool false)
  else if isTime text then some (timeValue text)
  else number? text

/-- Read a bare value. A date may be followed by a time behind a space. -/
def readBare? (text : List Char) : Option (Value × List Char) :=
  let word := text.takeWhile isBareChar
  let rest := text.drop word.length
  let longer : Option (List Char × List Char) := match rest with
    | ' ' :: time =>
      let clock := time.takeWhile isBareChar
      if dropDate? word = some [] ∧ (twoDigits? clock).isSome then
        some (word ++ ' ' :: clock, time.drop clock.length)
      else none
    | _ => none
  let (word, rest) := longer.getD (word, rest)
  (bareValue? word).map (·, rest)

end ModuleArchive.Config.Toml
