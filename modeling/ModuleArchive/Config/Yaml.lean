import ModuleArchive.Config.Inline
import ModuleArchive.Config.Yaml.Node

/-!
# YAML

Reading a text in YAML. A plain text stands for nothing, a truth value or a number if it is
written like one, unless a tag says otherwise; tags of other programs are refused. The keys
of a mapping are texts, and of equal keys the last one counts.
-/
namespace ModuleArchive.Config.Yaml

/-- How deep lists and mappings may be nested. -/
def maxDepth : Nat := 128

/-! ### Plain texts -/

/-- The truth value that a text stands for. -/
def readBool? (text : List Char) : Option Value :=
  if String.ofList text ∈ ["true", "True", "TRUE"] then some (.bool true)
  else if String.ofList text ∈ ["false", "False", "FALSE"] then some (.bool false)
  else none

/-- Numbers of 128 bits are below this bound. -/
def longBound : Nat := UInt64.size * UInt64.size

/-- Whether a text stands for nothing. -/
def isNull (text : List Char) : Bool :=
  String.ofList text ∈ ["null", "Null", "NULL", "~"]

/-- Whether a text consists of digits of a base. -/
def isNumeral (base : Nat) (digits : List Char) : Bool :=
  !digits.isEmpty && digits.all fun c => match Percent.hexValue? c.toNat with
    | some d => d < base
    | none => false

def numeralValue (base : Nat) (digits : List Char) : Nat :=
  digits.foldl (fun n c => n * base + (Percent.hexValue? c.toNat).getD 0) 0

/-- Whether digits start with a zero that does not count. -/
def hasIdleZero (digits : List Char) : Bool := 1 < digits.length && digits.head? = some '0'

/-- The whole number that digits stand for, with a mark for their base. -/
def readUnsigned? (text : List Char) : Option Nat :=
  let (base, digits) : Nat × List Char := match text with
    | '0' :: 'x' :: rest => (16, rest)
    | '0' :: 'o' :: rest => (8, rest)
    | '0' :: 'b' :: rest => (2, rest)
    | _ => (10, text)
  if isNumeral base digits && !(base = 10 && hasIdleZero digits) then
    some (numeralValue base digits)
  else none

/-- The whole number that a text stands for. -/
def readInteger? (text : List Char) : Option Value :=
  match text with
  | '-' :: rest =>
    (readUnsigned? rest).bind fun n => if n ≤ longBound / 2 then some (.integer (-n)) else none
  | _ =>
    let unsigned := match text with
      | '+' :: rest => rest
      | _ => text
    (readUnsigned? unsigned).bind fun n => if n < longBound then some (.integer n) else none

/-- The number that a text with a fraction or an exponent stands for. -/
def readReal? (text : List Char) : Option Value :=
  let unsigned := match text with
    | '+' :: rest | '-' :: rest => rest
    | _ => text
  let whole := unsigned.takeWhile Decimal.isDigit
  let (fraction, rest) := match unsigned.drop whole.length with
    | '.' :: rest => (rest.takeWhile Decimal.isDigit, rest.dropWhile Decimal.isDigit)
    | rest => ([], rest)
  if String.ofList unsigned ∈ [".inf", ".Inf", ".INF"] then some .real
  else if String.ofList text ∈ [".nan", ".NaN", ".NAN"] then some .real
  else if whole.isEmpty && fraction.isEmpty then none
  else
    match Json.readExponent? rest with
    | some (exponent, []) =>
      if Text.overflows (Decimal.value 0 (whole ++ fraction))
          (exponent.getD 0 - fraction.length) then none
      else some .real
    | _ => none

/-- Whether a text is a run of digits, with a sign or not, that starts with a zero that does
not count. -/
def isPaddedNumeral (text : List Char) : Bool :=
  let unsigned := match text with
    | '+' :: rest | '-' :: rest => rest
    | _ => text
  unsigned.all Decimal.isDigit && hasIdleZero unsigned

def plainValue (text : List Char) : Value :=
  if text.isEmpty || isNull text then .null
  else
    match readBool? text, readInteger? text with
    | some v, _ | none, some v => v
    | none, none =>
      if isPaddedNumeral text then .text (String.ofList text)
      else (readReal? text).getD (.text (String.ofList text))

/-! ### Tags -/

/-- What the tags of the standard start with. -/
def standardTag : List Char := "tag:yaml.org,2002:".toList

def taggedValue? (tag text : List Char) : Option Value :=
  if tag = standardTag ++ "bool".toList then readBool? text
  else if tag = standardTag ++ "int".toList then readInteger? text
  else if tag = standardTag ++ "float".toList then readReal? text
  else if tag = standardTag ++ "null".toList then if isNull text then some .null else none
  else some (.text (String.ofList text))

/-- Whether a tag is one of another program. -/
def isForeignTag : Option (List Char) → Bool
  | some ('!' :: _) => true
  | _ => false

/-! ### Documents -/

def keyText? : Node → Option String
  | .scalar text _ _ => some (String.ofList text)
  | _ => none

mutual

/-- The value of a node that is nested no deeper than `depth`. -/
def valueOf? (depth : Nat) (node : Node) : Option Value :=
  match node with
  | .scalar text plain tag =>
    if isForeignTag tag then none
    else
      match tag with
      | some tag => taggedValue? tag text
      | none => some (if plain then plainValue text else .text (String.ofList text))
  | .list items tag =>
    if isForeignTag tag || depth = 0 then none else (valuesOf? (depth - 1) items).map .list
  | .mapping pairs tag =>
    if isForeignTag tag || depth = 0 then none else (entriesOf? (depth - 1) pairs).map .ofEntries

def valuesOf? (depth : Nat) (nodes : List Node) : Option (List Value) :=
  match nodes with
  | [] => some []
  | node :: rest =>
    match valueOf? depth node, valuesOf? depth rest with
    | some v, some values => some (v :: values)
    | _, _ => none

def entriesOf? (depth : Nat) (pairs : List (Node × Node)) : Option (List (String × Value)) :=
  match pairs with
  | [] => some []
  | (key, node) :: rest =>
    match keyText? key, valueOf? depth node, entriesOf? depth rest with
    | some name, some v, some entries => some ((name, v) :: entries)
    | _, _, _ => none

end

def read? (text : List Char) : Option Value := do
  let tokens ← tokens? text
  match ← Reading.readDocument? tokens with
  | none | some (.scalar [] true _) => return .table []
  | some node =>
    match ← valueOf? maxDepth node with
    | .table entries => return .table entries
    | _ => none

end ModuleArchive.Config.Yaml
