import ModuleArchive.Url.Basic

/-!
# Form encoding

Queries as lists of names and values. Letters, digits and `*-._` stand for themselves, a
space is written as a plus sign, and all other bytes are escaped.
-/
namespace ModuleArchive.Url

/-- A byte of a name or a value in its written form. -/
def formByte (b : UInt8) : List Char :=
  let c := Char.ofNat b.toNat
  if b = 0x20 then ['+']
  else if c.isAlphanum || c == '*' || c == '-' || c == '.' || c == '_' then [c]
  else Percent.escapeByte b

/-- A name or a value in its written form. -/
def formText (text : List Char) : List Char := (Utf8.encode text).flatMap formByte

/-- A name and its value in their written form. -/
def formPair (pair : List Char × List Char) : List Char :=
  formText pair.1 ++ '=' :: formText pair.2

def addPair (query : List Char) (pair : List Char × List Char) : List Char :=
  if query.isEmpty then formPair pair else query ++ '&' :: formPair pair

def withPairs (u : Url) (pairs : List (List Char × List Char)) : Url :=
  { u with query := some (pairs.foldl addPair (u.query.getD [])) }

/-- The text that a name or a value stands for. -/
def readFormText (text : List Char) : List Char :=
  Utf8.decodeLossy (Percent.decodeText (text.map fun c => if c = '+' then ' ' else c))

/-- The names and values of a query. Empty pieces are left out. -/
def readPairs (query : List Char) : List (List Char × List Char) :=
  ((Text.splitOn '&' query).filter (!·.isEmpty)).map fun piece =>
    match Text.splitFirst? '=' piece with
    | some (name, value) => (readFormText name, readFormText value)
    | none => (readFormText piece, [])

end ModuleArchive.Url
