import ModuleArchive.Url.Basic
import ModuleArchive.Url.Domain

/-!
# Hosts

Reading the host of a URL: an address in brackets, a domain name, or a dotted address, which
is what a domain name is taken for if its last label is a number.
-/
namespace ModuleArchive.Url

/-- The characters that no host may contain. -/
def isForbiddenInHost (c : Char) : Bool :=
  c ∈ ['\x00', '\t', '\n', '\r', ' ', '#', '/', ':', '<', '>', '?', '@', '[', '\\', ']', '^', '|']

/-- The characters that no domain name may contain. -/
def isForbiddenInDomain (c : Char) : Bool :=
  isForbiddenInHost c || Percent.isControl c || c == '%'

/-! ### Dotted addresses -/

/-- The value of digits in a base, if all of them are digits of it. -/
def readBase? (base : Nat) (digits : List Char) : Option Nat :=
  digits.foldlM (fun n c => do
    let d ← Percent.hexValue? c.toNat
    if d < base then some (n * base + d) else none) 0

/-- A part of a dotted address: decimal, octal with a leading zero, or hexadecimal. -/
def readPart? : List Char → Option Nat
  | [] => none
  | '0' :: 'x' :: digits | '0' :: 'X' :: digits => readBase? 16 digits
  | '0' :: c :: digits => readBase? 8 (c :: digits)
  | digits => readBase? 10 digits

/-- The labels of a domain name without the empty one behind a final dot. -/
def labels (name : List Char) : List (List Char) :=
  let parts := Text.splitOn '.' name
  if 1 < parts.length ∧ parts.getLast? = some [] then parts.dropLast else parts

/-- Whether the last label of a domain name is a number. -/
def endsInNumber (name : List Char) : Bool :=
  match (labels name).getLast? with
  | none => false
  | some part => (!part.isEmpty && part.all Decimal.isDigit) || (readPart? part).isSome

/-- The address of a dotted name. The last part fills what the others leave. -/
def readIpv4? (name : List Char) : Option Nat := do
  let parts := labels name
  if 4 < parts.length then none
  else
    let numbers ← parts.mapM readPart?
    let last ← numbers.getLast?
    let others := numbers.dropLast
    if others.any (255 < ·) || Nat.pow 256 (5 - numbers.length) ≤ last then none
    else
      some (last + (others.mapIdx fun i n => n * Nat.pow 256 (3 - i)).foldl (· + ·) 0)

/-! ### Addresses in brackets -/

/-- A piece of one to four hexadecimal digits. -/
def readPiece? (digits : List Char) : Option Nat :=
  if digits.isEmpty || 4 < digits.length then none else readBase? 16 digits

/-- The part of an embedded dotted address: one to three digits without leading zero. -/
def readOctet? (digits : List Char) : Option Nat :=
  if Decimal.isCanonical digits && Decimal.value 0 digits < 256 then
    some (Decimal.value 0 digits)
  else none

/-- The two pieces of an embedded dotted address. -/
def readEmbedded? (text : List Char) : Option (List Nat) := do
  match ← (Text.splitOn '.' text).mapM readOctet? with
  | [a, b, c, d] => some [a * 256 + b, c * 256 + d]
  | _ => none

/-- The pieces between colons; the last one may be a dotted address if `embedded` allows. -/
def readPieces? (embedded : Bool) (text : List Char) : Option (List Nat) :=
  if text.isEmpty then some []
  else
    let parts := Text.splitOn ':' text
    match parts.getLast? with
    | none => some []
    | some last =>
      if embedded && '.' ∈ last then do
        some ((← parts.dropLast.mapM readPiece?) ++ (← readEmbedded? last))
      else parts.mapM readPiece?

/-- The text before and after the first double colon. -/
def splitDoubleColon? : List Char → Option (List Char × List Char)
  | ':' :: ':' :: rest => some ([], rest)
  | c :: rest => (splitDoubleColon? rest).map fun (before, after) => (c :: before, after)
  | [] => none

/-- The eight pieces of an address. A double colon stands for as many zeros as are missing,
at least one. -/
def readIpv6? (text : List Char) : Option (List Nat) := do
  match splitDoubleColon? text with
  | none =>
    let pieces ← readPieces? true text
    if pieces.length = 8 then some pieces else none
  | some (before, after) =>
    let first ← readPieces? false before
    let second ← readPieces? true after
    if 8 ≤ first.length + second.length then none
    else some (first ++ List.replicate (8 - first.length - second.length) 0 ++ second)

/-! ### Hosts -/

/-- A host of a scheme without rules: any text without forbidden characters. -/
def readOpaqueHost? (text : List Char) : Option Host :=
  if text.any isForbiddenInHost then none
  else some (.opaqueName (Percent.encode Percent.isControl text))

def readHost? (special : Bool) (text : List Char) : Option Host :=
  match text with
  | '[' :: rest =>
    if rest.getLast? = some ']' then (readIpv6? rest.dropLast).map .ipv6 else none
  | _ =>
    if !special then readOpaqueHost? text
    else do
      let name ← Domain.toAscii? (Utf8.decodeLossy (Percent.decodeText text))
      if name.isEmpty || name.any isForbiddenInDomain then none
      else if endsInNumber name then (readIpv4? name).map .ipv4
      else some (.domain name)

end ModuleArchive.Url
