/-!
# UTF-8

Characters as bytes and back. Encoding is arithmetic on code points. Decoding is a
machine that reads one byte at a time and remembers how many continuation bytes a
character still needs and in which range the next one must lie; the range of the second
byte is what excludes overlong forms, surrogates and code points above `0x10FFFF`.
An ill-formed stretch is reported once per longest start of a character.
-/
namespace ModuleArchive

abbrev Bytes := List UInt8

namespace Utf8

def encodeChar (c : Char) : Bytes :=
  let n := c.toNat
  if n < 0x80 then [UInt8.ofNat n]
  else if n < 0x800 then
    [UInt8.ofNat (0xC0 + n / 64), UInt8.ofNat (0x80 + n % 64)]
  else if n < 0x10000 then
    [UInt8.ofNat (0xE0 + n / 4096), UInt8.ofNat (0x80 + n / 64 % 64), UInt8.ofNat (0x80 + n % 64)]
  else
    [UInt8.ofNat (0xF0 + n / 262144), UInt8.ofNat (0x80 + n / 4096 % 64),
      UInt8.ofNat (0x80 + n / 64 % 64), UInt8.ofNat (0x80 + n % 64)]

def encode (text : List Char) : Bytes := text.flatMap encodeChar

/-- A character of which the first bytes have been read. -/
structure Pending where
  /-- The bits read so far. -/
  value : Nat
  /-- How many bytes are still to come. -/
  needed : Nat
  /-- Least value of the next byte. -/
  low : Nat := 0x80
  /-- Greatest value of the next byte. -/
  high : Nat := 0xBF

/-- Read the first byte of a character: a complete character, the start of a longer one,
or neither. -/
def start (b : UInt8) : Option Char ⊕ Pending :=
  let n := b.toNat
  if n < 0x80 then .inl (some (Char.ofNat n))
  else if n < 0xC2 then .inl none
  else if n < 0xE0 then .inr { value := n - 0xC0, needed := 1 }
  else if n < 0xF0 then
    .inr { value := n - 0xE0, needed := 2,
           low := if n = 0xE0 then 0xA0 else 0x80, high := if n = 0xED then 0x9F else 0xBF }
  else if n < 0xF5 then
    .inr { value := n - 0xF0, needed := 3,
           low := if n = 0xF0 then 0x90 else 0x80, high := if n = 0xF4 then 0x8F else 0xBF }
  else .inl none

/-- Read on from `state`. The characters read are put in front of `acc`, newest first;
`none` stands for an ill-formed stretch. -/
def decodeInto (acc : List (Option Char)) : Option Pending → Bytes → List (Option Char)
  | none, [] => acc
  | some _, [] => none :: acc
  | none, b :: rest =>
    match start b with
    | .inl symbol => decodeInto (symbol :: acc) none rest
    | .inr pending => decodeInto acc (some pending) rest
  | some pending, b :: rest =>
    let n := b.toNat
    if pending.low ≤ n ∧ n ≤ pending.high then
      let value := pending.value * 64 + (n - 0x80)
      if pending.needed ≤ 1 then decodeInto (some (Char.ofNat value) :: acc) none rest
      else decodeInto acc (some { value := value, needed := pending.needed - 1 }) rest
    else
      match start b with
      | .inl symbol => decodeInto (symbol :: none :: acc) none rest
      | .inr next => decodeInto (none :: acc) (some next) rest

/-- The characters of a byte sequence, with `none` for each ill-formed stretch. -/
def symbols (bytes : Bytes) : List (Option Char) := (decodeInto [] none bytes).reverse

/-- The text of well-formed bytes. -/
def decode? (bytes : Bytes) : Option (List Char) := (symbols bytes).mapM id

/-- The text of any bytes: an ill-formed stretch reads as the replacement character. -/
def decodeLossy (bytes : Bytes) : List Char := (symbols bytes).map (·.getD '\uFFFD')

end Utf8

end ModuleArchive
