import ModuleArchive.Text.Utf8

/-!
# Percent-encoding

A text is written with a chosen set of ASCII characters escaped; every other character
outside ASCII is escaped too, byte by byte of its UTF-8 form. Decoding works on bytes: a
percent sign that is not followed by two hexadecimal digits stands for itself.
-/
namespace ModuleArchive.Percent

/-- The percent sign as a byte. -/
def sign : UInt8 := 0x25

/-- An upper-case hexadecimal digit. -/
def hexDigit (n : Nat) : Char := if n < 10 then Char.ofNat (0x30 + n) else Char.ofNat (0x37 + n)

/-- The value of a hexadecimal digit of either case. -/
def hexValue? (n : Nat) : Option Nat :=
  if 0x30 ≤ n ∧ n ≤ 0x39 then some (n - 0x30)
  else if 0x41 ≤ n ∧ n ≤ 0x46 then some (n - 0x37)
  else if 0x61 ≤ n ∧ n ≤ 0x66 then some (n - 0x57)
  else none

def escapeByte (b : UInt8) : List Char := ['%', hexDigit (b.toNat / 16), hexDigit (b.toNat % 16)]

/-- A character, escaped if it is in the set or outside ASCII. -/
def encodeChar (escape : Char → Bool) (c : Char) : List Char :=
  if c.toNat < 0x80 && !escape c then [c] else (Utf8.encodeChar c).flatMap escapeByte

/-- A text with the characters of the set and those outside ASCII escaped. -/
def encode (escape : Char → Bool) (text : List Char) : List Char :=
  text.flatMap (encodeChar escape)

/-- The bytes that a byte sequence with escapes stands for. -/
def decode : Bytes → Bytes
  | [] => []
  | b :: high :: low :: rest =>
    if b = sign then
      match hexValue? high.toNat, hexValue? low.toNat with
      | some h, some l => UInt8.ofNat (h * 16 + l) :: decode rest
      | _, _ => b :: decode (high :: low :: rest)
    else b :: decode (high :: low :: rest)
  | b :: rest => b :: decode rest

/-- The bytes that a text with escapes stands for. -/
def decodeText (text : List Char) : Bytes := decode (Utf8.encode text)

def isControl (c : Char) : Bool := c.toNat < 0x20 || c.toNat == 0x7F

end ModuleArchive.Percent
