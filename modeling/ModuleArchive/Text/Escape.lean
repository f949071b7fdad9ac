import ModuleArchive.Text.Decimal
import ModuleArchive.Text.Percent

/-!
# Escapes by number

Characters that are written as a fixed count of hexadecimal digits, and the size of decimal
fractions compared with the largest number of double precision.
-/
namespace ModuleArchive.Text

/-- The number that exactly `count` hexadecimal digits stand for, read after `start`, and
what follows them. -/
def readHex? (start : Nat) : Nat → List Char → Option (Nat × List Char)
  | 0, rest => some (start, rest)
  | _ + 1, [] => none
  | count + 1, c :: rest =>
    match Percent.hexValue? c.toNat with
    | some d => readHex? (start * 16 + d) count rest
    | none => none

/-- The character with a number, unless it is half of a surrogate pair or too large. -/
def charOf? (n : Nat) : Option Char := if n.isValidChar then some (Char.ofNat n) else none

/-- The character that exactly `count` hexadecimal digits stand for, and what follows. -/
def readCharCode? (count : Nat) (text : List Char) : Option (Char × List Char) :=
  (readHex? 0 count text).bind fun (n, rest) => (charOf? n).map (·, rest)

/-- The least number that is rounded to infinity in double precision. -/
def overflowBound : Nat := Nat.pow 2 1024 - Nat.pow 2 970

/-- Whether `mantissa * 10 ^ exponent` is too large for double precision. -/
def overflows (mantissa : Nat) (exponent : Int) : Bool :=
  if mantissa = 0 then false
  else
    let digits : Int := (Decimal.digits mantissa).length
    if exponent + digits < 300 then false
    else if 320 < exponent + digits then true
    else if 0 ≤ exponent then overflowBound ≤ mantissa * Nat.pow 10 exponent.toNat
    else overflowBound * Nat.pow 10 (-exponent).toNat ≤ mantissa

end ModuleArchive.Text
