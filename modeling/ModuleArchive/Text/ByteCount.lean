import ModuleArchive.Text.Decimal

/-!
# Byte counts

A count of bytes for people: below 1024 as it is, otherwise in the largest unit of which
there is at least one, with two decimal places. Counts of more than 53 bits are rounded to 53
significant bits first. Where two roundings are equally near, the even one is taken.
-/
namespace ModuleArchive.ByteCount

/-- The quotient rounded to the nearest whole number, of two that are equally near to the
even one. -/
def roundedQuotient (n d : Nat) : Nat :=
  let whole := n / d
  let twice := 2 * (n % d)
  if d < twice ∨ (twice = d ∧ whole % 2 = 1) then whole + 1 else whole

/-- How many significant bits a count keeps. -/
def significantBits : Nat := 53

/-- A count with its significant bits only. -/
def rounded (n : Nat) : Nat :=
  let unit := Nat.pow 2 (n.log2 + 1 - significantBits)
  roundedQuotient n unit * unit

/-- The units above the byte. -/
def units : List String := ["KiB", "MiB", "GiB", "TiB"]

/-- The size in bytes and the name of the largest unit of which there is at least one; the
last unit serves for all that is larger. -/
def unitOf (count unit : Nat) (name : String) : List String → Nat × String
  | [] => (unit, name)
  | larger :: rest =>
    if unit * 1024 ≤ count then unitOf count (unit * 1024) larger rest else (unit, name)

/-- A number of hundredths with a point. -/
def hundredths (n : Nat) : List Char :=
  Decimal.digits (n / 100) ++ '.' :: (Decimal.digits (n / 10 % 10) ++ Decimal.digits (n % 10))

def text (count : UInt64) : String :=
  let (unit, name) := unitOf (rounded count.toNat) 1 "B" units
  let number := if unit = 1 then Decimal.digits count.toNat
    else hundredths (roundedQuotient (100 * rounded count.toNat) unit)
  String.ofList (number ++ ' ' :: name.toList)

end ModuleArchive.ByteCount
