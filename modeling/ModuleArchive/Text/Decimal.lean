/-!
# Decimal numbers

Natural numbers in ASCII decimal digits. The written form has no sign and no leading zero;
reading accepts any non-empty run of digits.
-/
namespace ModuleArchive.Decimal

def isDigit (c : Char) : Bool := '0' ≤ c && c ≤ '9'

def digitValue (c : Char) : Nat := c.toNat - '0'.toNat

def digits (n : Nat) : List Char := Nat.toDigits 10 n

/-- The value of a run of digits, read after `start`. -/
def value (start : Nat) (text : List Char) : Nat :=
  text.foldl (fun n c => n * 10 + digitValue c) start

/-- Read a non-empty run of digits. -/
def read? (text : List Char) : Option Nat :=
  if text.isEmpty || !text.all isDigit then none else some (value 0 text)

/-- Read a number below `bound`, which may be preceded by a plus sign. -/
def readBelow? (bound : Nat) (text : List Char) : Option Nat :=
  let unsigned := match text with
    | '+' :: rest => rest
    | _ => text
  match read? unsigned with
  | some n => if n < bound then some n else none
  | none => none

/-- Signed numbers of 64 bits are below this bound, and not below its opposite. -/
def signedBound : Nat := UInt64.size / 2

/-- Whether a run of digits is the written form of its value. -/
def isCanonical (text : List Char) : Bool :=
  !text.isEmpty && text.all isDigit && (text == ['0'] || text.head? != some '0')

end ModuleArchive.Decimal
