/-!
# Tables of code points

Large tables are written as texts: rows that end with a semicolon, of hexadecimal numbers with
blanks between them. Two numbers are a range, one is a range of its own.
-/
namespace ModuleArchive.Text.CodeTable

/-- A table that has been read in part. -/
structure Progress where
  rows : Array (List Nat) := #[]
  /-- The numbers of the current row, the last one first. -/
  row : List Nat := []
  /-- The current number, if its digits have begun. -/
  number : Option Nat := none

namespace Progress

/-- The current number ends here, if there is one. -/
def endNumber (p : Progress) : Progress :=
  match p.number with
  | some n => { p with row := n :: p.row, number := none }
  | none => p

/-- Read one more character. -/
def next (p : Progress) (c : Char) : Progress :=
  if c = ';' then
    let p := p.endNumber
    { p with rows := p.rows.push p.row.reverse, row := [] }
  else if '0' ≤ c ∧ c ≤ '9' then
    { p with number := some (p.number.getD 0 * 16 + (c.toNat - '0'.toNat)) }
  else if 'A' ≤ c ∧ c ≤ 'F' then
    { p with number := some (p.number.getD 0 * 16 + (c.toNat - 'A'.toNat + 10)) }
  else p.endNumber

end Progress

/-- The rows of a table. -/
def rows (text : String) : Array (List Nat) := (text.foldl Progress.next {}).rows

/-- The ranges in a table, each one with what is said about it. -/
def ranges (text : String) : Array (Nat × Nat × List Nat) :=
  (rows text).filterMap fun
    | [only] => some (only, only, [])
    | first :: last :: rest => some (first, last, rest)
    | [] => none

/-- What a table says about the range with a code point in it. -/
def find? (table : Array (Nat × Nat × List Nat)) (n : Nat) : Option (List Nat) :=
  (table.find? fun (first, last, _) => first ≤ n && n ≤ last).map (·.2.2)

/-- Whether a code point is in one of the ranges of a table. -/
def mem (table : Array (Nat × Nat × List Nat)) (n : Nat) : Bool := (find? table n).isSome

end ModuleArchive.Text.CodeTable
