/-!
# Letter buckets

Groups are filed under the letter their name starts with. A bucket is one of the letters
`A` to `Z`, or `#` for all other names; `#` comes before the letters.
-/
namespace ModuleArchive

/-- A letter bucket. -/
inductive Bucket where
  /-- The bucket of all names that do not start with a letter. -/
  | nonLetter
  /-- The bucket of a letter, counted from `A`. -/
  | letter (index : Fin 26)
deriving Repr, DecidableEq

namespace Bucket

def toChar : Bucket → Char
  | nonLetter => '#'
  | letter i => Char.ofNat (0x41 + i)

/-- The bucket of an upper-case ASCII letter. -/
def ofLetter? (c : Char) : Option Bucket :=
  if h : 0x41 ≤ c.toNat ∧ c.toNat ≤ 0x5A then some (letter ⟨c.toNat - 0x41, by omega⟩) else none

/-- The bucket with this text, which has to be a single character. -/
def ofText? : List Char → Option Bucket
  | [c] => if c = '#' then some nonLetter else ofLetter? c
  | _ => none

def ofName (name : String) : Bucket :=
  match name.toList with
  | [] => nonLetter
  | c :: _ => (ofLetter? c.toUpper).getD nonLetter

def contains (b : Bucket) (name : String) : Bool := ofName name = b

def isLetter : Bucket → Bool
  | nonLetter => false
  | letter _ => true

def text (b : Bucket) : String := String.singleton b.toChar

/-- The place of a bucket in the listing order. -/
def rank : Bucket → Nat
  | nonLetter => 0
  | letter i => i + 1

instance : LE Bucket := ⟨fun a b => a.rank ≤ b.rank⟩

instance (a b : Bucket) : Decidable (a ≤ b) := inferInstanceAs (Decidable (a.rank ≤ b.rank))

def all : List Bucket := nonLetter :: (List.finRange 26).map letter

def sort (buckets : List Bucket) : List Bucket := buckets.mergeSort (· ≤ ·)

@[simp] theorem ofText?_toChar (b : Bucket) : ofText? [b.toChar] = some b := by
  cases b with
  | nonLetter => rfl
  | letter i => revert i; decide

end Bucket

end ModuleArchive
