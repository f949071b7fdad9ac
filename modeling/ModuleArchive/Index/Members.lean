/-!
# Memberships

An ordered listing is kept as rows that give its owner, a position and a member. A listing
is replaced as a whole, which numbers its members from zero, or extended by one member at
the position after the last.
-/
namespace ModuleArchive.Index

/-- One place in the listing of an owner. -/
structure Membership (κ μ : Type) where
  owner : κ
  position : Nat
  member : μ
deriving Repr, DecidableEq

/-- The rows of all listings. -/
abbrev Members (κ μ : Type) := List (Membership κ μ)

namespace Members

variable {κ μ : Type} [DecidableEq κ]

/-- The rows of one listing, in the order in which they were written. -/
def ofOwner (rows : Members κ μ) (owner : κ) : Members κ μ := rows.filter (·.owner = owner)

def list (rows : Members κ μ) (owner : κ) : List μ :=
  ((rows.ofOwner owner).mergeSort (fun a b => a.position ≤ b.position)).map (·.member)

/-- Rows for the members of a listing, numbered from `position`. -/
def number (owner : κ) (position : Nat) : List μ → Members κ μ
  | [] => []
  | member :: rest => ⟨owner, position, member⟩ :: number owner (position + 1) rest

/-- The rows with a listing replaced. -/
def replace (rows : Members κ μ) (owner : κ) (members : List μ) : Members κ μ :=
  rows.filter (·.owner ≠ owner) ++ number owner 0 members

/-- The first position behind all rows of a listing. -/
def nextPosition (rows : Members κ μ) (owner : κ) : Nat :=
  (rows.ofOwner owner).foldl (fun next row => max next (row.position + 1)) 0

/-- The rows with a member put behind a listing, unless the listing has it already. -/
def append [DecidableEq μ] (rows : Members κ μ) (owner : κ) (member : μ) : Members κ μ :=
  if (rows.ofOwner owner).any (·.member = member) then rows
  else rows ++ [⟨owner, rows.nextPosition owner, member⟩]

end Members

end ModuleArchive.Index
