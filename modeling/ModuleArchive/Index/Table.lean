/-!
# Tables

A table keeps one record per key. Keys that have been put once keep their place; their
number is the size of the table.
-/
namespace ModuleArchive.Index

/-- A set of records under distinct keys. -/
structure Table (κ α : Type) where
  entries : List (κ × α) := []
deriving Repr

namespace Table

variable {κ α : Type} [DecidableEq κ]

def get? (t : Table κ α) (key : κ) : Option α := (t.entries.find? (·.1 = key)).map (·.2)

/-- The entries with the record of a key put in its place, or at the end. -/
def insertInto (key : κ) (record : α) : List (κ × α) → List (κ × α)
  | [] => [(key, record)]
  | (k, r) :: rest =>
    if k = key then (key, record) :: rest else (k, r) :: insertInto key record rest

/-- The table with a record put under a key, replacing the one that was there. -/
def put (t : Table κ α) (key : κ) (record : α) : Table κ α := ⟨insertInto key record t.entries⟩

def size (t : Table κ α) : Nat := t.entries.length

theorem get?_put (t : Table κ α) (key : κ) (record : α) (other : κ) :
    (t.put key record).get? other = if key = other then some record else t.get? other := by
  obtain ⟨entries⟩ := t
  simp only [get?, put]
  induction entries with
  | nil => simp [insertInto, List.find?_cons]; split <;> simp_all
  | cons entry rest ih =>
    obtain ⟨k, r⟩ := entry
    simp only [insertInto]
    by_cases hk : k = key
    · subst hk
      simp only [if_true, List.find?_cons]
      by_cases ho : k = other <;> simp [ho]
    · simp only [hk, if_false, List.find?_cons]
      by_cases ho : k = other
      · subst ho
        have : ¬ key = k := fun h => hk h.symm
        simp [this]
      · simp only [ho, decide_false]
        exact ih

end Table

end ModuleArchive.Index
