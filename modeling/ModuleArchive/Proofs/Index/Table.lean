import ModuleArchive.Index.Table
import Mathlib.Tactic.Lemma

/-!
# Tables as logs

A table that has been filled record by record answers with the record that was put last under
a key.
-/
namespace ModuleArchive.Index.Table

variable {κ α β : Type} [DecidableEq κ]

@[simp] lemma get?_empty (key : κ) : ({} : Table κ α).get? key = none := rfl

@[simp] lemma get?_put_self (t : Table κ α) (key : κ) (record : α) :
    (t.put key record).get? key = some record := by
  rw [get?_put, if_pos rfl]

lemma get?_put_of_ne (t : Table κ α) {key other : κ} (h : key ≠ other) (record : α) :
    (t.put key record).get? other = t.get? other := by
  rw [get?_put, if_neg h]

/-- The table with the records of some values put in, in order. -/
def putAll (keyOf : β → κ) (recordOf : β → α) (t : Table κ α) (values : List β) : Table κ α :=
  values.foldl (fun t v => t.put (keyOf v) (recordOf v)) t

variable {keyOf : β → κ} {recordOf : β → α} {t : Table κ α} {values : List β}

lemma putAll_cons (v : β) : t.putAll keyOf recordOf (v :: values) =
    (t.put (keyOf v) (recordOf v)).putAll keyOf recordOf values := rfl

lemma putAll_append (more : List β) :
    t.putAll keyOf recordOf (values ++ more) =
      (t.putAll keyOf recordOf values).putAll keyOf recordOf more :=
  List.foldl_append ..

/-- What is found is the record of the last value with that key, or else what was there before. -/
lemma get?_putAll (key : κ) :
    (t.putAll keyOf recordOf values).get? key =
      ((values.reverse.find? (keyOf · = key)).map recordOf).or (t.get? key) := by
  induction values generalizing t with
  | nil => rfl
  | cons v rest ih =>
    rw [putAll_cons, ih, List.reverse_cons, List.find?_append]
    cases rest.reverse.find? (keyOf · = key) with
    | some u => rfl
    | none =>
      rw [get?_put]
      by_cases hk : keyOf v = key
      · simp [hk]
      · simp [hk]

end ModuleArchive.Index.Table
