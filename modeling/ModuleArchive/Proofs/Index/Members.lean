import ModuleArchive.Index.Members
import Mathlib.Tactic.Lemma

/-!
# Listings as lists

As long as the rows of every listing are numbered from zero, without gaps and in the order in
which they were written, a listing is a list: replacing makes it the new list, and extending
it adds a member at the end if the listing does not have it. No other listing changes.
-/
namespace ModuleArchive.Index.Members

variable {κ μ : Type}

/-! ### Numbered rows -/

@[simp] lemma map_member_number (owner : κ) (position : Nat) (members : List μ) :
    (number owner position members).map (·.member) = members := by
  induction members generalizing position with
  | nil => rfl
  | cons member rest ih => rw [number, List.map_cons, ih]

lemma number_append (owner : κ) (position : Nat) (a b : List μ) :
    number owner position (a ++ b) =
      number owner position a ++ number owner (position + a.length) b := by
  induction a generalizing position with
  | nil => rfl
  | cons member rest ih =>
    have hp : position + (member :: rest).length = position + 1 + rest.length := by
      rw [List.length_cons]
      omega
    rw [List.cons_append, number, number, ih, hp, List.cons_append]

lemma owner_of_mem_number {owner : κ} {position : Nat} {members : List μ}
    {row : Membership κ μ} (h : row ∈ number owner position members) :
    row.owner = owner ∧ position ≤ row.position := by
  induction members generalizing position with
  | nil => contradiction
  | cons member rest ih =>
    rw [number] at h
    rcases List.mem_cons.mp h with rfl | h
    · exact ⟨rfl, Nat.le_refl _⟩
    · obtain ⟨ho, hp⟩ := ih h
      exact ⟨ho, by omega⟩

lemma pairwise_number (owner : κ) (position : Nat) (members : List μ) :
    (number owner position members).Pairwise fun a b => a.position ≤ b.position := by
  induction members generalizing position with
  | nil => exact List.Pairwise.nil
  | cons member rest ih =>
    refine List.Pairwise.cons ?_ (ih (position + 1))
    intro row hm
    have hp := (owner_of_mem_number hm).2
    simp only
    omega

lemma foldl_max_number (owner : κ) (position : Nat) (members : List μ) :
    (number owner position members).foldl (fun next row => max next (row.position + 1)) position =
      position + members.length := by
  induction members generalizing position with
  | nil => rfl
  | cons member rest ih =>
    rw [number, List.foldl_cons, List.length_cons]
    simp only [Nat.max_eq_right (Nat.le_succ position)]
    rw [ih]
    omega

variable [DecidableEq κ]

@[simp] lemma ofOwner_number_self (owner : κ) (position : Nat) (members : List μ) :
    ofOwner (number owner position members) owner = number owner position members := by
  rw [ofOwner, List.filter_eq_self]
  intro row hm
  exact decide_eq_true (owner_of_mem_number hm).1

lemma ofOwner_number_of_ne {owner other : κ} (h : owner ≠ other) (position : Nat)
    (members : List μ) : ofOwner (number owner position members) other = [] := by
  rw [ofOwner, List.filter_eq_nil_iff]
  intro row hm
  rw [(owner_of_mem_number hm).1]
  simpa using h

/-! ### Rows of all listings -/

/-- Whether the rows of every listing are numbered from zero in the order in which they stand. -/
def Numbered (rows : Members κ μ) : Prop :=
  ∀ owner, ∃ members, rows.ofOwner owner = number owner 0 members

lemma numbered_nil : Numbered ([] : Members κ μ) := fun _ => ⟨[], rfl⟩

lemma list_of_ofOwner {rows : Members κ μ} {owner : κ} {members : List μ}
    (h : rows.ofOwner owner = number owner 0 members) : rows.list owner = members := by
  have hsorted : ((number owner 0 members).mergeSort fun a b => a.position ≤ b.position) =
      number owner 0 members := by
    apply List.mergeSort_of_pairwise
    simpa using pairwise_number owner 0 members
  rw [list, h, hsorted, map_member_number]

lemma Numbered.ofOwner_eq {rows : Members κ μ} (h : rows.Numbered) (owner : κ) :
    rows.ofOwner owner = number owner 0 (rows.list owner) := by
  obtain ⟨members, hm⟩ := h owner
  rw [list_of_ofOwner hm, hm]

@[simp] lemma list_nil (owner : κ) : list ([] : Members κ μ) owner = [] :=
  list_of_ofOwner rfl

/-! ### Replacing -/

lemma ofOwner_replace_self (rows : Members κ μ) (owner : κ) (members : List μ) :
    (rows.replace owner members).ofOwner owner = number owner 0 members := by
  have hnone : ofOwner (rows.filter (·.owner ≠ owner)) owner = [] := by
    simp [ofOwner]
  rw [ofOwner] at hnone
  rw [replace, ofOwner, List.filter_append, hnone, ← ofOwner, ofOwner_number_self, List.nil_append]

lemma ofOwner_replace_of_ne (rows : Members κ μ) {owner other : κ} (h : owner ≠ other)
    (members : List μ) : (rows.replace owner members).ofOwner other = rows.ofOwner other := by
  have hkeep : (rows.filter (·.owner ≠ owner)).filter (·.owner = other) =
      rows.filter (·.owner = other) := by
    rw [List.filter_filter]
    apply List.filter_congr
    intro row _
    by_cases ho : row.owner = other
    · simp [ho, Ne.symm h]
    · simp [ho]
  have hnone := ofOwner_number_of_ne h 0 members
  rw [ofOwner] at hnone
  rw [replace, ofOwner, List.filter_append, hkeep, hnone, List.append_nil, ofOwner]

theorem list_replace_self (rows : Members κ μ) (owner : κ) (members : List μ) :
    (rows.replace owner members).list owner = members :=
  list_of_ofOwner (ofOwner_replace_self rows owner members)

theorem list_replace_of_ne (rows : Members κ μ) {owner other : κ} (h : owner ≠ other)
    (members : List μ) : (rows.replace owner members).list other = rows.list other := by
  rw [list, ofOwner_replace_of_ne rows h members, list]

lemma Numbered.replace {rows : Members κ μ} (h : rows.Numbered) (owner : κ) (members : List μ) :
    (rows.replace owner members).Numbered := by
  intro other
  by_cases ho : owner = other
  · subst ho
    exact ⟨members, ofOwner_replace_self rows owner members⟩
  · rw [ofOwner_replace_of_ne rows ho members]
    exact h other

/-! ### Extending -/

lemma Numbered.nextPosition_eq {rows : Members κ μ} (h : rows.Numbered) (owner : κ) :
    rows.nextPosition owner = (rows.list owner).length := by
  rw [nextPosition, h.ofOwner_eq owner, foldl_max_number, Nat.zero_add]

variable [DecidableEq μ]

lemma any_member_ofOwner (rows : Members κ μ) (h : rows.Numbered) (owner : κ) (member : μ) :
    (rows.ofOwner owner).any (·.member = member) = decide (member ∈ rows.list owner) := by
  have hmap : (rows.ofOwner owner).map (·.member) = rows.list owner := by
    rw [h.ofOwner_eq owner, map_member_number]
  rw [← hmap, Bool.eq_iff_iff, decide_eq_true_iff, List.any_eq_true, List.mem_map]
  simp only [decide_eq_true_eq]

lemma Numbered.ofOwner_append {rows : Members κ μ} (h : rows.Numbered) (owner : κ) (member : μ)
    (other : κ) : (rows.append owner member).ofOwner other = number other 0
      (if owner = other ∧ member ∉ rows.list owner then rows.list other ++ [member]
        else rows.list other) := by
  rw [append, any_member_ofOwner rows h]
  by_cases hm : member ∈ rows.list owner
  · rw [if_pos (decide_eq_true hm), if_neg (fun hn => hn.2 hm), h.ofOwner_eq]
  · rw [if_neg (by simpa using hm)]
    have hsplit : ofOwner (rows ++ [⟨owner, rows.nextPosition owner, member⟩]) other =
        rows.ofOwner other ++ ofOwner [⟨owner, rows.nextPosition owner, member⟩] other :=
      List.filter_append ..
    by_cases ho : owner = other
    · subst ho
      rw [if_pos ⟨rfl, hm⟩, number_append, ← h.ofOwner_eq, Nat.zero_add, ← h.nextPosition_eq,
        hsplit]
      simp [ofOwner, number]
    · rw [if_neg (fun hn => ho hn.1), ← h.ofOwner_eq, hsplit]
      simp [ofOwner, ho]

/-- After extending, a listing has the member, at the end if it is new, and every other one has
what it had. -/
theorem Numbered.list_append {rows : Members κ μ} (h : rows.Numbered) (owner : κ) (member : μ)
    (other : κ) : (rows.append owner member).list other =
      if owner = other ∧ member ∉ rows.list owner then rows.list other ++ [member]
      else rows.list other :=
  list_of_ofOwner (h.ofOwner_append owner member other)

lemma Numbered.append {rows : Members κ μ} (h : rows.Numbered) (owner : κ) (member : μ) :
    (rows.append owner member).Numbered := fun other => ⟨_, h.ofOwner_append owner member other⟩

end ModuleArchive.Index.Members
