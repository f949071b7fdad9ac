import ModuleArchive.Cache.Locks
import ModuleArchive.Proofs.Traverse

/-!
# Who holds a key

Every claim is one to the lock that its key has in the table, as the table only drops locks that
nobody claims. So two tasks that claim one key claim one lock, and only one of them can hold it. A
task that holds a key holds it until its claim ends, whatever others claim, release or give up.
-/
namespace ModuleArchive.Cache.KeyedLocks

variable {l l' : KeyedLocks} {i j : Nat} {key other : String}

/-! ### Holding -/

lemma holds_iff : l.holds i key = true ↔
    ∃ c, l.claimOf? i key = some c ∧ l.claims.find? (·.lock = c.lock) = some c := by
  rw [holds]
  cases l.claimOf? i key with
  | none => simp
  | some c => simp

lemma of_claimOf? {c : Claim} (h : l.claimOf? i key = some c) :
    c ∈ l.claims ∧ c.task = i ∧ c.key = key := by
  have hc := List.find?_some h
  rw [Bool.and_eq_true, decide_eq_true_iff, decide_eq_true_iff] at hc
  exact ⟨List.mem_of_find?_eq_some h, hc⟩

/-- A task that holds a key keeps it while its claims stay where they are among the others. -/
lemma holds_of_filter {kept : Claim → Bool} (h : l.holds i key = true)
    (hl : l'.claims = l.claims.filter kept)
    (hkept : ∀ c : Claim, c.task = i → c.key = key → kept c = true) : l'.holds i key = true := by
  obtain ⟨c, hc, hfirst⟩ := holds_iff.mp h
  obtain ⟨-, htask, hkey⟩ := of_claimOf? hc
  have hc' := hkept c htask hkey
  rw [holds_iff]
  refine ⟨c, ?_, ?_⟩
  · rw [claimOf?, hl]
    exact find?_filter_of_find? hc hc'
  · rw [hl]
    exact find?_filter_of_find? hfirst hc'

lemma holds_release (h : l.holds i key = true) (hne : j ≠ i ∨ other ≠ key) :
    (l.release j other).holds i key = true := by
  refine holds_of_filter h rfl fun c htask hkey => ?_
  rcases hne with hne | hne
  · simp [htask, Ne.symm hne]
  · simp [hkey, Ne.symm hne]

lemma holds_cancel (h : l.holds i key = true) (hne : j ≠ i) :
    (l.cancel j).holds i key = true := by
  refine holds_of_filter h rfl fun c htask hkey => ?_
  simp [htask, Ne.symm hne]

/-! ### Claiming -/

lemma exists_claims_claim (l : KeyedLocks) (i : Nat) (key : String) :
    ∃ lock, (l.claim i key).claims = l.claims ++ [⟨i, key, lock⟩] ∧
      (l.claim i key).lockOf? key = some lock := by
  rw [claim]
  cases hlock : l.prune.lockOf? key with
  | some lock => exact ⟨lock, rfl, hlock⟩
  | none =>
    refine ⟨l.prune.next, rfl, ?_⟩
    simp [lockOf?]

/-- A new claim comes after all others. -/
lemma holds_claim (h : l.holds i key = true) (j : Nat) (other : String) :
    (l.claim j other).holds i key = true := by
  obtain ⟨c, hc, hfirst⟩ := holds_iff.mp h
  obtain ⟨lock, hclaims, -⟩ := exists_claims_claim l j other
  rw [claimOf?] at hc
  rw [holds_iff]
  refine ⟨c, ?_, ?_⟩
  · rw [claimOf?, hclaims, List.find?_append, hc, Option.some_or]
  · rw [hclaims, List.find?_append, hfirst, Option.some_or]

/-! ### One holder -/

/-- Whether every claim is one to the lock of its key. -/
def IsSound (l : KeyedLocks) : Prop := ∀ c ∈ l.claims, l.lockOf? c.key = some c.lock

lemma isSound_empty : IsSound {} := fun _ h => absurd h List.not_mem_nil

/-- Only one task holds a key. -/
theorem IsSound.eq_of_holds (hl : l.IsSound) (hi : l.holds i key = true)
    (hj : l.holds j key = true) : i = j := by
  obtain ⟨c, hc, hcfirst⟩ := holds_iff.mp hi
  obtain ⟨d, hd, hdfirst⟩ := holds_iff.mp hj
  obtain ⟨hcmem, rfl, hckey⟩ := of_claimOf? hc
  obtain ⟨hdmem, rfl, hdkey⟩ := of_claimOf? hd
  have hlock : c.lock = d.lock := by
    have hcd := (hl c hcmem).symm.trans ((congrArg l.lockOf? (hckey.trans hdkey.symm)).trans
      (hl d hdmem))
    exact Option.some_inj.mp hcd
  rw [hlock, hdfirst, Option.some_inj] at hcfirst
  rw [hcfirst]

lemma IsSound.of_claims (hl : l.IsSound) (ht : l'.table = l.table)
    (hc : ∀ c ∈ l'.claims, c ∈ l.claims) : l'.IsSound := by
  intro c hm
  rw [lockOf?, ht]
  exact hl c (hc c hm)

lemma IsSound.release (hl : l.IsSound) (i : Nat) (key : String) : (l.release i key).IsSound :=
  hl.of_claims rfl fun _ hm => List.mem_of_mem_filter hm

lemma IsSound.cancel (hl : l.IsSound) (i : Nat) : (l.cancel i).IsSound :=
  hl.of_claims rfl fun _ hm => List.mem_of_mem_filter hm

lemma IsSound.prune (hl : l.IsSound) : l.prune.IsSound := by
  intro c hm
  have hlock := hl c hm
  rw [lockOf?, Option.map_eq_some_iff] at hlock
  obtain ⟨⟨found, lock⟩, hfind, hlock⟩ := hlock
  have hclaimed : l.isClaimed lock = true :=
    List.any_eq_true.mpr ⟨c, hm, by simpa using hlock.symm⟩
  have hkept := find?_filter_of_find? (q := fun x : String × Nat => l.isClaimed x.2) hfind hclaimed
  rw [lockOf?, KeyedLocks.prune, hkept]
  exact congrArg some hlock

lemma IsSound.claim (hl : l.IsSound) (i : Nat) (key : String) : (l.claim i key).IsSound := by
  have hpruned := hl.prune
  intro c hm
  obtain ⟨lock, hclaims, hlock⟩ := exists_claims_claim l i key
  rw [hclaims, List.mem_append, List.mem_singleton] at hm
  rcases hm with hm | rfl
  · have hc : l.prune.lockOf? c.key = some c.lock := hpruned c hm
    rw [KeyedLocks.claim]
    cases hk : l.prune.lockOf? key with
    | some found => exact hc
    | none =>
      have hne : key ≠ c.key := by
        rintro rfl
        rw [hk] at hc
        contradiction
      rw [lockOf?, List.find?_cons_of_neg (by simpa using hne)]
      exact hc
  · exact hlock

end ModuleArchive.Cache.KeyedLocks
