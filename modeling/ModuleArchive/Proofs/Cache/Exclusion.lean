import ModuleArchive.Catalog.Memory
import ModuleArchive.Proofs.Cache.Interleaving
import ModuleArchive.Proofs.Cache.SharedLocks

/-!
# One guard for each key

The claims of the tasks that run side by side are calls for shared locks in which each call asks for
its lock as soon as it has looked up its key. What holds of shared locks, where other calls may look
up keys, give up and drop their guards before it asks, holds of these claims too.
-/
namespace ModuleArchive.Cache

open SharedLocks (Move run)

/-! ### Claims as handles -/

/-- The claim of a task that has a handle. -/
def Handle.toClaim (h : Handle (Nat × String)) : Claim := ⟨h.caller.1, h.key, h.lock⟩

namespace KeyedLocks

variable {l : KeyedLocks} {t : SharedLocks (Nat × String) (List (Nat × String))}
  {h : Handle (Nat × String)} {i lock : Nat} {key : String}

/-- Whether some claims are the handles of a table in which each call asks for its lock as soon as
it has looked up its key. A call is known by its task and its key. -/
structure IsShared (l : KeyedLocks) (t : SharedLocks (Nat × String) (List (Nat × String))) :
    Prop where
  entries_eq : t.entries = l.table
  next_eq : t.next = l.next
  claims_eq : t.handles.map Handle.toClaim = l.claims
  caller_eq : ∀ h ∈ t.handles, h.caller.2 = h.key
  hasAsked : ∀ h ∈ t.handles, h.stage ≠ .called
  line_eq : ∀ lock, t.line (.queue _) lock =
    (l.claims.filter (·.lock = lock)).map fun c => (c.task, c.key)

namespace IsShared

lemma start : IsShared {} (SharedLocks.start (.queue _)) where
  entries_eq := rfl
  next_eq := rfl
  claims_eq := rfl
  caller_eq _ hh := absurd hh List.not_mem_nil
  hasAsked _ hh := absurd hh List.not_mem_nil
  line_eq _ := rfl

lemma mem_claims_iff (hl : l.IsShared t) {c : Claim} :
    c ∈ l.claims ↔ ∃ h ∈ t.handles, h.toClaim = c := by
  rw [← hl.claims_eq, List.mem_map]

lemma caller_eq_iff (hl : l.IsShared t) (hh : h ∈ t.handles) :
    h.caller = (i, key) ↔ h.toClaim.task = i ∧ h.toClaim.key = key := by
  rw [Prod.ext_iff, hl.caller_eq h hh]
  rfl

/-- The locks that are claimed are those that a handle refers to. -/
lemma prune_eq (hl : l.IsShared t) (ht : t.IsSound (.queue _)) :
    t.prune.entries = l.prune.table := by
  rw [SharedLocks.prune, KeyedLocks.prune, ← hl.entries_eq]
  refine List.filter_congr fun e he => ?_
  rw [Bool.eq_iff_iff, decide_eq_true_iff, ht.one_lt_references_iff he]
  refine Iff.trans ?_ List.any_eq_true.symm
  constructor
  · rintro ⟨h, hh, hlock⟩
    exact ⟨_, hl.mem_claims_iff.mpr ⟨h, hh, rfl⟩, decide_eq_true hlock⟩
  · rintro ⟨c, hc, hlock⟩
    obtain ⟨h, hh, rfl⟩ := hl.mem_claims_iff.mp hc
    exact ⟨h, hh, of_decide_eq_true hlock⟩

lemma handle?_eq_none (hl : l.IsShared t) (hc : l.claimOf? i key = none) :
    t.handle? (i, key) = none := by
  refine List.find?_eq_none.mpr fun h hh hcaller => ?_
  obtain ⟨htask, hkey⟩ := (hl.caller_eq_iff hh).mp (of_decide_eq_true hcaller)
  have hnot := List.find?_eq_none.mp hc _ (hl.mem_claims_iff.mpr ⟨h, hh, rfl⟩)
  simp [htask, hkey] at hnot

/-- A claim is a look-up, as far as the table goes. -/
lemma exists_lookUp (hl : l.IsShared t) (ht : t.IsSound (.queue _)) (i : Nat) (key : String) :
    ∃ lock, (t.lookUp (.queue _) (i, key) key).handles =
        t.handles ++ [⟨(i, key), key, lock, .called⟩] ∧
      (l.claim i key).claims = l.claims ++ [⟨i, key, lock⟩] ∧
      (t.lookUp (.queue _) (i, key) key).entries = (l.claim i key).table ∧
      (t.lookUp (.queue _) (i, key) key).next = (l.claim i key).next := by
  have hprune := hl.prune_eq ht
  have hlookUp : t.prune.lockOf? key = l.prune.lockOf? key := by
    rw [SharedLocks.lockOf?, KeyedLocks.lockOf?, hprune]
  rw [SharedLocks.lookUp, claim, hlookUp]
  cases l.prune.lockOf? key with
  | some lock => exact ⟨lock, rfl, rfl, hprune, hl.next_eq⟩
  | none =>
    have hnext : t.next = l.next := hl.next_eq
    refine ⟨t.next, rfl, ?_, ?_, congrArg (· + 1) hnext⟩
    · rw [hnext]
      rfl
    · exact congrArg₂ (fun next entries => (key, next) :: entries) hnext hprune

/-- A claim is a call that looks up its key and asks for the lock. -/
lemma claim (hl : l.IsShared t) (ht : t.IsSound (.queue _)) (hc : l.claimOf? i key = none) :
    (l.claim i key).IsShared
      ((t.step (.queue _) (.call (i, key) key)).step (.queue _) (.poll (i, key))) := by
  have hnone := hl.handle?_eq_none hc
  obtain ⟨lock, hhandles, hclaims, hentries, hnext⟩ := hl.exists_lookUp ht i key
  obtain ⟨-, hsound, -, -, hline⟩ := ht.exists_lookUp hnone key
  rw [SharedLocks.step_call hnone]
  -- from here on only what the look-up has done matters, not how
  generalize t.lookUp (.queue _) (i, key) key = called at *
  let h : Handle (Nat × String) := ⟨(i, key), key, lock, .called⟩
  have hh : h ∈ called.handles := by
    rw [hhandles]
    exact List.mem_append_right _ (List.mem_singleton.mpr rfl)
  have hs : h.stage ≠ .guarding := Stage.noConfusion
  rw [show (i, key) = h.caller from rfl, hsound.step_poll hh]
  have hmem {d : Handle (Nat × String)} (hd : d ∈ (called.poll (.queue _) h).handles) :
      d ∈ t.handles ∨ ∃ stage, stage ≠ .called ∧ d = { h with stage } := by
    rcases (hsound.mem_handles_poll hh hs).mp hd with ⟨hd, hcaller⟩ | rfl
    · rw [hhandles, List.mem_append, List.mem_singleton] at hd
      exact .inl (hd.resolve_right fun heq => hcaller (heq ▸ rfl))
    · refine .inr ⟨_, ?_, rfl⟩
      split <;> exact Stage.noConfusion
  refine ⟨SharedLocks.entries_poll.1.trans hentries, SharedLocks.entries_poll.2.trans hnext,
    ?_, ?_, ?_, ?_⟩
  · have hclaim (d : Handle (Nat × String)) (stage : Stage) :
        (if d.caller = h.caller then { d with stage } else d).toClaim = d.toClaim := by
      split <;> rfl
    have hpolled :
        (called.poll (.queue _) h).handles.map Handle.toClaim =
          called.handles.map Handle.toClaim := by
      rw [SharedLocks.handles_poll hs, List.map_map]
      exact List.map_congr_left fun d _ => hclaim d _
    rw [hpolled, hhandles, List.map_append, hl.claims_eq, hclaims]
    rfl
  · intro d hd
    rcases hmem hd with hd | ⟨stage, -, rfl⟩
    · exact hl.caller_eq d hd
    · rfl
  · intro d hd
    rcases hmem hd with hd | ⟨stage, hstage, rfl⟩
    · exact hl.hasAsked d hd
    · exact hstage
  · -- the claim comes last, as the call joins the end of the line
    intro other
    rw [SharedLocks.line_poll fun _ => hsound.notMem_line hh rfl _, hline, hl.line_eq, hclaims,
      List.filter_append, List.map_append]
    by_cases hlock : lock = other
    · subst hlock
      rw [if_pos ⟨rfl, rfl⟩]
      simp [h]
    · rw [if_neg fun hboth => hlock hboth.2.symm]
      simp [hlock]

/-- A task that makes no call for a key has no claim to end. -/
lemma release_eq_self (hl : l.IsShared t) (hc : t.handle? (i, key) = none) :
    l.release i key = l := by
  have hkept : l.claims.filter (fun c => !(c.task = i && c.key = key)) = l.claims := by
    refine List.filter_eq_self.mpr fun c hmem => ?_
    obtain ⟨h, hh, rfl⟩ := hl.mem_claims_iff.mp hmem
    have hnot := List.find?_eq_none.mp hc h hh
    rw [decide_eq_true_iff, hl.caller_eq_iff hh] at hnot
    simpa [imp_iff_not_or] using hnot
  rw [KeyedLocks.release, hkept]

/-- Ending a call ends the claim that it is. -/
lemma drop (hl : l.IsShared t) (ht : t.IsSound (.queue _)) (hh : h ∈ t.handles)
    (hcaller : h.caller = (i, key)) : (l.release i key).IsShared (t.drop (.queue _) h) := by
  have hends (c : Claim) :
      (!(decide (c.task = i) && decide (c.key = key))) = decide ((c.task, c.key) ≠ h.caller) := by
    rw [hcaller]
    simp [imp_iff_not_or]
  refine ⟨SharedLocks.entries_drop.1.trans hl.entries_eq,
    SharedLocks.entries_drop.2.trans hl.next_eq, ?_, fun d hd => ?_, fun d hd => ?_,
    fun lock => ?_⟩
  · rw [SharedLocks.handles_drop, KeyedLocks.release, ← hl.claims_eq, List.filter_map]
    refine congrArg _ (List.filter_congr fun d hd => ?_)
    rw [Function.comp_apply, hends, ← (hl.caller_eq_iff hd).mpr ⟨rfl, rfl⟩]
  · exact hl.caller_eq d (SharedLocks.mem_handles_drop.mp hd).1
  · exact hl.hasAsked d (SharedLocks.mem_handles_drop.mp hd).1
  · rw [ht.line_drop hh, hl.line_eq, List.filter_map, List.filter_filter, KeyedLocks.release,
      List.filter_filter]
    refine congrArg _ (List.filter_congr fun c _ => ?_)
    rw [Function.comp_apply, ← hends, Bool.and_comm]

/-- A task holds a key exactly if the lock is there for its call. -/
lemma holds_iff (hl : l.IsShared t) (ht : t.IsSound (.queue _)) : l.holds i key = true ↔
    ∃ h ∈ t.handles, h.caller = (i, key) ∧ t.isReady (.queue _) h = true := by
  have hready (h : Handle (Nat × String)) : t.isReady (.queue _) h = true ↔
      (l.claims.find? (·.lock = h.lock)).map (fun c => (c.task, c.key)) = some h.caller := by
    rw [SharedLocks.isReady_iff, hl.line_eq, List.head?_map, List.head?_filter]
  have hunique {h : Handle (Nat × String)} (hh : h ∈ t.handles) (hcaller : h.caller = (i, key))
      {c : Claim} (hc : c ∈ l.claims) (htask : c.task = i) (hkey : c.key = key) :
      c = h.toClaim := by
    obtain ⟨d, hd, rfl⟩ := hl.mem_claims_iff.mp hc
    have hsame := (hl.caller_eq_iff hd).mpr ⟨htask, hkey⟩
    rw [ht.eq_of_caller hd hh (hsame.trans hcaller.symm)]
  rw [KeyedLocks.holds_iff]
  constructor
  · rintro ⟨c, hc, hfirst⟩
    obtain ⟨hmem, htask, hkey⟩ := of_claimOf? hc
    obtain ⟨h, hh, rfl⟩ := hl.mem_claims_iff.mp hmem
    have hcaller := (hl.caller_eq_iff hh).mpr ⟨htask, hkey⟩
    refine ⟨h, hh, hcaller, (hready h).mpr ?_⟩
    have hfind : l.claims.find? (·.lock = h.lock) = some h.toClaim := hfirst
    rw [hfind, hcaller, Option.map_some, htask, hkey]
  · rintro ⟨h, hh, hcaller, hfirst⟩
    obtain ⟨c, hfind, hpair⟩ := Option.map_eq_some_iff.mp ((hready h).mp hfirst)
    rw [hcaller, Prod.mk.injEq] at hpair
    obtain rfl := hunique hh hcaller (List.mem_of_find?_eq_some hfind) hpair.1 hpair.2
    refine ⟨h.toClaim, find?_eq_some_of_unique (List.mem_of_find?_eq_some hfind) ?_ ?_, hfind⟩
    · simp [hpair]
    · intro c hc hmatches
      rw [Bool.and_eq_true, decide_eq_true_iff, decide_eq_true_iff] at hmatches
      exact hunique hh hcaller hc hmatches.1 hmatches.2

end IsShared

/-! ### Runs -/

lemma foldl_release (l : KeyedLocks) (i : Nat) (keys : List String) :
    keys.foldl (fun l key => l.release i key) l =
      { l with claims := l.claims.filter fun c => !(c.task = i && c.key ∈ keys) } := by
  induction keys generalizing l with
  | nil =>
    have hkept : l.claims.filter (fun c => !(c.task = i && c.key ∈ ([] : List String))) =
        l.claims := List.filter_eq_self.mpr fun c _ => by simp
    rw [hkept, List.foldl_nil]
  | cons key keys ih =>
    rw [List.foldl_cons, ih, release, List.filter_filter]
    refine congrArg (KeyedLocks.mk l.table · l.next) (List.filter_congr fun c _ => ?_)
    simp only [List.mem_cons, Bool.decide_or]
    rw [Bool.and_or_distrib_left, Bool.not_or, Bool.and_comm]

/-- To end all claims of a task is to release one key after the other. -/
lemma cancel_eq_foldl (l : KeyedLocks) (i : Nat) :
    l.cancel i =
      ((l.claims.filter (·.task = i)).map (·.key)).foldl (fun l key => l.release i key) l := by
  rw [foldl_release, KeyedLocks.cancel]
  refine congrArg (KeyedLocks.mk l.table · l.next) (List.filter_congr fun c hc => ?_)
  by_cases htask : c.task = i
  · have hmem : c.key ∈ (l.claims.filter (·.task = i)).map (·.key) :=
      List.mem_map_of_mem (List.mem_filter.mpr ⟨hc, decide_eq_true htask⟩)
    simp only [htask, hmem, ne_eq, not_true_eq_false, decide_false, decide_true, Bool.and_self,
      Bool.not_true]
  · simp [htask]

/-- Whether some claims are the handles of a table that calls have come to. -/
def IsReached (l : KeyedLocks) : Prop :=
  ∃ moves, l.IsShared (run (.queue _) moves)

namespace IsReached

lemma start : IsReached {} := ⟨[], .start⟩

lemma of_step (moves : List (Move (Nat × String))) (move : Move (Nat × String))
    (h : l.IsShared ((run (.queue _) moves).step (.queue _) move)) : l.IsReached := by
  refine ⟨moves ++ [move], ?_⟩
  rwa [run, List.foldl_append]

lemma claim (hl : l.IsReached) (hc : l.claimOf? i key = none) : (l.claim i key).IsReached := by
  obtain ⟨moves, hl⟩ := hl
  have hclaim := hl.claim (SharedLocks.isSound_run _ moves) hc
  refine ⟨moves ++ [.call (i, key) key, .poll (i, key)], ?_⟩
  rwa [run, List.foldl_append]

lemma release (hl : l.IsReached) (i : Nat) (key : String) : (l.release i key).IsReached := by
  obtain ⟨moves, hl⟩ := hl
  have ht := SharedLocks.isSound_run (.queue _) moves
  cases hc : (run (.queue _) moves).handle? (i, key) with
  | none =>
    rw [hl.release_eq_self hc]
    exact ⟨moves, hl⟩
  | some h =>
    obtain ⟨hh, hcaller⟩ := SharedLocks.of_handle? hc
    have hdrop := hl.drop ht hh hcaller
    -- a call that has a guard drops it, and any other one gives up
    by_cases hguard : h.stage = .guarding
    · refine of_step moves (.release (i, key)) ?_
      rw [SharedLocks.step, hc]
      simp only [if_pos hguard]
      exact hdrop
    · refine of_step moves (.cancel (i, key)) ?_
      rw [SharedLocks.step, hc]
      simp only [if_neg hguard]
      exact hdrop

lemma cancel (hl : l.IsReached) (i : Nat) : (l.cancel i).IsReached := by
  rw [cancel_eq_foldl]
  generalize (l.claims.filter (·.task = i)).map (·.key) = keys
  induction keys generalizing l with
  | nil => exact hl
  | cons key keys ih => exact ih (hl.release i key)

end IsReached

end KeyedLocks

namespace System

variable {ρ α : Type} {remote : Catalog ρ} {start sys : System ρ α} {es : List Event}

lemma locks_step (remote : Catalog ρ) (sys : System ρ α) (i : Nat) :
    (sys.step remote i).locks = sys.locks ∨
      (∃ key, sys.locks.claimOf? i key = none ∧
        (sys.step remote i).locks = sys.locks.claim i key) ∨
      ∃ key, (sys.step remote i).locks = sys.locks.release i key := by
  rw [step]
  cases sys.tasks[i]? with
  | none => exact .inl rfl
  | some q =>
    cases q with
    | done a => exact .inl rfl
    | ask request resume =>
      cases request with
      | lock key =>
        simp only
        by_cases hheld : sys.locks.holds i key = true
        · rw [if_pos hheld]
          exact .inl rfl
        · rw [if_neg hheld]
          cases hc : sys.locks.claimOf? i key with
          | some c => exact .inl rfl
          | none =>
            refine .inr (.inl ⟨key, hc, ?_⟩)
            simp only [Option.isSome_none, Bool.false_eq_true, if_false]
            split <;> rfl
      | unlock key => exact .inr (.inr ⟨key, rfl⟩)
      | _ => exact .inl rfl

lemma Reaches.isReached (h : Reaches remote start es sys) (hstart : start.locks = {}) :
    sys.locks.IsReached := by
  induction h with
  | start =>
    rw [hstart]
    exact .start
  | @step es sys h i ih =>
    obtain heq | ⟨key, hc, heq⟩ | ⟨key, heq⟩ := locks_step remote sys i
    · rwa [heq]
    · rw [heq]
      exact ih.claim hc
    · rw [heq]
      exact ih.release i key
  | @cancel es sys h i result ih => exact ih.cancel i

end System

/-! ### Exclusion -/

/-- Calls take their steps in any order, and each may give up while it waits. There is one guard for
a key at most. A call that goes on stays without a guard exactly while another one that is before it
for the same key has a guard or is due to get it. Those who hold a key or wait for it share the lock
that the table has for the key; just after a look-up the table has the keys that someone holds or is
after, and no others. A move for one key leaves the calls for other keys as they are. The claims of
tasks that run side by side are such calls, and a task holds a key if the lock is there for it. -/
theorem keys_are_exclusive {ι σ : Type} [DecidableEq ι] (M : Mutex ι σ) (moves : List (Move ι)) :
    let t := run M moves
    (∀ h ∈ t.handles, ∀ d ∈ t.handles, h.stage = .guarding → d.stage = .guarding →
      h.key = d.key → h = d) ∧
    (∀ h ∈ t.handles, h.stage ≠ .guarding →
      (¬ (t.step M (.poll h.caller)).HasGuard h.caller ↔ ∃ d ∈ t.handles, d.key = h.key ∧
        t.StandsBefore M d h ∧ (d.stage = .guarding ∨ t.IsDue M d))) ∧
    (∀ h ∈ t.handles, t.lockOf? h.key = some h.lock) ∧
    (∀ c key, t.handle? c = none →
      let next := t.step M (.call c key)
      (∃ h ∈ next.handles, h.caller = c ∧ h.key = key ∧ h.stage = .called) ∧
      (next.entries.map (·.1)).Nodup ∧
      ∀ k, k ∈ next.entries.map (·.1) ↔ ∃ h ∈ next.handles, h.key = k) ∧
    (∀ move h, t.keyOf? move ≠ some h.key →
      (h ∈ (t.step M move).handles ↔ h ∈ t.handles) ∧
      (h ∈ t.handles → (t.step M move).line M h.lock = t.line M h.lock)) ∧
    ∀ {ρ α : Type} (remote : Catalog ρ) (start sys : System ρ α) (es : List Event),
      start.locks = {} → System.Reaches remote start es sys →
        ∃ claims, sys.locks.IsShared (run (.queue _) claims) ∧
          ∀ i key, sys.locks.holds i key = true ↔ ∃ h ∈ (run (.queue _) claims).handles,
            h.caller = (i, key) ∧ (run (.queue _) claims).isReady (.queue _) h = true := by
  intro t
  have ht : t.IsSound M := SharedLocks.isSound_run M moves
  refine ⟨?_, ?_, ?_, ?_, ?_, ?_⟩
  · intro h hh d hd hguard hguard' hkey
    exact ht.eq_of_guarding hh hd hguard hguard' hkey
  · intro h hh hs
    rw [ht.step_poll hh]
    exact ht.not_hasGuard_poll_iff hh hs
  · exact fun h hh => ht.lockOf?_eq (ht.mem_entries h hh)
  · intro c key hc next
    obtain ⟨lock, hsound, hhandles, -, -⟩ := ht.exists_lookUp hc key
    rw [← SharedLocks.step_call hc] at hsound hhandles
    refine ⟨⟨⟨c, key, lock, .called⟩, ?_, rfl, rfl, rfl⟩, hsound.nodup_keys, fun k => ?_⟩
    · rw [hhandles]
      exact List.mem_append_right _ (List.mem_singleton.mpr rfl)
    · have hkeys := ht.mem_keys_lookUp_iff hc key k
      rwa [← SharedLocks.step_call hc] at hkeys
  · exact fun move h hkey => ht.step_of_keyOf?_ne hkey
  · intro ρ α remote start sys es hstart hreaches
    obtain ⟨claims, hshared⟩ := hreaches.isReached hstart
    exact ⟨claims, hshared, fun i key =>
      hshared.holds_iff (SharedLocks.isSound_run (.queue _) claims)⟩

/-- The second call is due to get the lock when the third one is about to ask for it. The fourth one
has the lock of another key. -/
theorem keys_are_exclusive_fourCalls :
    let moves : List (Move Nat) := [.call 1 "a", .poll 1, .call 2 "a", .poll 2, .call 3 "a",
      .release 1, .call 4 "b", .poll 4]
    let t := run (.queue Nat) moves
    let start : System MemoryCatalog Unit :=
      { tasks := List.replicate 2 (.ask (.lock "a") .done)
        state := { remote := {}, clock := Instant.ofSeconds 0 } }
    let sys := start.runSchedule MemoryCatalog.catalog [0, 1]
    (∀ h ∈ t.handles, h.stage = .guarding → h.key = "b" → h.caller = 4) ∧
    ¬ (t.step (.queue Nat) (.poll 3)).HasGuard 3 ∧
    t.lockOf? "a" = some 0 ∧
    (∀ k, k ∈ (t.step (.queue Nat) (.call 5 "c")).entries.map (·.1) ↔
      ∃ h ∈ (t.step (.queue Nat) (.call 5 "c")).handles, h.key = k) ∧
    (t.step (.queue Nat) (.poll 3)).line (.queue Nat) 1 = [4] ∧
    ∃ claims, sys.locks.IsShared (run (.queue _) claims) := by
  intro moves t start sys
  obtain ⟨hguards, hwaits, hshares, hkeys, hothers, hclaims⟩ :=
    keys_are_exclusive (.queue Nat) moves
  refine ⟨?_, ?_, ?_, ?_, ?_, ?_⟩
  · intro h hh hguard hkey
    have heq := hguards h hh ⟨4, "b", 1, .guarding⟩ (by decide) hguard rfl hkey
    rw [heq]
  · refine (hwaits ⟨3, "a", 0, .called⟩ (by decide) (by decide)).mpr ?_
    exact ⟨⟨2, "a", 0, .waiting⟩, by decide, rfl, ⟨rfl, by decide⟩, .inr ⟨rfl, by decide⟩⟩
  · exact hshares ⟨3, "a", 0, .called⟩ (by decide)
  · exact (hkeys 5 "c" (by decide)).2.2
  · exact (hothers (.poll 3) ⟨4, "b", 1, .guarding⟩ (by decide)).2 (by decide)
  · have hreaches := System.reaches_runSchedule MemoryCatalog.catalog start [0, 1]
    obtain ⟨claims, hshared, -⟩ := hclaims _ start sys _ rfl hreaches
    exact ⟨claims, hshared⟩

end ModuleArchive.Cache
