import ModuleArchive.Cache.Locks.Shared
import ModuleArchive.Proofs.Traverse
import Mathlib.Data.List.Nodup

/-!
# Who shares a lock

The table refers to each lock once, so a lock that a call has a handle to is never dropped, and the
calls for one key always share the one lock that the table has for it. Whoever has asked for the
lock and not left it stands in its line, and a call that has a guard is the first one there. So
there is one guard for a key, and a call waits for those that are before it in that line and for
nobody else. All of this is kept by each move that a call can make, whatever the others have done.
-/
namespace ModuleArchive.Cache

namespace SharedLocks

variable {ι σ : Type} [DecidableEq ι] {M : Mutex ι σ} {t : SharedLocks ι σ} {h d : Handle ι}
  {c : ι} {key : String} {lock : Nat}

/-! ### Moves -/

/-- What a move can be. -/
inductive Steps (M : Mutex ι σ) (t : SharedLocks ι σ) : Move ι → SharedLocks ι σ → Prop where
  | calls {c : ι} (hc : t.handle? c = none) (key : String) :
      Steps M t (.call c key) (t.lookUp M c key)
  | goesOn {h : Handle ι} (hh : h ∈ t.handles) (hs : h.stage ≠ .guarding) :
      Steps M t (.poll h.caller) (t.poll M h)
  | ends {h : Handle ι} (hh : h ∈ t.handles) {move : Move ι}
      (hmove : move = .cancel h.caller ∨ move = .release h.caller) : Steps M t move (t.drop M h)
  | idles (move : Move ι) : Steps M t move t

theorem steps_step (M : Mutex ι σ) (t : SharedLocks ι σ) (move : Move ι) :
    Steps M t move (t.step M move) := by
  cases move with
  | call c key =>
    rw [step]
    cases hc : t.handle? c with
    | none => exact .calls hc key
    | some h => exact .idles _
  | poll c =>
    rw [step]
    cases hc : t.handle? c with
    | none => exact .idles _
    | some h =>
      obtain ⟨hh, rfl⟩ := of_handle? hc
      cases hs : h.stage with
      | guarding =>
        have hpoll : t.poll M h = t := by rw [poll, hs]
        simp only [hpoll]
        exact .idles _
      | _ => exact .goesOn hh (by rw [hs]; exact Stage.noConfusion)
  | cancel c =>
    rw [step]
    cases hc : t.handle? c with
    | none => exact .idles _
    | some h =>
      obtain ⟨hh, rfl⟩ := of_handle? hc
      simp only
      split
      · exact .idles _
      · exact .ends hh (.inl rfl)
  | release c =>
    rw [step]
    cases hc : t.handle? c with
    | none => exact .idles _
    | some h =>
      obtain ⟨hh, rfl⟩ := of_handle? hc
      simp only
      split
      · exact .ends hh (.inr rfl)
      · exact .idles _

lemma step_call (hc : t.handle? c = none) (key : String) :
    t.step M (.call c key) = t.lookUp M c key := by
  rw [step, hc]
  rfl

/-! ### Lines -/

lemma line_setLock (t : SharedLocks ι σ) (lock other : Nat) (state : σ) :
    (t.setLock lock state).line M other =
      if other = lock then M.line state else t.line M other := by
  rw [line, setLock]
  exact apply_ite M.line _ _ _

/-- A call that goes on joins the line of its lock, unless it has. -/
lemma line_poll (hasks : h.stage = .called → h.caller ∉ t.line M h.lock) (lock : Nat) :
    (t.poll M h).line M lock =
      if h.stage = .called ∧ lock = h.lock then t.line M lock ++ [h.caller]
      else t.line M lock := by
  rw [poll]
  cases hs : h.stage with
  | called =>
    have hline := line_setLock (M := M) t h.lock lock (M.ask h.caller (t.locks h.lock))
    rw [M.line_ask _ _ (hasks hs)] at hline
    refine hline.trans ?_
    by_cases hlock : lock = h.lock
    · rw [if_pos hlock, if_pos ⟨rfl, hlock⟩, hlock, line]
    · rw [if_neg hlock, if_neg fun hboth => hlock hboth.2]
  | waiting => exact (if_neg fun hboth => by cases hboth.1).symm
  | guarding => exact (if_neg fun hboth => by cases hboth.1).symm

lemma isReady_iff : t.isReady M h = true ↔ (t.line M h.lock).head? = some h.caller :=
  M.isReady_iff _ _

/-- A call that goes on has a guard if its lock is there for it then. -/
lemma handles_poll (hs : h.stage ≠ .guarding) :
    (t.poll M h).handles = t.handles.map fun d =>
      if d.caller = h.caller then
        { d with stage := if (t.poll M h).isReady M h then .guarding else .waiting }
      else d := by
  rw [poll]
  cases hstage : h.stage with
  | called => rfl
  | waiting => rfl
  | guarding => exact absurd hstage hs

lemma entries_drop : (t.drop M h).entries = t.entries ∧ (t.drop M h).next = t.next := by
  rw [drop]
  split <;> exact ⟨rfl, rfl⟩

lemma handles_drop : (t.drop M h).handles = t.handles.filter (·.caller ≠ h.caller) := by
  rw [drop]
  split <;> rfl

lemma mem_handles_drop :
    d ∈ (t.drop M h).handles ↔ d ∈ t.handles ∧ d.caller ≠ h.caller := by
  rw [handles_drop, List.mem_filter, decide_eq_true_iff]

lemma entries_poll : (t.poll M h).entries = t.entries ∧ (t.poll M h).next = t.next := by
  rw [poll]
  cases h.stage <;> exact ⟨rfl, rfl⟩

/-! ### What holds of every table -/

/-- Whether a table is in order. -/
structure IsSound (M : Mutex ι σ) (t : SharedLocks ι σ) : Prop where
  nodup_keys : (t.entries.map (·.1)).Nodup
  nodup_locks : (t.entries.map (·.2)).Nodup
  lt_next : ∀ e ∈ t.entries, e.2 < t.next
  nodup_callers : (t.handles.map (·.caller)).Nodup
  /-- The table keeps the lock of every call. -/
  mem_entries : ∀ h ∈ t.handles, (h.key, h.lock) ∈ t.entries
  /-- Those in the line of a lock are its calls that have asked. -/
  mem_line : ∀ c lock, c ∈ t.line M lock ↔
    ∃ h ∈ t.handles, h.caller = c ∧ h.lock = lock ∧ h.stage ≠ .called
  head_line : ∀ h ∈ t.handles, h.stage = .guarding →
    (t.line M h.lock).head? = some h.caller

namespace IsSound

lemma eq_of_caller (ht : t.IsSound M) (hh : h ∈ t.handles) (hd : d ∈ t.handles)
    (hcaller : h.caller = d.caller) : h = d :=
  List.inj_on_of_nodup_map ht.nodup_callers hh hd hcaller

lemma handle?_eq (ht : t.IsSound M) (hh : h ∈ t.handles) : t.handle? h.caller = some h :=
  find?_eq_some_of_unique hh (decide_eq_true rfl) fun _ hd hcaller =>
    ht.eq_of_caller hd hh (of_decide_eq_true hcaller)

lemma step_poll (ht : t.IsSound M) (hh : h ∈ t.handles) :
    t.step M (.poll h.caller) = t.poll M h := by
  rw [SharedLocks.step, ht.handle?_eq hh]

/-- The calls for one key share its lock. -/
lemma lock_eq (ht : t.IsSound M) (hh : h ∈ t.handles) (hd : d ∈ t.handles)
    (hkey : h.key = d.key) : h.lock = d.lock :=
  congrArg (·.2) (List.inj_on_of_nodup_map ht.nodup_keys (ht.mem_entries h hh)
    (ht.mem_entries d hd) hkey)

/-- The calls that share a lock are for one key. -/
lemma key_eq (ht : t.IsSound M) (hh : h ∈ t.handles) (hd : d ∈ t.handles)
    (hlock : h.lock = d.lock) : h.key = d.key :=
  congrArg (·.1) (List.inj_on_of_nodup_map ht.nodup_locks (ht.mem_entries h hh)
    (ht.mem_entries d hd) hlock)

lemma lockOf?_eq (ht : t.IsSound M) (hmem : (key, lock) ∈ t.entries) :
    t.lockOf? key = some lock := by
  have hfind := find?_eq_some_of_unique (p := (·.1 = key)) hmem (decide_eq_true rfl)
    fun e he hkey => List.inj_on_of_nodup_map ht.nodup_keys he hmem (of_decide_eq_true hkey)
  rw [lockOf?, hfind]
  rfl

lemma start : (SharedLocks.start M).IsSound M where
  nodup_keys := List.nodup_nil
  nodup_locks := List.nodup_nil
  lt_next _ he := absurd he List.not_mem_nil
  nodup_callers := List.nodup_nil
  mem_entries _ hh := absurd hh List.not_mem_nil
  mem_line c lock := by
    rw [line, SharedLocks.start, M.line_fresh]
    exact iff_of_false List.not_mem_nil fun ⟨_, hh, _⟩ => List.not_mem_nil hh
  head_line _ hh := absurd hh List.not_mem_nil

/-! ### Looking a key up -/

/-- Nothing but the entries is changed by dropping some. -/
lemma of_sublist (ht : t.IsSound M) {entries : List (String × Nat)}
    (hsub : entries.Sublist t.entries)
    (hmem : ∀ h ∈ t.handles, (h.key, h.lock) ∈ entries) : { t with entries }.IsSound M where
  nodup_keys := ht.nodup_keys.sublist (hsub.map _)
  nodup_locks := ht.nodup_locks.sublist (hsub.map _)
  lt_next e he := ht.lt_next e (hsub.subset he)
  nodup_callers := ht.nodup_callers
  mem_entries := hmem
  mem_line := ht.mem_line
  head_line := ht.head_line

/-- The table refers to a lock once, so it keeps the locks that have a handle. -/
lemma one_lt_references_iff (ht : t.IsSound M) (hmem : (key, lock) ∈ t.entries) :
    1 < t.references lock ↔ ∃ h ∈ t.handles, h.lock = lock := by
  have hcount : (t.entries.map (·.2)).count lock = 1 :=
    List.count_eq_one_of_mem ht.nodup_locks (List.mem_map_of_mem hmem)
  have hentries : t.entries.countP (·.2 = lock) = 1 := by
    rw [← hcount, List.count, List.countP_map]
    exact List.countP_congr fun e _ => by simp
  rw [references, hentries, Nat.lt_add_right_iff_pos, List.countP_pos_iff]
  simp only [decide_eq_true_eq]

lemma mem_prune_iff (ht : t.IsSound M) {e : String × Nat} :
    e ∈ t.prune.entries ↔ ∃ h ∈ t.handles, (h.key, h.lock) = e := by
  rw [SharedLocks.prune, List.mem_filter, decide_eq_true_iff]
  constructor
  · rintro ⟨he, hreferences⟩
    obtain ⟨h, hh, hlock⟩ := (ht.one_lt_references_iff he).mp hreferences
    refine ⟨h, hh, ?_⟩
    exact List.inj_on_of_nodup_map ht.nodup_locks (ht.mem_entries h hh) he hlock
  · rintro ⟨h, hh, rfl⟩
    have he := ht.mem_entries h hh
    exact ⟨he, (ht.one_lt_references_iff he).mpr ⟨h, hh, rfl⟩⟩

lemma prune (ht : t.IsSound M) : t.prune.IsSound M :=
  ht.of_sublist List.filter_sublist fun h hh => ht.mem_prune_iff.mpr ⟨h, hh, rfl⟩

/-- Nobody has asked for a lock that is not there yet. -/
lemma line_next (ht : t.IsSound M) : t.line M t.next = [] := by
  refine List.eq_nil_iff_forall_not_mem.mpr fun c hc => ?_
  obtain ⟨h, hh, -, hlock, -⟩ := (ht.mem_line c _).mp hc
  exact absurd hlock (Nat.ne_of_lt (ht.lt_next _ (ht.mem_entries h hh)))

lemma line_insert (ht : t.IsSound M) (key : String) (lock : Nat) :
    (t.insert M key).line M lock = t.line M lock := by
  refine (line_setLock t t.next lock M.fresh).trans ?_
  by_cases hlock : lock = t.next
  · rw [if_pos hlock, hlock, ht.line_next, M.line_fresh]
  · exact if_neg hlock

lemma insert (ht : t.IsSound M) (hkey : t.lockOf? key = none) : (t.insert M key).IsSound M where
  nodup_keys := by
    refine List.nodup_cons.mpr ⟨fun hmem => ?_, ht.nodup_keys⟩
    obtain ⟨e, he, rfl⟩ := List.mem_map.mp hmem
    rw [ht.lockOf?_eq he] at hkey
    contradiction
  nodup_locks := by
    refine List.nodup_cons.mpr ⟨fun hmem => ?_, ht.nodup_locks⟩
    obtain ⟨e, he, hlock⟩ := List.mem_map.mp hmem
    exact absurd hlock (Nat.ne_of_lt (ht.lt_next e he))
  lt_next e he := by
    rcases List.mem_cons.mp he with rfl | he
    · exact Nat.lt_succ_self _
    · exact Nat.lt_succ_of_lt (ht.lt_next e he)
  nodup_callers := ht.nodup_callers
  mem_entries h hh := List.mem_cons_of_mem _ (ht.mem_entries h hh)
  mem_line c lock := by
    rw [ht.line_insert]
    exact ht.mem_line c lock
  head_line h hh hs := by
    rw [ht.line_insert]
    exact ht.head_line h hh hs

/-- A new handle is no sign that its call has asked for the lock. -/
lemma register (ht : t.IsSound M) (hc : t.handle? c = none) (hmem : (key, lock) ∈ t.entries) :
    (t.register ⟨c, key, lock, .called⟩).IsSound M where
  nodup_keys := ht.nodup_keys
  nodup_locks := ht.nodup_locks
  lt_next := ht.lt_next
  nodup_callers := by
    rw [SharedLocks.register, List.map_append, List.map_singleton, List.nodup_append_comm]
    refine List.nodup_cons.mpr ⟨fun hcaller => ?_, ht.nodup_callers⟩
    obtain ⟨h, hh, rfl⟩ := List.mem_map.mp hcaller
    rw [ht.handle?_eq hh] at hc
    contradiction
  mem_entries h hh := by
    rcases List.mem_append.mp hh with hh | hh
    · exact ht.mem_entries h hh
    · obtain rfl := List.mem_singleton.mp hh
      exact hmem
  mem_line other lock := by
    refine (ht.mem_line other lock).trans ⟨?_, ?_⟩
    · rintro ⟨h, hh, hasked⟩
      exact ⟨h, List.mem_append_left _ hh, hasked⟩
    · rintro ⟨h, hh, hasked⟩
      rcases List.mem_append.mp hh with hh | hh
      · exact ⟨h, hh, hasked⟩
      · obtain rfl := List.mem_singleton.mp hh
        exact absurd rfl hasked.2.2
  head_line h hh hs := by
    rcases List.mem_append.mp hh with hh | hh
    · exact ht.head_line h hh hs
    · obtain rfl := List.mem_singleton.mp hh
      contradiction

/-- What a call comes to have when it has looked up its key. -/
lemma exists_lookUp (ht : t.IsSound M) (hc : t.handle? c = none) (key : String) :
    ∃ lock, (t.lookUp M c key).IsSound M ∧
      (t.lookUp M c key).handles = t.handles ++ [⟨c, key, lock, .called⟩] ∧
      (∀ e, e ∈ (t.lookUp M c key).entries ↔ e = (key, lock) ∨ e ∈ t.prune.entries) ∧
      ∀ other, (t.lookUp M c key).line M other = t.line M other := by
  rw [SharedLocks.lookUp]
  cases hlock : t.prune.lockOf? key with
  | some lock =>
    have hmem := mem_of_lockOf? hlock
    refine ⟨lock, ht.prune.register hc hmem, rfl, fun e => ?_, fun _ => rfl⟩
    exact ⟨.inr, fun he => he.elim (fun he => he ▸ hmem) id⟩
  | none =>
    refine ⟨t.next, (ht.prune.insert hlock).register hc List.mem_cons_self, rfl, fun e => ?_, ?_⟩
    · exact List.mem_cons
    · exact ht.prune.line_insert key

/-- After a look-up the keys in the table are those in use. -/
lemma mem_lookUp_iff (ht : t.IsSound M) (hc : t.handle? c = none) {e : String × Nat} :
    e ∈ (t.lookUp M c key).entries ↔ ∃ h ∈ (t.lookUp M c key).handles, (h.key, h.lock) = e := by
  obtain ⟨lock, -, hhandles, hentries, -⟩ := ht.exists_lookUp hc key
  rw [hentries, hhandles, ht.mem_prune_iff]
  simp only [List.mem_append, List.mem_singleton]
  constructor
  · rintro (rfl | ⟨h, hh, rfl⟩)
    · exact ⟨_, .inr rfl, rfl⟩
    · exact ⟨h, .inl hh, rfl⟩
  · rintro ⟨h, hh | rfl, rfl⟩
    · exact .inr ⟨h, hh, rfl⟩
    · exact .inl rfl

lemma mem_keys_lookUp_iff (ht : t.IsSound M) (hc : t.handle? c = none) (key k : String) :
    k ∈ (t.lookUp M c key).entries.map (·.1) ↔
      ∃ h ∈ (t.lookUp M c key).handles, h.key = k := by
  simp only [List.mem_map, ht.mem_lookUp_iff hc]
  constructor
  · rintro ⟨-, ⟨h, hh, rfl⟩, rfl⟩
    exact ⟨h, hh, rfl⟩
  · rintro ⟨h, hh, rfl⟩
    exact ⟨_, ⟨h, hh, rfl⟩, rfl⟩

/-! ### Going on and ending -/

lemma notMem_line (ht : t.IsSound M) (hh : h ∈ t.handles) (hs : h.stage = .called) (lock : Nat) :
    h.caller ∉ t.line M lock := by
  intro hmem
  obtain ⟨d, hd, hcaller, -, hasked⟩ := (ht.mem_line _ _).mp hmem
  exact hasked (ht.eq_of_caller hd hh hcaller ▸ hs)

/-- A call that goes on is in the line of its lock, and nowhere else. -/
lemma mem_line_poll (ht : t.IsSound M) (hh : h ∈ t.handles) :
    c ∈ (t.poll M h).line M lock ↔ c ∈ t.line M lock ∨ c = h.caller ∧ lock = h.lock := by
  rw [line_poll fun hs => ht.notMem_line hh hs _]
  by_cases hasks : h.stage = .called ∧ lock = h.lock
  · rw [if_pos hasks, List.mem_append, List.mem_singleton]
    simp [hasks.2]
  · rw [if_neg hasks]
    refine ⟨.inl, ?_⟩
    rintro (hmem | ⟨rfl, rfl⟩)
    · exact hmem
    · exact (ht.mem_line _ _).mpr ⟨h, hh, rfl, rfl, fun hs => hasks ⟨hs, rfl⟩⟩

/-- Whoever is first in a line stays first when others go on. -/
lemma head?_line_poll (ht : t.IsSound M) (hh : h ∈ t.handles) (hc : c ≠ h.caller) :
    ((t.poll M h).line M lock).head? = some c ↔ (t.line M lock).head? = some c := by
  rw [line_poll fun hs => ht.notMem_line hh hs _]
  split
  · rw [List.head?_append]
    cases (t.line M lock).head? with
    | none => simpa using hc.symm
    | some first => rw [Option.some_or]
  · rfl

/-- Going on changes the handle of the call alone. -/
lemma mem_handles_poll (ht : t.IsSound M) (hh : h ∈ t.handles) (hs : h.stage ≠ .guarding) :
    d ∈ (t.poll M h).handles ↔ d ∈ t.handles ∧ d.caller ≠ h.caller ∨
      d = { h with stage := if (t.poll M h).isReady M h then .guarding else .waiting } := by
  rw [handles_poll hs, List.mem_map]
  constructor
  · rintro ⟨e, he, rfl⟩
    by_cases hcaller : e.caller = h.caller
    · rw [if_pos hcaller, ht.eq_of_caller he hh hcaller]
      exact .inr rfl
    · rw [if_neg hcaller]
      exact .inl ⟨he, hcaller⟩
  · rintro (⟨hd, hcaller⟩ | rfl)
    · exact ⟨d, hd, if_neg hcaller⟩
    · exact ⟨h, hh, if_pos rfl⟩

lemma poll (ht : t.IsSound M) (hh : h ∈ t.handles) (hs : h.stage ≠ .guarding) :
    (t.poll M h).IsSound M := by
  obtain ⟨hentries, hnext⟩ := entries_poll (M := M) (t := t) (h := h)
  have hmem {d : Handle ι} := ht.mem_handles_poll (d := d) hh hs
  refine ⟨hentries ▸ ht.nodup_keys, hentries ▸ ht.nodup_locks, ?_, ?_, ?_, ?_, ?_⟩
  · rw [hentries, hnext]
    exact ht.lt_next
  · have hcallers : (t.poll M h).handles.map (·.caller) = t.handles.map (·.caller) := by
      rw [handles_poll hs, List.map_map]
      refine List.map_congr_left fun d _ => ?_
      rw [Function.comp_apply]
      split <;> rfl
    rw [hcallers]
    exact ht.nodup_callers
  · intro d hd
    rw [hentries]
    rcases hmem.mp hd with ⟨hd, -⟩ | rfl
    · exact ht.mem_entries d hd
    · exact ht.mem_entries h hh
  · intro c lock
    rw [ht.mem_line_poll hh]
    constructor
    · rintro (hc | ⟨rfl, rfl⟩)
      · -- the handle of the call itself has changed, and it has asked by now
        obtain ⟨d, hd, rfl, rfl, hasked⟩ := (ht.mem_line _ _).mp hc
        by_cases hcaller : d.caller = h.caller
        · obtain rfl := ht.eq_of_caller hd hh hcaller
          exact ⟨_, hmem.mpr (.inr rfl), rfl, rfl, by simp only; split <;> simp⟩
        · exact ⟨d, hmem.mpr (.inl ⟨hd, hcaller⟩), rfl, rfl, hasked⟩
      · exact ⟨_, hmem.mpr (.inr rfl), rfl, rfl, by simp only; split <;> simp⟩
    · rintro ⟨d, hd, rfl, rfl, hasked⟩
      rcases hmem.mp hd with ⟨hd, -⟩ | rfl
      · exact .inl ((ht.mem_line _ _).mpr ⟨d, hd, rfl, rfl, hasked⟩)
      · exact .inr ⟨rfl, rfl⟩
  · intro d hd hguard
    rcases hmem.mp hd with ⟨hd, hcaller⟩ | rfl
    · exact (ht.head?_line_poll hh hcaller).mpr (ht.head_line d hd hguard)
    · have hready : (t.poll M h).isReady M h = true := by
        by_contra hnot
        simp [hnot] at hguard
      exact isReady_iff.mp hready

lemma line_drop (ht : t.IsSound M) (hh : h ∈ t.handles) (lock : Nat) :
    (t.drop M h).line M lock = (t.line M lock).filter (· ≠ h.caller) := by
  have hkept (hn : h.caller ∉ t.line M lock) :
      t.line M lock = (t.line M lock).filter (· ≠ h.caller) := by
    refine (List.filter_eq_self.mpr fun c hc => decide_eq_true ?_).symm
    rintro rfl
    exact hn hc
  by_cases hs : h.stage = .called
  · rw [SharedLocks.drop, if_pos hs]
    exact hkept (ht.notMem_line hh hs lock)
  · rw [SharedLocks.drop, if_neg hs]
    refine (line_setLock t h.lock lock _).trans ?_
    by_cases hlock : lock = h.lock
    · rw [if_pos hlock, M.line_leave, hlock, line]
    · rw [if_neg hlock]
      refine hkept fun hmem => ?_
      obtain ⟨d, hd, hcaller, rfl, -⟩ := (ht.mem_line _ _).mp hmem
      exact hlock (congrArg Handle.lock (ht.eq_of_caller hd hh hcaller))

lemma drop (ht : t.IsSound M) (hh : h ∈ t.handles) : (t.drop M h).IsSound M := by
  obtain ⟨hentries, hnext⟩ := entries_drop (M := M) (t := t) (h := h)
  have hmem {d : Handle ι} := mem_handles_drop (M := M) (t := t) (h := h) (d := d)
  refine ⟨hentries ▸ ht.nodup_keys, hentries ▸ ht.nodup_locks, ?_, ?_, ?_, ?_, ?_⟩
  · rw [hentries, hnext]
    exact ht.lt_next
  · rw [handles_drop]
    exact ht.nodup_callers.sublist (List.filter_sublist.map _)
  · intro d hd
    rw [hentries]
    exact ht.mem_entries d (hmem.mp hd).1
  · intro c lock
    rw [ht.line_drop hh, List.mem_filter, decide_eq_true_iff, ht.mem_line]
    constructor
    · rintro ⟨⟨d, hd, rfl, hasked⟩, hcaller⟩
      exact ⟨d, hmem.mpr ⟨hd, hcaller⟩, rfl, hasked⟩
    · rintro ⟨d, hd, rfl, hasked⟩
      obtain ⟨hd, hcaller⟩ := hmem.mp hd
      exact ⟨⟨d, hd, rfl, hasked⟩, hcaller⟩
  · intro d hd hguard
    obtain ⟨hd, hcaller⟩ := hmem.mp hd
    obtain ⟨rest, hline⟩ := List.head?_eq_some_iff.mp (ht.head_line d hd hguard)
    rw [ht.line_drop hh, hline, List.head?_filter, List.find?_cons_of_pos (by simpa using hcaller)]

/-- Every move leaves a table in order. -/
lemma step (ht : t.IsSound M) (move : Move ι) : (t.step M move).IsSound M := by
  have hs := steps_step M t move
  generalize t.step M move = next at hs
  cases hs with
  | calls hc key =>
    obtain ⟨-, hnext, -⟩ := ht.exists_lookUp hc key
    exact hnext
  | goesOn hh hs => exact ht.poll hh hs
  | ends hh => exact ht.drop hh
  | idles => exact ht

end IsSound

theorem isSound_run (M : Mutex ι σ) (moves : List (Move ι)) : (run M moves).IsSound M := by
  have hfoldl (t : SharedLocks ι σ) (ht : t.IsSound M) : (moves.foldl (step M) t).IsSound M := by
    induction moves generalizing t with
    | nil => exact ht
    | cons move moves ih => exact ih _ (ht.step move)
  exact hfoldl _ .start

/-! ### Guards -/

/-- Whether a call has a guard. -/
def HasGuard (t : SharedLocks ι σ) (c : ι) : Prop :=
  ∃ h ∈ t.handles, h.caller = c ∧ h.stage = .guarding

/-- Whether a call that waits is the one that is given the lock next: it is there for the call. -/
def IsDue (M : Mutex ι σ) (t : SharedLocks ι σ) (h : Handle ι) : Prop :=
  h.stage = .waiting ∧ t.isReady M h = true

/-- Whether a call has asked for the lock of another one before that one, which may not have asked
for it at all. -/
def StandsBefore (M : Mutex ι σ) (t : SharedLocks ι σ) (d h : Handle ι) : Prop :=
  d.lock = h.lock ∧ (t.line M h.lock).idxOf d.caller < (t.line M h.lock).idxOf h.caller

/-- The key that a move is about. -/
def keyOf? (t : SharedLocks ι σ) : Move ι → Option String
  | .call _ key => some key
  | .poll c | .cancel c | .release c => (t.handle? c).map (·.key)

lemma line_drop_of_ne (hlock : lock ≠ h.lock) : (t.drop M h).line M lock = t.line M lock := by
  rw [SharedLocks.drop]
  split
  · rfl
  · exact (line_setLock t h.lock lock _).trans (if_neg hlock)

namespace IsSound

lemma eq_of_guarding (ht : t.IsSound M) (hh : h ∈ t.handles) (hd : d ∈ t.handles)
    (hguard : h.stage = .guarding) (hguard' : d.stage = .guarding) (hkey : h.key = d.key) :
    h = d := by
  have hhead := ht.head_line h hh hguard
  rw [ht.lock_eq hh hd hkey, ht.head_line d hd hguard', Option.some_inj] at hhead
  exact ht.eq_of_caller hh hd hhead.symm

lemma hasGuard_poll (ht : t.IsSound M) (hh : h ∈ t.handles) (hs : h.stage ≠ .guarding) :
    (t.poll M h).HasGuard h.caller ↔ (t.poll M h).isReady M h = true := by
  constructor
  · rintro ⟨d, hd, hcaller, hguard⟩
    rcases (ht.mem_handles_poll hh hs).mp hd with ⟨-, hne⟩ | rfl
    · exact absurd hcaller hne
    · by_contra hnot
      simp [hnot] at hguard
  · exact fun hready => ⟨_, (ht.mem_handles_poll hh hs).mpr (.inr rfl), rfl, if_pos hready⟩

/-- A call that goes on has to wait exactly if another one for its key has a guard, or has asked
before and is due. -/
lemma not_hasGuard_poll_iff (ht : t.IsSound M) (hh : h ∈ t.handles) (hs : h.stage ≠ .guarding) :
    ¬ (t.poll M h).HasGuard h.caller ↔ ∃ d ∈ t.handles, d.key = h.key ∧
      t.StandsBefore M d h ∧ (d.stage = .guarding ∨ t.IsDue M d) := by
  rw [ht.hasGuard_poll hh hs, isReady_iff]
  constructor
  · -- the one to wait for is the first in the line, which is not empty as the call stands in it
    intro hnot
    have hmem : h.caller ∈ (t.poll M h).line M h.lock :=
      (ht.mem_line_poll hh).mpr (.inr ⟨rfl, rfl⟩)
    obtain ⟨first, hfirst⟩ : ∃ first, ((t.poll M h).line M h.lock).head? = some first :=
      Option.isSome_iff_exists.mp (List.isSome_head?.mpr (List.ne_nil_of_mem hmem))
    have hne : first ≠ h.caller := by
      rintro rfl
      exact hnot hfirst
    have hhead := (ht.head?_line_poll hh hne).mp hfirst
    obtain ⟨d, hd, rfl, hlock, hasked⟩ := (ht.mem_line _ _).mp (List.mem_of_head? hhead)
    refine ⟨d, hd, ht.key_eq hd hh hlock, ⟨hlock, ?_⟩, ?_⟩
    · obtain ⟨rest, hline⟩ := List.head?_eq_some_iff.mp hhead
      rw [hline, List.idxOf_cons_self, List.idxOf_cons_ne _ hne]
      exact Nat.succ_pos _
    · cases hstage : d.stage with
      | called => exact absurd hstage hasked
      | waiting => exact .inr ⟨hstage, isReady_iff.mpr (hlock ▸ hhead)⟩
      | guarding => exact .inl rfl
  · rintro ⟨d, hd, -, ⟨hlock, hbefore⟩, hserved⟩ hfirst
    have hne : d.caller ≠ h.caller := by
      intro hcaller
      rw [hcaller] at hbefore
      exact Nat.lt_irrefl _ hbefore
    have hhead : (t.line M h.lock).head? = some d.caller := by
      rw [← hlock]
      rcases hserved with hguard | ⟨-, hready⟩
      · exact ht.head_line d hd hguard
      · exact isReady_iff.mp hready
    rw [(ht.head?_line_poll hh hne).mpr hhead, Option.some_inj] at hfirst
    exact hne hfirst

/-- A move that is about one key leaves the calls for the other keys alone. -/
lemma step_of_keyOf?_ne (ht : t.IsSound M) {move : Move ι} (hkey : t.keyOf? move ≠ some h.key) :
    (h ∈ (t.step M move).handles ↔ h ∈ t.handles) ∧
      (h ∈ t.handles → (t.step M move).line M h.lock = t.line M h.lock) := by
  have hother {other : Handle ι} (hm : other ∈ t.handles) (hne : other.key ≠ h.key)
      (hh : h ∈ t.handles) : h.caller ≠ other.caller ∧ h.lock ≠ other.lock :=
    ⟨fun hcaller => hne (congrArg Handle.key (ht.eq_of_caller hm hh hcaller.symm)),
      fun hlock => hne (ht.key_eq hm hh hlock.symm)⟩
  have hs := steps_step M t move
  generalize t.step M move = next at hs
  cases hs with
  | @calls c hc key =>
    obtain ⟨lock, -, hhandles, -, hline⟩ := ht.exists_lookUp hc key
    refine ⟨?_, fun _ => hline h.lock⟩
    rw [hhandles, List.mem_append, List.mem_singleton]
    refine or_iff_left ?_
    rintro rfl
    exact hkey rfl
  | @goesOn other hm hs =>
    have hne : other.key ≠ h.key := by
      intro heq
      rw [keyOf?, ht.handle?_eq hm] at hkey
      exact hkey (congrArg some heq)
    refine ⟨?_, fun hh => ?_⟩
    · rw [ht.mem_handles_poll hm hs]
      constructor
      · rintro (⟨hh, -⟩ | rfl)
        · exact hh
        · exact absurd rfl hne
      · exact fun hh => .inl ⟨hh, (hother hm hne hh).1⟩
    · rw [line_poll fun hcalled => ht.notMem_line hm hcalled _]
      exact if_neg fun hboth => (hother hm hne hh).2 hboth.2
  | @ends other hm move hmove =>
    have hne : other.key ≠ h.key := by
      intro heq
      rcases hmove with rfl | rfl
      all_goals
        rw [keyOf?, ht.handle?_eq hm] at hkey
        exact hkey (congrArg some heq)
    refine ⟨?_, fun hh => line_drop_of_ne (hother hm hne hh).2⟩
    rw [mem_handles_drop]
    exact ⟨And.left, fun hh => ⟨hh, (hother hm hne hh).1⟩⟩
  | idles => exact ⟨.rfl, fun _ => rfl⟩

end IsSound

end SharedLocks

end ModuleArchive.Cache
