import ModuleArchive.Catalog.Memory
import ModuleArchive.Proofs.Cache.Target
import ModuleArchive.Proofs.Index.Reading
import ModuleArchive.Proofs.Storage.Store

/-!
# One fetch at a time

Tasks that want the same set, or content under the same key, look once more under its lock before
they ask the remote. So one of them asks at a time, and none does while there is something stored
that has not expired. What a task has seen under the lock is still so when it asks, as nobody else
writes there meanwhile.
-/
namespace ModuleArchive.Cache

open Procedure
open Index (StoredLast keeps_or_storedLast)
open Storage (keyOf)

variable {ρ : Type} {p : CachePolicy} {remote : Catalog ρ} {calls : List Call} {w : State ρ}
  {es : List Event} {sys : System ρ Reply} {i j : Nat} {t : Target} {s : Scope}
  {key : Storage.Key}

/-! ### One task at a time -/

/-- Whether a task is waiting for what the remote answers for a target. -/
def System.IsFetching {ρ α : Type} (sys : System ρ α) (t : Target) (i : Nat) : Prop :=
  ∃ request resume, sys.tasks[i]? = some (.ask request resume) ∧ t.isFetchedBy request = true

/-- What a task that waits for a set has seen under the lock. -/
lemma own_of_isFetching_set (h : System.Reaches remote (.ofCalls p calls w) es sys)
    (hi : sys.IsFetching (.set s) i) : .cancelled i ∉ es ∧ ∃ pre refreshed now,
      own i es = pre ++ ⟨.lock s.key, ()⟩ :: judged s refreshed now ∧
        p.freshness refreshed now ≠ .fresh := by
  obtain ⟨request, resume, ht, hf⟩ := hi
  obtain ⟨call, -, hn, -, hp⟩ := placed_of_ask h ht
  obtain rfl := isFetchedBy_set.mp hf
  obtain ⟨-, pre, refreshed, now, hfresh, hown⟩ := hp
  exact ⟨hn, pre, refreshed, now, hown, hfresh⟩

/-- What a task that waits for content has seen under the lock. -/
lemma own_of_isFetching_content (h : System.Reaches remote (.ofCalls p calls w) es sys)
    (hi : sys.IsFetching (.content key) i) : .cancelled i ∉ es ∧ ∃ pre e,
      own i es = pre ++ [⟨.lock (contentLock key), ()⟩, ⟨.readContent (nameOf key), .error e⟩] := by
  obtain ⟨request, resume, ht, hf⟩ := hi
  obtain ⟨call, -, hn, -, hp⟩ := placed_of_ask h ht
  obtain ⟨path, rfl, hk⟩ := isFetchedBy_content.mp hf
  obtain ⟨-, pre, other, e, hother, hown⟩ := hp
  obtain rfl := Except.ok.inj (hother.symm.trans hk)
  exact ⟨hn, pre, e, hown⟩

lemma inside_of_isFetching (h : System.Reaches remote (.ofCalls p calls w) es sys)
    (hi : sys.IsFetching t i) :
    .cancelled i ∉ es ∧ ∃ since, Inside t.lockKey since (own i es) := by
  cases t with
  | set s =>
    obtain ⟨hn, pre, refreshed, now, hown, -⟩ := own_of_isFetching_set h hi
    exact ⟨hn, judged s refreshed now, pre, hown, by simp [judged]⟩
  | content key =>
    obtain ⟨hn, pre, e, hown⟩ := own_of_isFetching_content h hi
    exact ⟨hn, [⟨.readContent (nameOf key), .error e⟩], pre, hown, by simp⟩

theorem eq_of_isFetching (h : System.Reaches remote (.ofCalls p calls w) es sys)
    (hi : sys.IsFetching t i) (hj : sys.IsFetching t j) : i = j := by
  obtain ⟨hni, since, hinside⟩ := inside_of_isFetching h hi
  obtain ⟨hnj, since', hinside'⟩ := inside_of_isFetching h hj
  exact h.eq_of_inside rfl hinside hni hinside' hnj

/-! ### What a look shows -/

lemma query_refreshedAt_update (write : Index.Write)
    (h : ∀ items time, Index.Write.replace s items time ≠ write) (w : State ρ) :
    (w.update (write.run ·)).2.repository.query (·.refreshedAt s) =
      w.repository.query (·.refreshedAt s) := by
  by_cases ho : w.repository.isOpen = true
  · by_cases hf : ∀ t ∈ write.tracks, Index.Fits t
    · simp [State.update, Repository.update, Repository.query, write.run_eq, ho, if_pos hf,
        Index.refreshedAt, Index.refreshes_apply _ h]
    · simp [State.update, Repository.update, write.run_eq, ho, if_neg hf]
  · simp [State.update, Repository.update, ho]

/-- Whatever does not write to a target leaves it as it looks. -/
lemma look_frame (t : Target) {request : Request} (h : ¬ t.IsWrittenBy request) (w : State ρ) :
    (answer remote t.look (answer remote request w).2).1 = (answer remote t.look w).1 := by
  cases t with
  | set s =>
    cases request with
    | replace other items time =>
      refine query_refreshedAt_update (.replace other items time) ?_ w
      rintro items time heq
      obtain ⟨rfl, -⟩ := Index.Write.replace.inj heq
      exact h ⟨_, _, rfl⟩
    | putGroup g group =>
      exact query_refreshedAt_update (.putGroup g group) (by simp) w
    | putTrack g id track =>
      exact query_refreshedAt_update (.putTrack g id track) (by simp) w
    | _ => rfl
  | content key =>
    cases request with
    | writeContent name content => exact absurd ⟨name, content, rfl⟩ h
    | readContent name => exact w.store.read_read (nameOf key) name
    | _ => rfl

lemma look_after (t : Target) {xs : List Exchange} (h : ∀ x ∈ xs, ¬ t.IsWrittenBy x.request)
    (w : State ρ) :
    (answer remote t.look (after (answer remote) w xs)).1 = (answer remote t.look w).1 := by
  induction xs generalizing w with
  | nil => rfl
  | cons x xs ih =>
    obtain ⟨hx, hxs⟩ := List.forall_mem_cons.mp h
    exact (ih hxs _).trans (look_frame t hx w)

/-- A target is written only under its lock. -/
lemma protects (p : CachePolicy) (remote : Catalog ρ) (w : State ρ) (ha : t.IsAlone calls) :
    System.Protects remote (.ofCalls p calls w) t.lockKey (fun w => (answer remote t.look w).1)
      t.IsWrittenBy where
  locks_eq := rfl
  frame _ _ hn := look_frame t hn _
  inside := by
    intro es sys j request resume h ht hw
    obtain ⟨call, hc, -, -, hp⟩ := placed_of_ask h ht
    cases t with
    | set s =>
      obtain ⟨items, time, rfl⟩ := hw
      obtain ⟨pre, refreshed, now, hown⟩ := hp
      exact ⟨_, pre, hown, by simp [judged]⟩
    | content key =>
      obtain ⟨name, content, rfl⟩ := hw
      obtain ⟨pre, path, other, e, rfl, hk, -, hown⟩ := hp
      obtain rfl := ha path other hc hk
      exact ⟨_, pre, hown, by simp⟩

/-- What a task has seen under the lock of a target still shows until it writes there itself. -/
lemma look_eq (ha : t.IsAlone calls) (h : System.Reaches remote (.ofCalls p calls w) es sys)
    (hn : .cancelled i ∉ es) {shown : t.look.Answer} {rest : List Exchange}
    (hi : Inside t.lockKey (⟨t.look, shown⟩ :: rest) (own i es))
    (hrest : ∀ y ∈ rest, ¬ t.IsWrittenBy y.request) :
    (answer remote t.look sys.state).1 = shown := by
  have hlook : ¬ t.IsWrittenBy t.look := by cases t <;> simp [Target.IsWrittenBy]
  exact (protects p remote w ha).view_eq h hn [] hi hrest fun w hx =>
    (look_frame t hlook w).trans hx.symm

/-! ### Stored content -/

lemma isPlain_after (remote : Catalog ρ) (hplain : w.store.IsPlain) (xs : List Exchange) :
    (after (answer remote) w xs).store.IsPlain := by
  induction xs generalizing w with
  | nil => exact hplain
  | cons x xs ih =>
    refine ih ?_
    obtain ⟨request, given⟩ := x
    cases request with
    | readContent path => exact hplain.read path
    | writeContent path content => exact hplain.write path content.bytes
    | _ => exact hplain

lemma System.Reaches.isPlain (h : System.Reaches remote (.ofCalls p calls w) es sys)
    (hplain : w.store.IsPlain) : sys.state.store.IsPlain := by
  rw [h.happens.2]
  exact isPlain_after remote hplain _

/-- What a task has read that is about to write content. -/
lemma look_of_writeContent (ha : (Target.content key).IsAlone calls)
    (h : System.Reaches remote (.ofCalls p calls w) es sys) {name : String} {content : Content}
    {resume : Except Storage.Error Unit → Procedure Reply}
    (ht : sys.tasks[i]? = some (.ask (.writeContent name content) resume)) :
    name = nameOf key ∧ keyOf name = .ok key ∧
      ∃ e, (answer remote (.readContent (nameOf key)) sys.state).1 = .error e := by
  obtain ⟨call, hc, hn, -, pre, path, other, e, rfl, hk, rfl, hown⟩ := placed_of_ask h ht
  obtain rfl := ha path other hc hk
  exact ⟨rfl, Storage.keyOf_toPath hk, e,
    look_eq ha h hn ⟨pre, hown, by simp⟩ (by simp [Target.IsWrittenBy])⟩

theorem exists_look_of_isStored (hplain : w.store.IsPlain)
    (ha : (Target.content key).IsAlone calls)
    (h : System.Reaches remote (.ofCalls p calls w) es sys)
    (hs : (Target.content key).IsStoredBy (exchanges es)) :
    ∃ found, (answer remote (.readContent (nameOf key)) sys.state).1 = .ok found := by
  induction h using System.Reaches.exchange_induct with
  | first =>
    obtain ⟨content, -, hx⟩ := hs
    exact absurd hx List.not_mem_nil
  | waits _ _ ih => exact ih hs
  | @exchange es sys j request resume locks h ht _ ih =>
    by_cases hw : (Target.content key).IsWrittenBy request
    · obtain ⟨name, content, rfl⟩ := hw
      obtain ⟨rfl, hk, e, hlook⟩ := look_of_writeContent ha h ht
      -- nothing was stored before, or the task would have read it
      have hnot : ¬ (Target.content key).IsStoredBy (exchanges es) := by
        intro hs
        obtain ⟨found, hfound⟩ := ih hs
        rw [hlook] at hfound
        contradiction
      obtain ⟨stored, hne, hx⟩ := hs
      rw [exchanges_append, List.mem_append] at hx
      rcases hx with hx | hx
      · exact absurd ⟨stored, hne, hx⟩ hnot
      · obtain ⟨heq, hok⟩ := Exchange.mk.inj (List.mem_singleton.mp hx)
        obtain ⟨-, rfl⟩ := Request.writeContent.inj heq
        exact Storage.Store.exists_read_of_write (h.isPlain hplain) hk (eq_of_heq hok).symm hne
    · rw [exchanges_append] at hs
      obtain ⟨found, hfound⟩ := ih (hs.of_append hw)
      exact ⟨found, (look_frame (.content key) hw sys.state).trans hfound⟩
  | cancel h ih => exact ih (by rwa [exchanges_cancelled] at hs)

/-! ### Until something expires -/

/-- What a look shows after a set has been stored is when it was stored last. -/
lemma refreshed_of_isStored (h : System.Reaches remote (.ofCalls p calls w) es sys)
    (hs : (Target.set s).IsStoredBy (exchanges es)) {refreshed : Option Instant}
    (hlook : (answer remote (.refreshedAt s) sys.state).1 = .ok refreshed) :
    ∃ items time since, StoredLast (writes (exchanges es)) s items time since ∧
      refreshed = some (.ofSeconds time.seconds) := by
  rcases keeps_or_storedLast s (writes (exchanges es)) with hk | ⟨items, time, since, hlast⟩
  · obtain ⟨items, time, hx⟩ := hs
    exact absurd (mem_writes hx) (hk items time)
  · refine ⟨items, time, since, hlast, ?_⟩
    have hseconds : sys.state.repository.index.refreshes.get? s.key = some time.seconds := by
      rw [h.happens.2, index_after h.happens.1]
      exact hlast.refreshes_foldl _
    simp only [answer, Repository.query] at hlook
    split at hlook
    · exact Index.eq_of_refreshedAt hseconds hlook
    · contradiction

/-- A task that starts to wait for a set has just looked at the clock. -/
lemma starts_set (h : System.Reaches remote (.ofCalls p calls w) es sys) {next : System ρ Reply}
    {request : Request}
    (h' : System.Reaches remote (.ofCalls p calls w)
      (es ++ [.exchange i ⟨request, (answer remote request sys.state).1⟩]) next)
    (hnext : next.state = (answer remote request sys.state).2)
    (hi : next.IsFetching (.set s) i) :
    request = .now ∧ ((Target.set s).IsStoredBy (exchanges es) →
      (Target.set s).HasExpired p (exchanges es) sys.state.clock.now) := by
  obtain ⟨hn, pre, refreshed, now, hown, hfresh⟩ := own_of_isFetching_set h' hi
  have hinside : Inside s.key (judged s refreshed now) (own i (es ++ [.exchange i _])) :=
    ⟨pre, hown, by simp [judged]⟩
  have hlook : (answer remote (.refreshedAt s) next.state).1 = .ok refreshed :=
    look_eq (t := .set s) trivial h' hn hinside (by simp [Target.IsWrittenBy])
  have hends : pre ++ ⟨.lock s.key, ()⟩ :: judged s refreshed now =
      (pre ++ [⟨.lock s.key, ()⟩, ⟨.refreshedAt s, .ok refreshed⟩]) ++ [⟨.now, now⟩] := by
    simp [judged]
  rw [own_append, own_self, hends] at hown
  obtain ⟨-, hlast⟩ := List.append_inj' hown rfl
  obtain ⟨rfl, hnow⟩ := Exchange.mk.inj (List.singleton_inj.mp hlast)
  rw [hnext] at hlook
  refine ⟨rfl, fun hs => ?_⟩
  obtain ⟨items, time, since, hstored, rfl⟩ := refreshed_of_isStored h hs hlook
  refine ⟨items, time, since, hstored, ?_⟩
  have hclock : sys.state.clock.now = now := eq_of_heq hnow
  rw [hclock]
  cases hf : p.freshness (some (.ofSeconds time.seconds)) now with
  | fresh => exact absurd hf hfresh
  | stale => rfl
  | missing =>
    rw [CachePolicy.freshness] at hf
    split at hf <;> contradiction

lemma not_isFetching_of_isStored (hplain : w.store.IsPlain)
    (ha : (Target.content key).IsAlone calls)
    (h : System.Reaches remote (.ofCalls p calls w) es sys)
    (hs : (Target.content key).IsStoredBy (exchanges es)) : ¬ sys.IsFetching (.content key) i := by
  intro hi
  obtain ⟨found, hfound⟩ := exists_look_of_isStored hplain ha h hs
  obtain ⟨hn, pre, e, hown⟩ := own_of_isFetching_content h hi
  have hlook : (answer remote (.readContent (nameOf key)) sys.state).1 = .error e :=
    look_eq (t := .content key) ha h hn ⟨pre, hown, by simp⟩ (by simp)
  rw [hfound] at hlook
  contradiction

/-- A task that starts to wait for what has been stored has seen that it has expired. -/
theorem hasExpired_of_starts (hplain : w.store.IsPlain) (ha : t.IsAlone calls)
    (h : System.Reaches remote (.ofCalls p calls w) es sys) (hn : ¬ sys.IsFetching t i)
    (hi : (sys.step remote i).IsFetching t i) (hs : t.IsStoredBy (exchanges es)) :
    t.HasExpired p (exchanges es) sys.state.clock.now := by
  have h' := h.step i
  have hstep := System.steps_step remote sys i
  generalize sys.heard remote i = fs at h' hstep
  generalize sys.step remote i = next at h' hstep hi
  cases hstep with
  | idles => exact absurd hi hn
  | waits key => exact absurd hi hn
  | @goesOn request resume locks ht hturn =>
    cases t with
    | set s => exact (starts_set h h' rfl hi).2 hs
    | content key =>
      refine absurd hi (not_isFetching_of_isStored hplain ha h' ?_)
      rw [exchanges_append]
      exact hs.mono fun x hx => List.mem_append_left _ hx

/-! ### When nothing goes wrong -/

/-- Whether no task is cancelled, nothing fails, and nothing that is stored has expired when the
clock is read. -/
structure Undisturbed (p : CachePolicy) (t : Target) (es : List Event) : Prop where
  not_cancelled : ∀ i, .cancelled i ∉ es
  not_fails : ∀ x ∈ exchanges es, ¬ x.fails
  not_expired : ∀ before now rest, exchanges es = before ++ ⟨.now, now⟩ :: rest →
    ¬ t.HasExpired p before now

lemma Undisturbed.of_append {fs : List Event} (h : Undisturbed p t (es ++ fs)) :
    Undisturbed p t es := by
  refine ⟨fun i hm => h.not_cancelled i (List.mem_append_left fs hm), fun x hx => ?_, ?_⟩
  · refine h.not_fails x ?_
    rw [exchanges_append]
    exact List.mem_append_left _ hx
  · intro before now rest heq
    refine h.not_expired before now (rest ++ exchanges fs) ?_
    rw [exchanges_append, heq, List.append_assoc, List.cons_append]

lemma Undisturbed.not_fails_own (h : Undisturbed p t es) (i : Nat) : ∀ x ∈ own i es, ¬ x.fails :=
  fun x hx => h.not_fails x (mem_exchanges_iff.mpr ⟨i, hx⟩)

lemma not_isStored_of_isFetching (hplain : w.store.IsPlain) (ha : t.IsAlone calls)
    (h : System.Reaches remote (.ofCalls p calls w) es sys) (hu : Undisturbed p t es)
    (hi : sys.IsFetching t i) : ¬ t.IsStoredBy (exchanges es) := by
  cases t with
  | content key => exact fun hs => not_isFetching_of_isStored hplain ha h hs hi
  | set s =>
    induction h using System.Reaches.exchange_induct with
    | first =>
      rintro ⟨items, time, hx⟩
      exact absurd hx List.not_mem_nil
    | waits _ _ ih => exact ih hu hi
    | @exchange es sys j request resume locks h ht h' ih =>
      intro hs
      rw [exchanges_append] at hs
      by_cases hj : j = i
      · subst hj
        obtain ⟨rfl, hexpired⟩ := starts_set h h' rfl hi
        have hs' := hs.of_append (by simp [Target.IsWrittenBy])
        exact hu.not_expired _ _ [] (exchanges_append es _) (hexpired hs')
      · have hi' : sys.IsFetching (.set s) i := by
          obtain ⟨asked, left, htask, hf⟩ := hi
          exact ⟨asked, left, (List.getElem?_set_ne hj).symm.trans htask, hf⟩
        have hnot : ¬ (Target.set s).IsWrittenBy request := by
          intro hw
          obtain ⟨since, hinside⟩ := (protects p remote w ha).inside h ht hw
          obtain ⟨call, -, hnj, -⟩ := placed_of_ask h ht
          obtain ⟨hni, since', hinside'⟩ := inside_of_isFetching h hi'
          exact hj (h.eq_of_inside rfl hinside hnj hinside' hni)
        exact ih hu.of_append hi' (hs.of_append hnot)
    | @cancel es sys j result h ih =>
      exact absurd (List.mem_append_right es (List.mem_singleton_self _)) (hu.not_cancelled j)

/-- Whoever has asked the remote for a target reads it. -/
lemma exists_call_of_fetched (h : System.Reaches remote (.ofCalls p calls w) es sys) {x : Exchange}
    (hx : x ∈ own i es) (hf : t.isFetchedBy x.request = true) :
    ∃ call rest, t.IsAskedBy call ∧ Leads (call.procedure p) (own i es) rest := by
  obtain ⟨known, later, heq⟩ := List.append_of_mem hx
  obtain ⟨call, -, rest, hl, hp⟩ := placed_of_own h heq
  exact ⟨call, rest, isAskedBy_of_placed hp hf, hl⟩

/-- When the remote has been asked, nobody asks it again. -/
theorem not_isFetching_of_fetched (hplain : w.store.IsPlain) (ha : t.IsAlone calls)
    (h : System.Reaches remote (.ofCalls p calls w) es sys) (hu : Undisturbed p t es)
    {x : Exchange} (hx : x ∈ exchanges es) (hf : t.isFetchedBy x.request = true) :
    ¬ sys.IsFetching t i := by
  intro hi
  obtain ⟨j, hj⟩ := mem_exchanges_iff.mp hx
  obtain ⟨call, rest, hcall, hl⟩ := exists_call_of_fetched h hj hf
  rcases inside_or_over (exists_isReadBy remote w hcall hl) hj hf with ⟨since, hinside⟩ | hover
  · -- the task that has asked has yet to store the answer, so it is the one that asks again
    obtain ⟨hni, since', hinside'⟩ := inside_of_isFetching h hi
    obtain rfl := h.eq_of_inside rfl hinside (hu.not_cancelled j) hinside' hni
    obtain ⟨request, resume, ht, hagain⟩ := hi
    obtain ⟨call, -, -, hl, hp⟩ := placed_of_ask h ht
    have honce := countP_isFetchedBy_le
      (exists_isReadBy remote w (isAskedBy_of_placed hp hagain) hl)
    have hasked : 0 < (own j es).countP (t.isFetchedBy ·.request) :=
      List.countP_pos_iff.mpr ⟨x, hj, hf⟩
    rw [List.countP_append, trace, List.countP_cons, if_pos hagain] at honce
    omega
  · have hread := exists_isReadBy remote w hcall hl
    rw [hover, List.append_nil] at hread
    obtain ⟨hnone, -⟩ | ⟨-, hs⟩ := found_or_stored hread (hu.not_fails_own j)
    · rw [hnone x hj] at hf
      contradiction
    · exact not_isStored_of_isFetching hplain ha h hu hi
        (hs.mono fun y hy => mem_exchanges_iff.mpr ⟨j, hy⟩)

/-- The remote is asked at most once. -/
lemma countP_exchanges_le (hplain : w.store.IsPlain) (ha : t.IsAlone calls)
    (h : System.Reaches remote (.ofCalls p calls w) es sys) (hu : Undisturbed p t es) :
    (exchanges es).countP (t.isFetchedBy ·.request) ≤ 1 := by
  induction h using System.Reaches.exchange_induct with
  | first => exact Nat.zero_le 1
  | waits _ _ ih => exact ih hu
  | @exchange es sys j request resume locks h ht _ ih =>
    rw [exchanges_append, List.countP_append]
    by_cases hf : t.isFetchedBy request = true
    · have hnone : (exchanges es).countP (t.isFetchedBy ·.request) = 0 := by
        refine List.countP_eq_zero.mpr fun x hx hfx => ?_
        exact not_isFetching_of_fetched hplain ha h hu.of_append hx hfx ⟨request, resume, ht, hf⟩
      rw [hnone, Nat.zero_add]
      exact List.countP_le_length
    · have hnot : (exchanges [.exchange j ⟨request, (answer remote request sys.state).1⟩]).countP
          (t.isFetchedBy ·.request) = 0 := by
        refine List.countP_eq_zero.mpr fun x hx => ?_
        obtain rfl := List.mem_singleton.mp hx
        exact hf
      rw [hnot]
      exact ih hu.of_append
  | @cancel es sys j result h ih =>
    exact absurd (List.mem_append_right es (List.mem_singleton_self _)) (hu.not_cancelled j)

/-- Whatever is written has been fetched before. -/
lemma exists_fetched_of_written (ha : t.IsAlone calls)
    (h : System.Reaches remote (.ofCalls p calls w) es sys) {y : Exchange}
    (hy : y ∈ exchanges es) (hw : t.IsWrittenBy y.request) :
    ∃ x ∈ exchanges es, t.isFetchedBy x.request = true := by
  obtain ⟨k, hk⟩ := mem_exchanges_iff.mp hy
  obtain ⟨known, later, heq⟩ := List.append_of_mem hk
  obtain ⟨call, hcall, -, -, hp⟩ := placed_of_own h heq
  have hknown {x : Exchange} (hx : x ∈ known) : x ∈ exchanges es := by
    refine mem_exchanges_iff.mpr ⟨k, ?_⟩
    rw [heq]
    exact List.mem_append_left _ hx
  obtain ⟨request, given⟩ := y
  cases t with
  | set s =>
    obtain ⟨items, time, rfl⟩ := hw
    obtain ⟨pre, refreshed, now, rfl⟩ := hp
    exact ⟨⟨.fetchSet s, .ok items⟩, hknown (by simp), isFetchedBy_set.mpr rfl⟩
  | content key =>
    obtain ⟨name, content, rfl⟩ := hw
    obtain ⟨pre, path, other, e, rfl, hother, -, rfl⟩ := hp
    obtain rfl := ha path other hcall hother
    exact ⟨⟨.fetchContent path, .ok content⟩, hknown (by simp),
      isFetchedBy_content.mpr ⟨path, rfl, hother⟩⟩

/-- What was missing and is found has been fetched meanwhile. -/
lemma exists_fetched_of_found (ha : t.IsAlone calls)
    (h : System.Reaches remote (.ofCalls p calls w) es sys)
    (hm : t.IsMissingIn (answer remote t.look w).1) {shown : t.look.Answer}
    (hx : ⟨t.look, shown⟩ ∈ exchanges es) (hfound : ¬ t.IsMissingIn shown) :
    ∃ x ∈ exchanges es, t.isFetchedBy x.request = true := by
  obtain ⟨before, rest, heq⟩ := List.append_of_mem hx
  have hshown : shown = (answer remote t.look (after (answer remote) w before)).1 := by
    have hh := h.happens.1
    rw [heq] at hh
    exact hh.answer_eq
  have hwritten : ∃ y ∈ before, t.IsWrittenBy y.request := by
    by_contra hnone
    rw [hshown, look_after t fun y hy hw => hnone ⟨y, hy, hw⟩] at hfound
    exact hfound hm
  obtain ⟨y, hy, hw⟩ := hwritten
  refine exists_fetched_of_written ha h ?_ hw
  rw [heq]
  exact List.mem_append_left _ hy

/-- Over any calls that are made side by side, in whatever order their steps are taken and
whichever of them are cancelled: at most one task at a time waits for what the remote answers for a
set, or for the content under a key if no other content is asked for. Once an answer has been
stored, a task starts to ask again only when the set has expired by the clock. If nothing is stored
at first, none is cancelled, nothing fails and nothing expires, the remote is asked once by the
time that a task has what it wanted, and never again. -/
theorem single_flight (p : CachePolicy) (remote : Catalog ρ) (calls : List Call) (w : State ρ)
    (t : Target) (hplain : w.store.IsPlain) (ha : t.IsAlone calls) {es : List Event}
    {sys : System ρ Reply} (h : System.Reaches remote (.ofCalls p calls w) es sys) :
    (∀ i j, sys.IsFetching t i → sys.IsFetching t j → i = j) ∧
    (∀ i, t.IsStoredBy (exchanges es) → ¬ sys.IsFetching t i →
      (sys.step remote i).IsFetching t i → t.HasExpired p (exchanges es) sys.state.clock.now) ∧
    (t.IsMissingIn (answer remote t.look w).1 → Undisturbed p t es →
      let asked := (exchanges es).countP (t.isFetchedBy ·.request)
      asked ≤ 1 ∧ (asked = 1 → ∀ i, ¬ sys.IsFetching t i) ∧
        ∀ (i : Nat) (call : Call) (result : Reply), calls[i]? = some call → t.IsAskedBy call →
          sys.tasks[i]? = some (.done result) → asked = 1) := by
  refine ⟨fun i j hi hj => eq_of_isFetching h hi hj, fun i hs hn hi =>
    hasExpired_of_starts hplain ha h hn hi hs, fun hm hu => ?_⟩
  intro asked
  have hle : asked ≤ 1 := countP_exchanges_le hplain ha h hu
  refine ⟨hle, fun hone i => ?_, fun i call result hcall hasks hdone => ?_⟩
  · obtain ⟨x, hx, hf⟩ := List.countP_pos_iff.mp (show 0 < asked by omega)
    exact not_isFetching_of_fetched hplain ha h hu hx hf
  · have hl : Leads (call.procedure p) (own i es) (done result) := by
      cases h.stands (tasks_ofCalls p w hcall) with
      | live hl _ ht =>
        rw [hdone, Option.some_inj] at ht
        rwa [ht]
      | ended _ hc _ => exact absurd hc (hu.not_cancelled i)
    have hasked : ∃ x ∈ exchanges es, t.isFetchedBy x.request = true := by
      rcases found_or_stored (isReadBy_of_leads hasks hl) (hu.not_fails_own i) with
        ⟨-, shown, hx, hfound⟩ | ⟨⟨x, hx, hf⟩, -⟩
      · exact exists_fetched_of_found ha h hm (mem_exchanges_iff.mpr ⟨i, hx⟩) hfound
      · exact ⟨x, mem_exchanges_iff.mpr ⟨i, hx⟩, hf⟩
    have hpos : 0 < asked := List.countP_pos_iff.mpr hasked
    omega

/-- A new cache over a remote that has a file. -/
def oneFile : State MemoryCatalog where
  remote := { contents := [("/pub/a.mod", [1]), ("pub/./a.mod", [1])] }
  clock := Instant.ofSeconds 0

/-- The second of two tasks looks before the first one has stored what it fetches, and then waits
for the lock. -/
theorem single_flight_oneFile :
    let t : Target := .content ["pub".toList, "a.mod".toList]
    let start : System MemoryCatalog Reply :=
      .ofCalls {} [.content "/pub/a.mod", .content "pub/./a.mod"] oneFile
    let es := start.heardDuring MemoryCatalog.catalog [0, 1, 0, 1, 0, 0, 1, 0, 0, 1, 1, 1]
    (exchanges es).countP (t.isFetchedBy ·.request) = 1 := by
  intro t start es
  let schedule := [0, 1, 0, 1, 0, 0, 1, 0, 0, 1, 1, 1]
  have hreaches := System.reaches_runSchedule MemoryCatalog.catalog start schedule
  have hundisturbed : Undisturbed {} t es :=
    ⟨System.cancelled_notMem_heardDuring _ _ _, by decide +kernel, fun _ _ _ _ h => h⟩
  have halone : t.IsAlone [.content "/pub/a.mod", .content "pub/./a.mod"] := by
    intro path other hm hk
    rcases List.mem_pair.mp hm with heq | heq
    · obtain rfl := Call.content.inj heq
      exact (Except.ok.inj hk).symm
    · obtain rfl := Call.content.inj heq
      exact (Except.ok.inj hk).symm
  have hfinished :
      (start.runSchedule MemoryCatalog.catalog schedule).results[0]?.join.isSome = true := by
    decide +kernel
  obtain ⟨result, hresult⟩ := System.exists_done_of_results hfinished
  obtain ⟨-, -, honce⟩ := single_flight {} MemoryCatalog.catalog _ oneFile t trivial halone hreaches
  obtain ⟨-, -, hasked⟩ := honce ⟨.notFound "pub/a.mod", by rfl⟩ hundisturbed
  exact hasked 0 (.content "/pub/a.mod") result rfl ⟨"/pub/a.mod", rfl, by rfl⟩ hresult

end ModuleArchive.Cache
