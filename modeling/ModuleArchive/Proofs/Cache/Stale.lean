import ModuleArchive.Catalog.Memory
import ModuleArchive.Proofs.Cache.Recorded
import ModuleArchive.Proofs.Cache.Untorn

/-!
# Stale sets in place of errors

Whether a policy serves stale sets makes no difference to what is asked of the remote, to the index
or to the stored content. Two caches that differ in this alone stay in step over any calls, whatever
the remote answers and whatever the clock shows. Only the result of a call may differ: where the
remote fails for a set that has expired, the set is listed instead.
-/
namespace ModuleArchive

def CachePolicy.serving (p : CachePolicy) (serveStale : Bool) : CachePolicy := { p with serveStale }

namespace Cache

open Procedure
open Index (Write ofWrites)

variable {ρ : Type} {p : CachePolicy} {remote : Catalog ρ} {w : State ρ} {s : Scope}

/-! ### What is asked of the remote -/

instance : DecidablePred Request.IsRemote
  | .fetchSet _ | .fetchGroup _ _ | .fetchTrack _ _ _ | .fetchContent _ => isTrue trivial
  | .now | .refreshedAt _ | .list _ | .replace _ _ _ | .getGroup _ _ | .putGroup _ _
  | .findTrack _ _ _ | .putTrack _ _ _ | .lock _ | .unlock _ | .readContent _
  | .writeContent _ _ => isFalse id

def remoteExchanges (xs : List Exchange) : List Exchange := xs.filter (·.request.IsRemote)

section Guarded

variable {α : Type} (key : String) (body : Procedure α)

lemma run_guarded : (guarded key body).run (answer remote) w = body.run (answer remote) w := by
  simp only [guarded, run_ask, answer, run_bind, run_done]

lemma trace_guarded : (guarded key body).trace (answer remote) w =
    ⟨.lock key, ()⟩ :: (body.trace (answer remote) w ++ [⟨.unlock key, ()⟩]) := by
  simp only [guarded, trace, answer, trace_bind]

/-- Holding a lock asks nothing of the remote. -/
lemma remoteExchanges_guarded : remoteExchanges ((guarded key body).trace (answer remote) w) =
    remoteExchanges (body.trace (answer remote) w) := by
  rw [trace_guarded]
  exact (List.filter_append ..).trans (List.append_nil _)

end Guarded

/-- Whether a set has expired by the time that was read last. -/
def State.HasExpired (w : State ρ) (p : CachePolicy) (s : Scope) : Prop :=
  ∃ time, w.repository.query (·.refreshedAt s) = .ok (some time) ∧
    p.freshness (some time) (w.clock.reading (w.clock.taken - 1)) = .stale

/-- Whether a procedure does to the state and asks of the remote what another one does, and gives
the same result or, where the remote fails for an expired set, what the index lists. -/
structure Rescues (p : CachePolicy) (remote : Catalog ρ) (s : Scope) (w : State ρ)
    (lenient strict : Procedure (Except Catalog.Error (List s.Item))) : Prop where
  state_eq : (lenient.run (answer remote) w).2 = (strict.run (answer remote) w).2
  remote_eq : remoteExchanges (lenient.trace (answer remote) w) =
    remoteExchanges (strict.trace (answer remote) w)
  result : (lenient.run (answer remote) w).1 = (strict.run (answer remote) w).1 ∨
    ∃ cause, (strict.run (answer remote) w).1 = .error cause ∧
      ⟨.fetchSet s, .error cause⟩ ∈ strict.trace (answer remote) w ∧
      (strict.run (answer remote) w).2.HasExpired p s ∧
      (lenient.run (answer remote) w).1 =
        indexed ((strict.run (answer remote) w).2.repository.query (·.list s))

namespace Rescues

lemma refl (q : Procedure (Except Catalog.Error (List s.Item))) : Rescues p remote s w q q :=
  ⟨rfl, rfl, .inl rfl⟩

/-- A request that both make keeps them in step. -/
lemma ask {request : Request}
    {lenient strict : request.Answer → Procedure (Except Catalog.Error (List s.Item))}
    (h : Rescues p remote s (answer remote request w).2
      (lenient (answer remote request w).1) (strict (answer remote request w).1)) :
    Rescues p remote s w (.ask request lenient) (.ask request strict) where
  state_eq := h.state_eq
  remote_eq := by
    simp only [trace, remoteExchanges, List.filter_cons]
    split
    · exact congrArg _ h.remote_eq
    · exact h.remote_eq
  result := by
    refine h.result.imp_right ?_
    rintro ⟨cause, hs, hx, hexpired, hl⟩
    exact ⟨cause, hs, List.mem_cons_of_mem _ hx, hexpired, hl⟩

lemma guarded (key : String) {lenient strict : Procedure (Except Catalog.Error (List s.Item))}
    (h : Rescues p remote s w lenient strict) :
    Rescues p remote s w (Cache.guarded key lenient) (Cache.guarded key strict) := by
  refine ⟨?_, ?_, ?_⟩
  · rw [run_guarded, run_guarded]
    exact h.state_eq
  · rw [remoteExchanges_guarded, remoteExchanges_guarded]
    exact h.remote_eq
  · rw [run_guarded, run_guarded, trace_guarded]
    refine h.result.imp_right ?_
    rintro ⟨cause, hs, hx, hexpired, hl⟩
    exact ⟨cause, hs, List.mem_cons_of_mem _ (List.mem_append_left _ hx), hexpired, hl⟩

/-- What is judged is the refresh time in the index, at the time that is read last. -/
lemma judge {lenient strict : Freshness → Procedure (Except Catalog.Error (List s.Item))}
    (h : ∀ refreshed, w.repository.query (·.refreshedAt s) = .ok refreshed →
      Rescues p remote s { w with clock := w.clock.tick }
        (lenient (p.freshness refreshed w.clock.now))
        (strict (p.freshness refreshed w.clock.now))) :
    Rescues p remote s w (Cache.judge (p.serving true) s lenient)
      (Cache.judge (p.serving false) s strict) := by
  apply ask
  simp only [answer]
  cases hr : w.repository.query (·.refreshedAt s) with
  | error e => exact refl _
  | ok refreshed => exact ask (h refreshed hr)

end Rescues

lemma run_stored : (stored s).run (answer remote) w =
    (indexed (w.repository.query (·.list s)), w) := by
  simp only [stored, run_ask, answer]
  cases w.repository.query (·.list s) <;> rfl

lemma trace_stored : (stored s).trace (answer remote) w =
    [⟨.list s, w.repository.query (·.list s)⟩] := by
  simp only [stored, trace, answer]
  cases w.repository.query (·.list s) <;> rfl

/-- Refreshing fails as the remote does, unless the set has expired and is listed instead. -/
lemma rescues_refresh (p : CachePolicy) (remote : Catalog ρ) {refreshed : Option Instant}
    (hr : w.repository.query (·.refreshedAt s) = .ok refreshed) :
    Rescues p remote s { w with clock := w.clock.tick }
      (refresh (p.serving true) s (p.freshness refreshed w.clock.now))
      (refresh (p.serving false) s (p.freshness refreshed w.clock.now)) := by
  set met : State ρ := { w with clock := w.clock.tick }
  set left : State ρ := (answer remote (.fetchSet s) met).2
  cases hfetch : (answer remote (.fetchSet s) met).1 with
  | ok items =>
    apply Rescues.ask
    rw [hfetch]
    exact .refl _
  | error cause =>
    by_cases hf : p.freshness refreshed w.clock.now = .stale
    · -- the last request of the strict procedure is the one that the remote refuses
      have hlenient : (refresh (p.serving true) s .stale).run (answer remote) met =
          (indexed (left.repository.query (·.list s)), left) := by
        rw [refresh, run_ask, hfetch]
        exact run_stored
      have hstrict : (refresh (p.serving false) s .stale).run (answer remote) met =
          (.error cause, left) := by
        rw [refresh, run_ask, hfetch]
        rfl
      have htrace : (refresh (p.serving false) s .stale).trace (answer remote) met =
          [⟨.fetchSet s, .error cause⟩] := by
        rw [refresh, trace, hfetch]
        rfl
      have hremote :
          remoteExchanges ((refresh (p.serving true) s .stale).trace (answer remote) met) =
            [⟨.fetchSet s, .error cause⟩] := by
        rw [refresh, trace, hfetch]
        change remoteExchanges (_ :: (stored s).trace (answer remote) left) = _
        rw [trace_stored]
        rfl
      have hexpired : left.HasExpired p s := by
        cases refreshed with
        | none => contradiction
        | some time => exact ⟨time, hr, hf⟩
      rw [hf]
      refine ⟨by rw [hlenient, hstrict], by rw [hremote, htrace]; rfl, .inr ⟨cause, ?_⟩⟩
      rw [hlenient, hstrict, htrace]
      exact ⟨rfl, List.mem_singleton.mpr rfl, hexpired, rfl⟩
    · apply Rescues.ask
      rw [hfetch]
      simp only [hf, false_and, if_false]
      exact .refl _

/-- Reading a set fails as the remote does, unless the set has expired and is listed instead. -/
lemma rescues_readSet (p : CachePolicy) (remote : Catalog ρ) (s : Scope) (w : State ρ) :
    Rescues p remote s w (readSet (p.serving true) s) (readSet (p.serving false) s) := by
  refine Rescues.judge fun refreshed hr => ?_
  have hlocked : Rescues p remote s { w with clock := w.clock.tick }
      (guarded s.key (reread (p.serving true) s)) (guarded s.key (reread (p.serving false) s)) := by
    refine (Rescues.judge fun refreshed hr => ?_).guarded s.key
    have hrefresh := rescues_refresh p remote hr
    cases hf : p.freshness refreshed w.clock.tick.now with
    | fresh => exact .refl _
    | stale =>
      rw [hf] at hrefresh
      exact hrefresh
    | missing =>
      rw [hf] at hrefresh
      exact hrefresh
  cases p.freshness refreshed w.clock.now with
  | fresh => exact .refl _
  | stale => exact hlocked
  | missing => exact hlocked

/-! ### Any calls -/

def Call.run (p : CachePolicy) (remote : Catalog ρ) (w : State ρ) (call : Call) :
    Reply × State ρ :=
  (call.procedure p).run (answer remote) w

def Call.trace (p : CachePolicy) (remote : Catalog ρ) (w : State ρ) (call : Call) :
    List Exchange :=
  (call.procedure p).trace (answer remote) w

def afterCalls (p : CachePolicy) (remote : Catalog ρ) (w : State ρ) (calls : List Call) :
    State ρ :=
  calls.foldl (fun w call => (call.run p remote w).2) w

/-- What has been asked of the remote during some calls. -/
def asked (p : CachePolicy) (remote : Catalog ρ) : State ρ → List Call → List Exchange
  | _, [] => []
  | w, call :: calls =>
    remoteExchanges (call.trace p remote w) ++ asked p remote (call.run p remote w).2 calls

lemma run_map {σ α β : Type} {answer : (r : Request) → σ → r.Answer × σ} (f : α → β)
    (q : Procedure α) (w : σ) :
    (q.map f).run answer w = (f (q.run answer w).1, (q.run answer w).2) := by
  rw [Procedure.map, run_bind, run_done]

lemma run_set (s : Scope) : (Call.set s).run p remote w =
    (.set s ((readSet p s).run (answer remote) w).1, ((readSet p s).run (answer remote) w).2) :=
  run_map _ _ _

lemma trace_set (s : Scope) :
    (Call.set s).trace p remote w = (readSet p s).trace (answer remote) w :=
  trace_map _ _ _

/-- Whether a call without stale sets fails as the remote does for a set that has expired, while
with stale sets it gives what the index lists. -/
def IsRescued (p : CachePolicy) (remote : Catalog ρ) (w : State ρ) (call : Call) : Prop :=
  let strict := call.run (p.serving false) remote w
  ∃ s cause, call = .set s ∧ strict.1 = .set s (.error cause) ∧
    ⟨.fetchSet s, .error cause⟩ ∈ call.trace (p.serving false) remote w ∧
    strict.2.HasExpired p s ∧
    (call.run (p.serving true) remote w).1 =
      .set s (indexed (strict.2.repository.query (·.list s)))

/-- One call keeps two caches in step that differ in serving stale sets. -/
lemma call_in_step (p : CachePolicy) (remote : Catalog ρ) (w : State ρ) (call : Call) :
    (call.run (p.serving true) remote w).2 = (call.run (p.serving false) remote w).2 ∧
      remoteExchanges (call.trace (p.serving true) remote w) =
        remoteExchanges (call.trace (p.serving false) remote w) ∧
      ((call.run (p.serving true) remote w).1 = (call.run (p.serving false) remote w).1 ∨
        IsRescued p remote w call) := by
  cases call with
  | set s =>
    obtain ⟨hstate, hremote, hresult⟩ := rescues_readSet p remote s w
    simp only [IsRescued, run_set, trace_set]
    refine ⟨hstate, hremote, ?_⟩
    rcases hresult with hsame | ⟨cause, hstrict, hx, hexpired, hlenient⟩
    · exact .inl (by rw [hsame])
    · exact .inr ⟨s, cause, rfl, by rw [hstrict], hx, hexpired, by rw [hlenient]⟩
  | group g id => exact ⟨rfl, rfl, .inl rfl⟩
  | track g id filename => exact ⟨rfl, rfl, .inl rfl⟩
  | content path => exact ⟨rfl, rfl, .inl rfl⟩

lemma afterCalls_serving (p : CachePolicy) (remote : Catalog ρ) (w : State ρ)
    (calls : List Call) :
    afterCalls (p.serving true) remote w calls = afterCalls (p.serving false) remote w calls ∧
      asked (p.serving true) remote w calls = asked (p.serving false) remote w calls := by
  induction calls generalizing w with
  | nil => exact ⟨rfl, rfl⟩
  | cons call calls ih =>
    obtain ⟨hstate, hremote, -⟩ := call_in_step p remote w call
    obtain ⟨hafter, hasked⟩ := ih (call.run (p.serving true) remote w).2
    simp only [afterCalls, List.foldl_cons, asked] at hafter ⊢
    rw [hremote, hasked, hafter, hstate]
    exact ⟨rfl, rfl⟩

/-- The writes of some calls are all that is added to the index. -/
lemma exists_holds_of_calls (p : CachePolicy) (remote : Catalog ρ) {ws : List Write}
    (hw : w.Holds ws) (calls : List Call) :
    ∃ more, (afterCalls p remote w calls).Holds (ws ++ more) := by
  induction calls generalizing w ws with
  | nil => exact ⟨[], by rwa [List.append_nil]⟩
  | cons call calls ih =>
    have hrun : call.run p remote w = (_, _) := rfl
    obtain ⟨xs, -, -, hholds⟩ := exists_holds_of_run hw hrun
    obtain ⟨more, hmore⟩ := ih hholds
    exact ⟨writes xs ++ more, by rwa [← List.append_assoc]⟩

/-- After any calls, two caches that differ in serving stale sets have the same index, the same
stored content and the same clock, and have made the same requests to the remote. The next call
gives both the same, except where the remote fails for a set that has expired: then the cache that
serves stale sets gives what the index lists, which are the records of the set if nothing else has
written to the index. -/
theorem stale_replaces_errors (p : CachePolicy) (remote : Catalog ρ) (w : State ρ)
    (before : List Call) (call : Call) :
    let reached := afterCalls (p.serving false) remote w before
    let strict := call.run (p.serving false) remote reached
    let lenient := call.run (p.serving true) remote reached
    afterCalls (p.serving true) remote w before = reached ∧
    asked (p.serving true) remote w before = asked (p.serving false) remote w before ∧
    (lenient.1 = strict.1 ∨ IsRescued p remote reached call) ∧
    (∀ ws, w.Holds ws → IsRescued p remote reached call → ∃ s items, call = .set s ∧
      strict.2.repository.query (·.list s) = .ok items ∧ lenient.1 = .set s (.ok items)) := by
  intro reached strict lenient
  obtain ⟨hstate, hasked⟩ := afterCalls_serving p remote w before
  refine ⟨hstate, hasked, (call_in_step p remote reached call).2.2, ?_⟩
  rintro ws hw ⟨s, cause, hcall, -, -, -, hlenient⟩
  obtain ⟨more, hmore⟩ := exists_holds_of_calls (p.serving false) remote hw (before ++ [call])
  have hleft : strict.2.Holds (ws ++ more) := by
    rwa [afterCalls, List.foldl_append] at hmore
  obtain ⟨items, hitems, -⟩ := Index.list_ofWrites (ws ++ more) s
  have hlisted : strict.2.repository.query (·.list s) = .ok items := by
    rw [hleft.query_eq, hitems]
  refine ⟨s, items, hcall, hlisted, ?_⟩
  rw [hlenient, hlisted]
  rfl

lemma run_set_of_expired {time : Instant} {cause : Catalog.Error}
    (hr : w.repository.query (·.refreshedAt s) = .ok (some time))
    (hf : ∀ n, p.freshness (some time) (w.clock.reading n) = .stale)
    (hfetch : ((remote.listing s).collect w.remote).1 = .error cause) :
    ((Call.set s).run p remote w).1 =
      .set s (if p.serveStale then indexed (w.repository.query (·.list s)) else .error cause) := by
  have hnow : p.freshness (some time) w.clock.now = .stale := hf _
  have hlater : p.freshness (some time) w.clock.tick.now = .stale := hf _
  obtain ⟨left, hcollect⟩ : ∃ left, (remote.listing s).collect w.remote = (.error cause, left) :=
    ⟨_, Prod.ext hfetch rfl⟩
  rw [run_set]
  by_cases hp : p.serveStale = true
  · simp [readSet, judge, guarded, refresh, answer, State.fetch, hr, hnow, hlater, hcollect, hp,
      Except.map, run_bind, run_stored]
  · simp [readSet, judge, guarded, refresh, answer, State.fetch, hr, hnow, hlater, hcollect, hp,
      Except.map, run_bind]

/-- A cache with the tracks of a group that have expired, over a remote that fails. -/
def expiredTracks : State MemoryCatalog where
  repository.index :=
    ofWrites [.replace (.tracks .authors 42) [.ofPath "/pub/a.mod" 8] (.ofSeconds 0)]
  remote := { isFailing := true }
  clock := Instant.ofSeconds 1

/-- The tracks are listed although the remote fails. -/
theorem stale_replaces_errors_expiredTracks :
    let s : Scope := .tracks .authors 42
    ((Call.set s).run { ttl := 0, serveStale := false } MemoryCatalog.catalog expiredTracks).1 =
        .set s (.error .unavailable) ∧
      ∃ items, expiredTracks.repository.query (·.list s) = .ok items ∧
        ((Call.set s).run { ttl := 0, serveStale := true } MemoryCatalog.catalog expiredTracks).1 =
          .set s (.ok items) := by
  intro s
  have hrefreshed : expiredTracks.repository.query (·.refreshedAt s) = .ok (some (.ofSeconds 0)) :=
    rfl
  have hfetch : ((MemoryCatalog.catalog.listing s).collect expiredTracks.remote).1 =
      .error .unavailable := rfl
  have hlenient := run_set_of_expired (p := { ttl := 0 }) hrefreshed (fun _ => rfl) hfetch
  have hrescued : IsRescued { ttl := 0 } MemoryCatalog.catalog expiredTracks (.set s) :=
    ⟨s, .unavailable, rfl, rfl, List.mem_of_getElem? (i := 5) rfl, ⟨.ofSeconds 0, rfl, rfl⟩,
      hlenient⟩
  obtain ⟨-, -, -, hlisted⟩ :=
    stale_replaces_errors { ttl := 0 } MemoryCatalog.catalog expiredTracks [] (.set s)
  obtain ⟨s', items, hs, hlist, hresult⟩ := hlisted _ ⟨rfl, rfl⟩ hrescued
  obtain rfl := Call.set.inj hs
  exact ⟨rfl, items, hlist, hresult⟩

/-- The same cache after another program has written a negative size over that of the track. -/
def overwrittenTracks : State MemoryCatalog :=
  { expiredTracks with
    repository.index :=
      (expiredTracks.repository.index.overwrite (-1) (.trackSize "/pub/a.mod")).2 }

/-- Instead of the error of the remote, the cache that serves stale sets gives one of the index. -/
theorem stale_unreadable_overwrittenTracks :
    let s : Scope := .tracks .authors 42
    ((Call.set s).run { ttl := 0, serveStale := false } MemoryCatalog.catalog
        overwrittenTracks).1 = .set s (.error .unavailable) ∧
      ((Call.set s).run { ttl := 0, serveStale := true } MemoryCatalog.catalog
        overwrittenTracks).1 = .set s (.error (.index (some (.invalidData "track size")))) := by
  intro s
  have hlist : overwrittenTracks.repository.query (·.list s) =
      .error (.invalidData "track size") := by
    have hrows : overwrittenTracks.repository.index.groupTracks.ofOwner (.authors, 42) =
        Index.Members.number (.authors, 42) 0 ["/pub/a.mod"] := by
      decide +kernel
    change Index.listTracks _ _ _ = _
    rw [Index.listTracks, Index.trackRecords, Index.Members.list_of_ofOwner hrows]
    decide +kernel
  have hrefreshed : overwrittenTracks.repository.query (·.refreshedAt s) =
      .ok (some (.ofSeconds 0)) := rfl
  have hfetch : ((MemoryCatalog.catalog.listing s).collect overwrittenTracks.remote).1 =
      .error .unavailable := rfl
  refine ⟨rfl, ?_⟩
  rw [run_set_of_expired hrefreshed (fun _ => rfl) hfetch, hlist]
  rfl

end Cache

end ModuleArchive
