import ModuleArchive.Proofs.Cache.Stale
import ModuleArchive.Proofs.Cache.Transparency
import ModuleArchive.Proofs.Cache.Warm
import ModuleArchive.Proofs.Catalog.Consuming
import ModuleArchive.Proofs.Index.Refinement

/-!
# What a refresh comes to

Reading a set is all or nothing. A fresh set is served from the index, which stays as it is.
Otherwise the remote is asked for the set once. A complete answer that can be stored takes the
place of the set and is delivered; of any other answer nothing is kept and nothing is shown, however
much of it has arrived. Then an expired set may be served in its place.
-/
namespace ModuleArchive

/-! ### Listings as a whole -/

namespace Listing

variable {σ α : Type}

/-- Whether a listing shows the number of these items and then the items, to the end. -/
def Delivers (l : Listing σ α) (w : σ) (items : List α) : Prop :=
  l.events w = .hint items.length :: items.map .item ∧ l.ending w = .complete

/-- Whether a listing shows nothing and fails. -/
def Refuses (l : Listing σ α) (w : σ) (cause : Catalog.Error) : Prop :=
  l.events w = [] ∧ l.ending w = .failed cause

end Listing

namespace Cache

open Procedure
open Index (Write Fits lastNamed)

variable {ρ α : Type} {p : CachePolicy} {remote : Catalog ρ} {w : State ρ} {s : Scope}

/-! ### Procedures -/

/-- The state after the clock has been read. -/
def State.tick (w : State ρ) : State ρ := { w with clock := w.clock.tick }

/-- The state after the remote has listed a set to the end. -/
def State.listed (w : State ρ) (remote : Catalog ρ) (s : Scope) : State ρ :=
  { w with remote := (remote.listing s).left w.remote }

/-- What a procedure gives, the state after it, and what it asks of the remote. -/
def carriedOut (remote : Catalog ρ) (q : Procedure α) (w : State ρ) :
    (α × State ρ) × List Exchange :=
  (q.run (answer remote) w, remoteExchanges (q.trace (answer remote) w))

/-- A request that does not go to the remote leads on from its answer. -/
lemma carriedOut_ask {r : Request} (h : ¬ r.IsRemote) (resume : r.Answer → Procedure α) :
    carriedOut remote (ask r resume) w =
      carriedOut remote (resume (answer remote r w).1) (answer remote r w).2 := by
  rw [carriedOut, run_ask, trace, remoteExchanges, List.filter_cons_of_neg (by simpa using h)]
  rfl

lemma carriedOut_guarded (key : String) (body : Procedure α) :
    carriedOut remote (guarded key body) w = carriedOut remote body w := by
  rw [carriedOut, run_guarded, remoteExchanges_guarded, carriedOut]

lemma carriedOut_stored :
    carriedOut remote (stored s) w = ((indexed (w.repository.query (·.list s)), w), []) := by
  rw [carriedOut, run_stored, trace_stored]
  rfl

/-- A set is judged by its refresh time, at the time that the clock shows then. -/
lemma carriedOut_judge {refreshed : Option Instant}
    (hr : w.repository.query (·.refreshedAt s) = .ok refreshed)
    (next : Freshness → Procedure (Except Catalog.Error α)) :
    carriedOut remote (judge p s next) w =
      carriedOut remote (next (p.freshness refreshed w.clock.now)) w.tick := by
  have hanswer : (answer remote (.refreshedAt s) w).1 = .ok refreshed := hr
  rw [judge, carriedOut_ask (r := .refreshedAt s) not_false, hanswer]
  exact carriedOut_ask (r := .now) not_false _

/-- The state after items have been written to the index, or not, at the time that the clock shows
then. -/
def State.kept (w : State ρ) (items : List s.Item) : State ρ :=
  { w.tick with repository := (w.repository.write (.replace s items w.clock.now)).2 }

/-- Items that are written to the index are the result, unless the write fails. -/
lemma carriedOut_keep (items : List s.Item) :
    carriedOut remote (keep s items) w =
      ((indexed ((w.repository.write (.replace s items w.clock.now)).1.map fun _ => items),
        w.kept items), []) := by
  have hnow : answer remote .now w = (w.clock.now, w.tick) := rfl
  have hanswer : answer remote (.replace s items w.clock.now) w.tick =
      ((w.repository.write (.replace s items w.clock.now)).1, w.kept items) := rfl
  rw [keep, carriedOut_ask (r := .now) not_false, hnow,
    carriedOut_ask (r := .replace s items w.clock.now) not_false, hanswer]
  cases (w.repository.write (.replace s items w.clock.now)).1 <;> rfl

/-- A request for a set is the one that goes to the remote. -/
lemma carriedOut_fetchSet {given : Except Catalog.Error (List s.Item)}
    (hgiven : ((remote.listing s).collect w.remote).1.map (·.2) = given)
    (resume : Except Catalog.Error (List s.Item) → Procedure α) :
    carriedOut remote (ask (.fetchSet s) resume) w =
      ((carriedOut remote (resume given) (w.listed remote s)).1,
        ⟨.fetchSet s, given⟩ :: (carriedOut remote (resume given) (w.listed remote s)).2) := by
  have hanswer : answer remote (.fetchSet s) w = (given, w.listed remote s) := by
    rw [← hgiven, State.listed, ← Listing.snd_collect]
    rfl
  rw [carriedOut, run_ask, trace, hanswer]
  rfl

lemma carriedOut_refresh_of_complete (h : (remote.listing s).ending w.remote = .complete)
    (freshness : Freshness) :
    let items := (remote.listing s).items w.remote
    carriedOut remote (refresh p s freshness) w =
      ((indexed ((w.repository.write (.replace s items w.clock.now)).1.map fun _ => items),
        (w.listed remote s).kept items), [⟨.fetchSet s, .ok items⟩]) := by
  intro items
  have hgiven : ((remote.listing s).collect w.remote).1.map (·.2) = .ok items :=
    congrArg (Except.map (·.2)) (Listing.collect_of_complete h)
  rw [refresh, carriedOut_fetchSet hgiven, carriedOut_keep]
  rfl

lemma carriedOut_refresh_of_failed {cause : Catalog.Error}
    (h : (remote.listing s).ending w.remote = .failed cause) (freshness : Freshness) :
    carriedOut remote (refresh p s freshness) w =
      ((if freshness = .stale ∧ p.serveStale = true then indexed (w.repository.query (·.list s))
          else .error cause, w.listed remote s), [⟨.fetchSet s, .error cause⟩]) := by
  have hgiven : ((remote.listing s).collect w.remote).1.map (·.2) = .error cause :=
    congrArg (Except.map (·.2)) (Listing.collect_of_failed h)
  rw [refresh, carriedOut_fetchSet hgiven]
  by_cases hs : freshness = .stale ∧ p.serveStale = true
  · simp only [if_pos hs, carriedOut_stored]
    rfl
  · simp only [if_neg hs]
    rfl

/-! ### Reading a set -/

/-- A set is read by what it is found to be, at once and then under its lock. -/
lemma carriedOut_readSet {refreshed : Option Instant}
    (hr : w.repository.query (·.refreshedAt s) = .ok refreshed) :
    carriedOut remote (readSet p s) w =
      if p.freshness refreshed w.clock.now = .fresh then carriedOut remote (stored s) w.tick
      else if p.freshness refreshed w.clock.tick.now = .fresh then
        carriedOut remote (stored s) w.tick.tick
      else carriedOut remote (refresh p s (p.freshness refreshed w.clock.tick.now))
        w.tick.tick := by
  have hlocked : carriedOut remote (guarded s.key (reread p s)) w.tick =
      if p.freshness refreshed w.clock.tick.now = .fresh then
        carriedOut remote (stored s) w.tick.tick
      else carriedOut remote (refresh p s (p.freshness refreshed w.clock.tick.now))
        w.tick.tick := by
    rw [carriedOut_guarded, reread, carriedOut_judge (w := w.tick) hr,
      show w.tick.clock = w.clock.tick from rfl]
    cases p.freshness refreshed w.clock.tick.now <;> rfl
  rw [readSet, carriedOut_judge hr, ← hlocked]
  cases p.freshness refreshed w.clock.now <;> rfl

section Shown

variable {items : List s.Item} {cause : Catalog.Error} {reached : State ρ}

lemma take_of_run_ok (h : (readSet p s).run (answer remote) w = (.ok items, reached)) :
    ((catalog p remote).listing s).take none w =
      (.hint items.length :: items.map .item, .complete, reached) := by
  rw [← Listing.take_append reached]
  simp only [catalog, Listing.take, h]
  rfl

lemma take_of_run_error (h : (readSet p s).run (answer remote) w = (.error cause, reached)) :
    ((catalog p remote).listing s).take none w = ([], .failed cause, reached) := by
  simp only [catalog, Listing.take, h]

lemma delivers_of_run (h : (readSet p s).run (answer remote) w = (.ok items, reached)) :
    ((catalog p remote).listing s).Delivers w items :=
  ⟨congrArg (·.1) (take_of_run_ok h), congrArg (·.2.1) (take_of_run_ok h)⟩

lemma refuses_of_run (h : (readSet p s).run (answer remote) w = (.error cause, reached)) :
    ((catalog p remote).listing s).Refuses w cause :=
  ⟨congrArg (·.1) (take_of_run_error h), congrArg (·.2.1) (take_of_run_error h)⟩

lemma left_of_run {result : Except Catalog.Error (List s.Item)}
    (h : (readSet p s).run (answer remote) w = (result, reached)) :
    ((catalog p remote).listing s).left w = reached := by
  cases result with
  | ok items => exact congrArg (·.2.2) (take_of_run_ok h)
  | error cause => exact congrArg (·.2.2) (take_of_run_error h)

end Shown

section Outcome

variable (p remote w s)

/-- Whether a set is found to be fresh before the remote is asked: at once, or when it is judged
once more under its lock. -/
def State.FindsFresh : Prop := w.IsFresh p s ∨ w.tick.IsFresh p s

/-- What reading a set comes to that is served from the index alone. -/
structure Serves (known : List s.Item) : Prop where
  delivers : ((catalog p remote).listing s).Delivers w known
  asked_eq : remoteExchanges ((readSet p s).trace (answer remote) w) = []
  repository_eq : (((catalog p remote).listing s).left w).repository = w.repository
  store_eq : (((catalog p remote).listing s).left w).store = w.store
  remote_eq : (((catalog p remote).listing s).left w).remote = w.remote

/-- What reading a set comes to that is not fresh, with its last refresh and what is known of it. -/
structure Refreshes (refreshed : Option Instant) (known : List s.Item) : Prop where
  asked_eq : (remoteExchanges ((readSet p s).trace (answer remote) w)).map (·.request) =
    [.fetchSet s]
  remote_eq : (((catalog p remote).listing s).left w).remote = (remote.listing s).left w.remote
  store_eq : (((catalog p remote).listing s).left w).store = w.store
  /-- A complete answer takes the place of the set and is delivered. -/
  replaced : (remote.listing s).ending w.remote = .complete →
    let items := (remote.listing s).items w.remote
    let time := w.clock.tick.tick.now
    let reached := ((catalog p remote).listing s).left w
    (∀ t ∈ (Write.replace s items time).tracks, t.size.toNat < 0x8000000000000000) →
    ((catalog p remote).listing s).Delivers w items ∧
    (∃ index, w.repository.index.replace s items time = .ok index ∧
      reached.repository = { w.repository with index }) ∧
    reached.repository.query (·.list s) = .ok (items.map (lastNamed s items)) ∧
    reached.repository.query (·.refreshedAt s) = .ok (some (.ofSeconds time.seconds))
  /-- An answer that cannot be stored is not delivered either. -/
  unstorable : (remote.listing s).ending w.remote = .complete →
    let items := (remote.listing s).items w.remote
    (∃ t ∈ (Write.replace s items w.clock.tick.tick.now).tracks,
      0x8000000000000000 ≤ t.size.toNat) →
    ((catalog p remote).listing s).Refuses w (.index (some (.invalidData "track size"))) ∧
    (((catalog p remote).listing s).left w).repository = w.repository
  /-- Nothing is left of an answer that is not complete. -/
  failed : ∀ cause, (remote.listing s).ending w.remote = .failed cause →
    (refreshed.isSome ∧ p.serveStale → ((catalog p remote).listing s).Delivers w known) ∧
    (¬ (refreshed.isSome ∧ p.serveStale) → ((catalog p remote).listing s).Refuses w cause) ∧
    (((catalog p remote).listing s).left w).repository = w.repository

end Outcome

variable {refreshed : Option Instant} {known : List s.Item}

lemma findsFresh_iff (hr : w.repository.query (·.refreshedAt s) = .ok refreshed) :
    w.FindsFresh p s ↔ p.freshness refreshed w.clock.now = .fresh ∨
      p.freshness refreshed w.clock.tick.now = .fresh := by
  have hlook (w' : State ρ) (hw' : w'.repository = w.repository) :
      w'.IsFresh p s ↔ p.freshness refreshed w'.clock.now = .fresh := by
    rw [State.IsFresh, hw', hr]
    constructor
    · rintro ⟨found, hfound, hf⟩
      rwa [Except.ok.inj hfound]
    · exact fun hf => ⟨refreshed, rfl, hf⟩
  rw [State.FindsFresh, hlook w rfl, hlook w.tick rfl]
  rfl

/-- A set that is fresh now was so before, unless the clock has gone back. -/
lemma isFresh_of_findsFresh (hc : w.clock.IsSteady) (h : w.FindsFresh p s) : w.IsFresh p s := by
  obtain h | ⟨refreshed, hr, hf⟩ := h
  · exact h
  · refine ⟨refreshed, hr, ?_⟩
    cases refreshed with
    | none => contradiction
    | some time =>
      have hearlier : w.clock.now.nanos ≤ w.clock.tick.now.nanos := hc _ _ (Nat.le_succ _)
      have hage : w.clock.tick.now.nanos - time.nanos < p.lifetime := freshness_eq_fresh_iff.mp hf
      exact freshness_eq_fresh_iff.mpr (by omega)

/-- A set that is fresh is served from the index, and nothing is changed. -/
lemma serves_of_findsFresh (hr : w.repository.query (·.refreshedAt s) = .ok refreshed)
    (hl : w.repository.query (·.list s) = .ok known) (h : w.FindsFresh p s) :
    Serves p remote w s known := by
  obtain ⟨w', hw', hcarried⟩ : ∃ w', (w' = w.tick ∨ w' = w.tick.tick) ∧
      carriedOut remote (readSet p s) w = ((.ok known, w'), []) := by
    rw [carriedOut_readSet hr]
    have hstored (w' : State ρ) (hw' : w'.repository = w.repository) :
        carriedOut remote (stored s) w' = ((.ok known, w'), []) := by
      rw [carriedOut_stored, hw', hl]
      rfl
    by_cases hf : p.freshness refreshed w.clock.now = .fresh
    · exact ⟨_, .inl rfl, by rw [if_pos hf, hstored w.tick rfl]⟩
    · have hsecond := ((findsFresh_iff hr).mp h).resolve_left hf
      exact ⟨_, .inr rfl, by rw [if_neg hf, if_pos hsecond, hstored w.tick.tick rfl]⟩
  have hleft := left_of_run (congrArg Prod.fst hcarried)
  constructor
  · exact delivers_of_run (congrArg Prod.fst hcarried)
  · exact congrArg Prod.snd hcarried
  all_goals
    rw [hleft]
    obtain rfl | rfl := hw' <;> rfl

/-! ### Sets that are not fresh -/

section NotFresh

variable (hr : w.repository.query (·.refreshedAt s) = .ok refreshed) (h : ¬ w.FindsFresh p s)

include hr h

lemma carriedOut_of_not_findsFresh : carriedOut remote (readSet p s) w =
    carriedOut remote (refresh p s (p.freshness refreshed w.clock.tick.now)) w.tick.tick := by
  rw [findsFresh_iff hr, not_or] at h
  rw [carriedOut_readSet hr, if_neg h.1, if_neg h.2]

lemma freshness_eq_stale_iff :
    p.freshness refreshed w.clock.tick.now = .stale ↔ refreshed.isSome = true := by
  rw [findsFresh_iff hr, not_or] at h
  cases refreshed with
  | none => exact iff_of_false nofun nofun
  | some time =>
    refine iff_of_true ?_ rfl
    have hlate := h.2
    rw [freshness_eq_fresh_iff] at hlate
    exact if_neg hlate

/-- What comes of a complete answer: it is written to the index, or cannot be. -/
lemma carriedOut_of_complete (hend : (remote.listing s).ending w.remote = .complete)
    {items : List s.Item} (hitems : (remote.listing s).items w.remote = items)
    {given : Except Index.Error Unit}
    (hgiven : (w.repository.write (.replace s items w.clock.tick.tick.now)).1 = given) :
    carriedOut remote (readSet p s) w = ((indexed (given.map fun _ => items),
      (w.tick.tick.listed remote s).kept items), [⟨.fetchSet s, .ok items⟩]) := by
  subst hitems hgiven
  rw [carriedOut_of_not_findsFresh hr h]
  exact carriedOut_refresh_of_complete (w := w.tick.tick) hend _

/-- What comes of an answer that breaks off: the set that is known, or the failure. -/
lemma carriedOut_of_failed {cause : Catalog.Error}
    (hl : w.repository.query (·.list s) = .ok known)
    (hend : (remote.listing s).ending w.remote = .failed cause) :
    carriedOut remote (readSet p s) w =
      ((if refreshed.isSome = true ∧ p.serveStale = true then .ok known else .error cause,
        w.tick.tick.listed remote s), [⟨.fetchSet s, .error cause⟩]) := by
  have hknown : w.tick.tick.repository.query (·.list s) = .ok known := hl
  rw [carriedOut_of_not_findsFresh hr h, carriedOut_refresh_of_failed (w := w.tick.tick) hend,
    hknown]
  simp only [freshness_eq_stale_iff hr h]
  rfl

end NotFresh

/-- The times in a new repository after some writes can be read if they are of the calendar. -/
lemma exists_refreshedAt_after_new (isPersistent : Bool) {calls : List Write}
    (hc : ∀ s items time, Write.replace s items time ∈ calls →
      Instant.firstSecond ≤ time.seconds ∧ time.seconds ≤ Instant.lastSecond) (s : Scope) :
    ∃ refreshed, ((Repository.new isPersistent).after calls).query (·.refreshedAt s) =
      .ok refreshed := by
  rw [Repository.query_after_new]
  exact ⟨_, Index.refreshedAt_ofWrites fun items time hm =>
    hc s items time (Repository.mem_of_mem_log hm)⟩

/-- A set that has been written lists what was written and has been refreshed at that time. -/
lemma query_write_replace (isPersistent : Bool) (calls : List Write) {items : List s.Item}
    {time : Instant}
    (htime : Instant.firstSecond ≤ time.seconds ∧ time.seconds ≤ Instant.lastSecond)
    (hf : ∀ t ∈ (Write.replace s items time).tracks, Fits t) :
    let reached := (((Repository.new isPersistent).after calls).write (.replace s items time)).2
    reached.query (·.list s) = .ok (items.map (lastNamed s items)) ∧
      reached.query (·.refreshedAt s) = .ok (some (.ofSeconds time.seconds)) := by
  intro reached
  have hindex : reached.isOpen = true ∧ reached.index =
      Index.ofWrites ((Repository.new isPersistent).log calls ++ [.replace s items time]) := by
    have hopen := Repository.isOpen_after_new isPersistent calls
    rw [show reached = _ from congrArg Prod.snd (Repository.write_eq hopen _), if_pos hf,
      Index.ofWrites_concat, Repository.after_new]
    exact ⟨rfl, rfl⟩
  have hget : reached.index.refreshes.get? s.key = some time.seconds := by
    rw [hindex.2, Index.ofWrites_concat]
    exact Index.Table.get?_put_self _ _ _
  rw [Repository.query, if_pos hindex.1, Repository.query, if_pos hindex.1]
  constructor
  · rw [hindex.2, Index.list_replaced]
  · simp only [Index.refreshedAt, hget, Instant.ofSeconds?, if_pos htime]

/-- A set that is not fresh is refreshed as a whole, or stays as it is. -/
lemma refreshes_of_not_findsFresh {isPersistent : Bool} {calls : List Write}
    (hw : w.repository = (Repository.new isPersistent).after calls) (hc : w.clock.IsCalendar)
    (hr : w.repository.query (·.refreshedAt s) = .ok refreshed)
    (hl : w.repository.query (·.list s) = .ok known) (h : ¬ w.FindsFresh p s) :
    Refreshes p remote w s refreshed known := by
  have hopen : w.repository.isOpen = true := by
    rw [hw]
    exact Repository.isOpen_after_new isPersistent calls
  obtain ⟨result, reached, given, hcarried, hremote, hstore⟩ :
      ∃ result reached given, carriedOut remote (readSet p s) w =
        ((result, reached), [⟨.fetchSet s, given⟩]) ∧
        reached.remote = (remote.listing s).left w.remote ∧ reached.store = w.store := by
    obtain hend | ⟨cause, hend⟩ := (remote.listing s).ending_eq w.remote
    · exact ⟨_, _, _, carriedOut_of_complete hr h hend rfl rfl, rfl, rfl⟩
    · exact ⟨_, _, _, carriedOut_of_failed hr h hl hend, rfl, rfl⟩
  have hleft : ((catalog p remote).listing s).left w = reached :=
    left_of_run (congrArg Prod.fst hcarried)
  constructor
  case asked_eq =>
    rw [show remoteExchanges ((readSet p s).trace (answer remote) w) = _ from
      congrArg Prod.snd hcarried]
    rfl
  case remote_eq => rw [hleft, hremote]
  case store_eq => rw [hleft, hstore]
  case replaced =>
    intro hend items time reached hfits
    have hfits : ∀ t ∈ (Write.replace s items time).tracks, Fits t := hfits
    have hwrite := Repository.write_eq hopen (.replace s items time)
    rw [if_pos hfits] at hwrite
    have hstored := carriedOut_of_complete hr h hend rfl (congrArg Prod.fst hwrite)
    have hrepository : reached.repository = (w.repository.write (.replace s items time)).2 :=
      congrArg State.repository (left_of_run (congrArg Prod.fst hstored))
    refine ⟨delivers_of_run (congrArg Prod.fst hstored), ?_, ?_⟩
    · refine ⟨(Write.replace s items time).apply w.repository.index, ?_, ?_⟩
      · exact ((Write.replace s items time).run_eq _).trans (if_pos hfits)
      · rw [hrepository, hwrite]
    · rw [hrepository, hw]
      exact query_write_replace isPersistent calls (hc _) hfits
  case unstorable =>
    rintro hend items ⟨t, ht, hsize⟩
    have hfits : ¬ ∀ t ∈ (Write.replace s items w.clock.tick.tick.now).tracks, Fits t := by
      intro hall
      have hlt := Index.fits_iff.mp (hall t ht)
      omega
    have hwrite := Repository.write_eq hopen (.replace s items w.clock.tick.tick.now)
    rw [if_neg hfits] at hwrite
    have hrefused := carriedOut_of_complete hr h hend rfl (congrArg Prod.fst hwrite)
    have hkept := congrArg State.repository (left_of_run (congrArg Prod.fst hrefused))
    exact ⟨refuses_of_run (congrArg Prod.fst hrefused), hkept.trans (congrArg Prod.snd hwrite)⟩
  case failed =>
    intro cause hend
    have hbroken := carriedOut_of_failed hr h hl hend
    have hkept := congrArg State.repository (left_of_run (congrArg Prod.fst hbroken))
    by_cases hserves : refreshed.isSome = true ∧ p.serveStale = true
    · rw [if_pos hserves] at hbroken
      exact ⟨fun _ => delivers_of_run (congrArg Prod.fst hbroken),
        fun hn => absurd hserves hn, hkept⟩
    · rw [if_neg hserves] at hbroken
      exact ⟨fun hp => absurd hp hserves,
        fun _ => refuses_of_run (congrArg Prod.fst hbroken), hkept⟩

/-- In every reachable state, whatever the policy, the clock and the remote: a set that is fresh is
served from the index, without asking the remote and without a change; any other set is asked of the
remote, once, and what comes of it is settled by how the answer ends and whether it can be stored.
As long as the clock does not go back, the set is found to be fresh if it is so at once. -/
theorem refresh_is_atomic {isPersistent : Bool} {calls : List Write}
    (hw : w.repository = (Repository.new isPersistent).after calls)
    (hc : ∀ s items time, Write.replace s items time ∈ calls →
      Instant.firstSecond ≤ time.seconds ∧ time.seconds ≤ Instant.lastSecond)
    (hclock : w.clock.IsCalendar) (p : CachePolicy) (remote : Catalog ρ) (s : Scope) :
    ∃ refreshed known, w.repository.query (·.refreshedAt s) = .ok refreshed ∧
      w.repository.query (·.list s) = .ok known ∧
      (w.FindsFresh p s → Serves p remote w s known) ∧
      (¬ w.FindsFresh p s → Refreshes p remote w s refreshed known) ∧
      (w.clock.IsSteady → (w.FindsFresh p s ↔ w.IsFresh p s)) := by
  obtain ⟨refreshed, hr⟩ := exists_refreshedAt_after_new isPersistent hc s
  obtain ⟨known, hlist, -⟩ := Index.list_ofWrites ((Repository.new isPersistent).log calls) s
  have hl := (Repository.query_after_new isPersistent calls (·.list s)).trans hlist
  rw [← hw] at hr hl
  exact ⟨refreshed, known, hr, hl, serves_of_findsFresh hr hl,
    refreshes_of_not_findsFresh hw hclock hr hl,
    fun hsteady => ⟨isFresh_of_findsFresh hsteady, .inl⟩⟩

/-- A cache whose only set has expired, over a remote that breaks off after one item. -/
def expiredSet : State Nat where
  repository := (Repository.new false).after
    [.replace (.tracks .authors 1) [.ofPath "/pub/one.mod" 8] (.ofSeconds 1700000000)]
  remote := 0
  clock := Instant.ofSeconds 1750000000

/-- A set that has expired is served although an item of another answer has arrived. -/
theorem refresh_is_atomic_expiredSet :
    let s : Scope := .tracks .authors 1
    let remote := unreliable smallDataset fun _ => some 1
    let reached := ((catalog {} remote).listing s).left expiredSet
    (remote.listing s).items expiredSet.remote = [.ofPath "/pub/one.mod" 10] ∧
      (remote.listing s).ending expiredSet.remote = .failed .unavailable ∧
      ((catalog {} remote).listing s).Delivers expiredSet [.ofPath "/pub/one.mod" 8] ∧
      reached.repository = expiredSet.repository ∧ reached.remote = 1 := by
  intro s remote reached
  have hc : ∀ s items time, Write.replace s items time ∈
      [Write.replace (.tracks .authors 1) [.ofPath "/pub/one.mod" 8] (.ofSeconds 1700000000)] →
      Instant.firstSecond ≤ time.seconds ∧ time.seconds ≤ Instant.lastSecond := by
    intro s items time hm
    simp only [List.mem_singleton, Write.replace.injEq] at hm
    obtain ⟨-, -, rfl⟩ := hm
    decide
  have hclock : expiredSet.clock.IsCalendar := by
    have hseconds : Instant.firstSecond ≤ (Instant.ofSeconds 1750000000).seconds ∧
        (Instant.ofSeconds 1750000000).seconds ≤ Instant.lastSecond := by decide
    exact fun _ => hseconds
  have hw : expiredSet.repository = (Repository.new false).after
      [.replace s [.ofPath "/pub/one.mod" 8] (.ofSeconds 1700000000)] := rfl
  obtain ⟨refreshed, known, hr, hl, -, hrefreshes, -⟩ :=
    refresh_is_atomic hw hc hclock {} remote s
  have hquery := query_write_replace (s := s) false [] (hc _ _ _ (List.mem_singleton.mpr rfl))
    (show ∀ t ∈ [Track.ofPath "/pub/one.mod" 8], Fits t by decide)
  obtain rfl : known = [.ofPath "/pub/one.mod" 8] := by
    have hlisted := hl.symm.trans hquery.1
    exact (Except.ok.inj hlisted).trans (by decide)
  obtain rfl : refreshed = some (.ofSeconds 1700000000) :=
    Except.ok.inj (hr.symm.trans hquery.2)
  have hexpired : ¬ expiredSet.FindsFresh {} s := by
    rw [findsFresh_iff hr]
    decide
  have hending : (remote.listing s).ending expiredSet.remote = .failed .unavailable := rfl
  have h := hrefreshes hexpired
  obtain ⟨hserved, -, hkept⟩ := h.failed _ hending
  exact ⟨rfl, hending, hserved ⟨rfl, rfl⟩, hkept, h.remote_eq⟩

end Cache

end ModuleArchive
