import ModuleArchive.Catalog.Memory
import ModuleArchive.Proofs.Cache.Run

/-!
# Listings are never torn

A listing that is delivered is a complete answer of the remote: the one given to this very call,
or else the one that was stored last, behind which tracks that have been looked up since may
stand. The time that is kept with a set stays that of the answer that was stored, so a set that
is served without asking the remote is younger than the time to live.
-/
namespace ModuleArchive

/-- Whether a clock never goes back. -/
def Clock.IsSteady (c : Clock) : Prop :=
  ∀ m n, m ≤ n → (c.reading m).nanos ≤ (c.reading n).nanos

namespace Cache

open Procedure
open Index (Write ofWrites StoredLast extend)

variable {ρ : Type} {p : CachePolicy} {remote : Catalog ρ} {w : State ρ}

/-- Whether a listing names what a stored answer does, followed, in a group, by the tracks that
were recorded since and are not in it already. -/
def Continues : (s : Scope) → (stored : List s.Item) → (since : List Write) →
    (listed : List s.Item) → Prop
  | .bucket _ _, stored, _, listed => listed.map Group.id = stored.map Group.id
  | .tracks g id, stored, since, listed =>
    listed.map Track.path =
      extend (stored.map Track.path) (since.filterMap (Write.added (.tracks g id)))

/-- Whether a request is answered by the remote. -/
def Request.IsRemote : Request → Prop
  | .fetchSet _ | .fetchGroup _ _ | .fetchTrack _ _ _ | .fetchContent _ => True
  | _ => False

lemma continues_of_names {s : Scope} {stored listed : List s.Item} {since : List Write}
    (h : listed.map (Index.nameOf s) =
      extend (stored.map (Index.nameOf s)) (since.filterMap (Write.added s))) :
    Continues s stored since listed := by
  cases s with
  | bucket g b =>
    rw [Index.added_bucket, Index.extend_nil] at h
    apply Index.map_id_eq_of_names
    rw [List.map_map]
    exact h
  | tracks g id => exact h

/-- A set whose refresh time is found has been stored, and is listed as it was stored last. -/
lemma exists_stored {ws : List Write} {s : Scope} {refreshed : Instant} {items : List s.Item}
    (hr : .ok (some refreshed) = (ofWrites ws).refreshedAt s)
    (hl : .ok items = (ofWrites ws).list s) :
    ∃ stored time since, StoredLast ws s stored time since ∧
      refreshed.nanos = time.seconds * Instant.perSecond ∧ Continues s stored since items := by
  obtain ⟨found, hfound, hnames, -⟩ := Index.list_ofWrites ws s
  obtain rfl : items = found := Except.ok.inj (hl.trans hfound)
  obtain ⟨seconds, hseconds, rfl⟩ := Index.refreshedAt_eq_ok_some hr.symm
  rcases Index.keeps_or_storedLast s ws with hk | ⟨stored, time, since, hs⟩
  · rw [hk.refreshes_eq] at hseconds
    contradiction
  · rw [hs.refreshes_eq, Option.some_inj] at hseconds
    exact ⟨stored, time, since, hs, by rw [hseconds, Instant.ofSeconds, Int.add_zero],
      continues_of_names (hnames.trans hs.names_eq)⟩

lemma freshness_eq_fresh_iff {refreshed now : Instant} :
    p.freshness (some refreshed) now = .fresh ↔ now.nanos - refreshed.nanos < p.lifetime := by
  rw [CachePolicy.freshness]
  split
  · next hlt => exact iff_of_true rfl hlt
  · next hlt => exact iff_of_false nofun hlt

/-- A set that is fresh by the second that was kept is younger than the time to live. -/
lemma age_lt {refreshed now time : Instant}
    (ht : refreshed.nanos = time.seconds * Instant.perSecond)
    (hf : p.freshness (some refreshed) now = .fresh) :
    now.nanos - time.nanos < p.lifetime := by
  have hlt : now.nanos - refreshed.nanos < p.lifetime := freshness_eq_fresh_iff.mp hf
  have hle : refreshed.nanos ≤ time.nanos := by
    rw [ht, Instant.seconds]
    exact Int.ediv_mul_le time.nanos (by decide)
  omega

/-- A time that was kept before is not later than one that is read now. -/
lemma time_le {before after : List Exchange} {time now : Instant} (hc : w.clock.IsSteady)
    (h : Happens (answer remote) w (before ++ after)) (ht : ⟨.now, time⟩ ∈ before)
    (hn : ⟨.now, now⟩ ∈ after) : time.nanos ≤ now.nanos := by
  obtain ⟨hb, ha⟩ := happens_append.mp h
  obtain ⟨i, -, hi, rfl⟩ := exists_reading hb ht
  obtain ⟨j, hj, -, rfl⟩ := exists_reading ha hn
  rw [(reading_after remote w before).1]
  exact hc i j (by omega)

lemma indexed_eq_ok {α : Type} {found : Except Index.Error α} {a : α}
    (h : indexed found = .ok a) : found = .ok a := by
  cases found with
  | ok b => exact congrArg _ (Except.ok.inj h)
  | error e => contradiction

/-- How a set is served from the index: its refresh time is found, and nothing is written until
it is listed. -/
structure Served (p : CachePolicy) (s : Scope) (own : List Exchange) (items : List s.Item)
    (before between rest : List Exchange) (refreshed now : Instant) : Prop where
  own_eq : own = before ++ ⟨.refreshedAt s, .ok (some refreshed)⟩ ::
    (⟨.now, now⟩ :: between ++ ⟨.list s, .ok items⟩ :: rest)
  before_eq : writes before = []
  between_eq : writes between = []
  notFetched : ∀ fetched, ⟨.fetchSet s, .ok fetched⟩ ∉ own
  fresh_or_failed : p.freshness (some refreshed) now = .fresh ∨
    ∃ cause, ⟨.fetchSet s, .error cause⟩ ∈ own

lemma Served.locked {s : Scope} {xs : List Exchange} {items : List s.Item}
    {before between rest : List Exchange} {refreshed now : Instant}
    (h : Served p s xs items before between rest refreshed now) (judgedAt : Option Instant)
    (time : Instant) :
    Served p s (judged s judgedAt time ++ ⟨.lock s.key, ()⟩ :: (xs ++ [⟨.unlock s.key, ()⟩])) items
      (judged s judgedAt time ++ ⟨.lock s.key, ()⟩ :: before) between
      (rest ++ [⟨.unlock s.key, ()⟩]) refreshed now where
  own_eq := by simp [h.own_eq]
  before_eq := by
    rw [writes_append]
    exact h.before_eq
  between_eq := h.between_eq
  notFetched := by
    intro fetched hm
    refine h.notFetched fetched ?_
    simpa [judged] using hm
  fresh_or_failed := h.fresh_or_failed.imp_right fun ⟨cause, hm⟩ => ⟨cause, mem_locked hm⟩

lemma fetched_or_served_of_refresh {s : Scope} {own : List Exchange} {items : List s.Item}
    {result : Except Catalog.Error (List s.Item)} (h : SetRefresh p s own result)
    (hresult : result = .ok items) :
    ⟨.fetchSet s, .ok items⟩ ∈ own ∨
      ∃ before between rest refreshed now,
        Served p s own items before between rest refreshed now := by
  cases h with
  | unreadable e => contradiction
  | @fresh refreshed now found hf =>
    obtain rfl := indexed_eq_ok hresult
    obtain _ | refreshed := refreshed
    · contradiction
    · refine .inr ⟨[], [], [], refreshed, now, rfl, rfl, rfl, fun fetched hm => ?_, .inl hf⟩
      simp [judged] at hm
  | fetched fetched time stored hf =>
    obtain rfl : fetched = items := by
      cases stored with
      | ok => exact Except.ok.inj hresult
      | error e => contradiction
    exact .inl (List.mem_append_right _ List.mem_cons_self)
  | @stale refreshed now cause found hf hp =>
    obtain rfl := indexed_eq_ok hresult
    obtain _ | refreshed := refreshed
    · contradiction
    · refine .inr ⟨[], [⟨.fetchSet s, .error cause⟩], [], refreshed, now, rfl, rfl, rfl,
        fun fetched hm => ?_, .inr ⟨cause, List.mem_append_right _ List.mem_cons_self⟩⟩
      simp [judged] at hm
  | failed cause hf hp => contradiction

/-- A set that is read is fetched or served from the index. -/
lemma fetched_or_served {s : Scope} {own : List Exchange} {items : List s.Item}
    {result : Except Catalog.Error (List s.Item)} (h : SetRead p s own result)
    (hresult : result = .ok items) :
    ⟨.fetchSet s, .ok items⟩ ∈ own ∨
      ∃ before between rest refreshed now,
        Served p s own items before between rest refreshed now := by
  cases h with
  | unreadable e => contradiction
  | fresh found hf => exact fetched_or_served_of_refresh (.fresh found hf) hresult
  | locked hf hx =>
    obtain hfetched | ⟨before, between, rest, refreshed, now, hs⟩ :=
      fetched_or_served_of_refresh hx hresult
    · exact .inl (mem_locked hfetched)
    · exact .inr ⟨_, between, _, refreshed, now, hs.locked _ _⟩

/-- The set that was stored last was an answer of the remote, at a time that was read from the
clock. -/
lemma answered_of_storedLast {run : List Attempt} {s : Scope} {stored : List s.Item}
    {time : Instant} {since : List Write}
    (h : StoredLast (writes (history p remote w run)) s stored time since) :
    ⟨.fetchSet s, .ok stored⟩ ∈ history p remote w run ∧
      ⟨.now, time⟩ ∈ history p remote w run := by
  obtain ⟨before, rest, hsplit⟩ := List.append_of_mem (exchangeOf_mem h.replace_mem)
  obtain ⟨a, -, hdue⟩ := isDue_history hsplit
  rw [hsplit]
  exact ⟨List.mem_append_left _ hdue.1, List.mem_append_left _ hdue.2⟩

/-- A set that is served from the index after a run is the one that was stored last. -/
lemma Served.exists_stored {past own before between rest : List Exchange} {s : Scope}
    {items : List s.Item} {refreshed now : Instant} (hw : w.IsNew)
    (hs : Served p s own items before between rest refreshed now)
    (h : Happens (answer remote) w (past ++ own)) :
    .ok items = (ofWrites (writes past)).list s ∧
      ∃ stored time since, StoredLast (writes past) s stored time since ∧
        refreshed.nanos = time.seconds * Instant.perSecond ∧ Continues s stored since items := by
  rw [hs.own_eq, ← List.append_assoc] at h
  have hr := hw.refreshedAt_eq h
  rw [List.append_cons, ← List.append_assoc] at h
  have hl := hw.list_eq h
  have hwrites : writes (past ++ before ++ [⟨.refreshedAt s, .ok (some refreshed)⟩] ++
      ⟨.now, now⟩ :: between) = writes past := by
    have hbetween : writes (⟨.now, now⟩ :: between) = writes between := rfl
    rw [writes_append, writes_append, writes_append, hbetween, hs.before_eq, hs.between_eq]
    simp [writes, Exchange.write?]
  rw [writes_append, hs.before_eq, List.append_nil] at hr
  rw [hwrites] at hl
  exact ⟨hl, Cache.exists_stored hr hl⟩

/-- Where the items of a listing come from, given the exchanges before the call and those of the
call itself: they are the complete answer of the remote to the call, if there is one; else they
are named as in the answer that was stored last, which was a complete answer of the remote. If
the remote was not asked, that answer was stored less than the time to live before the clock was
read. -/
def IsUntorn (p : CachePolicy) (past own : List Exchange) (s : Scope) (items : List s.Item) :
    Prop :=
  ⟨.fetchSet s, .ok items⟩ ∈ own ∨
    (∀ fetched, ⟨.fetchSet s, .ok fetched⟩ ∉ own) ∧
    ∃ stored time since, StoredLast (writes past) s stored time since ∧
      ⟨.fetchSet s, .ok stored⟩ ∈ past ∧ Continues s stored since items ∧
      ((∀ x ∈ own, ¬ x.request.IsRemote) → ∃ now, ⟨.now, now⟩ ∈ own ∧
        time.nanos ≤ now.nanos ∧ now.nanos - time.nanos < p.lifetime)

/-- In every run of calls, carried out or cut off, over a remote that answers and fails as it
likes, no listing that is delivered is torn. -/
theorem listing_untorn (hw : w.IsNew) (hc : w.clock.IsSteady) (run : List Attempt) (s : Scope)
    (hint : Option Nat) (items : List s.Item) :
    let past := history p remote w run
    let reached := after (answer remote) w past
    let own := (readSet p s).trace (answer remote) reached
    (((catalog p remote).listing s).collect reached).1 = .ok (hint, items) →
    IsUntorn p past own s items := by
  intro past reached own h
  have hread : SetRead p s own (.ok items) := by
    have hleads := leads_trace (answer remote) (readSet p s) reached
    rw [collect_listing] at h
    cases hr : ((readSet p s).run (answer remote) reached).1 with
    | ok found =>
      rw [hr] at h hleads
      obtain ⟨-, rfl⟩ := Prod.mk.inj (Except.ok.inj h)
      exact setRead_of_leads hleads
    | error cause =>
      rw [hr] at h
      contradiction
  have hhappens : Happens (answer remote) w (past ++ own) :=
    happens_append.mpr ⟨happens_history run, happens_trace _ _ _⟩
  obtain hf | ⟨before, between, rest, refreshed, now, hs⟩ := fetched_or_served hread rfl
  · exact .inl hf
  · obtain ⟨-, stored, time, since, hlast, ht, hcont⟩ := hs.exists_stored hw hhappens
    obtain ⟨hanswered, htime⟩ := answered_of_storedLast hlast
    refine .inr ⟨hs.notFetched, stored, time, since, hlast, hanswered, hcont, fun hquiet => ?_⟩
    have hnow : ⟨.now, now⟩ ∈ own := by
      rw [hs.own_eq]
      exact List.mem_append_right _ (List.mem_cons_of_mem _ List.mem_cons_self)
    refine ⟨now, hnow, time_le hc hhappens htime hnow, age_lt ht ?_⟩
    obtain hf | ⟨cause, hm⟩ := hs.fresh_or_failed
    · exact hf
    · exact absurd trivial (hquiet _ hm)

/-- A new cache over an archive in memory with one group of two tracks. -/
def smallArchive : State MemoryCatalog where
  remote :=
    { groups := [(.authors, ⟨1, "Beispiel", 2⟩)]
      tracks := [((.authors, 1), [.ofPath "/pub/one.mod" 10, .ofPath "/pub/two.mod" 20])] }
  clock := Instant.ofSeconds 1750000000

/-- The second time that the tracks of a group are listed, after a lookup that was cut off. -/
theorem listing_untorn_smallArchive :
    let s : Scope := .tracks .authors 1
    let remote := MemoryCatalog.catalog
    let past := history {} remote smallArchive [⟨.set s, none⟩, ⟨.track .authors 1 "x", some 1⟩]
    let reached := after (answer remote) smallArchive past
    (((catalog {} remote).listing s).collect reached).1 =
        .ok (some 2, [.ofPath "/pub/one.mod" 10, .ofPath "/pub/two.mod" 20]) ∧
      IsUntorn {} past ((readSet {} s).trace (answer remote) reached) s
        [.ofPath "/pub/one.mod" 10, .ofPath "/pub/two.mod" 20] := by
  intro s remote past reached
  have hlisted : (((catalog {} remote).listing s).collect reached).1 =
      .ok (some 2, [.ofPath "/pub/one.mod" 10, .ofPath "/pub/two.mod" 20]) := by
    have hrows : reached.repository.index.groupTracks.ofOwner (.authors, 1) =
        Index.Members.number (.authors, 1) 0 ["/pub/one.mod", "/pub/two.mod"] := by
      decide +kernel
    have hrefreshed : reached.repository.query (·.refreshedAt s) =
        .ok (some (.ofSeconds 1750000000)) := by decide +kernel
    have hstored : reached.repository.query (·.list s) =
        .ok [.ofPath "/pub/one.mod" 10, .ofPath "/pub/two.mod" 20] := by
      rw [Repository.query, if_pos (by decide +kernel)]
      change Index.listTracks _ _ _ = _
      rw [Index.listTracks, Index.trackRecords, Index.Members.list_of_ofOwner hrows]
      decide +kernel
    rw [collect_listing, run_readSet_of_fresh hrefreshed (by decide +kernel) hstored]
    rfl
  exact ⟨hlisted, listing_untorn ⟨rfl, rfl⟩ (fun _ _ _ => Int.le_refl _) _ s _ _ hlisted⟩

end Cache

end ModuleArchive
