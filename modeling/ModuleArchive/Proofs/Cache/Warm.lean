import ModuleArchive.Proofs.Cache.Untorn
import ModuleArchive.Proofs.Index.Run

/-!
# Cold and warm reads

A set that is not fresh is fetched, stored and delivered as it was fetched. As long as it stays
fresh, it is then delivered from the index, which keeps one record of each group and of each
track. So a set is read again as it was fetched, entry by entry, where the fetched set says the
same of an entry that it repeats; else the last of the repeated entries stands for all of them.
-/
namespace ModuleArchive

namespace Index

/-! ### Repeated entries -/

section Repeated

variable {s : Scope} {ws : List Write} {items : List s.Item} {time : Instant}

/-- The last of some items with the name of a given one. -/
def lastNamed (s : Scope) (items : List s.Item) (item : s.Item) : s.Item :=
  (items.reverse.find? (nameOf s · = nameOf s item)).getD item

/-- The items with one name agree. -/
def AgreesOnNames (s : Scope) (items : List s.Item) : Prop :=
  ∀ a ∈ items, ∀ b ∈ items, nameOf s a = nameOf s b → a = b

instance : (s : Scope) → DecidableEq s.Item
  | .bucket _ _ => inferInstanceAs (DecidableEq Group)
  | .tracks _ _ => inferInstanceAs (DecidableEq Track)

instance : Decidable (AgreesOnNames s items) :=
  inferInstanceAs (Decidable (∀ a ∈ items, ∀ b ∈ items, nameOf s a = nameOf s b → a = b))

lemma exists_lastNamed {name : Name s} (h : name ∈ items.map (nameOf s)) :
    ∃ last, items.reverse.find? (nameOf s · = name) = some last := by
  obtain ⟨item, hm, hname⟩ := List.mem_map.mp h
  rw [← Option.isSome_iff_exists, List.find?_isSome]
  exact ⟨item, List.mem_reverse.mpr hm, by simpa using hname⟩

lemma lastNamed_mem {item : s.Item} (h : item ∈ items) :
    lastNamed s items item ∈ items ∧ nameOf s (lastNamed s items item) = nameOf s item := by
  obtain ⟨last, hlast⟩ := exists_lastNamed (List.mem_map_of_mem h)
  rw [lastNamed, hlast, Option.getD_some]
  constructor
  · exact List.mem_reverse.mp (List.mem_of_find?_eq_some hlast)
  · simpa using List.find?_some hlast

lemma map_nameOf_lastNamed :
    (items.map (lastNamed s items)).map (nameOf s) = items.map (nameOf s) := by
  rw [List.map_map]
  exact List.map_congr_left fun item hm => (lastNamed_mem hm).2

/-- Taking the last entry for all entries with its name changes nothing if they agree, and only
then. -/
lemma map_lastNamed_eq_iff : items.map (lastNamed s items) = items ↔ AgreesOnNames s items := by
  constructor
  · intro h a ha b hb hname
    have hself := List.map_inj_left.mp (h.trans (List.map_id items).symm)
    have heq : lastNamed s items a = lastNamed s items b := by
      obtain ⟨last, hlast⟩ := exists_lastNamed (List.mem_map_of_mem ha)
      rw [lastNamed, lastNamed, ← hname, hlast, Option.getD_some, Option.getD_some]
    calc a = lastNamed s items a := (hself a ha).symm
      _ = lastNamed s items b := heq
      _ = b := hself b hb
  · intro h
    refine (List.map_congr_left fun a ha => ?_).trans (List.map_id items)
    obtain ⟨hm, hname⟩ := lastNamed_mem ha
    exact h _ hm a ha hname

/-- The last record under the name of an entry of a set that was just replaced is in that set. -/
lemma find?_of_isLatest {item : s.Item} (h : IsLatest (ws ++ [.replace s items time]) s item)
    (hm : nameOf s item ∈ items.map (nameOf s)) :
    items.reverse.find? (nameOf s · = nameOf s item) = some item := by
  obtain ⟨last, hlast⟩ := exists_lastNamed hm
  cases s with
  | bucket g b =>
    have hfind : lastGroup? [.replace (.bucket g b) items time] g item.id =
        items.reverse.find? (nameOf (.bucket g b) · = nameOf (.bucket g b) item) := by
      simp [lastGroup?, Write.groups, ← List.map_reverse, List.find?_map, Function.comp_def,
        nameOf, memberOfGroup_inj]
    rw [IsLatest, lastGroup?_append, hfind, hlast, Option.some_or] at h
    rw [hlast, h]
  | tracks g id =>
    have hfind : lastTrack? [.replace (.tracks g id) items time] item.path =
        items.reverse.find? (nameOf (.tracks g id) · = nameOf (.tracks g id) item) := by
      rw [lastTrack?, List.flatMap_singleton]
      rfl
    rw [IsLatest, lastTrack?_append, hfind, hlast, Option.some_or] at h
    rw [hlast, h]

/-- A set that was just replaced lists its entries, each as the last one with its name. -/
theorem list_replaced (ws : List Write) (s : Scope) (items : List s.Item) (time : Instant) :
    (ofWrites (ws ++ [.replace s items time])).list s = .ok (items.map (lastNamed s items)) := by
  obtain ⟨listed, hlist, hnames, hlatest⟩ := list_ofWrites (ws ++ [.replace s items time]) s
  rw [names_replace] at hnames
  have hlisted : ∀ item ∈ listed,
      items.reverse.find? (nameOf s · = nameOf s item) = some item := by
    intro item hm
    apply find?_of_isLatest (hlatest item hm)
    rw [← hnames]
    exact List.mem_map_of_mem hm
  rw [hlist]
  -- both lists have the same names, and what is listed under a name is settled by it
  have hmap : listed.map some =
      (listed.map (nameOf s)).map fun name => items.reverse.find? (nameOf s · = name) := by
    rw [List.map_map]
    exact List.map_congr_left fun item hm => (hlisted item hm).symm
  rw [hnames, List.map_map] at hmap
  have hsome : listed.map some = (items.map (lastNamed s items)).map some := by
    rw [hmap, List.map_map]
    apply List.map_congr_left
    intro item hm
    obtain ⟨last, hlast⟩ := exists_lastNamed (List.mem_map_of_mem hm)
    simp only [Function.comp_apply, lastNamed, hlast, Option.getD_some]
  exact congrArg _ ((List.map_inj_right fun _ _ => Option.some_inj.mp).mp hsome)

end Repeated

end Index

namespace Cache

open Procedure
open Index (Write ofWrites lastNamed AgreesOnNames)

variable {ρ : Type} {p : CachePolicy} {remote : Catalog ρ} {w : State ρ}

/-! ### The call that stores a set -/

section Stored

variable {s : Scope} {xs : List Exchange} {items : List s.Item} {time : Instant}
  {result : Except Catalog.Error (List s.Item)}

lemma delivered_of_refresh (h : SetRefresh p s xs result)
    (hm : ⟨.replace s items time, .ok ()⟩ ∈ xs) :
    result = .ok items ∧ ⟨.fetchSet s, .ok items⟩ ∈ xs ∧ writes xs = [.replace s items time] := by
  cases h with
  | unreadable e => simp at hm
  | fresh found hf => simp [judged] at hm
  | fetched fetched now stored hf =>
    obtain ⟨⟨rfl, rfl⟩, rfl⟩ : (fetched = items ∧ now = time) ∧ stored = .ok () := by
      simpa [judged, eq_comm] using hm
    exact ⟨rfl, by simp, rfl⟩
  | stale cause found hf hp => simp [judged] at hm
  | failed cause hf hp => simp [judged] at hm

/-- A call that stores a set has fetched it, delivers it and writes nothing else. -/
lemma delivered_of_stored (h : SetRead p s xs result)
    (hm : ⟨.replace s items time, .ok ()⟩ ∈ xs) :
    result = .ok items ∧ ⟨.fetchSet s, .ok items⟩ ∈ xs ∧ writes xs = [.replace s items time] := by
  cases h with
  | unreadable e => simp at hm
  | fresh found hf => simp [judged] at hm
  | @locked refreshed now xs _ hf hx =>
    have hown : ⟨.replace s items time, .ok ()⟩ ∈ xs := by simpa [judged] using hm
    obtain ⟨hresult, hfetched, hwrites⟩ := delivered_of_refresh hx hown
    refine ⟨hresult, mem_locked hfetched, ?_⟩
    have hjudged : writes (judged s refreshed now ++ [⟨.lock s.key, ()⟩]) = [] := rfl
    have hunlock : writes [⟨.unlock s.key, ()⟩] = [] := rfl
    rw [List.append_cons, writes_append, hjudged, writes_append, hwrites, hunlock]
    rfl

end Stored

/-- A set that is fresh is read by asking the index and the clock. -/
lemma trace_readSet_of_fresh {s : Scope} {refreshed : Option Instant} {items : List s.Item}
    (hr : w.repository.query (·.refreshedAt s) = .ok refreshed)
    (hf : p.freshness refreshed w.clock.now = .fresh)
    (hl : w.repository.query (·.list s) = .ok items) :
    (readSet p s).trace (answer remote) w =
      judged s refreshed w.clock.now ++ [⟨.list s, .ok items⟩] := by
  simp only [readSet, judge, trace, answer, hr, hf, stored, hl]
  rfl

/-! ### The call after it -/

/-- Whether a set is fresh. -/
def State.IsFresh (w : State ρ) (p : CachePolicy) (s : Scope) : Prop :=
  ∃ refreshed, w.repository.query (·.refreshedAt s) = .ok refreshed ∧
    p.freshness refreshed w.clock.now = .fresh

section Calls

variable {s : Scope} {items : List s.Item} {time : Instant}

/-- The call that stores a set delivers what it has fetched. -/
lemma collect_cold (hs : ⟨.replace s items time, .ok ()⟩ ∈ (readSet p s).trace (answer remote) w) :
    (((catalog p remote).listing s).collect w).1 = .ok (some items.length, items) ∧
      ⟨.fetchSet s, .ok items⟩ ∈ (readSet p s).trace (answer remote) w := by
  obtain ⟨hresult, hfetched, -⟩ := delivered_of_stored
    (setRead_of_leads (leads_trace (answer remote) (readSet p s) w)) hs
  rw [collect_listing, hresult]
  exact ⟨rfl, hfetched⟩

/-- The next call, if the set is still fresh, delivers the entries that were stored last under
their names, and does not ask the remote. -/
lemma collect_warm {ws : List Write} (hw : w.Holds ws)
    (hs : ⟨.replace s items time, .ok ()⟩ ∈ (readSet p s).trace (answer remote) w)
    (hf : (((catalog p remote).listing s).collect w).2.IsFresh p s) :
    let reached := (((catalog p remote).listing s).collect w).2
    (((catalog p remote).listing s).collect reached).1 =
        .ok (some items.length, items.map (lastNamed s items)) ∧
      ∀ x ∈ (readSet p s).trace (answer remote) reached, ¬ x.request.IsRemote := by
  intro reached
  have hreached : reached = after (answer remote) w ((readSet p s).trace (answer remote) w) := by
    rw [← run_eq, show reached = _ from congrArg Prod.snd (collect_listing s)]
  obtain ⟨-, -, hwrites⟩ := delivered_of_stored
    (setRead_of_leads (leads_trace (answer remote) (readSet p s) w)) hs
  have hholds : reached.Holds (ws ++ [.replace s items time]) := by
    rw [hreached, ← hwrites]
    exact hw.after (happens_trace (answer remote) (readSet p s) w)
  have hlist : reached.repository.query (·.list s) = .ok (items.map (lastNamed s items)) := by
    rw [hholds.query_eq, Index.list_replaced]
  obtain ⟨refreshed, hr, hfresh⟩ := hf
  constructor
  · rw [collect_listing, run_readSet_of_fresh hr hfresh hlist]
    simp only [Except.map, List.length_map]
  · rw [trace_readSet_of_fresh hr hfresh hlist]
    simp [judged, Request.IsRemote]

/-- In every reachable state, the call that fetches and stores a set delivers it as it was fetched,
and the next call, if the set is still fresh, delivers as many entries with the same names in the
same order, each one as the last with its name, without asking the remote. So both calls deliver
the same if and only if the entries with one name agree. -/
theorem warm_follows_cold {isPersistent : Bool} {calls : List Write}
    (hw : w.repository = (Repository.new isPersistent).after calls)
    (hs : ⟨.replace s items time, .ok ()⟩ ∈ (readSet p s).trace (answer remote) w)
    (hf : (((catalog p remote).listing s).collect w).2.IsFresh p s) :
    let cold := ((catalog p remote).listing s).collect w
    let warm := ((catalog p remote).listing s).collect cold.2
    ⟨.fetchSet s, .ok items⟩ ∈ (readSet p s).trace (answer remote) w ∧
      cold.1 = .ok (some items.length, items) ∧
      warm.1 = .ok (some items.length, items.map (lastNamed s items)) ∧
      (items.map (lastNamed s items)).map (Index.nameOf s) = items.map (Index.nameOf s) ∧
      (∀ x ∈ (readSet p s).trace (answer remote) cold.2, ¬ x.request.IsRemote) ∧
      (warm.1 = cold.1 ↔ AgreesOnNames s items) := by
  intro cold warm
  have hholds : w.Holds ((Repository.new isPersistent).log calls) := by
    constructor
    · rw [hw, Repository.isOpen_after_new]
    · rw [hw, Repository.after_new]
  obtain ⟨hcold, hfetched⟩ := collect_cold hs
  obtain ⟨hwarm, hquiet⟩ := collect_warm hholds hs hf
  refine ⟨hfetched, hcold, hwarm, Index.map_nameOf_lastNamed, hquiet, ?_⟩
  rw [show warm.1 = _ from hwarm, show cold.1 = _ from hcold, ← Index.map_lastNamed_eq_iff]
  simp

/-- A group of two tracks is listed for the first time, and then again. -/
theorem warm_follows_cold_smallArchive :
    let s : Scope := .tracks .authors 1
    let remote := MemoryCatalog.catalog
    let items : List Track := [.ofPath "/pub/one.mod" 10, .ofPath "/pub/two.mod" 20]
    let cold := ((catalog {} remote).listing s).collect smallArchive
    let warm := ((catalog {} remote).listing s).collect cold.2
    ⟨.replace s items (.ofSeconds 1750000000), .ok ()⟩ ∈
        (readSet {} s).trace (answer remote) smallArchive ∧
      cold.2.IsFresh {} s ∧ cold.1 = .ok (some 2, items) ∧ warm.1 = cold.1 := by
  intro s remote items cold warm
  have hstored : ⟨.replace s items (.ofSeconds 1750000000), .ok ()⟩ ∈
      (readSet {} s).trace (answer remote) smallArchive := by
    refine List.mem_of_getElem? (i := 7) ?_
    rfl
  have hfresh : cold.2.IsFresh {} s :=
    ⟨some (.ofSeconds 1750000000), by decide +kernel, by decide +kernel⟩
  have hnew : smallArchive.repository = (Repository.new false).after [] := rfl
  obtain ⟨-, hcold, -, -, -, hiff⟩ := warm_follows_cold hnew hstored hfresh
  have hagree : AgreesOnNames s items := by decide +kernel
  exact ⟨hstored, hfresh, hcold, hiff.mpr hagree⟩

/-- A new cache over an archive that lists a path twice, with different sizes. -/
def repeatingArchive : State MemoryCatalog where
  remote :=
    { groups := [(.authors, ⟨42, "Beispiel", 2⟩)]
      tracks := [((.authors, 42), [.ofPath "/pub/one.mod" 8, .ofPath "/pub/one.mod" 9])] }
  clock := Instant.ofSeconds 1750000000

/-- Listing that group again, while it is fresh and without asking the remote, gives other sizes. -/
theorem warm_differs_repeatingArchive :
    let s : Scope := .tracks .authors 42
    let remote := MemoryCatalog.catalog
    let cold := ((catalog {} remote).listing s).collect repeatingArchive
    let warm := ((catalog {} remote).listing s).collect cold.2
    cold.2.IsFresh {} s ∧
      (∀ x ∈ (readSet {} s).trace (answer remote) cold.2, ¬ x.request.IsRemote) ∧
      cold.1 = .ok (some 2, [.ofPath "/pub/one.mod" 8, .ofPath "/pub/one.mod" 9]) ∧
      warm.1 = .ok (some 2, [.ofPath "/pub/one.mod" 9, .ofPath "/pub/one.mod" 9]) ∧
      warm.1 ≠ cold.1 := by
  intro s remote cold warm
  have hstored : ⟨.replace s [.ofPath "/pub/one.mod" 8, .ofPath "/pub/one.mod" 9]
      (.ofSeconds 1750000000), .ok ()⟩ ∈ (readSet {} s).trace (answer remote) repeatingArchive := by
    refine List.mem_of_getElem? (i := 7) ?_
    rfl
  have hfresh : cold.2.IsFresh {} s :=
    ⟨some (.ofSeconds 1750000000), by decide +kernel, by decide +kernel⟩
  obtain ⟨hcold, -⟩ := collect_cold hstored
  obtain ⟨hwarm, hquiet⟩ := collect_warm (State.IsNew.holds ⟨rfl, rfl⟩) hstored hfresh
  refine ⟨hfresh, hquiet, hcold, hwarm, ?_⟩
  rw [show warm.1 = _ from hwarm, show cold.1 = _ from hcold]
  decide +kernel

end Calls

end Cache

end ModuleArchive
