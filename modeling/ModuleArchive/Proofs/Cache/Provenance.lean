import ModuleArchive.Catalog.Memory
import ModuleArchive.Proofs.Cache.Run
import ModuleArchive.Proofs.Cache.Sections
import ModuleArchive.Proofs.Catalog.Answers
import ModuleArchive.Proofs.Index.Recording

/-!
# Where looked up records come from

Track records are shared by all groups, and the same number stands for a different group in every
grouping; only the listings of a set tell what belongs to it. Nothing is written that the remote has
not answered, so a track that is found in a group has a path that the remote has given for this very
group, and a group that is found is a record that it has given for this grouping.
-/
namespace ModuleArchive.Cache

open Procedure
open Index (Write ofWrites)

variable {ρ : Type} {p : CachePolicy} {remote : Catalog ρ} {calls : List Call} {w : State ρ}
  {es : List Event} {sys : System ρ Reply} {i : Nat} {g : Grouping} {id : UInt32}

/-! ### What the remote has answered -/

/-- Whether the remote has given a path for a group: in the listing of its tracks, or when one of
them was looked up. -/
def GivesPath (xs : List Exchange) (g : Grouping) (id : UInt32) (path : String) : Prop :=
  (∃ tracks, ⟨.fetchSet (.tracks g id), .ok tracks⟩ ∈ xs ∧ path ∈ tracks.map Track.path) ∨
    ∃ filename track, ⟨.fetchTrack g id filename, .ok (some track)⟩ ∈ xs ∧ track.path = path

/-- Whether the remote has given the record of a group for a grouping: in the listing of a bucket,
or when a group was looked up. -/
def GivesGroup (xs : List Exchange) (g : Grouping) (group : Group) : Prop :=
  (∃ b groups, ⟨.fetchSet (.bucket g b), .ok groups⟩ ∈ xs ∧ group ∈ groups) ∨
    ∃ id, ⟨.fetchGroup g id, .ok (some group)⟩ ∈ xs

/-- What has been written was due in one of the calls. -/
lemma isDue_of_mem_writes (h : System.Reaches remote (.ofCalls p calls w) es sys) {write : Write}
    (hw : write ∈ writes (exchanges es)) :
    ∃ call ∈ calls, (exchangeOf write).request.IsDue call (exchanges es) := by
  obtain ⟨i, hx⟩ := mem_exchanges_iff.mp (exchangeOf_mem hw)
  obtain ⟨q, rest, hq, hl⟩ := h.exists_leads hx
  obtain ⟨call, hcall, rfl⟩ := exists_call_of_tasks hq
  obtain ⟨known, later, heq⟩ := List.append_of_mem hx
  rw [heq] at hl
  refine ⟨call, hcall, ((always_procedure p call []).of_leads hl).mono fun y hy => ?_⟩
  refine mem_exchanges_iff.mpr ⟨i, ?_⟩
  rw [heq]
  exact List.mem_append_left _ hy

/-- A path that the index lists in a group has been given for this group. -/
lemma givesPath_of_listed (h : System.Reaches remote (.ofCalls p calls w) es sys)
    {ws : List Write} (hws : ws ⊆ writes (exchanges es)) {path : String}
    (hm : path ∈ (ofWrites ws).names (.tracks g id)) : GivesPath (exchanges es) g id path := by
  rcases Index.exists_write_of_mem_names hm with ⟨tracks, time, hw, hpath⟩ | ⟨write, hw, hadded⟩
  · obtain ⟨-, -, hfetched, -⟩ := isDue_of_mem_writes h (hws hw)
    exact .inl ⟨tracks, hfetched, hpath⟩
  · cases write with
    | replace s items time => contradiction
    | putGroup g' group => contradiction
    | putTrack g' id' track =>
      rw [Write.added] at hadded
      split at hadded
      · next hset =>
        obtain ⟨rfl, rfl⟩ := hset
        obtain ⟨-, -, filename, hfetched⟩ := isDue_of_mem_writes h (hws hw)
        exact .inr ⟨filename, track, hfetched, Option.some_inj.mp hadded⟩
      · contradiction

/-- A record of a group that has been written under a grouping has been given for it. -/
lemma givesGroup_of_written (h : System.Reaches remote (.ofCalls p calls w) es sys)
    {ws : List Write} (hws : ws ⊆ writes (exchanges es)) {group : Group}
    (hm : (g, group) ∈ ws.flatMap Write.groups) : GivesGroup (exchanges es) g group := by
  obtain ⟨write, hw, hm⟩ := List.mem_flatMap.mp hm
  obtain ⟨call, -, hdue⟩ := isDue_of_mem_writes h (hws hw)
  cases write with
  | replace s items time =>
    cases s with
    | bucket g' b =>
      obtain ⟨other, ho, heq⟩ := List.mem_map.mp hm
      obtain ⟨rfl, rfl⟩ := Prod.mk.inj heq
      exact .inl ⟨b, items, hdue.1, ho⟩
    | tracks g' id => contradiction
  | putGroup g' other =>
    obtain ⟨rfl, rfl⟩ := Prod.mk.inj (List.mem_singleton.mp hm)
    exact .inr hdue
  | putTrack g' id track => contradiction

/-! ### Lookups -/

def Reply.track? : Reply → Option Track
  | .track (.ok found) => found
  | _ => none

def Reply.group? : Reply → Option Group
  | .group (.ok found) => found
  | _ => none

/-- The exchanges of a call that is over, and its reply. -/
lemma leads_of_results (h : System.Reaches remote (.ofCalls p calls w) es sys) {call : Call}
    (hi : calls[i]? = some call) (hn : .cancelled i ∉ es) {reply : Reply}
    (hr : sys.results[i]? = some (some reply)) :
    Leads (call.procedure p) (own i es) (done reply) := by
  have hdone : sys.tasks[i]? = some (.done reply) := by
    have hsome : (sys.results[i]?).join.isSome = true := by rw [hr]; rfl
    obtain ⟨result, ht⟩ := System.exists_done_of_results hsome
    rw [System.results, List.getElem?_map, ht] at hr
    simpa [ht] using hr
  cases h.stands (tasks_ofCalls p w hi) with
  | live hl _ ht =>
    rw [hdone, Option.some_inj] at ht
    rwa [ht]
  | ended _ hc _ => exact absurd hc hn

/-- What a task has exchanged first is one of the exchanges, with those before it and after it. -/
lemma exists_split_of_own {x : Exchange} {xs : List Exchange} (hx : own i es = x :: xs) :
    ∃ before rest, exchanges es = before ++ x :: rest := by
  refine List.append_of_mem (mem_exchanges_iff.mpr ⟨i, ?_⟩)
  rw [hx]
  exact List.mem_cons_self

lemma writes_before_subset {before rest : List Exchange} {x : Exchange}
    (hes : exchanges es = before ++ x :: rest) : writes before ⊆ writes (exchanges es) := by
  rw [hes, writes_append]
  exact List.subset_append_left _ _

/-- A track that the index finds has the file name and a path that has been given for the group. -/
lemma givesPath_of_found (hw : w.IsNew) (h : System.Reaches remote (.ofCalls p calls w) es sys)
    {filename : String} {track : Track} {before rest : List Exchange}
    (hes : exchanges es = before ++ ⟨.findTrack g id filename, .ok (some track)⟩ :: rest) :
    track.filename = filename ∧ GivesPath (exchanges es) g id track.path := by
  have hhappens := h.happens.1
  rw [hes] at hhappens
  have hfound := hw.findTrack_eq hhappens
  obtain ⟨tracks, hnames, -, hfind⟩ := Index.tracks_ofWrites_spec (writes before) g id
  rw [hfind] at hfound
  have hfirst := (Except.ok.inj hfound).symm
  have hname : track.filename = filename := by simpa using List.find?_some hfirst
  have hlisted : track.path ∈ (ofWrites (writes before)).names (.tracks g id) := by
    rw [← hnames]
    exact List.mem_map_of_mem (List.mem_of_find?_eq_some hfirst)
  exact ⟨hname, givesPath_of_listed h (writes_before_subset hes) hlisted⟩

/-- A group that the index finds has the number and has been given for the grouping. -/
lemma givesGroup_of_found (hw : w.IsNew) (h : System.Reaches remote (.ofCalls p calls w) es sys)
    {group : Group} {before rest : List Exchange}
    (hes : exchanges es = before ++ ⟨.getGroup g id, .ok (some group)⟩ :: rest) :
    group.id = id ∧ GivesGroup (exchanges es) g group := by
  have hhappens := h.happens.1
  rw [hes] at hhappens
  have hfound := hw.getGroup_eq hhappens
  rw [Index.getGroup_ofWrites] at hfound
  obtain ⟨hwritten, hid⟩ := Index.mem_of_lastGroup? (Except.ok.inj hfound).symm
  exact ⟨hid, givesGroup_of_written h (writes_before_subset hes) hwritten⟩

/-- In every run of calls that are made side by side, one after the other or interleaved, and
whichever of them are cancelled, over a remote that answers and fails as it likes but finds nothing
but what it is asked for: a track that is found has the file name asked for, and a path that the
remote has given for exactly this group; a group that is found has the number asked for and is a
record that the remote has given for this grouping. -/
theorem lookups_stay_apart (p : CachePolicy) (hremote : remote.IsExact) (hw : w.IsNew)
    (h : System.Reaches remote (.ofCalls p calls w) es sys) (hn : .cancelled i ∉ es) {reply : Reply}
    (hr : sys.results[i]? = some (some reply)) :
    (∀ g id filename track, calls[i]? = some (.track g id filename) → reply.track? = some track →
      track.filename = filename ∧ GivesPath (exchanges es) g id track.path) ∧
    (∀ g id group, calls[i]? = some (.group g id) → reply.group? = some group →
      group.id = id ∧ GivesGroup (exchanges es) g group) := by
  constructor
  · intro g id filename track hi hfound
    obtain ⟨result, hread, rfl⟩ := Leads.of_map (leads_of_results h hi hn hr)
    generalize hown : own i es = xs at hread
    cases trackRead_of_leads hread with
    | unreadable e => contradiction
    | failed cause => contradiction
    | absent => contradiction
    | known found =>
      obtain rfl : found = track := Option.some_inj.mp hfound
      obtain ⟨before, rest, hes⟩ := exists_split_of_own hown
      exact givesPath_of_found hw h hes
    | fetched found stored =>
      cases stored with
      | error e => contradiction
      | ok =>
        obtain rfl : found = track := Option.some_inj.mp hfound
        have hfetched : ⟨.fetchTrack g id filename, .ok (some found)⟩ ∈ exchanges es :=
          mem_exchanges_iff.mpr ⟨i, by rw [hown]; simp⟩
        obtain ⟨reached, hgiven⟩ := h.happens.1.exists_state hfetched
        have hname := hremote.filename_of_track g id filename reached.remote found hgiven.symm
        exact ⟨hname, .inr ⟨filename, found, hfetched, rfl⟩⟩
  · intro g id group hi hfound
    obtain ⟨result, hread, rfl⟩ := Leads.of_map (leads_of_results h hi hn hr)
    generalize hown : own i es = xs at hread
    cases groupRead_of_leads hread with
    | unreadable e => contradiction
    | failed cause => contradiction
    | absent => contradiction
    | known found =>
      obtain rfl : found = group := Option.some_inj.mp hfound
      obtain ⟨before, rest, hes⟩ := exists_split_of_own hown
      exact givesGroup_of_found hw h hes
    | fetched found stored =>
      cases stored with
      | error e => contradiction
      | ok =>
        obtain rfl : found = group := Option.some_inj.mp hfound
        have hfetched : ⟨.fetchGroup g id, .ok (some found)⟩ ∈ exchanges es :=
          mem_exchanges_iff.mpr ⟨i, by rw [hown]; simp⟩
        obtain ⟨reached, hgiven⟩ := h.happens.1.exists_state hfetched
        have hid := hremote.id_of_group g id reached.remote found hgiven.symm
        exact ⟨hid, .inr ⟨id, hfetched⟩⟩

/-- A new cache over a remote with the same number and the same file name under two groupings. -/
def sharedNumber : State MemoryCatalog where
  remote :=
    { groups := [(.authors, ⟨1, "Anna", 1⟩), (.collections, ⟨1, "Beispiel", 1⟩)]
      tracks := [((.authors, 1), [.ofPath "/pub/anna/one.mod" 10]),
        ((.collections, 1), [.ofPath "/pub/beispiel/one.mod" 20])] }
  clock := Instant.ofSeconds 0

/-- The tracks of one group are listed while one of the other group is looked up; then the first
group has its track looked up, and the second one its record. -/
theorem lookups_stay_apart_sharedNumber :
    let calls : List Call :=
      [.set (.tracks .authors 1), .track .collections 1 "one.mod", .track .authors 1 "one.mod",
        .group .collections 1]
    let start := System.ofCalls {} calls sharedNumber
    let xs := exchanges
      (start.heardDuring MemoryCatalog.catalog [0, 1, 0, 1, 0, 1, 0, 0, 0, 0, 0, 0, 2, 3, 3, 3])
    GivesPath xs .authors 1 "/pub/anna/one.mod" ∧
      GivesGroup xs .collections ⟨1, "Beispiel", 1⟩ := by
  intro calls start xs
  let schedule := [0, 1, 0, 1, 0, 1, 0, 0, 0, 0, 0, 0, 2, 3, 3, 3]
  have hreaches := System.reaches_runSchedule MemoryCatalog.catalog start schedule
  have hfinds (i : Nat) {reply : Reply}
      (hr : (start.runSchedule MemoryCatalog.catalog schedule).results[i]? = some (some reply)) :=
    lookups_stay_apart {} MemoryCatalog.isExact_catalog ⟨rfl, rfl⟩ hreaches
      (System.cancelled_notMem_heardDuring _ _ _ i) hr
  have htrack : (start.runSchedule MemoryCatalog.catalog schedule).results[2]?.join.bind
      Reply.track? = some (.ofPath "/pub/anna/one.mod" 10) := by decide +kernel
  have hgroup : (start.runSchedule MemoryCatalog.catalog schedule).results[3]?.join.bind
      Reply.group? = some ⟨1, "Beispiel", 1⟩ := by decide +kernel
  constructor
  · obtain ⟨reply, hr, hfound⟩ := Option.bind_eq_some_iff.mp htrack
    exact ((hfinds 2 (Option.join_eq_some_iff.mp hr)).1 .authors 1 "one.mod" _ rfl hfound).2
  · obtain ⟨reply, hr, hfound⟩ := Option.bind_eq_some_iff.mp hgroup
    exact ((hfinds 3 (Option.join_eq_some_iff.mp hr)).2 .collections 1 _ rfl hfound).2

end ModuleArchive.Cache
