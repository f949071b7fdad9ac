import ModuleArchive.Proofs.Cache.Untorn

/-!
# The cache is transparent

Over a remote whose answers, when there are any, come from one fixed dataset, a cached catalog
gives the answers of the dataset. Everything that is written comes from the dataset, a set that
has been stored is complete, and a group whose tracks have not been stored lists at most tracks
that a lookup finds.
-/
namespace ModuleArchive

/-- What an archive holds as long as it does not change. -/
structure Dataset where
  items : (s : Scope) → List s.Item
  group? : Grouping → UInt32 → Option Group
  /-- A group is found under its own number. -/
  id_of_group? : ∀ {g id group}, group? g id = some group → group.id = id
  /-- A group that is listed is found as it is listed. -/
  group?_of_mem : ∀ {g b} {group : Group}, group ∈ items (.bucket g b) →
    group? g group.id = some group
  /-- A path has one record. -/
  eq_of_path : ∀ {g id g' id'} {t t' : Track}, t ∈ items (.tracks g id) →
    t' ∈ items (.tracks g' id') → t.path = t'.path → t = t'
  /-- Every size can be stored. -/
  fits_of_mem : ∀ {g id} {t : Track}, t ∈ items (.tracks g id) → Index.Fits t

namespace Dataset

def track? (D : Dataset) (g : Grouping) (id : UInt32) (filename : String) : Option Track :=
  (D.items (.tracks g id)).find? (·.filename = filename)

lemma mem_of_track? {D : Dataset} {g : Grouping} {id : UInt32} {filename : String} {t : Track}
    (h : D.track? g id filename = some t) : t ∈ D.items (.tracks g id) ∧ t.filename = filename :=
  ⟨List.mem_of_find?_eq_some h, by simpa using List.find?_some h⟩

end Dataset

/-- Whether a catalog gives no answers but those of a dataset. It may fail at any time. -/
structure Catalog.Serves {ρ : Type} (remote : Catalog ρ) (D : Dataset) : Prop where
  listing : ∀ s w hint items, ((remote.listing s).collect w).1 = .ok (hint, items) →
    items = D.items s
  group : ∀ g id w found, (remote.group g id w).1 = .ok found → found = D.group? g id
  track : ∀ g id filename w found, (remote.track g id filename w).1 = .ok found →
    found = D.track? g id filename

/-- Whether a clock shows times of the years -9999 to 9999 only. There are no others in the type
that clocks read. -/
def Clock.IsCalendar (c : Clock) : Prop :=
  ∀ n, Instant.firstSecond ≤ (c.reading n).seconds ∧ (c.reading n).seconds ≤ Instant.lastSecond

namespace Cache

open Procedure
open Index (Write ofWrites StoredLast Keeps Written extend nameOf names)

variable {ρ : Type} {p : CachePolicy} {remote : Catalog ρ} {w : State ρ} {D : Dataset}

/-! ### What is written -/

/-- Whether a write holds what the dataset has. -/
def IsHonest (D : Dataset) : Write → Prop
  | .replace s items _ => items = D.items s
  | .putGroup g group => D.group? g group.id = some group
  | .putTrack g id track => D.track? g id track.filename = some track

section Serves

variable {xs : List Exchange}

lemma items_of_fetchSet (hD : remote.Serves D) (h : Happens (answer remote) w xs) {s : Scope}
    {items : List s.Item} (hx : ⟨.fetchSet s, .ok items⟩ ∈ xs) : items = D.items s := by
  obtain ⟨w', hw'⟩ := h.exists_state hx
  have hcollect : ((remote.listing s).collect w'.remote).1.map (·.2) = .ok items := hw'.symm
  cases hc : ((remote.listing s).collect w'.remote).1 with
  | error cause =>
    rw [hc] at hcollect
    contradiction
  | ok answered =>
    obtain ⟨hint, listed⟩ := answered
    rw [hc] at hcollect
    obtain rfl : listed = items := Except.ok.inj hcollect
    exact hD.listing s _ hint listed hc

lemma found_of_fetchGroup (hD : remote.Serves D) (h : Happens (answer remote) w xs) {g : Grouping}
    {id : UInt32} {found : Option Group} (hx : ⟨.fetchGroup g id, .ok found⟩ ∈ xs) :
    found = D.group? g id := by
  obtain ⟨w', hw'⟩ := h.exists_state hx
  exact hD.group g id w'.remote found hw'.symm

lemma found_of_fetchTrack (hD : remote.Serves D) (h : Happens (answer remote) w xs) {g : Grouping}
    {id : UInt32} {filename : String} {found : Option Track}
    (hx : ⟨.fetchTrack g id filename, .ok found⟩ ∈ xs) : found = D.track? g id filename := by
  obtain ⟨w', hw'⟩ := h.exists_state hx
  exact hD.track g id filename w'.remote found hw'.symm

end Serves

/-- Everything that is written in a run comes from the dataset. -/
lemma isHonest_of_mem (p : CachePolicy) (w : State ρ) (hD : remote.Serves D) (run : List Attempt) :
    ∀ write ∈ writes (history p remote w run), IsHonest D write := by
  intro write hm
  have hhappens : Happens (answer remote) w (history p remote w run) := happens_history run
  obtain ⟨before, rest, hsplit⟩ := List.append_of_mem (exchangeOf_mem hm)
  obtain ⟨a, -, hdue⟩ := isDue_history hsplit
  rw [hsplit] at hhappens
  have hbefore := (happens_append.mp hhappens).1
  cases write with
  | replace s items time => exact items_of_fetchSet hD hbefore hdue.1
  | putGroup g group =>
    obtain ⟨id, hx⟩ := hdue
    have hfound := (found_of_fetchGroup hD hbefore hx).symm
    rw [IsHonest, D.id_of_group? hfound, hfound]
  | putTrack g id track =>
    obtain ⟨filename, hx⟩ := hdue
    have hfound := (found_of_fetchTrack hD hbefore hx).symm
    rw [IsHonest, (Dataset.mem_of_track? hfound).2, hfound]

/-! ### What is read -/

/-- Whether the dataset has a record, in this set or in one that shares its records. -/
def Has (D : Dataset) : (s : Scope) → s.Item → Prop
  | .bucket g _, group => D.group? g group.id = some group
  | .tracks _ _, track => ∃ g id, track ∈ D.items (.tracks g id)

lemma has_of_mem {s : Scope} {item : s.Item} (h : item ∈ D.items s) : Has D s item := by
  cases s with
  | bucket g b => exact D.group?_of_mem h
  | tracks g id => exact ⟨g, id, h⟩

lemma eq_of_nameOf {s : Scope} {a b : s.Item} (ha : Has D s a) (hb : Has D s b)
    (h : nameOf s a = nameOf s b) : a = b := by
  cases s with
  | bucket g bucket =>
    have hid := Index.memberOfGroup_inj.mp h
    rw [Has, hid] at ha
    exact Option.some_inj.mp (ha.symm.trans hb)
  | tracks g id =>
    obtain ⟨g₁, id₁, ha⟩ := ha
    obtain ⟨g₂, id₂, hb⟩ := hb
    exact D.eq_of_path ha hb h

lemma eq_of_map_nameOf {s : Scope} {as bs : List s.Item} (ha : ∀ a ∈ as, Has D s a)
    (hb : ∀ b ∈ bs, Has D s b) (h : as.map (nameOf s) = bs.map (nameOf s)) : as = bs := by
  induction as generalizing bs with
  | nil => exact (List.map_eq_nil_iff.mp h.symm).symm
  | cons a as ih =>
    cases bs with
    | nil => simp at h
    | cons b bs =>
      obtain ⟨hname, hrest⟩ := List.cons.inj h
      rw [eq_of_nameOf (ha a List.mem_cons_self) (hb b List.mem_cons_self) hname,
        ih (fun x hx => ha x (List.mem_cons_of_mem _ hx))
          (fun x hx => hb x (List.mem_cons_of_mem _ hx)) hrest]

section Reading

variable {ws : List Write}

lemma has_of_written (h : ∀ write ∈ ws, IsHonest D write) {s : Scope} {item : s.Item}
    (hw : Written ws s item) : Has D s item := by
  cases s with
  | bucket g b =>
    obtain ⟨write, hm, hg⟩ := List.mem_flatMap.mp hw
    have honest := h write hm
    cases write with
    | replace s' items time =>
      cases s' with
      | bucket g' b' =>
        obtain ⟨group, hgroup, heq⟩ := List.mem_map.mp hg
        obtain ⟨rfl, rfl⟩ := Prod.mk.inj heq
        rw [show items = _ from honest] at hgroup
        exact D.group?_of_mem hgroup
      | tracks g' id' => contradiction
    | putGroup g' group =>
      obtain ⟨rfl, rfl⟩ := Prod.mk.inj (List.mem_singleton.mp hg)
      exact honest
    | putTrack g' id' track => contradiction
  | tracks g id =>
    obtain ⟨write, hm, ht⟩ := List.mem_flatMap.mp hw
    have honest := h write hm
    cases write with
    | replace s' items time =>
      cases s' with
      | bucket g' b' => contradiction
      | tracks g' id' =>
        rw [Write.tracks, show items = _ from honest] at ht
        exact ⟨g', id', ht⟩
    | putGroup g' group => contradiction
    | putTrack g' id' track =>
      obtain rfl := List.mem_singleton.mp ht
      exact ⟨g', id', (Dataset.mem_of_track? honest).1⟩

lemma extend_of_subset {α : Type} [DecidableEq α] {listed more : List α}
    (h : ∀ name ∈ more, name ∈ listed) : extend listed more = listed := by
  induction more with
  | nil => rfl
  | cons name rest ih =>
    obtain ⟨hname, hrest⟩ := List.forall_mem_cons.mp h
    rw [extend, List.foldl_cons, if_pos hname]
    exact ih hrest

/-- A track that was recorded on its own is the one that is found under its name. -/
lemma track?_of_added (h : ∀ write ∈ ws, IsHonest D write) {g : Grouping} {id : UInt32}
    {path : String} (hp : path ∈ ws.filterMap (Write.added (.tracks g id))) :
    ∃ t, t.path = path ∧ D.track? g id t.filename = some t := by
  obtain ⟨write, hm, ha⟩ := List.mem_filterMap.mp hp
  have honest := h write hm
  cases write with
  | replace s items time => contradiction
  | putGroup g' group => contradiction
  | putTrack g' id' track =>
    rw [Write.added] at ha
    split at ha
    · next hs =>
      obtain ⟨rfl, rfl⟩ := hs
      exact ⟨track, Option.some_inj.mp ha, honest⟩
    · contradiction

/-- A set that has been stored is listed as the dataset has it. -/
lemma list_of_storedLast (h : ∀ write ∈ ws, IsHonest D write) {s : Scope} {items : List s.Item}
    {time : Instant} {since : List Write} (hs : StoredLast ws s items time since) :
    (ofWrites ws).list s = .ok (D.items s) := by
  obtain ⟨listed, hl, hnames, hlatest⟩ := Index.list_ofWrites ws s
  have hitems : items = D.items s := h _ hs.replace_mem
  have hsince : ∀ name ∈ since.filterMap (Write.added s), name ∈ items.map (nameOf s) := by
    intro name hm
    cases s with
    | bucket g b =>
      obtain ⟨write, -, ha⟩ := List.mem_filterMap.mp hm
      cases write <;> contradiction
    | tracks g id =>
      have hlater : ∀ write ∈ since, IsHonest D write := fun write hw =>
        h write (hs.mem_of_mem_since hw)
      obtain ⟨t, rfl, ht⟩ := track?_of_added hlater hm
      rw [hitems]
      exact List.mem_map_of_mem (Dataset.mem_of_track? ht).1
  rw [hs.names_eq, extend_of_subset hsince, hitems] at hnames
  rw [hl, eq_of_map_nameOf (fun a ha => has_of_written h (hlatest a ha).written)
    (fun b hb => has_of_mem hb) hnames]

/-- A track that the index finds is the one that the dataset has first. -/
lemma track?_of_findTrack (h : ∀ write ∈ ws, IsHonest D write) {g : Grouping} {id : UInt32}
    {filename : String} {t : Track}
    (hf : (ofWrites ws).findTrack g id filename = .ok (some t)) :
    D.track? g id filename = some t := by
  obtain ⟨listed, hl, hnames, hlatest⟩ := Index.list_ofWrites ws (.tracks g id)
  have hfind := Except.ok.inj ((Index.findTrack_eq hl filename).symm.trans hf)
  rcases Index.keeps_or_storedLast (.tracks g id) ws with hk | ⟨items, time, since, hs⟩
  · have hmem := List.mem_of_find?_eq_some hfind
    have hname : t.filename = filename := by simpa using List.find?_some hfind
    have hpath : t.path ∈ ws.filterMap (Write.added (.tracks g id)) := by
      have hm : nameOf (.tracks g id) t ∈ (ofWrites ws).names (.tracks g id) := by
        rw [← hnames]
        exact List.mem_map_of_mem hmem
      rw [hk.names_eq, Index.mem_extend] at hm
      exact hm.resolve_left List.not_mem_nil
    obtain ⟨u, hu, hfound⟩ := track?_of_added h hpath
    obtain ⟨g', id', ht⟩ := has_of_written h (hlatest t hmem).written
    obtain rfl := D.eq_of_path (Dataset.mem_of_track? hfound).1 ht hu
    rwa [hname] at hfound
  · rw [list_of_storedLast h hs] at hl
    obtain rfl := Except.ok.inj hl
    exact hfind

lemma group?_of_getGroup (h : ∀ write ∈ ws, IsHonest D write) {g : Grouping} {id : UInt32}
    {group : Group} (hf : (ofWrites ws).getGroup g id = .ok (some group)) :
    D.group? g id = some group := by
  rw [Index.getGroup_ofWrites, Except.ok.injEq] at hf
  obtain ⟨hw, hid⟩ := Index.mem_of_lastGroup? hf
  have hhas : Has D (.bucket g .nonLetter) group := has_of_written h hw
  rwa [Has, hid] at hhas

end Reading

/-! ### What is answered -/

/-- What a request to the remote failed with. -/
def Exchange.failure? : Exchange → Option Catalog.Error
  | ⟨.fetchSet _, .error cause⟩ => some cause
  | ⟨.fetchGroup _ _, .error cause⟩ => some cause
  | ⟨.fetchTrack _ _ _, .error cause⟩ => some cause
  | ⟨.fetchContent _, .error cause⟩ => some cause
  | _ => none

/-- Whether a call gives what is expected, or else what one of its requests to the remote failed
with. -/
def Agrees {α : Type} (own : List Exchange) (expected : α) : Except Catalog.Error α → Prop
  | .ok given => given = expected
  | .error cause => ∃ x ∈ own, x.failure? = some cause

lemma indexed_eq_error {α : Type} {found : Except Index.Error α} {cause : Catalog.Error}
    (h : indexed found = .error cause) : ∃ e, found = .error e := by
  cases found with
  | ok a => contradiction
  | error e => exact ⟨e, rfl⟩

/-- How the index can fail while a set is read: nothing has been written when it does not tell
when the set was stored, and what it does not store has been fetched. -/
inductive IndexFails (s : Scope) (own : List Exchange) : Prop where
  | refreshedAt (before : List Exchange) (e : Index.Error) (rest : List Exchange)
      (h : own = before ++ ⟨.refreshedAt s, .error e⟩ :: rest) (hb : writes before = [])
  | list (before : List Exchange) (e : Index.Error) (rest : List Exchange)
      (h : own = before ++ ⟨.list s, .error e⟩ :: rest)
  | replace (before : List Exchange) (items : List s.Item) (time : Instant) (e : Index.Error)
      (rest : List Exchange) (h : own = before ++ ⟨.replace s items time, .error e⟩ :: rest)
      (hf : ⟨.fetchSet s, .ok items⟩ ∈ own)

lemma IndexFails.locked {s : Scope} {xs : List Exchange} (h : IndexFails s xs)
    (refreshed : Option Instant) (now : Instant) :
    IndexFails s
      (judged s refreshed now ++ ⟨.lock s.key, ()⟩ :: (xs ++ [⟨.unlock s.key, ()⟩])) := by
  cases h with
  | refreshedAt before e rest h hb =>
    subst h
    refine .refreshedAt (judged s refreshed now ++ ⟨.lock s.key, ()⟩ :: before) e
      (rest ++ [⟨.unlock s.key, ()⟩]) (by simp) ?_
    rw [writes_append]
    exact hb
  | list before e rest h =>
    subst h
    exact .list (judged s refreshed now ++ ⟨.lock s.key, ()⟩ :: before) e
      (rest ++ [⟨.unlock s.key, ()⟩]) (by simp)
  | replace before items time e rest h hf =>
    subst h
    exact .replace (judged s refreshed now ++ ⟨.lock s.key, ()⟩ :: before) items time e
      (rest ++ [⟨.unlock s.key, ()⟩]) (by simp) (mem_locked hf)

/-- A set that is not read under its lock was not fetched, or the index failed. -/
lemma failed_or_indexFails_of_refresh {s : Scope} {own : List Exchange}
    {result : Except Catalog.Error (List s.Item)} (h : SetRefresh p s own result)
    {cause : Catalog.Error} (hresult : result = .error cause) :
    ⟨.fetchSet s, .error cause⟩ ∈ own ∨ IndexFails s own := by
  cases h with
  | unreadable e => exact .inr (.refreshedAt [] e [] rfl rfl)
  | fresh found hf =>
    obtain ⟨e, rfl⟩ := indexed_eq_error hresult
    exact .inr (.list _ e [] rfl)
  | @fetched refreshed now items time stored hf =>
    obtain ⟨e, rfl⟩ : ∃ e, stored = .error e := by
      cases stored with
      | ok => contradiction
      | error e => exact ⟨e, rfl⟩
    refine .inr (.replace (judged s refreshed now ++ [⟨.fetchSet s, .ok items⟩, ⟨.now, time⟩])
      items time e [] (by simp) ?_)
    exact List.mem_append_right _ List.mem_cons_self
  | @stale refreshed now cause' found hf hp =>
    obtain ⟨e, rfl⟩ := indexed_eq_error hresult
    exact .inr (.list (judged s refreshed now ++ [⟨.fetchSet s, .error cause'⟩]) e [] (by simp))
  | failed cause' hf hp =>
    obtain rfl := Except.error.inj hresult
    exact .inl (List.mem_append_right _ List.mem_cons_self)

lemma failed_or_indexFails {s : Scope} {own : List Exchange}
    {result : Except Catalog.Error (List s.Item)} (h : SetRead p s own result)
    {cause : Catalog.Error} (hresult : result = .error cause) :
    ⟨.fetchSet s, .error cause⟩ ∈ own ∨ IndexFails s own := by
  cases h with
  | unreadable e => exact failed_or_indexFails_of_refresh (p := p) (.unreadable e) hresult
  | fresh found hf => exact failed_or_indexFails_of_refresh (.fresh found hf) hresult
  | locked hf hx =>
    obtain hfailed | hindex := failed_or_indexFails_of_refresh hx hresult
    · exact .inl (mem_locked hfailed)
    · exact .inr (hindex.locked _ _)

/-- The index can tell when a set was stored. -/
lemma exists_refreshedAt_history (p : CachePolicy) (remote : Catalog ρ) (hc : w.clock.IsCalendar)
    (run : List Attempt) (s : Scope) :
    ∃ found, (ofWrites (writes (history p remote w run))).refreshedAt s = .ok found := by
  apply Index.exists_refreshedAt
  intro items time since hs
  obtain ⟨-, hm⟩ := answered_of_storedLast hs
  obtain ⟨n, -, -, rfl⟩ := exists_reading (happens_history run) hm
  exact hc n

lemma fits_of_items (s : Scope) (time : Instant) :
    ∀ t ∈ (Write.replace s (D.items s) time).tracks, Index.Fits t := by
  intro t ht
  cases s with
  | bucket g b => contradiction
  | tracks g id => exact D.fits_of_mem ht

section Agrees

variable {run : List Attempt} {own : List Exchange}

lemma agrees_of_setRead (hD : remote.Serves D) (hw : w.IsNew) (hc : w.clock.IsCalendar)
    (h : Happens (answer remote) w (history p remote w run ++ own)) {s : Scope}
    {result : Except Catalog.Error (List s.Item)} (hr : SetRead p s own result) :
    Agrees own (D.items s) result := by
  have honest := isHonest_of_mem p w hD run
  have hown := (happens_append.mp h).2
  cases result with
  | ok items =>
    obtain hf | ⟨before, between, rest, refreshed, now, hs⟩ := fetched_or_served hr rfl
    · exact items_of_fetchSet hD hown hf
    · obtain ⟨hl, stored, time, since, hlast, -⟩ := hs.exists_stored hw h
      rw [list_of_storedLast honest hlast] at hl
      exact Except.ok.inj hl
  | error cause =>
    obtain hf | hindex := failed_or_indexFails hr rfl
    · exact ⟨_, hf, rfl⟩
    · cases hindex with
      | refreshedAt before e rest heq hb =>
        rw [heq, ← List.append_assoc] at h
        have hfound := hw.refreshedAt_eq h
        obtain ⟨found, hok⟩ := exists_refreshedAt_history p remote hc run s
        rw [writes_append, hb, List.append_nil, hok] at hfound
        contradiction
      | list before e rest heq =>
        rw [heq, ← List.append_assoc] at h
        have hfound := hw.list_eq h
        obtain ⟨listed, hl, -⟩ :=
          Index.list_ofWrites (writes (history p remote w run ++ before)) s
        rw [hl] at hfound
        contradiction
      | replace before items time e rest heq hf =>
        obtain rfl := items_of_fetchSet hD hown hf
        rw [heq, ← List.append_assoc] at h
        have hok := hw.replace_eq h (fits_of_items s time)
        contradiction

lemma agrees_of_groupRead (hD : remote.Serves D) (hw : w.IsNew)
    (h : Happens (answer remote) w (history p remote w run ++ own)) {g : Grouping} {id : UInt32}
    {result : Except Catalog.Error (Option Group)} (hr : GroupRead g id own result) :
    Agrees own (D.group? g id) result := by
  have honest := isHonest_of_mem p w hD run
  have hown := (happens_append.mp h).2
  cases hr with
  | unreadable e =>
    have hfound := hw.getGroup_eq h
    rw [Index.getGroup_ofWrites] at hfound
    contradiction
  | known group => exact (group?_of_getGroup honest (hw.getGroup_eq h).symm).symm
  | failed cause => exact ⟨_, List.mem_cons_of_mem _ List.mem_cons_self, rfl⟩
  | absent => exact found_of_fetchGroup hD hown (List.mem_cons_of_mem _ List.mem_cons_self)
  | fetched group stored =>
    have hfound := found_of_fetchGroup hD hown (List.mem_cons_of_mem _ List.mem_cons_self)
    rw [List.append_cons, List.append_cons] at h
    obtain rfl := hw.putGroup_eq h
    exact hfound

lemma agrees_of_trackRead (hD : remote.Serves D) (hw : w.IsNew)
    (h : Happens (answer remote) w (history p remote w run ++ own)) {g : Grouping} {id : UInt32}
    {filename : String} {result : Except Catalog.Error (Option Track)}
    (hr : TrackRead g id filename own result) : Agrees own (D.track? g id filename) result := by
  have honest := isHonest_of_mem p w hD run
  have hown := (happens_append.mp h).2
  cases hr with
  | unreadable e =>
    have hfound := hw.findTrack_eq h
    obtain ⟨listed, hl, -⟩ :=
      Index.list_ofWrites (writes (history p remote w run)) (.tracks g id)
    rw [Index.findTrack_eq hl] at hfound
    contradiction
  | known track => exact (track?_of_findTrack honest (hw.findTrack_eq h).symm).symm
  | failed cause => exact ⟨_, List.mem_cons_of_mem _ List.mem_cons_self, rfl⟩
  | absent => exact found_of_fetchTrack hD hown (List.mem_cons_of_mem _ List.mem_cons_self)
  | fetched track stored =>
    have hfound := found_of_fetchTrack hD hown (List.mem_cons_of_mem _ List.mem_cons_self)
    have hfits := D.fits_of_mem (Dataset.mem_of_track? hfound.symm).1
    rw [List.append_cons, List.append_cons] at h
    obtain rfl := hw.putTrack_eq h hfits
    exact hfound

end Agrees

/-- Whether in this state every operation gives what the dataset has, or else what one of its own
requests to the remote failed with. -/
structure State.IsTransparent (w : State ρ) (p : CachePolicy) (remote : Catalog ρ)
    (D : Dataset) : Prop where
  listing : ∀ s, Agrees ((readSet p s).trace (answer remote) w) (D.items s)
    ((((catalog p remote).listing s).collect w).1.map (·.2))
  group : ∀ g id, Agrees ((readGroup g id).trace (answer remote) w) (D.group? g id)
    ((catalog p remote).group g id w).1
  track : ∀ g id filename, Agrees ((readTrack g id filename).trace (answer remote) w)
    (D.track? g id filename) ((catalog p remote).track g id filename w).1

/-- After every run of calls, carried out or cut off, over a remote that has a dataset but may
fail at any time, the cached catalog answers as the dataset does. -/
theorem transparent (hD : remote.Serves D) (hw : w.IsNew) (hc : w.clock.IsCalendar)
    (run : List Attempt) :
    (after (answer remote) w (history p remote w run)).IsTransparent p remote D := by
  have hhappens {α : Type} (call : Procedure α) : Happens (answer remote) w
      (history p remote w run ++
        call.trace (answer remote) (after (answer remote) w (history p remote w run))) :=
    happens_append.mpr ⟨happens_history run, happens_trace _ _ _⟩
  constructor
  · intro s
    rw [items_collect_listing]
    exact agrees_of_setRead hD hw hc (hhappens _) (setRead_of_leads (leads_trace _ _ _))
  · intro g id
    exact agrees_of_groupRead hD hw (hhappens _) (groupRead_of_leads (leads_trace _ _ _))
  · intro g id filename
    exact agrees_of_trackRead hD hw (hhappens _) (trackRead_of_leads (leads_trace _ _ _))

/-! ### A remote that breaks off -/

/-- A remote that has a dataset and counts its calls. A call may fail, a listing after some of
its items. -/
def unreliable (D : Dataset) (broken : Nat → Option Nat) : Catalog Nat where
  listing s := .work (· + 1) fun n =>
    match broken n with
    | none => .ofItems (D.items s)
    | some count => .append ((D.items s).take count |>.map .item) (.failed .unavailable)
  group g id n := ((if (broken n).isNone then .ok (D.group? g id) else .error .unavailable), n + 1)
  track g id filename n :=
    ((if (broken n).isNone then .ok (D.track? g id filename) else .error .unavailable), n + 1)
  content _ n := (.error .unavailable, n + 1)

lemma collect_failed {σ α : Type} (hint : Option Nat) (found items : List α)
    (cause : Catalog.Error) (w : σ) :
    Listing.collectInto hint found (Listing.append (items.map .item) (.failed cause)) w =
      (.error cause, w) := by
  rw [collectInto_append, Listing.collectInto]

lemma serves_unreliable (D : Dataset) (broken : Nat → Option Nat) :
    (unreliable D broken).Serves D where
  listing s n hint items h := by
    simp only [unreliable, Listing.collect, Listing.collectInto] at h
    split at h
    · rw [← Listing.collect, collect_ofItems] at h
      exact (Prod.mk.inj (Except.ok.inj h)).2.symm
    · rw [collect_failed] at h
      contradiction
  group g id n found h := by
    simp only [unreliable] at h
    split at h
    · exact (Except.ok.inj h).symm
    · contradiction
  track g id filename n found h := by
    simp only [unreliable] at h
    split at h
    · exact (Except.ok.inj h).symm
    · contradiction

/-- A group of two tracks by an author, and nothing else. -/
def smallDataset : Dataset where
  items
    | .bucket g b => if g = .authors ∧ b.contains "Beispiel" then [⟨1, "Beispiel", 2⟩] else []
    | .tracks g id =>
      if g = .authors ∧ id = 1 then [.ofPath "/pub/one.mod" 10, .ofPath "/pub/two.mod" 20] else []
  group? g id := if g = .authors ∧ id = 1 then some ⟨1, "Beispiel", 2⟩ else none
  id_of_group? := by
    intro g id group h
    split at h
    · next hid =>
      obtain rfl := Option.some_inj.mp h
      exact hid.2.symm
    · contradiction
  group?_of_mem := by
    intro g b group h
    simp only at h
    split at h
    · next hb =>
      obtain rfl := List.mem_singleton.mp h
      rw [if_pos ⟨hb.1, rfl⟩]
    · contradiction
  eq_of_path := by
    intro g id g' id' t t' h h' hpath
    simp only at h h'
    split at h <;> split at h'
    · simp only [List.mem_cons, List.not_mem_nil, or_false] at h h'
      obtain rfl | rfl := h <;> obtain rfl | rfl := h' <;> first | rfl | contradiction
    · contradiction
    · contradiction
    · contradiction
  fits_of_mem := by
    intro g id t h
    simp only at h
    split at h
    · simp only [List.mem_cons, List.not_mem_nil, or_false] at h
      obtain rfl | rfl := h <;> decide
    · contradiction

/-- The tracks of a group are listed once a track of it is known, the first listing has broken
off after one item and the second one has been stored. -/
theorem transparent_smallDataset :
    let s : Scope := .tracks .authors 1
    let remote := unreliable smallDataset fun n => if n = 1 then some 1 else none
    let new : State Nat := { remote := 0, clock := Instant.ofSeconds 1750000000 }
    let reached := after (answer remote) new
      (history {} remote new [⟨.track .authors 1 "two.mod", none⟩, ⟨.set s, none⟩, ⟨.set s, none⟩])
    reached.remote = 3 ∧ reached.IsTransparent {} remote smallDataset := by
  intro s remote new reached
  have hcalls : reached.remote = 3 := by decide +kernel
  have hcalendar : new.clock.IsCalendar := by
    have hseconds : Instant.firstSecond ≤ (Instant.ofSeconds 1750000000).seconds ∧
        (Instant.ofSeconds 1750000000).seconds ≤ Instant.lastSecond := by decide
    exact fun _ => hseconds
  exact ⟨hcalls, transparent (serves_unreliable _ _) ⟨rfl, rfl⟩ hcalendar _⟩

end Cache

end ModuleArchive
