import ModuleArchive.Catalog.Memory
import ModuleArchive.Proofs.Cache.Target
import ModuleArchive.Proofs.Index.Reading

/-!
# Answers that overtake each other

The record of a group comes with the listing of any set it is in, or with an answer for it alone.
The index keeps the one that was stored last. Answers for one set are stored in the order in which
they were obtained, as they are obtained and stored under the lock of the set. Answers for different
sets, and those for a single group, share no lock: one may be obtained before another and stored
after it.
-/
namespace ModuleArchive.Cache

open Procedure
open Index (Write lastGroup?)

variable {ρ : Type} {p : CachePolicy} {remote : Catalog ρ} {calls : List Call} {w : State ρ}
  {es : List Event} {sys : System ρ Reply} {i j m n o : Nat} {s : Scope} {g : Grouping}
  {id : UInt32} {records : List (Grouping × Group)}

/-! ### Records on their way -/

/-- The records of groups in an answer of the remote. -/
def Exchange.obtained? : Exchange → Option (List (Grouping × Group))
  | ⟨.fetchSet (.bucket g _), .ok groups⟩ => some (groups.map (g, ·))
  | ⟨.fetchGroup g _, .ok (some group)⟩ => some [(g, group)]
  | _ => none

def Exchange.stored? (x : Exchange) : Option (List (Grouping × Group)) := x.write?.map Write.groups

/-- The last record of a group among some records. -/
def recordIn? (records : List (Grouping × Group)) (g : Grouping) (id : UInt32) : Option Group :=
  (records.reverse.find? fun x => x.1 = g ∧ x.2.id = id).map (·.2)

/-- Whether a task has obtained some records from the remote at one time and stored them at another.
Times are counted in events. -/
structure Updates (es : List Event) (i : Nat) (records : List (Grouping × Group))
    (obtained stored : Nat) : Prop where
  lt : obtained < stored
  exists_obtained : ∃ x, es[obtained]? = some (.exchange i x) ∧ x.obtained? = some records
  exists_stored : ∃ x, es[stored]? = some (.exchange i x) ∧ x.stored? = some records

lemma own_eq_of_getElem? {x : Exchange} (h : es[n]? = some (.exchange i x)) :
    own i es = own i (es.take n) ++ x :: own i (es.drop (n + 1)) := by
  obtain ⟨hlt, hx⟩ := List.getElem?_eq_some_iff.mp h
  conv_lhs => rw [← List.take_append_drop n es, List.drop_eq_getElem_cons hlt, hx]
  rw [own_append, ← List.singleton_append (l := es.drop (n + 1)), own_append, own_self,
    List.singleton_append]

/-- Records of groups that are stored have been obtained before, by the same task. -/
lemma exists_updates_of_stored (h : System.Reaches remote (.ofCalls p calls w) es sys)
    {x : Exchange} (hm : es[m]? = some (.exchange i x)) (hx : x.stored? = some records)
    (hne : records ≠ []) : ∃ o, Updates es i records o m := by
  obtain ⟨call, -, -, -, hp⟩ := placed_of_own h (own_eq_of_getElem? hm)
  have hfrom {y : Exchange} (hy : y ∈ own i (es.take m)) (hrecords : y.obtained? = some records) :
      ∃ o, Updates es i records o m := by
    obtain ⟨o, ho⟩ := List.mem_iff_getElem?.mp (mem_own_iff.mp hy)
    rw [List.getElem?_take] at ho
    split at ho
    · next hlt => exact ⟨o, hlt, ⟨y, ho, hrecords⟩, ⟨x, hm, hx⟩⟩
    · contradiction
  obtain ⟨write, hw, rfl⟩ := Option.map_eq_some_iff.mp hx
  obtain rfl := eq_exchangeOf hw
  cases write with
  | replace s items time =>
    cases s with
    | tracks g id => exact absurd rfl hne
    | bucket g b =>
      obtain ⟨pre, refreshed, now, hown⟩ := hp
      refine hfrom (y := ⟨.fetchSet (.bucket g b), .ok items⟩) ?_ rfl
      rw [hown]
      simp
  | putGroup g group =>
    obtain ⟨pre, id, hown⟩ := hp
    refine hfrom (y := ⟨.fetchGroup g id, .ok (some group)⟩) ?_ rfl
    rw [hown]
    simp
  | putTrack g id track => exact absurd rfl hne

/-! ### Under one lock -/

/-- What a call for a set has done is the beginning of a read of the set. -/
lemma exists_isReadBy_own (h : System.Reaches remote (.ofCalls p calls w) es sys)
    (hi : calls[i]? = some (.set s)) : ∃ more, (Target.set s).IsReadBy p (own i es ++ more) := by
  obtain ⟨rest, hl⟩ := (h.stands (tasks_ofCalls p w hi)).exists_leads
  exact ⟨_, exists_isReadBy (t := .set s) remote w rfl hl⟩

lemma isFetchedBy_of_obtained {xs : List Exchange} {x : Exchange}
    (h : (Target.set s).IsReadBy p xs) (hx : x ∈ xs) (hr : x.obtained? = some records) :
    (Target.set s).isFetchedBy x.request = true := by
  have hall : ∀ x ∈ xs, x.obtained? = none ∨ x.request = .fetchSet s := by
    obtain ⟨result, h⟩ := h
    cases h with
    | unreadable e => simp [Exchange.obtained?]
    | fresh found hf => simp [judged, Exchange.obtained?]
    | locked hn hread => cases hread <;> simp [judged, Exchange.obtained?]
  rcases hall x hx with hnone | hfetch
  · rw [hr] at hnone
    contradiction
  · exact isFetchedBy_set.mpr hfetch

/-- Between obtaining and storing something a call for a set holds the lock of the set. -/
lemma inside_of_updates (h : System.Reaches remote (.ofCalls p calls w) es sys)
    (hi : calls[i]? = some (.set s)) (hu : Updates es i records o m) (ho : o < n) (hn : n ≤ m) :
    .cancelled i ∉ es.take n ∧ ∃ since, Inside s.key since (own i (es.take n)) := by
  obtain ⟨x, hx, hrecords⟩ := hu.exists_obtained
  obtain ⟨y, hy, -⟩ := hu.exists_stored
  obtain ⟨more, hread⟩ := exists_isReadBy_own h hi
  have hfetched := isFetchedBy_of_obtained hread
    (List.mem_append_left more (mem_own_iff.mpr (List.mem_of_getElem? hx))) hrecords
  have hxn : x ∈ own i (es.take n) := by
    refine mem_own_iff.mpr (List.mem_of_getElem? (i := o) ?_)
    rw [List.getElem?_take_of_lt ho, hx]
  have hyn : y ∈ own i (es.drop n) := by
    refine mem_own_iff.mpr (List.mem_of_getElem? (i := m - n) ?_)
    rw [List.getElem?_drop, Nat.add_sub_cancel' hn, hy]
  refine ⟨fun hc => h.not_cancelled hy (List.take_subset_take_left es hn hc), ?_⟩
  rw [← List.take_append_drop n es, own_append, List.append_assoc] at hread
  rcases inside_or_over hread hxn hfetched with hinside | hover
  · exact hinside
  · rw [(List.append_eq_nil_iff.mp hover).1] at hyn
    contradiction

/-- What is obtained later for one set is stored later. -/
theorem stored_in_order (h : System.Reaches remote (.ofCalls p calls w) es sys)
    (hi : calls[i]? = some (.set s)) (hj : calls[j]? = some (.set s))
    {records' : List (Grouping × Group)} {o' m' : Nat} (hu : Updates es i records o m)
    (hv : Updates es j records' o' m') (hlt : o < o') : m < m' := by
  by_contra hge
  obtain ⟨before, hbefore⟩ := h.take (o' + 1)
  obtain ⟨hni, since, hinside⟩ := inside_of_updates h hi hu (n := o' + 1) (by omega)
    (by have := hv.lt; omega)
  obtain ⟨hnj, since', hinside'⟩ := inside_of_updates h hj hv (n := o' + 1) (by omega) hv.lt
  obtain rfl := hbefore.eq_of_inside rfl hinside hni hinside' hnj
  -- one read would have asked twice
  obtain ⟨x, hx, hrecords⟩ := hu.exists_obtained
  obtain ⟨y, hy, hrecords'⟩ := hv.exists_obtained
  obtain ⟨more, hread⟩ := exists_isReadBy_own h hi
  have hfetched {z : Exchange} (hz : z ∈ own i es) {found : List (Grouping × Group)}
      (hfound : z.obtained? = some found) : (Target.set s).isFetchedBy z.request = true :=
    isFetchedBy_of_obtained hread (List.mem_append_left more hz) hfound
  have hxy : x ∈ own i (es.take o') := by
    refine mem_own_iff.mpr (List.mem_of_getElem? (i := o) ?_)
    rw [List.getElem?_take_of_lt hlt, hx]
  have hasked : 0 < (own i (es.take o')).countP ((Target.set s).isFetchedBy ·.request) :=
    List.countP_pos_iff.mpr ⟨x, hxy, hfetched (mem_own_iff.mpr (List.mem_of_getElem? hx)) hrecords⟩
  have hagain := hfetched (mem_own_iff.mpr (List.mem_of_getElem? hy)) hrecords'
  have honce := countP_isFetchedBy_le hread
  rw [own_eq_of_getElem? hy, List.append_assoc, List.countP_append, List.cons_append,
    List.countP_cons, if_pos hagain] at honce
  omega

/-! ### What is left -/

/-- Whether an event stores a record of a group. -/
def Event.Stores (g : Grouping) (id : UInt32) (e : Event) : Prop :=
  ∃ i x records, e = .exchange i x ∧ x.stored? = some records ∧ recordIn? records g id ≠ none

lemma stored?_exchangeOf (write : Write) : (exchangeOf write).stored? = some write.groups := by
  cases write <;> rfl

lemma recordIn?_ne_none {group : Group} (h : (g, group) ∈ records) :
    recordIn? records g group.id ≠ none := by
  rw [recordIn?, ne_eq, Option.map_eq_none_iff, List.find?_eq_none]
  intro hnone
  exact hnone _ (List.mem_reverse.mpr h) (by simp)

/-- A record that has been written has been stored by some event. -/
lemma exists_stores_of_mem {group : Group}
    (h : (g, group) ∈ (writes (exchanges es)).flatMap Write.groups) :
    ∃ e ∈ es, e.Stores g group.id := by
  obtain ⟨write, hw, hm⟩ := List.mem_flatMap.mp h
  obtain ⟨i, hx⟩ := mem_exchanges_iff.mp (exchangeOf_mem hw)
  exact ⟨_, mem_own_iff.mp hx, i, _, _, rfl, stored?_exchangeOf write, recordIn?_ne_none hm⟩

lemma lastGroup?_eq_none (h : ∀ e ∈ es, ¬ e.Stores g id) :
    lastGroup? (writes (exchanges es)) g id = none := by
  cases hlast : lastGroup? (writes (exchanges es)) g id with
  | none => rfl
  | some group =>
    obtain ⟨hm, rfl⟩ := Index.mem_of_lastGroup? hlast
    obtain ⟨e, he, hstores⟩ := exists_stores_of_mem hm
    exact absurd hstores (h e he)

/-- The index has the record of a group that was stored last. -/
lemma getGroup_of_stored {ws : List Write} (hw : w.Holds ws)
    (h : System.Reaches remote (.ofCalls p calls w) es sys) {before after : List Event}
    {x : Exchange} (heq : es = before ++ .exchange i x :: after) (hx : x.stored? = some records)
    {group : Group} (hgroup : recordIn? records g id = some group)
    (hafter : ∀ e ∈ after, ¬ e.Stores g id) :
    sys.state.repository.query (·.getGroup g id) = .ok (some group) := by
  obtain ⟨write, hwrite, rfl⟩ := Option.map_eq_some_iff.mp hx
  have hholds : sys.state.Holds (ws ++ writes (exchanges es)) := by
    rw [h.happens.2]
    exact State.Holds.after hw h.happens.1
  have hwrites : writes (exchanges es) =
      writes (exchanges before) ++ ([write] ++ writes (exchanges after)) := by
    rw [heq, exchanges_append, writes_append]
    refine congrArg _ ?_
    change writes (x :: exchanges after) = _
    rw [writes_cons, hwrite, Option.toList_some]
  have hlast : lastGroup? [write] g id = some group := by
    rw [lastGroup?, List.flatMap_singleton]
    exact hgroup
  rw [hholds.query_eq, Index.getGroup_ofWrites, hwrites]
  simp only [Index.lastGroup?_append, lastGroup?_eq_none hafter, hlast, Option.none_or,
    Option.some_or]

/-- Over any calls that are made side by side, in whatever order their steps are taken and
whichever of them are cancelled: the record of a group that the index has is the one in the answer
that was stored last among those with a record of the group. A call for the same set has not stored
one that it has obtained later. -/
theorem last_stored_is_left (p : CachePolicy) (remote : Catalog ρ) (calls : List Call)
    (w : State ρ) {ws : List Write} (hw : w.Holds ws) {es : List Event} {sys : System ρ Reply}
    (h : System.Reaches remote (.ofCalls p calls w) es sys) {g : Grouping} {written : Group}
    (hwritten : (g, written) ∈ (writes (exchanges es)).flatMap Write.groups) :
    ∃ i records obtained stored left,
      Updates es i records obtained stored ∧ recordIn? records g written.id = some left ∧
      sys.state.repository.query (·.getGroup g written.id) = .ok (some left) ∧
      ∀ j others obtained' stored',
        Updates es j others obtained' stored' → recordIn? others g written.id ≠ none →
          stored' ≤ stored ∧
          ∀ s, calls[i]? = some (.set s) → calls[j]? = some (.set s) → obtained' ≤ obtained := by
  obtain ⟨before, e, after, heq, ⟨i, x, records, rfl, hx, hmentions⟩, hafter⟩ :=
    exists_last (exists_stores_of_mem hwritten)
  obtain ⟨left, hleft⟩ := Option.ne_none_iff_exists'.mp hmentions
  have hne : records ≠ [] := by
    rintro rfl
    exact hmentions rfl
  have hstored : es[before.length]? = some (.exchange i x) := by
    rw [heq, List.getElem?_append_right (Nat.le_refl _), Nat.sub_self]
    rfl
  obtain ⟨o, hu⟩ := exists_updates_of_stored h hstored hx hne
  refine ⟨i, records, o, before.length, left, hu, hleft,
    getGroup_of_stored hw h heq hx hleft hafter, fun j others o' m' hv hothers => ?_⟩
  have hle : m' ≤ before.length := by
    by_contra hlt
    obtain ⟨y, hy, hothers'⟩ := hv.exists_stored
    refine hafter (.exchange j y) ?_ ⟨j, y, others, rfl, hothers', hothers⟩
    rw [heq, List.getElem?_append_right (by omega)] at hy
    obtain ⟨n, hn⟩ : ∃ n, m' - before.length = n + 1 := ⟨m' - before.length - 1, by omega⟩
    rw [hn, List.getElem?_cons_succ] at hy
    exact List.mem_of_getElem? hy
  refine ⟨hle, fun s hi hj => ?_⟩
  by_contra hlt
  have hlater := stored_in_order h hi hj hu hv (by omega)
  omega

/-- A new cache over a remote that lists one group under two letters, with different records. -/
def renamedGroup : State MemoryCatalog where
  remote := { groups := [(.authors, ⟨42, "Alt", 1⟩), (.authors, ⟨42, "Beispiel", 2⟩)] }
  clock := Instant.ofSeconds 0

/-- Calls for the groups under both letters. -/
def bothLetters : System MemoryCatalog Reply :=
  .ofCalls {} [.set (.bucket .authors (.letter 0)), .set (.bucket .authors (.letter 1))]
    renamedGroup

/-- An order in which the second call obtains its answer after the first one has, and stores it
before. -/
def overtaking : List Nat := [0, 0, 0, 0, 0, 0, 1, 1, 1, 1, 1, 1, 1, 1, 1, 0, 0, 0]

/-- The record that is left is the one that was stored last. -/
theorem last_stored_is_left_bothLetters :
    ∃ i records obtained stored left,
      Updates (bothLetters.heardDuring MemoryCatalog.catalog overtaking) i records obtained stored ∧
        recordIn? records .authors 42 = some left ∧
        (bothLetters.runSchedule MemoryCatalog.catalog overtaking).state.repository.query
          (·.getGroup .authors 42) = .ok (some left) := by
  have hreaches := System.reaches_runSchedule MemoryCatalog.catalog bothLetters overtaking
  have hwritten : (Grouping.authors, (⟨42, "Alt", 1⟩ : Group)) ∈
      (writes (exchanges (bothLetters.heardDuring MemoryCatalog.catalog overtaking))).flatMap
        Write.groups := by
    decide +kernel
  have hnew : renamedGroup.Holds [] := ⟨rfl, rfl⟩
  obtain ⟨i, records, obtained, stored, left, hu, hleft, hget, -⟩ :=
    last_stored_is_left {} MemoryCatalog.catalog _ renamedGroup hnew hreaches hwritten
  exact ⟨i, records, obtained, stored, left, hu, hleft, hget⟩

/-- Both calls finish. The second answer that is obtained is stored first, and the record that is
left is that of the first one. -/
theorem older_record_is_left_bothLetters :
    let xs := exchanges (bothLetters.heardDuring MemoryCatalog.catalog overtaking)
    let reached := bothLetters.runSchedule MemoryCatalog.catalog overtaking
    reached.results.map Option.isSome = [true, true] ∧
      xs.filterMap Exchange.obtained? =
        [[(.authors, ⟨42, "Alt", 1⟩)], [(.authors, ⟨42, "Beispiel", 2⟩)]] ∧
      xs.filterMap Exchange.stored? =
        [[(.authors, ⟨42, "Beispiel", 2⟩)], [(.authors, ⟨42, "Alt", 1⟩)]] ∧
      reached.state.repository.query (·.getGroup .authors 42) = .ok (some ⟨42, "Alt", 1⟩) := by
  decide +kernel

end ModuleArchive.Cache
