import ModuleArchive.Cache.Tasks
import ModuleArchive.Proofs.Cache.Exchange
import ModuleArchive.Proofs.Cache.Locks

/-!
# Tasks side by side

What happens while tasks take steps in any order, and are cancelled at any time, is a list of
events: an exchange of a task, or its end. Seen together, the exchanges are those of one history of
the state that all tasks share. Seen by themselves, the exchanges of one task lead its procedure to
where the task stands. Between its exchanges about a lock a task holds the key, and no other task is
there with it.
-/
namespace ModuleArchive.Cache

open Procedure

variable {ρ α : Type} {remote : Catalog ρ} {i j : Nat} {key : String}

/-! ### Events -/

/-- What happens to a task. -/
inductive Event where
  | exchange (task : Nat) (x : Exchange)
  | cancelled (task : Nat)

def Event.exchange? : Event → Option Exchange
  | exchange _ x => some x
  | cancelled _ => none

/-- The exchange of an event, if it is one of this task. -/
def Event.ownExchange? (i : Nat) : Event → Option Exchange
  | exchange j x => if j = i then some x else none
  | cancelled _ => none

/-- All exchanges, oldest first. -/
def exchanges (es : List Event) : List Exchange := es.filterMap Event.exchange?

/-- The exchanges of a task, oldest first. -/
def own (i : Nat) (es : List Event) : List Exchange := es.filterMap (Event.ownExchange? i)

lemma exchanges_append (es fs : List Event) : exchanges (es ++ fs) = exchanges es ++ exchanges fs :=
  List.filterMap_append

lemma own_append (i : Nat) (es fs : List Event) : own i (es ++ fs) = own i es ++ own i fs :=
  List.filterMap_append

lemma own_self (i : Nat) (x : Exchange) : own i [.exchange i x] = [x] := by
  simp [own, Event.ownExchange?]

lemma exchanges_cancelled (es : List Event) (i : Nat) :
    exchanges (es ++ [.cancelled i]) = exchanges es := by
  simp [exchanges, Event.exchange?]

lemma own_cancelled (es : List Event) (i j : Nat) : own i (es ++ [.cancelled j]) = own i es := by
  simp [own, Event.ownExchange?]

lemma own_other (h : j ≠ i) (x : Exchange) : own i [.exchange j x] = [] := by
  simp [own, Event.ownExchange?, h]

lemma mem_own_iff {es : List Event} {x : Exchange} : x ∈ own i es ↔ .exchange i x ∈ es := by
  constructor
  · intro h
    obtain ⟨e, he, hx⟩ := List.mem_filterMap.mp h
    cases e with
    | exchange j y =>
      rw [Event.ownExchange?] at hx
      split at hx
      · next hj =>
        obtain rfl := Option.some_inj.mp hx
        rwa [← hj]
      · contradiction
    | cancelled j => contradiction
  · exact fun h => List.mem_filterMap.mpr ⟨_, h, if_pos rfl⟩

lemma mem_exchanges_iff {es : List Event} {x : Exchange} :
    x ∈ exchanges es ↔ ∃ i, x ∈ own i es := by
  simp only [mem_own_iff]
  constructor
  · intro h
    obtain ⟨e, he, hx⟩ := List.mem_filterMap.mp h
    cases e with
    | exchange i y =>
      obtain rfl := Option.some_inj.mp hx
      exact ⟨i, he⟩
    | cancelled i => contradiction
  · rintro ⟨i, h⟩
    exact List.mem_filterMap.mpr ⟨_, h, rfl⟩

/-! ### Steps -/

namespace System

variable {start sys next : System ρ α} {es fs : List Event}

/-- What happens in a step of a task: an exchange, or nothing if the task has finished or waits. -/
def heard (remote : Catalog ρ) (sys : System ρ α) (i : Nat) : List Event :=
  match sys.tasks[i]? with
  | none | some (.done _) => []
  | some (.ask (.lock key) _) =>
    if sys.locks.holds i key then [.exchange i ⟨.lock key, ()⟩]
    else if (sys.locks.claimOf? i key).isSome then []
    else if (sys.locks.claim i key).holds i key then [.exchange i ⟨.lock key, ()⟩] else []
  | some (.ask request _) => [.exchange i ⟨request, (answer remote request sys.state).1⟩]

/-- How the claims change with a request of a task that is answered. -/
inductive Turns (l : KeyedLocks) (i : Nat) : Request → KeyedLocks → Prop where
  | locks {l' : KeyedLocks} {key : String} (hl : l' = l ∨ l' = l.claim i key)
      (h : l'.holds i key = true) : Turns l i (.lock key) l'
  | unlocks (key : String) : Turns l i (.unlock key) (l.release i key)
  | other {request : Request} (hl : ∀ key, request ≠ .lock key)
      (hu : ∀ key, request ≠ .unlock key) : Turns l i request l

/-- What a step of a task can be. -/
inductive Steps (remote : Catalog ρ) (sys : System ρ α) (i : Nat) :
    List Event → System ρ α → Prop where
  | idles : Steps remote sys i [] sys
  | waits (key : String) : Steps remote sys i [] { sys with locks := sys.locks.claim i key }
  | goesOn {request : Request} {resume : request.Answer → Procedure α} {locks : KeyedLocks}
      (ht : sys.tasks[i]? = some (.ask request resume)) (hl : Turns sys.locks i request locks) :
      Steps remote sys i [.exchange i ⟨request, (answer remote request sys.state).1⟩]
        { tasks := sys.tasks.set i (resume (answer remote request sys.state).1)
          locks := locks
          state := (answer remote request sys.state).2 }

theorem steps_step (remote : Catalog ρ) (sys : System ρ α) (i : Nat) :
    Steps remote sys i (sys.heard remote i) (sys.step remote i) := by
  rw [heard, step]
  cases ht : sys.tasks[i]? with
  | none => exact .idles
  | some q =>
    cases q with
    | done a => exact .idles
    | ask request resume =>
      cases request with
      | lock key =>
        simp only
        by_cases hheld : sys.locks.holds i key = true
        · rw [if_pos hheld, if_pos hheld]
          exact .goesOn ht (.locks (.inl rfl) hheld)
        · rw [if_neg hheld, if_neg hheld]
          by_cases hclaims : (sys.locks.claimOf? i key).isSome = true
          · rw [if_pos hclaims, if_pos hclaims]
            exact .idles
          · rw [if_neg hclaims, if_neg hclaims]
            by_cases htaken : (sys.locks.claim i key).holds i key = true
            · rw [if_pos htaken, if_pos htaken]
              exact .goesOn ht (.locks (.inr rfl) htaken)
            · rw [if_neg htaken, if_neg htaken]
              exact .waits key
      | unlock key => exact .goesOn ht (.unlocks key)
      | _ => exact .goesOn ht (.other (fun _ h => by contradiction) fun _ h => by contradiction)

/-! ### Runs -/

/-- Whether a system can come from another one in these events: tasks take steps in any order, and
any of them may be cancelled between two steps. -/
inductive Reaches (remote : Catalog ρ) (start : System ρ α) : List Event → System ρ α → Prop where
  | start : Reaches remote start [] start
  | step {es : List Event} {sys : System ρ α} (h : Reaches remote start es sys) (i : Nat) :
      Reaches remote start (es ++ sys.heard remote i) (sys.step remote i)
  | cancel {es : List Event} {sys : System ρ α} (h : Reaches remote start es sys) (i : Nat)
      (result : α) : Reaches remote start (es ++ [.cancelled i]) (sys.cancel i result)

/-- What happens while the tasks take steps in the order given. -/
def heardDuring (remote : Catalog ρ) (sys : System ρ α) : List Nat → List Event
  | [] => []
  | i :: schedule => sys.heard remote i ++ (sys.step remote i).heardDuring remote schedule

lemma cancelled_notMem_heardDuring (remote : Catalog ρ) (sys : System ρ α) (schedule : List Nat)
    (i : Nat) : .cancelled i ∉ sys.heardDuring remote schedule := by
  induction schedule generalizing sys with
  | nil => exact List.not_mem_nil
  | cons j schedule ih =>
    have hstep : .cancelled i ∉ sys.heard remote j := by
      have hs := steps_step remote sys j
      generalize sys.heard remote j = fs at hs
      generalize sys.step remote j = next at hs
      cases hs <;> simp
    rw [heardDuring, List.mem_append, not_or]
    exact ⟨hstep, ih _⟩

lemma Reaches.runSchedule (h : Reaches remote start es sys) (schedule : List Nat) :
    Reaches remote start (es ++ sys.heardDuring remote schedule)
      (sys.runSchedule remote schedule) := by
  induction schedule generalizing es sys with
  | nil =>
    rw [heardDuring, List.append_nil]
    exact h
  | cons i schedule ih =>
    rw [heardDuring, ← List.append_assoc]
    exact ih (h.step i)

/-- A schedule is a way in which tasks can take their steps. -/
lemma reaches_runSchedule (remote : Catalog ρ) (start : System ρ α) (schedule : List Nat) :
    Reaches remote start (start.heardDuring remote schedule)
      (start.runSchedule remote schedule) :=
  Reaches.start.runSchedule schedule

lemma exists_done_of_results (h : (sys.results[i]?).join.isSome = true) :
    ∃ result, sys.tasks[i]? = some (.done result) := by
  rw [results, List.getElem?_map] at h
  cases ht : sys.tasks[i]? with
  | none => simp [ht] at h
  | some q =>
    cases q with
    | done result => exact ⟨result, rfl⟩
    | ask request resume => simp [ht] at h

/-- What holds at first and is kept by whatever a step can be and by ending a task holds whatever
has happened. -/
@[elab_as_elim]
theorem Reaches.induct
    {motive : (es : List Event) → (sys : System ρ α) → Reaches remote start es sys → Prop}
    {es : List Event} {sys : System ρ α} (h : Reaches remote start es sys)
    (first : motive [] start .start)
    (step : ∀ {es : List Event} {sys : System ρ α} {j : Nat} {fs : List Event}
      {next : System ρ α} (h : Reaches remote start es sys)
      (h' : Reaches remote start (es ++ fs) next), Steps remote sys j fs next →
        motive es sys h → motive (es ++ fs) next h')
    (cancel : ∀ {es : List Event} {sys : System ρ α} {j : Nat} {result : α}
      (h : Reaches remote start es sys), motive es sys h →
        motive (es ++ [.cancelled j]) (sys.cancel j result) (h.cancel j result)) :
    motive es sys h := by
  induction h with
  | start => exact first
  | @step es sys h j ih => exact step h (h.step j) (steps_step remote sys j) ih
  | @cancel es sys h j result ih => exact cancel h ih

/-- The same in terms of exchanges: all that a step can be besides an exchange is a change of the
claims. -/
@[elab_as_elim]
theorem Reaches.exchange_induct
    {motive : (es : List Event) → (sys : System ρ α) → Reaches remote start es sys → Prop}
    {es : List Event} {sys : System ρ α} (h : Reaches remote start es sys)
    (first : motive [] start .start)
    (waits : ∀ {es : List Event} {sys : System ρ α} {locks : KeyedLocks}
      (h : Reaches remote start es sys) (h' : Reaches remote start es { sys with locks }),
        motive es sys h → motive es { sys with locks } h')
    (exchange : ∀ {es : List Event} {sys : System ρ α} {j : Nat} {request : Request}
      {resume : request.Answer → Procedure α} {locks : KeyedLocks}
      (h : Reaches remote start es sys) (_ : sys.tasks[j]? = some (.ask request resume))
      (h' : Reaches remote start
        (es ++ [.exchange j ⟨request, (answer remote request sys.state).1⟩])
        { tasks := sys.tasks.set j (resume (answer remote request sys.state).1)
          locks := locks
          state := (answer remote request sys.state).2 }),
        motive es sys h → motive _ _ h')
    (cancel : ∀ {es : List Event} {sys : System ρ α} {j : Nat} {result : α}
      (h : Reaches remote start es sys), motive es sys h →
        motive (es ++ [.cancelled j]) (sys.cancel j result) (h.cancel j result)) :
    motive es sys h := by
  induction h using Reaches.induct with
  | first => exact first
  | @step es sys j fs next h h' hs ih =>
    cases hs with
    | idles =>
      revert h'
      rw [List.append_nil]
      exact fun h' => waits h h' ih
    | waits key =>
      revert h'
      rw [List.append_nil]
      exact fun h' => waits h h' ih
    | goesOn ht hl => exact exchange h ht h' ih
  | cancel h ih => exact cancel h ih

/-! ### The state -/

lemma Steps.happens (h : Steps remote sys i fs next) :
    Happens (answer remote) sys.state (exchanges fs) ∧
      next.state = after (answer remote) sys.state (exchanges fs) := by
  cases h with
  | idles => exact ⟨trivial, rfl⟩
  | waits key => exact ⟨trivial, rfl⟩
  | goesOn ht hl => exact ⟨⟨rfl, trivial⟩, rfl⟩

/-- The exchanges of all tasks are one history of the state. -/
theorem Reaches.happens (h : Reaches remote start es sys) :
    Happens (answer remote) start.state (exchanges es) ∧
      sys.state = after (answer remote) start.state (exchanges es) := by
  induction h using Reaches.induct with
  | first => exact ⟨trivial, rfl⟩
  | step _ _ hs ih =>
    obtain ⟨hstep, hnext⟩ := hs.happens
    rw [ih.2] at hstep hnext
    rw [exchanges_append, happens_append, after_append]
    exact ⟨⟨ih.1, hstep⟩, hnext⟩
  | cancel _ ih =>
    rw [exchanges_cancelled]
    exact ih

/-! ### Where a task stands -/

/-- Where a task stands that has started with a procedure: where its exchanges lead, unless it has
been cancelled and is over. -/
inductive Stands (q : Procedure α) (es : List Event) (sys : System ρ α) (i : Nat) : Prop where
  | live {rest : Procedure α} (hl : Leads q (own i es) rest) (hn : .cancelled i ∉ es)
      (ht : sys.tasks[i]? = some rest)
  | ended {rest : Procedure α} {result : α} (hl : Leads q (own i es) rest)
      (hc : .cancelled i ∈ es) (ht : sys.tasks[i]? = some (.done result))

variable {q : Procedure α}

lemma Stands.step (h : Stands q es sys i) (hs : Steps remote sys j fs next) :
    Stands q (es ++ fs) next i := by
  cases hs with
  | idles => rwa [List.append_nil]
  | waits key =>
    rw [List.append_nil]
    cases h with
    | live hl hn ht => exact .live hl hn ht
    | ended hl hc ht => exact .ended hl hc ht
  | goesOn htask hturn =>
    by_cases hj : j = i
    · subst hj
      cases h with
      | live hl hn ht =>
        obtain rfl := Option.some_inj.mp (ht.symm.trans htask)
        have hlt := (List.getElem?_eq_some_iff.mp htask).1
        refine .live ?_ (by simpa using hn) (List.getElem?_set_self hlt)
        rw [own_append, own_self]
        exact hl.concat _
      | ended hl hc ht =>
        rw [ht, Option.some_inj] at htask
        contradiction
    · have hown (x : Exchange) : own i (es ++ [.exchange j x]) = own i es := by
        rw [own_append, own_other hj, List.append_nil]
      cases h with
      | live hl hn ht =>
        exact .live (by rwa [hown]) (by simpa using hn) ((List.getElem?_set_ne hj).trans ht)
      | ended hl hc ht =>
        exact .ended (by rwa [hown]) (List.mem_append_left _ hc)
          ((List.getElem?_set_ne hj).trans ht)

lemma Stands.exists_leads (h : Stands q es sys i) : ∃ rest, Leads q (own i es) rest := by
  cases h with
  | live hl _ _ => exact ⟨_, hl⟩
  | ended hl _ _ => exact ⟨_, hl⟩

lemma Stands.cancel (h : Stands q es sys i) (j : Nat) (result : α) :
    Stands q (es ++ [.cancelled j]) (sys.cancel j result) i := by
  by_cases hj : j = i
  · subst hj
    obtain ⟨rest, hl⟩ := h.exists_leads
    have hlt : j < sys.tasks.length := by
      cases h with
      | live _ _ ht => exact (List.getElem?_eq_some_iff.mp ht).1
      | ended _ _ ht => exact (List.getElem?_eq_some_iff.mp ht).1
    exact .ended (by rwa [own_cancelled]) (by simp) (List.getElem?_set_self hlt)
  · have hother : (sys.cancel j result).tasks[i]? = sys.tasks[i]? := List.getElem?_set_ne hj
    cases h with
    | live hl hn ht =>
      exact .live (by rwa [own_cancelled]) (by simp [hn, Ne.symm hj]) (hother.trans ht)
    | ended hl hc ht =>
      exact .ended (by rwa [own_cancelled]) (List.mem_append_left _ hc) (hother.trans ht)

theorem Reaches.stands (h : Reaches remote start es sys) (hq : start.tasks[i]? = some q) :
    Stands q es sys i := by
  induction h using Reaches.induct with
  | first => exact .live (.refl q) List.not_mem_nil hq
  | step _ _ hs ih => exact ih.step hs
  | cancel _ ih => exact ih.cancel _ _

lemma Steps.length_eq (h : Steps remote sys i fs next) :
    next.tasks.length = sys.tasks.length := by
  cases h with
  | idles => rfl
  | waits key => rfl
  | goesOn ht hl => exact List.length_set

lemma Reaches.length_eq (h : Reaches remote start es sys) :
    sys.tasks.length = start.tasks.length := by
  induction h using Reaches.induct with
  | first => rfl
  | step _ _ hs ih => exact hs.length_eq.trans ih
  | cancel _ ih => exact List.length_set.trans ih

/-- A task that stands at a request has started, has not been cancelled, and was led there. -/
lemma Reaches.leads_of_ask (h : Reaches remote start es sys) {request : Request}
    {resume : request.Answer → Procedure α} (ht : sys.tasks[i]? = some (.ask request resume)) :
    ∃ q, start.tasks[i]? = some q ∧ .cancelled i ∉ es ∧
      Leads q (own i es) (.ask request resume) := by
  have hlt := (List.getElem?_eq_some_iff.mp ht).1
  rw [h.length_eq] at hlt
  have hq := List.getElem?_eq_getElem hlt
  refine ⟨_, hq, ?_⟩
  cases h.stands hq with
  | live hl hn hrest =>
    rw [ht, Option.some_inj] at hrest
    exact ⟨hn, hrest ▸ hl⟩
  | ended hl hc hdone =>
    rw [ht, Option.some_inj] at hdone
    contradiction

/-- What has happened up to some time is a run as well. -/
lemma Reaches.take (h : Reaches remote start es sys) (n : Nat) :
    ∃ before, Reaches remote start (es.take n) before := by
  have hsnoc {es : List Event} {e : Event} {sys : System ρ α}
      (h : Reaches remote start (es ++ [e]) sys)
      (ih : ∃ before, Reaches remote start (es.take n) before) :
      ∃ before, Reaches remote start ((es ++ [e]).take n) before := by
    by_cases hn : n ≤ es.length
    · rwa [List.take_append_of_le_length hn]
    · rw [List.take_of_length_le (by rw [List.length_append, List.length_singleton]; omega)]
      exact ⟨sys, h⟩
  induction h using Reaches.exchange_induct with
  | first => exact ⟨start, by rw [List.take_nil]; exact .start⟩
  | waits _ _ ih => exact ih
  | exchange _ _ h' ih => exact hsnoc h' ih
  | @cancel es sys j result h ih => exact hsnoc (h.cancel j result) ih

/-- A task that has done something stood at the request before. -/
lemma Reaches.exists_ask (h : Reaches remote start es sys) {n : Nat} {x : Exchange}
    (hn : es[n]? = some (.exchange i x)) :
    ∃ before resume, Reaches remote start (es.take n) before ∧
      before.tasks[i]? = some (.ask x.request resume) := by
  induction h using Reaches.exchange_induct with
  | first => simp at hn
  | waits _ _ ih => exact ih hn
  | @exchange es sys j request resume locks h ht _ ih =>
    rcases Nat.lt_or_ge n es.length with hlt | hge
    · rw [List.getElem?_append_left hlt] at hn
      rw [List.take_append_of_le_length (Nat.le_of_lt hlt)]
      exact ih hn
    · rw [List.getElem?_append_right hge] at hn
      have hlast : n = es.length := by
        have hlt := (List.getElem?_eq_some_iff.mp hn).1
        rw [List.length_singleton] at hlt
        omega
      obtain ⟨rfl, rfl⟩ := Event.exchange.inj (List.mem_singleton.mp (List.mem_of_getElem? hn))
      rw [hlast, List.take_left]
      exact ⟨sys, resume, h, ht⟩
  | @cancel es sys j result h ih =>
    rcases Nat.lt_or_ge n es.length with hlt | hge
    · rw [List.getElem?_append_left hlt] at hn
      rw [List.take_append_of_le_length (Nat.le_of_lt hlt)]
      exact ih hn
    · rw [List.getElem?_append_right hge] at hn
      have he := List.mem_of_getElem? hn
      simp at he

lemma Reaches.not_cancelled (h : Reaches remote start es sys) {n : Nat} {x : Exchange}
    (hn : es[n]? = some (.exchange i x)) : .cancelled i ∉ es.take n := by
  obtain ⟨before, resume, hbefore, ht⟩ := h.exists_ask hn
  obtain ⟨q, -, hc, -⟩ := hbefore.leads_of_ask ht
  exact hc

/-- A task to which something has happened has started, and was led on by it. -/
lemma Reaches.exists_leads (h : Reaches remote start es sys) {x : Exchange} (hx : x ∈ own i es) :
    ∃ q rest, start.tasks[i]? = some q ∧ Leads q (own i es) rest := by
  obtain ⟨n, hn⟩ := List.mem_iff_getElem?.mp (mem_own_iff.mp hx)
  obtain ⟨before, resume, hbefore, ht⟩ := h.exists_ask hn
  obtain ⟨q, hq, -⟩ := hbefore.leads_of_ask ht
  obtain ⟨rest, hl⟩ := (h.stands hq).exists_leads
  exact ⟨q, rest, hq, hl⟩

end System

/-! ### Sections -/

/-- Whether a task with these exchanges has taken a lock and done `since` without giving it back. -/
def Inside (key : String) (since xs : List Exchange) : Prop :=
  ∃ pre, xs = pre ++ ⟨.lock key, ()⟩ :: since ∧ ⟨.unlock key, ()⟩ ∉ since

lemma Inside.concat {key : String} {since xs : List Exchange} {x : Exchange}
    (h : Inside key since (xs ++ [x])) :
    (x = ⟨.lock key, ()⟩ ∧ since = []) ∨
      ∃ before, since = before ++ [x] ∧ x ≠ ⟨.unlock key, ()⟩ ∧ Inside key before xs := by
  obtain ⟨pre, hxs, hn⟩ := h
  rcases List.eq_nil_or_concat since with rfl | ⟨before, y, rfl⟩
  · obtain ⟨-, hx⟩ := List.append_inj' hxs rfl
    exact .inl ⟨(List.singleton_inj.mp hx), rfl⟩
  · rw [List.concat_eq_append] at hxs hn ⊢
    rw [← List.cons_append, ← List.append_assoc] at hxs
    obtain ⟨hbefore, hx⟩ := List.append_inj' hxs rfl
    obtain rfl := List.singleton_inj.mp hx
    rw [List.mem_append, not_or, List.mem_singleton] at hn
    exact .inr ⟨before, rfl, Ne.symm hn.2, pre, hbefore, hn.1⟩

namespace System

variable {start sys next : System ρ α} {es fs : List Event}

/-- Whether the claims are in order, and the tasks inside a section hold its key. -/
structure IsLocked (es : List Event) (locks : KeyedLocks) : Prop where
  sound : locks.IsSound
  holds : ∀ i key since, .cancelled i ∉ es → Inside key since (own i es) →
    locks.holds i key = true

lemma Turns.sound {l l' : KeyedLocks} {request : Request} (h : Turns l i request l')
    (hl : l.IsSound) : l'.IsSound := by
  cases h with
  | locks hl' _ =>
    rcases hl' with rfl | rfl
    · exact hl
    · exact hl.claim i _
  | unlocks key => exact hl.release i key
  | other => exact hl

/-- A request of one task takes no key from another one. -/
lemma Turns.holds {l l' : KeyedLocks} {request : Request} (h : Turns l j request l')
    (hh : l.holds i key = true) (hne : j ≠ i ∨ request ≠ .unlock key) :
    l'.holds i key = true := by
  cases h with
  | locks hl' _ =>
    rcases hl' with rfl | rfl
    · exact hh
    · exact KeyedLocks.holds_claim hh j _
  | unlocks other =>
    refine KeyedLocks.holds_release hh (hne.imp_right ?_)
    rintro hn rfl
    exact hn rfl
  | other => exact hh

lemma IsLocked.step (h : IsLocked es sys.locks) (hs : Steps remote sys j fs next) :
    IsLocked (es ++ fs) next.locks := by
  cases hs with
  | idles => rwa [List.append_nil]
  | waits key =>
    rw [List.append_nil]
    exact ⟨h.sound.claim j key, fun i other since hn hi =>
      KeyedLocks.holds_claim (h.holds i other since hn hi) j key⟩
  | @goesOn request resume locks ht hturn =>
    refine ⟨hturn.sound h.sound, fun i key since hn hi => ?_⟩
    have hn' : .cancelled i ∉ es := by simpa using hn
    by_cases hj : j = i
    · subst hj
      rw [own_append, own_self] at hi
      rcases hi.concat with ⟨hx, -⟩ | ⟨before, -, hx, hi⟩
      · obtain rfl : request = .lock key := congrArg Exchange.request hx
        cases hturn with
        | locks _ hholds => exact hholds
        | other hl => exact absurd rfl (hl key)
      · refine hturn.holds (h.holds j key before hn' hi) (.inr ?_)
        rintro rfl
        exact hx rfl
    · rw [own_append, own_other hj, List.append_nil] at hi
      exact hturn.holds (h.holds i key since hn' hi) (.inl hj)

lemma IsLocked.cancel (h : IsLocked es sys.locks) (j : Nat) (result : α) :
    IsLocked (es ++ [.cancelled j]) (sys.cancel j result).locks := by
  refine ⟨h.sound.cancel j, fun i key since hn hi => ?_⟩
  rw [own_cancelled] at hi
  have hne : j ≠ i ∧ .cancelled i ∉ es := by
    simp only [List.mem_append, List.mem_singleton, Event.cancelled.injEq, not_or] at hn
    exact ⟨Ne.symm hn.2, hn.1⟩
  exact KeyedLocks.holds_cancel (h.holds i key since hne.2 hi) hne.1

lemma Reaches.isLocked (h : Reaches remote start es sys) (hstart : start.locks = {}) :
    IsLocked es sys.locks := by
  induction h using Reaches.induct with
  | first =>
    rw [hstart]
    refine ⟨KeyedLocks.isSound_empty, fun i key since _ hi => ?_⟩
    obtain ⟨pre, hxs, -⟩ := hi
    simp [own] at hxs
  | step _ _ hs ih => exact ih.step hs
  | cancel _ ih => exact ih.cancel _ _

/-- No two tasks are inside sections of one key. -/
theorem Reaches.eq_of_inside (h : Reaches remote start es sys) (hstart : start.locks = {})
    {since since' : List Exchange} (hi : Inside key since (own i es))
    (hni : .cancelled i ∉ es) (hj : Inside key since' (own j es)) (hnj : .cancelled j ∉ es) :
    i = j := by
  have hlocked := h.isLocked hstart
  exact hlocked.sound.eq_of_holds (hlocked.holds i key since hni hi)
    (hlocked.holds j key since' hnj hj)

/-! ### What a section protects -/

section Protected

variable {β : Type} {view : State ρ → β} {Writes : Request → Prop}

/-- Whether a view of the state is only written by tasks inside sections of a key. -/
structure Protects (remote : Catalog ρ) (start : System ρ α) (key : String)
    (view : State ρ → β) (Writes : Request → Prop) : Prop where
  locks_eq : start.locks = {}
  frame : ∀ request w, ¬ Writes request → view (answer remote request w).2 = view w
  inside : ∀ {es sys j request} {resume : request.Answer → Procedure α},
    Reaches remote start es sys → sys.tasks[j]? = some (.ask request resume) → Writes request →
      ∃ since, Inside key since (own j es)

/-- What a task has seen inside a section is still so until it writes itself. -/
theorem Protects.view_eq (hp : Protects remote start key view Writes)
    (h : Reaches remote start es sys) (hn : .cancelled i ∉ es) (before : List Exchange)
    {rest : List Exchange} {x : Exchange} (hi : Inside key (before ++ x :: rest) (own i es))
    (hrest : ∀ y ∈ rest, ¬ Writes y.request) {v : β}
    (hread : ∀ w, x.answer = (answer remote x.request w).1 →
      view (answer remote x.request w).2 = v) : view sys.state = v := by
  induction h using Reaches.exchange_induct generalizing rest with
  | first =>
    obtain ⟨pre, hxs, -⟩ := hi
    simp [own] at hxs
  | waits _ _ ih => exact ih hn hi hrest
  | @exchange es sys j request resume locks h ht _ ih =>
    have hn' : .cancelled i ∉ es := fun hc => hn (List.mem_append_left _ hc)
    by_cases hj : j = i
    · subst hj
      rw [own_append, own_self] at hi
      rcases hi.concat with ⟨-, hnil⟩ | ⟨earlier, hsince, -, hearlier⟩
      · simp at hnil
      · -- the new exchange is the one that shows the view, or comes after it
        rcases List.eq_nil_or_concat rest with rfl | ⟨more, y, rfl⟩
        · obtain ⟨-, hx⟩ := List.append_inj' hsince rfl
          obtain rfl := List.singleton_inj.mp hx
          exact hread sys.state rfl
        · rw [List.concat_eq_append] at hsince hrest
          rw [← List.cons_append, ← List.append_assoc] at hsince
          obtain ⟨rfl, hy⟩ := List.append_inj' hsince rfl
          obtain rfl := List.singleton_inj.mp hy
          have hkeeps := hrest _ (List.mem_append_right more (List.mem_singleton.mpr rfl))
          exact (hp.frame request sys.state hkeeps).trans
            (ih hn' hearlier fun z hz => hrest z (List.mem_append_left _ hz))
    · rw [own_append, own_other hj, List.append_nil] at hi
      have hkeeps : ¬ Writes request := by
        intro hwrites
        obtain ⟨since, hj'⟩ := hp.inside h ht hwrites
        obtain ⟨q, -, hnj, -⟩ := h.leads_of_ask ht
        exact hj (h.eq_of_inside hp.locks_eq hj' hnj hi hn')
      exact (hp.frame request sys.state hkeeps).trans (ih hn' hi hrest)
  | cancel _ ih =>
    rw [own_cancelled] at hi
    exact ih (fun hc => hn (List.mem_append_left _ hc)) hi hrest

end Protected

end System

end ModuleArchive.Cache
