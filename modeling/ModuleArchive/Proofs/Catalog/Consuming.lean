import ModuleArchive.Proofs.Catalog.Hint

/-!
# Two consumers of a listing

A visitor is shown the events of a listing up to the first one on which it breaks, and what comes
after that event does not matter, be it a failure. Collecting a listing is visiting it with a
visitor that never breaks and remembers the last hint and the items. To either of them a listing
with its items changed is the listing whose events are changed just before they are shown.
-/
namespace ModuleArchive

variable {σ α β γ : Type}

namespace ListEvent

def hint? : ListEvent α → Option Nat
  | hint n => some n
  | item _ => none

@[simp] lemma hint?_map (f : α → β) (e : ListEvent α) : (e.map f).hint? = e.hint? := by
  cases e <;> rfl

@[simp] lemma item?_map (f : α → β) (e : ListEvent α) : (e.map f).item? = e.item?.map f := by
  cases e <;> rfl

end ListEvent

namespace Listing

/-- What a visit answers: whether the listing was consumed to its end. -/
def Ending.answer : Ending → Except Catalog.Error Bool
  | complete => .ok true
  | failed cause => .error cause
  | dropped => .ok false

lemma Ending.answer_eq_ok_true {ending : Ending} :
    ending.answer = .ok true ↔ ending = .complete := by
  cases ending <;> simp [answer]

lemma Ending.answer_eq_error {ending : Ending} {cause : Catalog.Error} :
    ending.answer = .error cause ↔ ending = .failed cause := by
  cases ending <;> simp [answer]

def lastHint? (es : List (ListEvent α)) : Option Nat := (es.filterMap ListEvent.hint?).getLast?

/-! ### Events and a failure -/

lemma ending_eq (l : Listing σ α) (w : σ) :
    l.ending w = .complete ∨ ∃ cause, l.ending w = .failed cause := by
  induction l generalizing w with
  | finished => exact .inl rfl
  | failed cause => exact .inr ⟨cause, rfl⟩
  | event e rest ih => exact ih w
  | work run rest ih => exact ih w (run w)

lemma take_ofEvents (es : List (ListEvent α)) (failure : Option Catalog.Error) (w : σ) :
    (ofEvents es failure : Listing σ α).take none w = (es, failure.elim .complete .failed, w) := by
  cases failure with
  | none => exact take_append w es
  | some cause =>
    rw [ofEvents, (yields_append es _ w).take_none, take, List.append_nil]
    · rfl
    · exact (Option.some_ne_none 0).symm

/-! ### Visitors that break -/

section Visit

variable {visitor : γ → ListEvent α → γ × Bool} {c : γ} {e : ListEvent α}
  {es : List (ListEvent α)} {n : Nat}

/-- Whether a visitor breaks on the event with this number, after it has been shown those before. -/
def BreaksAt (visitor : γ → ListEvent α → γ × Bool) (c : γ) (es : List (ListEvent α)) (n : Nat) :
    Prop :=
  ∃ e, es[n]? = some e ∧ (visitor (shown visitor c (es.take n)) e).2 = true

/-- Whether this is the first event on which a visitor breaks. -/
def FirstBreaksAt (visitor : γ → ListEvent α → γ × Bool) (c : γ) (es : List (ListEvent α))
    (n : Nat) : Prop :=
  BreaksAt visitor c es n ∧ ∀ m < n, ¬ BreaksAt visitor c es m

lemma breaksAt_zero : BreaksAt visitor c (e :: es) 0 ↔ (visitor c e).2 = true := by
  simp [BreaksAt, shown]

lemma breaksAt_succ :
    BreaksAt visitor c (e :: es) (n + 1) ↔ BreaksAt visitor (visitor c e).1 es n := by
  simp [BreaksAt, shown]

lemma not_breaksAt_nil : ¬ BreaksAt visitor c [] n := by simp [BreaksAt]

/-- Breaking later is breaking on one of the events that follow. -/
lemma FirstBreaksAt.tail (h : FirstBreaksAt visitor c (e :: es) (n + 1)) :
    (visitor c e).2 = false ∧ FirstBreaksAt visitor (visitor c e).1 es n := by
  obtain ⟨hbreak, hfirst⟩ := h
  refine ⟨?_, breaksAt_succ.mp hbreak, fun m hm hearlier => ?_⟩
  · have hzero := hfirst 0 n.succ_pos
    rwa [breaksAt_zero, Bool.not_eq_true] at hzero
  · exact hfirst (m + 1) (Nat.succ_lt_succ hm) (breaksAt_succ.mpr hearlier)

lemma visit_of_breaks (h : (visitor c e).2 = true) (rest : Listing σ α) (w : σ) :
    (event e rest).visit visitor c w = (.dropped, (visitor c e).1, w) := by
  simp [visit, h]

lemma visit_of_goesOn (h : (visitor c e).2 = false) (rest : Listing σ α) (w : σ) :
    (event e rest).visit visitor c w = rest.visit visitor (visitor c e).1 w := by
  simp [visit, h]

/-- A visitor that breaks has been shown the events up to that one, and no work is done after it. -/
lemma visit_of_firstBreaksAt {l : Listing σ α} {w : σ}
    (h : FirstBreaksAt visitor c (l.events w) n) :
    l.visit visitor c w =
      (.dropped, shown visitor c ((l.events w).take (n + 1)), (l.take (some (n + 1)) w).2.2) := by
  induction l generalizing c w n with
  | finished => exact absurd h.1 not_breaksAt_nil
  | failed cause => exact absurd h.1 not_breaksAt_nil
  | work run rest ih => exact ih w h
  | event e rest ih =>
    cases n with
    | zero =>
      rw [visit_of_breaks (breaksAt_zero.mp h.1), events_event, List.take_succ_cons,
        List.take_zero]
      cases rest <;> rfl
    | succ n =>
      obtain ⟨hgoes, htail⟩ := h.tail
      rw [visit_of_goesOn hgoes, ih htail]
      rfl

/-- A visitor that does not break is shown all events, and hears how the listing ends. -/
lemma visit_of_not_breaksAt {l : Listing σ α} {w : σ}
    (h : ∀ n, ¬ BreaksAt visitor c (l.events w) n) :
    l.visit visitor c w = (l.ending w, shown visitor c (l.events w), l.left w) := by
  induction l generalizing c w with
  | finished => rfl
  | failed cause => rfl
  | work run rest ih => exact ih w h
  | event e rest ih =>
    have hgoes : (visitor c e).2 = false := by
      have hzero := h 0
      rwa [events_event, breaksAt_zero, Bool.not_eq_true] at hzero
    have hrest : ∀ n, ¬ BreaksAt visitor (visitor c e).1 (rest.events w) n := fun n hn =>
      h (n + 1) (breaksAt_succ.mpr hn)
    rw [visit_of_goesOn hgoes, ih hrest]
    rfl

/-- A visitor that notes every event it is shown, besides what it does otherwise. -/
def noting (visitor : γ → ListEvent α → γ × Bool) (noted : γ × List (ListEvent α))
    (e : ListEvent α) : (γ × List (ListEvent α)) × Bool :=
  (((visitor noted.1 e).1, noted.2 ++ [e]), (visitor noted.1 e).2)

lemma shown_noting (notes es : List (ListEvent α)) :
    shown (noting visitor) (c, notes) es = (shown visitor c es, notes ++ es) := by
  induction es generalizing c notes with
  | nil => simp [shown]
  | cons e es ih =>
    have hstep := ih (c := (visitor c e).1) (notes ++ [e])
    rw [List.append_assoc, List.singleton_append] at hstep
    exact hstep

/-- Taking notes makes no difference to where a visitor breaks. -/
lemma breaksAt_noting {notes : List (ListEvent α)} :
    BreaksAt (noting visitor) (c, notes) es n ↔ BreaksAt visitor c es n := by
  rw [BreaksAt, shown_noting]
  rfl

lemma firstBreaksAt_noting {notes : List (ListEvent α)} :
    FirstBreaksAt (noting visitor) (c, notes) es n ↔ FirstBreaksAt visitor c es n := by
  simp only [FirstBreaksAt, breaksAt_noting]

end Visit

/-! ### Collecting -/

/-- A visitor that never breaks, and keeps the last hint and the items, the last one first. -/
def keeping (kept : Option Nat × List α) : ListEvent α → (Option Nat × List α) × Bool
  | .hint n => ((some n, kept.2), false)
  | .item a => ((kept.1, a :: kept.2), false)

lemma not_breaksAt_keeping (kept : Option Nat × List α) (es : List (ListEvent α)) (n : Nat) :
    ¬ BreaksAt keeping kept es n := by
  rintro ⟨e, -, hbreak⟩
  cases e <;> contradiction

lemma shown_keeping (kept : Option Nat × List α) (es : List (ListEvent α)) :
    shown keeping kept es =
      ((lastHint? es).or kept.1, (es.filterMap ListEvent.item?).reverse ++ kept.2) := by
  induction es generalizing kept with
  | nil => rfl
  | cons e es ih =>
    have hstep : shown keeping kept (e :: es) = shown keeping (keeping kept e).1 es := rfl
    rw [hstep, ih]
    cases e with
    | hint n =>
      have hlast : lastHint? (.hint n :: es) = (lastHint? es).or (some n) :=
        List.getLast?_cons.trans (Option.or_some.symm)
      rw [hlast, Option.or_assoc, Option.some_or]
      rfl
    | item a =>
      have hitems : (ListEvent.item a :: es).filterMap ListEvent.item? =
          a :: es.filterMap ListEvent.item? := rfl
      rw [hitems, List.reverse_cons, List.append_assoc]
      rfl

lemma collectInto_eq_visit (hint : Option Nat) (found : List α) (l : Listing σ α) (w : σ) :
    collectInto hint found l w =
      let visited := l.visit keeping (hint, found) w
      (visited.1.answer.map fun _ => (visited.2.1.1, visited.2.1.2.reverse), visited.2.2) := by
  induction l generalizing hint found w with
  | finished => rfl
  | failed cause => rfl
  | event e rest ih => cases e <;> exact ih _ _ _
  | work run rest ih => exact ih w _ _ _

section Collect

variable {l : Listing σ α} {w : σ} {cause : Catalog.Error}

/-- What is collected is the last hint and all items, unless the listing fails. -/
lemma collect_eq (l : Listing σ α) (w : σ) :
    l.collect w =
      ((l.ending w).answer.map fun _ => (lastHint? (l.events w), l.items w), l.left w) := by
  rw [collect, collectInto_eq_visit, visit_of_not_breaksAt (not_breaksAt_keeping _ _)]
  simp only [shown_keeping, Option.or_none, List.append_nil, List.reverse_reverse]
  rfl

lemma snd_collect (l : Listing σ α) (w : σ) : (l.collect w).2 = l.left w := by rw [collect_eq]

lemma collect_of_complete (h : l.ending w = .complete) :
    (l.collect w).1 = .ok (lastHint? (l.events w), l.items w) := by
  rw [collect_eq, h]
  rfl

lemma collect_of_failed (h : l.ending w = .failed cause) : (l.collect w).1 = .error cause := by
  rw [collect_eq, h]
  rfl

lemma collect_eq_ok_iff {found : Option Nat × List α} : (l.collect w).1 = .ok found ↔
    l.ending w = .complete ∧ found = (lastHint? (l.events w), l.items w) := by
  obtain hend | ⟨cause, hend⟩ := l.ending_eq w
  · rw [collect_of_complete hend, Except.ok.injEq]
    exact ⟨fun h => ⟨hend, h.symm⟩, fun h => h.2.symm⟩
  · rw [collect_of_failed hend, hend]
    exact iff_of_false (fun h => by cases h) fun h => by cases h.1

lemma collect_eq_error_iff : (l.collect w).1 = .error cause ↔ l.ending w = .failed cause := by
  obtain hend | ⟨other, hend⟩ := l.ending_eq w
  · rw [collect_of_complete hend, hend]
    exact iff_of_false (fun h => by cases h) fun h => by cases h
  · rw [collect_of_failed hend, hend, Except.error.injEq, Ending.failed.injEq]

end Collect

/-! ### Items that are changed -/

lemma take_map (f : α → β) (l : Listing σ α) (limit : Option Nat) (w : σ) :
    (l.map f).take limit w =
      ((l.take limit w).1.map (ListEvent.map f), (l.take limit w).2) := by
  induction l generalizing limit w with
  | finished => rcases limit with - | - | n <;> rfl
  | failed cause => rcases limit with - | - | n <;> rfl
  | work run rest ih =>
    rcases limit with - | - | n
    · exact ih w none _
    · rfl
    · exact ih w (some (n + 1)) _
  | event e rest ih =>
    rcases limit with - | - | n
    · exact congrArg (fun taken => (e.map f :: taken.1, taken.2)) (ih none w)
    · rfl
    · exact congrArg (fun taken => (e.map f :: taken.1, taken.2)) (ih (some n) w)

lemma visit_map (f : α → β) (visitor : γ → ListEvent β → γ × Bool) (l : Listing σ α) (c : γ)
    (w : σ) :
    (l.map f).visit visitor c w = l.visit (fun c e => visitor c (e.map f)) c w := by
  induction l generalizing c w with
  | finished => rfl
  | failed cause => rfl
  | work run rest ih => exact ih w c _
  | event e rest ih =>
    let mapping := fun c e => visitor c (ListEvent.map f e)
    cases hbreaks : (visitor c (e.map f)).2 with
    | true =>
      have hmapping : (mapping c e).2 = true := hbreaks
      exact (visit_of_breaks hbreaks (rest.map f) w).trans (visit_of_breaks hmapping rest w).symm
    | false =>
      have hmapping : (mapping c e).2 = false := hbreaks
      exact (visit_of_goesOn hbreaks (rest.map f) w).trans
        ((ih _ w).trans (visit_of_goesOn hmapping rest w).symm)

lemma collect_map (f : α → β) (l : Listing σ α) (w : σ) :
    (l.map f).collect w =
      ((l.collect w).1.map fun found => (found.1, found.2.map f), (l.collect w).2) := by
  have hevents : (l.map f).events w = (l.events w).map (ListEvent.map f) :=
    congrArg (·.1) (take_map f l none w)
  have hhint : ListEvent.hint? ∘ ListEvent.map f = (ListEvent.hint? : ListEvent α → _) :=
    funext (ListEvent.hint?_map f)
  have hlast : lastHint? ((l.map f).events w) = lastHint? (l.events w) := by
    rw [lastHint?, hevents, List.filterMap_map, hhint, lastHint?]
  have hending : (l.map f).ending w = l.ending w := congrArg (·.2.1) (take_map f l none w)
  have hleft : (l.map f).left w = l.left w := congrArg (·.2.2) (take_map f l none w)
  rw [collect_eq, collect_eq, hlast, hending, hleft, items_map]
  cases l.ending w <;> rfl

/-! ### Both consumers -/

/-- What a visit answers, the events that the visitor is called on, in order, and the state that is
left of what is behind the listing. -/
structure Visits (l : Listing σ α) (w : σ) (visitor : γ → ListEvent α → γ × Bool) (c : γ)
    (answer : Except Catalog.Error Bool) (seen : List (ListEvent α)) (reached : σ) : Prop where
  answer_eq : (l.visit visitor c w).1.answer = answer
  noted_eq : (l.visit (noting visitor) (c, []) w).2.1 = (shown visitor c seen, seen)
  visitor_eq : (l.visit visitor c w).2.1 = shown visitor c seen
  left_eq : (l.visit visitor c w).2.2 = reached

section Visits

variable {visitor : γ → ListEvent α → γ × Bool} {c : γ} {l : Listing σ α} {w : σ} {n : Nat}

lemma visits_of_firstBreaksAt (h : FirstBreaksAt visitor c (l.events w) n) :
    Visits l w visitor c (.ok false) ((l.events w).take (n + 1))
      (l.take (some (n + 1)) w).2.2 where
  answer_eq := by
    rw [visit_of_firstBreaksAt h]
    rfl
  noted_eq := by
    rw [visit_of_firstBreaksAt (firstBreaksAt_noting.mpr h), shown_noting, List.nil_append]
  visitor_eq := by rw [visit_of_firstBreaksAt h]
  left_eq := by rw [visit_of_firstBreaksAt h]

lemma visits_of_not_breaksAt (h : ∀ n, ¬ BreaksAt visitor c (l.events w) n) :
    Visits l w visitor c (l.ending w).answer (l.events w) (l.left w) where
  answer_eq := by rw [visit_of_not_breaksAt h]
  noted_eq := by
    rw [visit_of_not_breaksAt fun n hn => h n (breaksAt_noting.mp hn), shown_noting,
      List.nil_append]
  visitor_eq := by rw [visit_of_not_breaksAt h]
  left_eq := by rw [visit_of_not_breaksAt h]

end Visits

/-- Any events, and the failure that may follow them, are what some listing delivers. Of what a
listing delivers, a visitor is called on the events up to the first one on which it breaks; the
visit answers `false` then, whatever comes after that event, and no work is done for it. A visitor
that does not break is called on all events, and the visit answers `true` or fails as the listing
does. Collecting succeeds exactly if a visitor that never breaks is answered `true`, and gives the
last hint and all items in order; it fails exactly as such a visit fails. To both, a listing with
its items changed is the listing with each event changed before it is shown, in its item only. -/
theorem consumers_agree (l : Listing σ α) (w : σ) :
    (∀ (es : List (ListEvent α)) (failure : Option Catalog.Error),
      (ofEvents es failure).take none w = (es, failure.elim .complete .failed, w)) ∧
    (∀ (γ : Type) (visitor : γ → ListEvent α → γ × Bool) (c : γ),
      (∀ n, FirstBreaksAt visitor c (l.events w) n →
        Visits l w visitor c (.ok false) ((l.events w).take (n + 1))
          (l.take (some (n + 1)) w).2.2) ∧
      ((∀ n, ¬ BreaksAt visitor c (l.events w) n) →
        Visits l w visitor c (l.ending w).answer (l.events w) (l.left w) ∧
        (l.ending w = .complete ∨ ∃ cause, l.ending w = .failed cause))) ∧
    (∀ (γ : Type) (visitor : γ → ListEvent α → γ × Bool) (c : γ),
      (∀ c e, (visitor c e).2 = false) →
        (∀ found, (l.collect w).1 = .ok found ↔ (l.visit visitor c w).1.answer = .ok true ∧
          found = (lastHint? (l.events w), (l.events w).filterMap ListEvent.item?)) ∧
        (∀ cause, (l.collect w).1 = .error cause ↔
          (l.visit visitor c w).1.answer = .error cause) ∧
        (l.collect w).2 = (l.visit visitor c w).2.2) ∧
    ∀ (β : Type) (f : α → β),
      (∀ e : ListEvent α, (e.map f).hint? = e.hint? ∧ (e.map f).item? = e.item?.map f) ∧
      (∀ limit, (l.map f).take limit w =
        ((l.take limit w).1.map (ListEvent.map f), (l.take limit w).2)) ∧
      (∀ (γ : Type) (visitor : γ → ListEvent β → γ × Bool) (c : γ),
        (l.map f).visit visitor c w = l.visit (fun c e => visitor c (e.map f)) c w) ∧
      (l.map f).collect w =
        ((l.collect w).1.map fun found => (found.1, found.2.map f), (l.collect w).2) := by
  refine ⟨fun es failure => take_ofEvents es failure w,
    fun γ visitor c => ⟨fun n h => ?_, fun h => ?_⟩, fun γ visitor c h => ?_,
    fun β f => ⟨fun e => ⟨?_, ?_⟩, fun limit => ?_, fun γ visitor c => ?_, ?_⟩⟩
  · exact visits_of_firstBreaksAt h
  · exact ⟨visits_of_not_breaksAt h, ending_eq l w⟩
  · have hgoes (n : Nat) : ¬ BreaksAt visitor c (l.events w) n := by
      rintro ⟨e, -, hbreak⟩
      rw [h] at hbreak
      contradiction
    rw [visit_of_not_breaksAt hgoes]
    refine ⟨fun found => ?_, fun cause => ?_, ?_⟩
    · rw [Ending.answer_eq_ok_true]
      exact collect_eq_ok_iff
    · rw [Ending.answer_eq_error]
      exact collect_eq_error_iff
    · exact snd_collect l w
  · exact ListEvent.hint?_map f e
  · exact ListEvent.item?_map f e
  · exact take_map f l limit w
  · exact visit_map f visitor l c w
  · exact collect_map f l w

/-- A listing that fails after its second hint. A visitor that breaks on the first item does not
hear of it; one that never breaks does, and then nothing is collected. -/
theorem consumers_agree_failingListing :
    let l : Listing Nat Nat := .work (· + 1) fun _ =>
      ofEvents [.hint 3, .item 4, .hint 2] (some .unavailable)
    let breaking : Nat → ListEvent Nat → Nat × Bool := fun shown e => (shown + 1, e.item?.isSome)
    let counting : Nat → ListEvent Nat → Nat × Bool := fun shown _ => (shown + 1, false)
    FirstBreaksAt breaking 0 (l.events 0) 1 ∧
      Visits l 0 breaking 0 (.ok false) [.hint 3, .item 4] 1 ∧
    (∀ c e, (counting c e).2 = false) ∧
      (l.visit counting 0 0).1.answer = .error .unavailable ∧
      (l.collect 0).1 = .error .unavailable := by
  intro l breaking counting
  obtain ⟨-, hvisit, hcollect, -⟩ := consumers_agree l 0
  have hfirst : FirstBreaksAt breaking 0 (l.events 0) 1 := by
    refine ⟨⟨.item 4, rfl, rfl⟩, fun m hm => ?_⟩
    obtain rfl : m = 0 := Nat.lt_one_iff.mp hm
    exact breaksAt_zero.not.mpr Bool.false_ne_true
  have hnever : ∀ c e, (counting c e).2 = false := fun _ _ => rfl
  obtain ⟨-, hfails, -⟩ := hcollect Nat counting 0 hnever
  have hanswer : (l.visit counting 0 0).1.answer = .error .unavailable := rfl
  exact ⟨hfirst, (hvisit Nat breaking 0).1 1 hfirst, hnever, hanswer, (hfails _).mpr hanswer⟩

end Listing

end ModuleArchive
