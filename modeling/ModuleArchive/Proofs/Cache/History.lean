import ModuleArchive.Cache.Catalog
import ModuleArchive.Proofs.Cache.Lookup
import ModuleArchive.Proofs.Index.Run

/-!
# The history of a cached catalog

The index of a cached catalog that was new is given by the writes that succeeded since, so every
answer of the index can be read off the exchanges before it. A run is a sequence of calls, each
carried out or cut off after some of its requests.
-/
namespace ModuleArchive.Cache

open Index (Write ofWrites)

variable {ρ : Type} {remote : Catalog ρ} {w : State ρ}

/-- Whether nothing has been written yet to the index of a cached catalog. -/
structure State.IsNew (w : State ρ) : Prop where
  isOpen : w.repository.isOpen = true
  index_eq : w.repository.index = {}

/-- The write that has been made by an exchange. -/
def Exchange.write? : Exchange → Option Write
  | ⟨.replace s items time, .ok ()⟩ => some (.replace s items time)
  | ⟨.putGroup g group, .ok ()⟩ => some (.putGroup g group)
  | ⟨.putTrack g id track, .ok ()⟩ => some (.putTrack g id track)
  | _ => none

/-- The writes that have been made, oldest first. -/
def writes (xs : List Exchange) : List Write := xs.filterMap Exchange.write?

/-- The exchange by which a write is made. -/
def exchangeOf : Write → Exchange
  | .replace s items time => ⟨.replace s items time, .ok ()⟩
  | .putGroup g group => ⟨.putGroup g group, .ok ()⟩
  | .putTrack g id track => ⟨.putTrack g id track, .ok ()⟩

lemma eq_exchangeOf {x : Exchange} {write : Write} (h : x.write? = some write) :
    x = exchangeOf write := by
  obtain ⟨request, given⟩ := x
  cases request with
  | replace s items time =>
    cases given with
    | ok => exact congrArg exchangeOf (Option.some_inj.mp h)
    | error e => contradiction
  | putGroup g group =>
    cases given with
    | ok => exact congrArg exchangeOf (Option.some_inj.mp h)
    | error e => contradiction
  | putTrack g id track =>
    cases given with
    | ok => exact congrArg exchangeOf (Option.some_inj.mp h)
    | error e => contradiction
  | _ => contradiction

lemma exchangeOf_mem {xs : List Exchange} {write : Write} (h : write ∈ writes xs) :
    exchangeOf write ∈ xs := by
  obtain ⟨x, hx, hw⟩ := List.mem_filterMap.mp h
  rwa [← eq_exchangeOf hw]

lemma mem_writes {xs : List Exchange} {write : Write} (h : exchangeOf write ∈ xs) :
    write ∈ writes xs := by
  refine List.mem_filterMap.mpr ⟨_, h, ?_⟩
  cases write <;> rfl

lemma writes_cons (x : Exchange) (xs : List Exchange) :
    writes (x :: xs) = x.write?.toList ++ writes xs := by
  rw [writes, List.filterMap_cons]
  cases x.write? <;> rfl

lemma writes_append (xs ys : List Exchange) : writes (xs ++ ys) = writes xs ++ writes ys :=
  List.filterMap_append

/-! ### The index -/

/-- Whether the index is open and these writes have made it what it is. -/
structure State.Holds (w : State ρ) (ws : List Write) : Prop where
  isOpen : w.repository.isOpen = true
  index_eq : w.repository.index = ofWrites ws

lemma State.IsNew.holds (h : w.IsNew) : w.Holds [] := ⟨h.isOpen, h.index_eq⟩

lemma State.Holds.query_eq {ws : List Write} (h : w.Holds ws) {α : Type}
    (read : Index → Except Index.Error α) : w.repository.query read = read (ofWrites ws) := by
  rw [Repository.query, if_pos h.isOpen, h.index_eq]

/-- A write succeeds and is made, or fails and changes nothing. -/
lemma State.Holds.update {ws : List Write} (h : w.Holds ws) (write : Write)
    {given : Except Index.Error Unit} (hg : given = (w.update (write.run ·)).1) :
    (given = .ok () ∧ (w.update (write.run ·)).2.Holds (ws ++ [write])) ∨
      given = .error (.invalidData "track size") ∧ (¬ ∀ t ∈ write.tracks, Index.Fits t) ∧
        (w.update (write.run ·)).2.Holds (ws ++ []) := by
  have hwrite : w.repository.update (write.run ·) = _ := Repository.write_eq h.isOpen write
  subst hg
  by_cases hf : ∀ t ∈ write.tracks, Index.Fits t
  · rw [if_pos hf, h.index_eq, ← Index.ofWrites_concat] at hwrite
    simp only [State.update, hwrite]
    exact .inl ⟨trivial, h.isOpen, rfl⟩
  · rw [if_neg hf] at hwrite
    simp only [State.update, hwrite, List.append_nil]
    exact .inr ⟨trivial, hf, h.isOpen, h.index_eq⟩

/-- One exchange makes the write that it stands for, and no other. -/
lemma State.Holds.step {ws : List Write} (h : w.Holds ws) (x : Exchange)
    (hx : x.answer = (answer remote x.request w).1) :
    ((answer remote x.request w).2).Holds (ws ++ x.write?.toList) := by
  have hkeep {w' : State ρ} (hw : w'.repository = w.repository) : w'.Holds (ws ++ []) := by
    rw [List.append_nil]
    exact ⟨hw ▸ h.isOpen, hw ▸ h.index_eq⟩
  obtain ⟨request, given⟩ := x
  cases request with
  | replace s items time =>
    obtain ⟨rfl, hu⟩ | ⟨rfl, -, hu⟩ := h.update (.replace s items time) hx
    · exact hu
    · exact hu
  | putGroup g group =>
    obtain ⟨rfl, hu⟩ | ⟨rfl, -, hu⟩ := h.update (.putGroup g group) hx
    · exact hu
    · exact hu
  | putTrack g id track =>
    obtain ⟨rfl, hu⟩ | ⟨rfl, -, hu⟩ := h.update (.putTrack g id track) hx
    · exact hu
    · exact hu
  | now => exact hkeep rfl
  | refreshedAt s => exact hkeep rfl
  | list s => exact hkeep rfl
  | getGroup g id => exact hkeep rfl
  | findTrack g id filename => exact hkeep rfl
  | lock key => exact hkeep rfl
  | unlock key => exact hkeep rfl
  | fetchSet s => exact hkeep rfl
  | fetchGroup g id => exact hkeep rfl
  | fetchTrack g id filename => exact hkeep rfl
  | fetchContent path => exact hkeep rfl
  | readContent path => exact hkeep rfl
  | writeContent path content => exact hkeep rfl

/-- The exchanges make the writes that they stand for. -/
theorem State.Holds.after {ws : List Write} (h : w.Holds ws) {xs : List Exchange}
    (hx : Happens (answer remote) w xs) : (after (answer remote) w xs).Holds (ws ++ writes xs) := by
  induction xs generalizing w ws with
  | nil => simpa [writes] using h
  | cons x xs ih =>
    have hrest := ih (h.step x hx.1) hx.2
    rw [after_cons, writes_cons, ← List.append_assoc]
    exact hrest

/-- Whatever the index is like, a write that succeeds is made, and one that fails changes
nothing. -/
lemma index_update (write : Write) {given : Except Index.Error Unit}
    (hg : given = (w.update (write.run ·)).1) :
    (given = .ok () ∧
        (w.update (write.run ·)).2.repository.index = write.apply w.repository.index) ∨
      (∃ e, given = .error e) ∧
        (w.update (write.run ·)).2.repository.index = w.repository.index := by
  subst hg
  by_cases ho : w.repository.isOpen = true
  · by_cases hf : ∀ t ∈ write.tracks, Index.Fits t
    · simp [State.update, Repository.update, write.run_eq, ho, if_pos hf]
    · simp [State.update, Repository.update, write.run_eq, ho, if_neg hf]
  · simp [State.update, Repository.update, ho]

lemma index_answer (x : Exchange) (hx : x.answer = (answer remote x.request w).1) :
    (answer remote x.request w).2.repository.index =
      x.write?.toList.foldl Write.apply w.repository.index := by
  obtain ⟨request, given⟩ := x
  cases request with
  | replace s items time =>
    obtain ⟨rfl, hix⟩ | ⟨⟨e, rfl⟩, hix⟩ := index_update (.replace s items time) hx <;> exact hix
  | putGroup g group =>
    obtain ⟨rfl, hix⟩ | ⟨⟨e, rfl⟩, hix⟩ := index_update (.putGroup g group) hx <;> exact hix
  | putTrack g id track =>
    obtain ⟨rfl, hix⟩ | ⟨⟨e, rfl⟩, hix⟩ := index_update (.putTrack g id track) hx <;> exact hix
  | _ => rfl

lemma index_after {xs : List Exchange} (h : Happens (answer remote) w xs) :
    (after (answer remote) w xs).repository.index =
      (writes xs).foldl Write.apply w.repository.index := by
  induction xs generalizing w with
  | nil => rfl
  | cons x xs ih =>
    rw [after_cons, ih h.2, index_answer x h.1, ← List.foldl_append, ← writes_cons]

lemma State.IsNew.after (h : w.IsNew) {xs : List Exchange}
    (hx : Happens (answer remote) w xs) : (after (answer remote) w xs).Holds (writes xs) :=
  h.holds.after hx

/-! ### Answers of the index -/

section Answers

variable {before rest : List Exchange}

lemma State.IsNew.refreshedAt_eq (hw : w.IsNew) {s : Scope}
    {found : Except Index.Error (Option Instant)}
    (h : Happens (answer remote) w (before ++ ⟨.refreshedAt s, found⟩ :: rest)) :
    found = (ofWrites (writes before)).refreshedAt s :=
  h.answer_eq.trans ((hw.after (happens_append.mp h).1).query_eq (·.refreshedAt s))

lemma State.IsNew.list_eq (hw : w.IsNew) {s : Scope} {found : Except Index.Error (List s.Item)}
    (h : Happens (answer remote) w (before ++ ⟨.list s, found⟩ :: rest)) :
    found = (ofWrites (writes before)).list s :=
  h.answer_eq.trans ((hw.after (happens_append.mp h).1).query_eq (·.list s))

lemma State.IsNew.getGroup_eq (hw : w.IsNew) {g : Grouping} {id : UInt32}
    {found : Except Index.Error (Option Group)}
    (h : Happens (answer remote) w (before ++ ⟨.getGroup g id, found⟩ :: rest)) :
    found = (ofWrites (writes before)).getGroup g id :=
  h.answer_eq.trans ((hw.after (happens_append.mp h).1).query_eq (·.getGroup g id))

lemma State.IsNew.findTrack_eq (hw : w.IsNew) {g : Grouping} {id : UInt32} {filename : String}
    {found : Except Index.Error (Option Track)}
    (h : Happens (answer remote) w (before ++ ⟨.findTrack g id filename, found⟩ :: rest)) :
    found = (ofWrites (writes before)).findTrack g id filename :=
  h.answer_eq.trans ((hw.after (happens_append.mp h).1).query_eq (·.findTrack g id filename))

/-- A set whose tracks can all be stored is stored. -/
lemma State.IsNew.replace_eq (hw : w.IsNew) {s : Scope} {items : List s.Item} {time : Instant}
    {stored : Except Index.Error Unit}
    (h : Happens (answer remote) w (before ++ ⟨.replace s items time, stored⟩ :: rest))
    (hf : ∀ t ∈ (Write.replace s items time).tracks, Index.Fits t) : stored = .ok () := by
  obtain ⟨hok, -⟩ | ⟨-, hn, -⟩ :=
    (hw.after (happens_append.mp h).1).update (.replace s items time) h.answer_eq
  · exact hok
  · exact absurd hf hn

lemma State.IsNew.putGroup_eq (hw : w.IsNew) {g : Grouping} {group : Group}
    {stored : Except Index.Error Unit}
    (h : Happens (answer remote) w (before ++ ⟨.putGroup g group, stored⟩ :: rest)) :
    stored = .ok () := by
  obtain ⟨hok, -⟩ | ⟨-, hn, -⟩ :=
    (hw.after (happens_append.mp h).1).update (.putGroup g group) h.answer_eq
  · exact hok
  · exact absurd (fun _ hm => absurd hm List.not_mem_nil) hn

lemma State.IsNew.putTrack_eq (hw : w.IsNew) {g : Grouping} {id : UInt32} {track : Track}
    {stored : Except Index.Error Unit}
    (h : Happens (answer remote) w (before ++ ⟨.putTrack g id track, stored⟩ :: rest))
    (hf : Index.Fits track) : stored = .ok () := by
  obtain ⟨hok, -⟩ | ⟨-, hn, -⟩ :=
    (hw.after (happens_append.mp h).1).update (.putTrack g id track) h.answer_eq
  · exact hok
  · exact absurd (List.forall_mem_singleton.mpr hf) hn

end Answers

/-! ### The clock -/

/-- The clock shows the same times in the same order, whatever happens. -/
lemma reading_after (remote : Catalog ρ) (w : State ρ) (xs : List Exchange) :
    (after (answer remote) w xs).clock.reading = w.clock.reading ∧
      w.clock.taken ≤ (after (answer remote) w xs).clock.taken := by
  induction xs generalizing w with
  | nil => exact ⟨rfl, Nat.le_refl _⟩
  | cons x xs ih =>
    rw [after_cons]
    obtain ⟨hr, ht⟩ := ih (answer remote x.request w).2
    have hstep : (answer remote x.request w).2.clock.reading = w.clock.reading ∧
        w.clock.taken ≤ (answer remote x.request w).2.clock.taken := by
      cases x.request <;> first
        | exact ⟨rfl, Nat.le_refl _⟩
        | exact ⟨rfl, Nat.le_succ _⟩
    exact ⟨hr.trans hstep.1, Nat.le_trans hstep.2 ht⟩

/-- A time that was read is one that the clock has shown before. -/
lemma exists_reading {xs : List Exchange} (h : Happens (answer remote) w xs) {time : Instant}
    (ht : ⟨.now, time⟩ ∈ xs) :
    ∃ n, w.clock.taken ≤ n ∧ n < (after (answer remote) w xs).clock.taken ∧
      time = w.clock.reading n := by
  obtain ⟨before, rest, rfl⟩ := List.append_of_mem ht
  have hnow := h.answer_eq
  obtain ⟨hr, hb⟩ := reading_after remote w before
  rw [after_append, after_cons]
  obtain ⟨-, hafter⟩ := reading_after remote
    (answer remote .now (after (answer remote) w before)).2 rest
  refine ⟨(after (answer remote) w before).clock.taken, hb, hafter, ?_⟩
  rw [← hr]
  exact hnow

end ModuleArchive.Cache
