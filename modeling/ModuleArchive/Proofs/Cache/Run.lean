import ModuleArchive.Proofs.Cache.History

/-!
# Runs of a cached catalog

A run is a sequence of calls, each made when the one before it is over. A call is carried out, or
cut off after some of its requests. What the operations of the catalog deliver is what their
procedures give.
-/
namespace ModuleArchive.Cache

open Procedure

variable {ρ : Type}

structure Attempt where
  call : Call
  /-- How many requests are made before the call is cut off, if it is. -/
  limit : Option Nat := none

def Attempt.exchanges (p : CachePolicy) (remote : Catalog ρ) (w : State ρ) (a : Attempt) :
    List Exchange :=
  let xs := (a.call.procedure p).trace (answer remote) w
  match a.limit with
  | none => xs
  | some n => xs.take n

def history (p : CachePolicy) (remote : Catalog ρ) : State ρ → List Attempt → List Exchange
  | _, [] => []
  | w, a :: rest =>
    let xs := a.exchanges p remote w
    xs ++ history p remote (after (answer remote) w xs) rest

variable {p : CachePolicy} {remote : Catalog ρ} {w : State ρ}

lemma happens_exchanges (a : Attempt) :
    Happens (answer remote) w (a.exchanges p remote w) := by
  have h := happens_trace (answer remote) (a.call.procedure p) w
  rw [Attempt.exchanges]
  cases a.limit with
  | none => exact h
  | some n => exact h.take n

lemma leads_exchanges (p : CachePolicy) (remote : Catalog ρ) (w : State ρ) (a : Attempt) :
    ∃ rest, Leads (a.call.procedure p) (a.exchanges p remote w) rest := by
  have h := leads_trace (answer remote) (a.call.procedure p) w
  rw [Attempt.exchanges]
  cases a.limit with
  | none => exact ⟨_, h⟩
  | some n => exact h.take n

/-- The answers of a run are those that are given to its requests one by one. -/
theorem happens_history (run : List Attempt) :
    Happens (answer remote) w (history p remote w run) := by
  induction run generalizing w with
  | nil => trivial
  | cons a rest ih => exact happens_append.mpr ⟨happens_exchanges a, ih⟩

lemma Request.IsDue.mono {call : Call} {known all : List Exchange} {r : Request}
    (h : r.IsDue call known) (hall : known ⊆ all) : r.IsDue call all := by
  cases r with
  | replace s items time => exact ⟨hall h.1, hall h.2⟩
  | putGroup g group =>
    obtain ⟨id, hx⟩ := h
    exact ⟨id, hall hx⟩
  | putTrack g id track =>
    obtain ⟨filename, hx⟩ := h
    exact ⟨filename, hall hx⟩
  | writeContent key content =>
    obtain ⟨path, hx, hk⟩ := h
    exact ⟨path, hall hx, hk⟩
  | fetchContent path => exact h
  | _ => trivial

theorem isDue_history {run : List Attempt} {before rest : List Exchange} {x : Exchange}
    (h : history p remote w run = before ++ x :: rest) :
    ∃ a ∈ run, x.request.IsDue a.call before := by
  induction run generalizing w before with
  | nil => simp [history] at h
  | cons a run ih =>
    rw [history] at h
    obtain ⟨more, rfl, htail⟩ | ⟨own, hxs, htail⟩ := List.append_eq_append_iff.mp h
    · obtain ⟨b, hb, hdue⟩ := ih htail
      exact ⟨b, List.mem_cons_of_mem _ hb, hdue.mono (List.subset_append_right _ _)⟩
    · cases own with
      | nil =>
        -- the exchange is the first one of the calls after this one
        rw [List.append_nil] at hxs
        rw [← hxs, ← List.append_nil (a.exchanges p remote w)]
        obtain ⟨b, hb, hdue⟩ : ∃ b ∈ run, x.request.IsDue b.call [] := ih htail.symm
        exact ⟨b, List.mem_cons_of_mem _ hb, hdue.mono (List.subset_append_right _ _)⟩
      | cons y own =>
        obtain ⟨rfl, -⟩ := List.cons.inj htail
        obtain ⟨left, hl⟩ := leads_exchanges p remote w a
        rw [hxs] at hl
        exact ⟨a, List.mem_cons_self, (always_procedure p a.call []).of_leads hl⟩

lemma history_append (run more : List Attempt) :
    history p remote w (run ++ more) = history p remote w run ++
      history p remote (after (answer remote) w (history p remote w run)) more := by
  induction run generalizing w with
  | nil => rfl
  | cons a run ih =>
    rw [List.cons_append, history, history, ih, ← List.append_assoc, ← after_append]

/-! ### What the operations deliver -/

lemma collectInto_append {σ α : Type} (hint : Option Nat) (found items : List α)
    (rest : Listing σ α) (w : σ) :
    Listing.collectInto hint found (Listing.append (items.map .item) rest) w =
      Listing.collectInto hint (items.reverse ++ found) rest w := by
  induction items generalizing found with
  | nil => rfl
  | cons a items ih =>
    rw [List.map_cons, Listing.append, Listing.collectInto, ih, List.reverse_cons,
      List.append_assoc, List.singleton_append]

lemma collect_ofItems {σ α : Type} (items : List α) (w : σ) :
    (Listing.ofItems items).collect w = (.ok (some items.length, items), w) := by
  rw [Listing.collect, Listing.ofItems, Listing.ofEvents, Listing.append, Listing.collectInto,
    collectInto_append, Listing.collectInto, List.append_nil, List.reverse_reverse]

lemma run_readSet_of_fresh {s : Scope} {refreshed : Option Instant} {items : List s.Item}
    (hr : w.repository.query (·.refreshedAt s) = .ok refreshed)
    (hf : p.freshness refreshed w.clock.now = .fresh)
    (hl : w.repository.query (·.list s) = .ok items) :
    ((readSet p s).run (answer remote) w).1 = .ok items := by
  simp only [readSet, judge, run_ask, answer, hr, hf, stored, hl, run_done]

/-- A listing delivers what reading the set gives, with the number of items as the hint. -/
theorem collect_listing (s : Scope) :
    ((catalog p remote).listing s).collect w =
      (((readSet p s).run (answer remote) w).1.map fun items => (some items.length, items),
        ((readSet p s).run (answer remote) w).2) := by
  simp only [catalog, Listing.collect, Listing.collectInto]
  cases ((readSet p s).run (answer remote) w).1 with
  | ok items => exact collect_ofItems items _
  | error cause => rfl

lemma items_collect_listing (s : Scope) :
    (((catalog p remote).listing s).collect w).1.map (·.2) =
      ((readSet p s).run (answer remote) w).1 := by
  rw [collect_listing]
  cases ((readSet p s).run (answer remote) w).1 <;> rfl

end ModuleArchive.Cache
