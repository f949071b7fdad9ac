import ModuleArchive.Cache.Procedure
import Mathlib.Tactic.Lemma

/-!
# Exchanges

What happens while procedures are carried out is a list of exchanges, oldest first: requests,
each with the answer that was given. The answers alone decide how a procedure goes on, and the
requests alone decide what becomes of the state.
-/
namespace ModuleArchive.Cache

/-- A request with the answer that was given to it. -/
structure Exchange where
  request : Request
  answer : request.Answer

variable {σ α β : Type}

/-! ### States -/

section State

variable (answer : (r : Request) → σ → r.Answer × σ)

/-- The state after some exchanges. -/
def after (w : σ) (xs : List Exchange) : σ := xs.foldl (fun w x => (answer x.request w).2) w

/-- Whether the answers are those that are given when the requests are made one by one. -/
def Happens : σ → List Exchange → Prop
  | _, [] => True
  | w, x :: xs => x.answer = (answer x.request w).1 ∧ Happens (answer x.request w).2 xs

variable {answer}

@[simp] lemma after_nil (w : σ) : after answer w [] = w := rfl

lemma after_cons (w : σ) (x : Exchange) (xs : List Exchange) :
    after answer w (x :: xs) = after answer (answer x.request w).2 xs := rfl

lemma after_append (w : σ) (xs ys : List Exchange) :
    after answer w (xs ++ ys) = after answer (after answer w xs) ys := List.foldl_append ..

lemma happens_append {w : σ} {xs ys : List Exchange} :
    Happens answer w (xs ++ ys) ↔ Happens answer w xs ∧ Happens answer (after answer w xs) ys := by
  induction xs generalizing w with
  | nil => simp [Happens]
  | cons x xs ih => rw [List.cons_append, Happens, ih, Happens, after_cons, and_assoc]

/-- Every answer is the one that the request gets after what happened before it. -/
lemma Happens.answer_eq {w : σ} {xs ys : List Exchange} {x : Exchange}
    (h : Happens answer w (xs ++ x :: ys)) : x.answer = (answer x.request (after answer w xs)).1 :=
  (happens_append.mp h).2.1

lemma Happens.exists_state {w : σ} {xs : List Exchange} (h : Happens answer w xs) {x : Exchange}
    (hx : x ∈ xs) : ∃ w', x.answer = (answer x.request w').1 := by
  obtain ⟨before, rest, rfl⟩ := List.append_of_mem hx
  exact ⟨_, h.answer_eq⟩

lemma Happens.take {w : σ} {xs : List Exchange} (h : Happens answer w xs) (n : Nat) :
    Happens answer w (xs.take n) := by
  rw [← List.take_append_drop n xs] at h
  exact (happens_append.mp h).1

end State

/-! ### Procedures -/

namespace Procedure

/-- The exchanges of a procedure that is carried out on its own. -/
def trace (answer : (r : Request) → σ → r.Answer × σ) : Procedure α → σ → List Exchange
  | done _, _ => []
  | ask request resume, w =>
    ⟨request, (answer request w).1⟩ ::
      trace answer (resume (answer request w).1) (answer request w).2

/-- Whether a procedure, given these answers, makes these requests and is then left as `rest`. -/
inductive Leads : Procedure α → List Exchange → Procedure α → Prop where
  | refl (p : Procedure α) : Leads p [] p
  | ask {request : Request} {resume : request.Answer → Procedure α} {answer : request.Answer}
      {xs : List Exchange} {rest : Procedure α} (h : Leads (resume answer) xs rest) :
      Leads (ask request resume) (⟨request, answer⟩ :: xs) rest

section Trace

variable {answer : (r : Request) → σ → r.Answer × σ}

lemma run_eq (p : Procedure α) (w : σ) :
    (p.run answer w).2 = after answer w (p.trace answer w) := by
  induction p generalizing w with
  | done a => rfl
  | ask request resume ih => exact ih _ _

variable (answer)

lemma happens_trace (p : Procedure α) (w : σ) : Happens answer w (p.trace answer w) := by
  induction p generalizing w with
  | done a => trivial
  | ask request resume ih => exact ⟨rfl, ih _ _⟩

lemma leads_trace (p : Procedure α) (w : σ) :
    Leads p (p.trace answer w) (done (p.run answer w).1) := by
  induction p generalizing w with
  | done a => exact .refl _
  | ask request resume ih => exact .ask (ih _ _)

variable {answer}

lemma trace_map (f : α → β) (p : Procedure α) (w : σ) :
    (p.map f).trace answer w = p.trace answer w := by
  induction p generalizing w with
  | done a => rfl
  | ask request resume ih => exact congrArg _ (ih _ _)

lemma trace_bind (p : Procedure α) (next : α → Procedure β) (w : σ) :
    (p.bind next).trace answer w =
      p.trace answer w ++ (next (p.run answer w).1).trace answer (p.run answer w).2 := by
  induction p generalizing w with
  | done a => rfl
  | ask request resume ih => exact congrArg _ (ih _ _)

end Trace

/-- A procedure that is cut off has made the first of its requests. -/
lemma Leads.take {p q : Procedure α} {xs : List Exchange} (h : Leads p xs q) (n : Nat) :
    ∃ rest, Leads p (xs.take n) rest := by
  induction h generalizing n with
  | refl p => exact ⟨p, by rw [List.take_nil]; exact .refl p⟩
  | ask _ ih =>
    cases n with
    | zero => exact ⟨_, .refl _⟩
    | succ n =>
      obtain ⟨rest, hr⟩ := ih n
      exact ⟨rest, .ask hr⟩

/-- What a procedure is left as can go on. -/
lemma Leads.append {p q r : Procedure α} {xs ys : List Exchange} (h : Leads p xs q)
    (hq : Leads q ys r) : Leads p (xs ++ ys) r := by
  induction h with
  | refl p => exact hq
  | ask _ ih => exact .ask (ih hq)

lemma Leads.concat {p : Procedure α} {xs : List Exchange} {request : Request}
    {resume : request.Answer → Procedure α} (h : Leads p xs (Procedure.ask request resume))
    (answer : request.Answer) : Leads p (xs ++ [⟨request, answer⟩]) (resume answer) :=
  h.append (.ask (.refl _))

/-- A sequence of procedures is through when both are, one after the other. -/
lemma Leads.of_bind {p : Procedure α} {next : α → Procedure β} {xs : List Exchange} {b : β}
    (h : Leads (p.bind next) xs (done b)) :
    ∃ a ys zs, xs = ys ++ zs ∧ Leads p ys (done a) ∧ Leads (next a) zs (done b) := by
  induction p generalizing xs with
  | done a => exact ⟨a, [], xs, rfl, .refl _, h⟩
  | ask request resume ih =>
    cases h with
    | @ask _ _ answer xs _ h =>
      obtain ⟨a, ys, zs, rfl, hp, hn⟩ := ih answer h
      exact ⟨a, ⟨request, answer⟩ :: ys, zs, rfl, .ask hp, hn⟩

/-- Whether every request that a procedure may make, given what is known before, is as `P`
says. -/
def Always (P : List Exchange → Request → Prop) (known : List Exchange) : Procedure α → Prop
  | done _ => True
  | ask request resume =>
    P known request ∧ ∀ answer, Always P (known ++ [⟨request, answer⟩]) (resume answer)

section Always

variable {P : List Exchange → Request → Prop}

lemma Always.bind {p : Procedure α} {next : α → Procedure β} {known : List Exchange}
    (hp : p.Always P known) (hn : ∀ more a, (next a).Always P (known ++ more)) :
    (p.bind next).Always P known := by
  induction p generalizing known with
  | done a =>
    have hnext := hn [] a
    rwa [List.append_nil] at hnext
  | ask request resume ih =>
    refine ⟨hp.1, fun answer => ih answer (hp.2 answer) fun more a => ?_⟩
    rw [List.append_assoc]
    exact hn _ a

/-- What holds of every request that a procedure may make holds of those it makes. -/
lemma Always.of_leads {p rest : Procedure α} {known xs ys : List Exchange} {x : Exchange}
    (hp : p.Always P known) (h : Leads p (xs ++ x :: ys) rest) : P (known ++ xs) x.request := by
  induction xs generalizing p known with
  | nil =>
    cases h with
    | ask h =>
      rw [List.append_nil]
      exact hp.1
  | cons y xs ih =>
    cases h with
    | ask h =>
      have hrest := ih (hp.2 _) h
      rwa [List.append_assoc] at hrest

/-- What holds of every request that a procedure may make holds of the one where it stands. -/
lemma Always.of_leads_ask {p : Procedure α} {known xs : List Exchange} {request : Request}
    {resume : request.Answer → Procedure α} (hp : p.Always P known)
    (h : Leads p xs (Procedure.ask request resume)) : P (known ++ xs) request := by
  induction xs generalizing p known with
  | nil =>
    cases h
    rw [List.append_nil]
    exact hp.1
  | cons y xs ih =>
    cases h with
    | ask h =>
      have hrest := ih (hp.2 _) h
      rwa [List.append_assoc] at hrest

end Always

end Procedure

end ModuleArchive.Cache
