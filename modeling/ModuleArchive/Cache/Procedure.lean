import ModuleArchive.Catalog.Basic
import ModuleArchive.Index.Basic
import ModuleArchive.Storage.Error

/-!
# Procedures

What a cached catalog does is written as a procedure: a tree of requests to the clock, the
index, the locks, the remote catalog and the content store, with a continuation for every
answer. Each request is one step; between two steps other procedures may take theirs. A
procedure that stands at a request to the remote is waiting for the remote.
-/
namespace ModuleArchive.Cache

/-- What a procedure asks for. -/
inductive Request where
  /-- The time. -/
  | now
  | refreshedAt (s : Scope)
  | list (s : Scope)
  | replace (s : Scope) (items : List s.Item) (time : Instant)
  | getGroup (g : Grouping) (id : UInt32)
  | putGroup (g : Grouping) (group : Group)
  | findTrack (g : Grouping) (id : UInt32) (filename : String)
  | putTrack (g : Grouping) (id : UInt32) (track : Track)
  /-- Wait for the lock of a key. -/
  | lock (key : String)
  | unlock (key : String)
  /-- The complete listing of a set from the remote. -/
  | fetchSet (s : Scope)
  | fetchGroup (g : Grouping) (id : UInt32)
  | fetchTrack (g : Grouping) (id : UInt32) (filename : String)
  | fetchContent (path : String)
  | readContent (path : String)
  | writeContent (path : String) (content : Content)

/-- What a request is answered with. -/
abbrev Request.Answer : Request → Type
  | now => Instant
  | refreshedAt _ => Except Index.Error (Option Instant)
  | list s => Except Index.Error (List s.Item)
  | replace _ _ _ | putGroup _ _ | putTrack _ _ _ => Except Index.Error Unit
  | getGroup _ _ => Except Index.Error (Option Group)
  | findTrack _ _ _ => Except Index.Error (Option Track)
  | lock _ | unlock _ => Unit
  | fetchSet s => Except Catalog.Error (List s.Item)
  | fetchGroup _ _ => Except Catalog.Error (Option Group)
  | fetchTrack _ _ _ => Except Catalog.Error (Option Track)
  | fetchContent _ => Except Catalog.Error Content
  | readContent _ => Except Storage.Error Content
  | writeContent _ _ => Except Storage.Error Unit

/-- A tree of requests with results of type `α`. -/
inductive Procedure (α : Type) where
  | done (result : α)
  | ask (request : Request) (resume : request.Answer → Procedure α)

namespace Procedure

variable {α β σ : Type}

/-- Go on with `next` after the procedure. -/
def bind : Procedure α → (α → Procedure β) → Procedure β
  | done a, next => next a
  | ask request resume, next => ask request fun answer => (resume answer).bind next

def map (f : α → β) (p : Procedure α) : Procedure β := p.bind fun a => done (f a)

/-- Carry out a procedure on its own, with `answer` telling what becomes of each request. -/
def run (answer : (r : Request) → σ → r.Answer × σ) : Procedure α → σ → α × σ
  | done a, w => (a, w)
  | ask request resume, w =>
    let (given, w) := answer request w
    run answer (resume given) w

@[simp] theorem run_done (answer : (r : Request) → σ → r.Answer × σ) (a : α) (w : σ) :
    run answer (done a) w = (a, w) := rfl

@[simp] theorem run_ask (answer : (r : Request) → σ → r.Answer × σ) (request : Request)
    (resume : request.Answer → Procedure α) (w : σ) :
    run answer (ask request resume) w =
      run answer (resume (answer request w).1) (answer request w).2 := rfl

theorem run_bind (answer : (r : Request) → σ → r.Answer × σ) (p : Procedure α)
    (next : α → Procedure β) (w : σ) :
    run answer (p.bind next) w = run answer (next (run answer p w).1) (run answer p w).2 := by
  induction p generalizing w with
  | done a => rfl
  | ask request resume ih => exact ih _ _

end Procedure

end ModuleArchive.Cache
