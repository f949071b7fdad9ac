/-!
# Locks that are shared

Locks by key, one step at a time. A lock is shared by reference: the table refers to it, and so does
the handle of every call that is after it or has been given it. A call begins by looking its key up,
which drops the locks that nothing but the table refers to and gives the call a handle. Only in a
later step it asks for the lock; then it waits until it is given a guard, or gives up. Other calls
take their steps in between.
-/
namespace ModuleArchive.Cache

/-- Locks that are given to one at a time, in the order in which they are asked for. The state of
such a lock is one of `σ`; who may ask for it is one of `ι`. -/
structure Mutex (ι σ : Type) [DecidableEq ι] where
  /-- A lock that nobody has asked for. -/
  fresh : σ
  /-- Ask for a lock. -/
  ask : ι → σ → σ
  /-- Give a lock back, or stop waiting for it. -/
  leave : ι → σ → σ
  /-- Whether a lock is there for one who has asked for it. -/
  isReady : ι → σ → Bool
  /-- Those who have asked for a lock and not left it, in the order in which they asked. -/
  line : σ → List ι
  line_fresh : line fresh = []
  line_ask : ∀ c lock, c ∉ line lock → line (ask c lock) = line lock ++ [c]
  line_leave : ∀ c lock, line (leave c lock) = (line lock).filter (· ≠ c)
  isReady_iff : ∀ c lock, isReady c lock = true ↔ (line lock).head? = some c

/-- The lock that is nothing but the line of those who have asked for it. -/
def Mutex.queue (ι : Type) [DecidableEq ι] : Mutex ι (List ι) where
  fresh := []
  ask c line := line ++ [c]
  leave c line := line.filter (· ≠ c)
  isReady c line := line.head? = some c
  line := id
  line_fresh := rfl
  line_ask _ _ _ := rfl
  line_leave _ _ := rfl
  isReady_iff _ _ := decide_eq_true_iff

/-- How far a call for a lock has come. -/
inductive Stage where
  /-- It has a handle to the lock and has not asked for it yet. -/
  | called
  /-- It has asked for the lock and has not been given it, as far as it knows. -/
  | waiting
  /-- It has been given the lock, and its guard has not been dropped. -/
  | guarding
deriving Repr, DecidableEq

/-- What a call for a lock has, from looking its key up until it gives up or drops its guard. -/
structure Handle (ι : Type) where
  /-- Which call it is. -/
  caller : ι
  key : String
  /-- The number of the lock. -/
  lock : Nat
  stage : Stage := .called
deriving Repr, DecidableEq

/-- A table of locks and the calls that share them. -/
structure SharedLocks (ι σ : Type) where
  /-- The lock of each key. -/
  entries : List (String × Nat) := []
  /-- The handles of all calls, oldest first. -/
  handles : List (Handle ι) := []
  /-- The state of each lock. -/
  locks : Nat → σ
  /-- The number of the next lock. -/
  next : Nat := 0

namespace SharedLocks

variable {ι σ : Type}

/-- The references to a lock: from the table and from handles. -/
def references (t : SharedLocks ι σ) (lock : Nat) : Nat :=
  t.entries.countP (·.2 = lock) + t.handles.countP (·.lock = lock)

/-- The table without the locks that nothing else refers to. -/
def prune (t : SharedLocks ι σ) : SharedLocks ι σ :=
  { t with entries := t.entries.filter fun e => 1 < t.references e.2 }

def lockOf? (t : SharedLocks ι σ) (key : String) : Option Nat :=
  (t.entries.find? (·.1 = key)).map (·.2)

theorem mem_of_lockOf? {t : SharedLocks ι σ} {key : String} {lock : Nat}
    (h : t.lockOf? key = some lock) : (key, lock) ∈ t.entries := by
  obtain ⟨e, he, rfl⟩ := Option.map_eq_some_iff.mp h
  have hkey : e.1 = key := by simpa using List.find?_some he
  rw [← hkey]
  exact List.mem_of_find?_eq_some he

/-- The table with the state of a lock replaced. -/
def setLock (t : SharedLocks ι σ) (lock : Nat) (state : σ) : SharedLocks ι σ :=
  { t with locks := fun other => if other = lock then state else t.locks other }

/-- The table with one more handle. -/
def register (t : SharedLocks ι σ) (h : Handle ι) : SharedLocks ι σ :=
  { t with handles := t.handles ++ [h] }

section Calls

variable [DecidableEq ι] (M : Mutex ι σ)

def start : SharedLocks ι σ where
  locks := fun _ => M.fresh

def handle? (t : SharedLocks ι σ) (c : ι) : Option (Handle ι) := t.handles.find? (·.caller = c)

theorem of_handle? {t : SharedLocks ι σ} {c : ι} {h : Handle ι} (hc : t.handle? c = some h) :
    h ∈ t.handles ∧ h.caller = c :=
  ⟨List.mem_of_find?_eq_some hc, by simpa using List.find?_some hc⟩

/-- The line of those who have asked for a lock. -/
def line (t : SharedLocks ι σ) (lock : Nat) : List ι := M.line (t.locks lock)

def isReady (t : SharedLocks ι σ) (h : Handle ι) : Bool := M.isReady h.caller (t.locks h.lock)

def insert (t : SharedLocks ι σ) (key : String) : SharedLocks ι σ :=
  { t.setLock t.next M.fresh with entries := (key, t.next) :: t.entries, next := t.next + 1 }

/-- Look a key up for a call, which gets a handle to the lock of the key. -/
def lookUp (t : SharedLocks ι σ) (c : ι) (key : String) : SharedLocks ι σ :=
  let t := t.prune
  match t.lockOf? key with
  | some lock => t.register ⟨c, key, lock, .called⟩
  | none => (t.insert M key).register ⟨c, key, t.next, .called⟩

/-- Give a call its guard if its lock is there for it, else let it wait. -/
def receive (t : SharedLocks ι σ) (h : Handle ι) : SharedLocks ι σ :=
  let stage := if t.isReady M h then .guarding else .waiting
  { t with handles := t.handles.map fun d => if d.caller = h.caller then { d with stage } else d }

/-- Go on with a call: ask for its lock, unless it has, and see whether the lock is there. -/
def poll (t : SharedLocks ι σ) (h : Handle ι) : SharedLocks ι σ :=
  match h.stage with
  | .called => (t.setLock h.lock (M.ask h.caller (t.locks h.lock))).receive M h
  | .waiting => t.receive M h
  | .guarding => t

/-- End a call with its handle: it leaves its lock, if it has asked for it. -/
def drop (t : SharedLocks ι σ) (h : Handle ι) : SharedLocks ι σ :=
  let t := if h.stage = .called then t else t.setLock h.lock (M.leave h.caller (t.locks h.lock))
  { t with handles := t.handles.filter (·.caller ≠ h.caller) }

/-- What can happen: a call looks up its key, goes on, gives up before it has a guard, or drops its
guard. -/
inductive Move (ι : Type) where
  | call (c : ι) (key : String)
  | poll (c : ι)
  | cancel (c : ι)
  | release (c : ι)
deriving Repr, DecidableEq

/-- Make a move. One that cannot be made changes nothing. -/
def step (t : SharedLocks ι σ) : Move ι → SharedLocks ι σ
  | .call c key => if (t.handle? c).isSome then t else t.lookUp M c key
  | .poll c => match t.handle? c with
    | some h => t.poll M h
    | none => t
  | .cancel c => match t.handle? c with
    | some h => if h.stage = .guarding then t else t.drop M h
    | none => t
  | .release c => match t.handle? c with
    | some h => if h.stage = .guarding then t.drop M h else t
    | none => t

def run (moves : List (Move ι)) : SharedLocks ι σ := moves.foldl (step M) (start M)

end Calls

end SharedLocks

end ModuleArchive.Cache
