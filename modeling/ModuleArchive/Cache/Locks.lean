/-!
# Locks by key

A table gives each key in use a lock. Whoever wants a key claims its lock; the claims of a
lock are served in the order in which they were made, so the first one holds it. A claim
ends when its task releases the key or stops waiting. Looking a key up first drops the locks
that nobody claims any more.
-/
namespace ModuleArchive.Cache

/-- A task that holds a lock or waits for it. -/
structure Claim where
  task : Nat
  key : String
  /-- The number of the lock. -/
  lock : Nat
deriving Repr, DecidableEq

/-- The locks in use. -/
structure KeyedLocks where
  /-- The lock of each key. -/
  table : List (String × Nat) := []
  /-- All claims, oldest first. -/
  claims : List Claim := []
  /-- The number of the next lock. -/
  next : Nat := 0
deriving Repr

namespace KeyedLocks

def isClaimed (l : KeyedLocks) (lock : Nat) : Bool := l.claims.any (·.lock = lock)

/-- The locks without those that nobody claims. -/
def prune (l : KeyedLocks) : KeyedLocks :=
  { l with table := l.table.filter fun (_, lock) => l.isClaimed lock }

def lockOf? (l : KeyedLocks) (key : String) : Option Nat :=
  (l.table.find? (·.1 = key)).map (·.2)

/-- Claim the lock of a key for a task, making one if the key is not in use. -/
def claim (l : KeyedLocks) (task : Nat) (key : String) : KeyedLocks :=
  let l := l.prune
  match l.lockOf? key with
  | some lock => { l with claims := l.claims ++ [⟨task, key, lock⟩] }
  | none =>
    { table := (key, l.next) :: l.table
      claims := l.claims ++ [⟨task, key, l.next⟩]
      next := l.next + 1 }

def claimOf? (l : KeyedLocks) (task : Nat) (key : String) : Option Claim :=
  l.claims.find? fun c => c.task = task && c.key = key

/-- Whether a task holds a key: its claim is the first one to that lock. -/
def holds (l : KeyedLocks) (task : Nat) (key : String) : Bool :=
  match l.claimOf? task key with
  | none => false
  | some c => l.claims.find? (·.lock = c.lock) = some c

def release (l : KeyedLocks) (task : Nat) (key : String) : KeyedLocks :=
  { l with claims := l.claims.filter fun c => !(c.task = task && c.key = key) }

/-- End all claims of a task. -/
def cancel (l : KeyedLocks) (task : Nat) : KeyedLocks :=
  { l with claims := l.claims.filter (·.task ≠ task) }

end KeyedLocks

end ModuleArchive.Cache
