import ModuleArchive.Cache.Catalog
import ModuleArchive.Cache.Locks

/-!
# Procedures side by side

Several procedures share one cached catalog. Each step belongs to one task: it claims a
lock, takes it when its turn has come, releases it, or has a request answered. A task may be
cancelled between steps, which ends its claims. Which task steps next is open; going round
is one way, in which a task rests while it reads a long answer of the remote.
-/
namespace ModuleArchive.Cache

/-- Tasks with results of type `α` over one cached catalog. -/
structure System (ρ α : Type) where
  tasks : List (Procedure α)
  locks : KeyedLocks := {}
  state : State ρ

namespace System

variable {ρ α : Type}

def setTask (sys : System ρ α) (i : Nat) (p : Procedure α) : System ρ α :=
  { sys with tasks := sys.tasks.set i p }

/-- Let a task take a step. A task that has finished, or waits for a lock that another one
holds, stays as it is. -/
def step (remote : Catalog ρ) (sys : System ρ α) (i : Nat) : System ρ α :=
  match sys.tasks[i]? with
  | none | some (.done _) => sys
  | some (.ask (.lock key) resume) =>
    if sys.locks.holds i key then sys.setTask i (resume ())
    else if (sys.locks.claimOf? i key).isSome then sys
    else
      let sys := { sys with locks := sys.locks.claim i key }
      if sys.locks.holds i key then sys.setTask i (resume ()) else sys
  | some (.ask (.unlock key) resume) =>
    { sys with locks := sys.locks.release i key }.setTask i (resume ())
  | some (.ask request resume) =>
    let (given, state) := answer remote request sys.state
    { sys with state }.setTask i (resume given)

/-- Cancel a task: it disappears with its claims and is never resumed. -/
def cancel (sys : System ρ α) (i : Nat) (result : α) : System ρ α :=
  { sys with locks := sys.locks.cancel i }.setTask i (.done result)

/-- Let the tasks take steps in the order given. -/
def runSchedule (remote : Catalog ρ) (sys : System ρ α) (schedule : List Nat) : System ρ α :=
  schedule.foldl (step remote) sys

/-- Let a task take a step, unless it rests. What the remote has spent on an answer is how long
the task then rests, up to a bound. -/
def stepOrRest (remote : Catalog ρ) (bound : Nat) (w : System ρ α × List Nat) (i : Nat) :
    System ρ α × List Nat :=
  let (sys, rests) := w
  match rests[i]? with
  | some (rest + 1) => (sys, rests.set i rest)
  | _ =>
    let next := sys.step remote i
    let spent := remote.effort next.state.remote - remote.effort sys.state.remote
    (next, rests.set i (min bound spent))

/-- Let every task in turn take a step or rest, as many rounds as given. -/
def runRounds (remote : Catalog ρ) (bound : Nat) (w : System ρ α × List Nat) : Nat → System ρ α
  | 0 => w.1
  | rounds + 1 =>
    runRounds remote bound ((List.range w.1.tasks.length).foldl (stepOrRest remote bound) w) rounds

/-- The results of the tasks that have finished. -/
def results (sys : System ρ α) : List (Option α) :=
  sys.tasks.map fun
    | .done result => some result
    | .ask _ _ => none

end System

/-- A call to the cached catalog. -/
inductive Call where
  | set (s : Scope)
  | group (g : Grouping) (id : UInt32)
  | track (g : Grouping) (id : UInt32) (filename : String)
  | content (path : String)

inductive Reply where
  | set (s : Scope) (items : Except Catalog.Error (List s.Item))
  | group (group : Except Catalog.Error (Option Group))
  | track (track : Except Catalog.Error (Option Track))
  | content (content : Except Catalog.Error Content)

def Call.procedure (p : CachePolicy) : Call → Procedure Reply
  | set s => (readSet p s).map (.set s)
  | group g id => (readGroup g id).map .group
  | track g id filename => (readTrack g id filename).map .track
  | content path => (readContent path).map .content

/-- More steps than any procedure of a call takes. -/
def Call.maxSteps : Nat := 16

/-- The system in which calls are about to be made. -/
def System.ofCalls (p : CachePolicy) (calls : List Call) (state : State ρ) : System ρ Reply where
  tasks := calls.map (·.procedure p)
  state := state

/-- Make calls side by side, going round among them until all have finished. -/
def callTogether (p : CachePolicy) (remote : Catalog ρ) (calls : List Call) (state : State ρ) :
    List (Option Reply) × State ρ :=
  let rested := (System.ofCalls p calls state, calls.map fun _ => 0)
  let sys := System.runRounds remote Call.maxSteps rested
    (2 * Call.maxSteps * (calls.length + 1))
  (sys.results, sys.state)

end ModuleArchive.Cache
