import ModuleArchive.Cache.Policy
import ModuleArchive.Cache.Procedure
import ModuleArchive.Storage.Store

/-!
# Reading through the cache

Sets are answered by the index while they are fresh; otherwise they are fetched as a whole
and replaced, under a lock of their own so that one procedure does it for all that wait. A
single group or track is looked up in the index first, and what the remote answers is
recorded. Content is read from the store under the key of its path, or fetched once and
written there; that a payload cannot be stored is no failure.
-/
namespace ModuleArchive.Cache

open Procedure

/-- Answer with the stored set. -/
def stored (s : Scope) : Procedure (Except Catalog.Error (List s.Item)) :=
  ask (.list s) fun
    | .ok items => done (.ok items)
    | .error e => done (.error (.index e))

/-- Find out how fresh a set is. -/
def judge {α : Type} (p : CachePolicy) (s : Scope)
    (next : Freshness → Procedure (Except Catalog.Error α)) :
    Procedure (Except Catalog.Error α) :=
  ask (.refreshedAt s) fun
    | .error e => done (.error (.index e))
    | .ok refreshed => ask .now fun now => next (p.freshness refreshed now)

/-- Hold the lock of a key during a procedure. -/
def guarded {α : Type} (key : String) (body : Procedure α) : Procedure α :=
  ask (.lock key) fun _ => body.bind fun result => ask (.unlock key) fun _ => done result

/-- Store a set that has been fetched, and answer with it. -/
def keep (s : Scope) (items : List s.Item) : Procedure (Except Catalog.Error (List s.Item)) :=
  ask .now fun now =>
    ask (.replace s items now) fun
      | .ok () => done (.ok items)
      | .error e => done (.error (.index e))

/-- Refresh a set that is not fresh. A stale set may stand in for a remote that fails. -/
def refresh (p : CachePolicy) (s : Scope) (freshness : Freshness) :
    Procedure (Except Catalog.Error (List s.Item)) :=
  ask (.fetchSet s) fun
    | .ok items => keep s items
    | .error cause =>
      if freshness = .stale ∧ p.serveStale then stored s else done (.error cause)

/-- The records of a set. Freshness is judged once more under the lock, since another
procedure may have refreshed the set meanwhile. -/
def readSet (p : CachePolicy) (s : Scope) : Procedure (Except Catalog.Error (List s.Item)) :=
  judge p s fun
    | .fresh => stored s
    | _ =>
      guarded s.key <| judge p s fun
        | .fresh => stored s
        | freshness => refresh p s freshness

def readGroup (g : Grouping) (id : UInt32) : Procedure (Except Catalog.Error (Option Group)) :=
  ask (.getGroup g id) fun
    | .error e => done (.error (.index e))
    | .ok (some group) => done (.ok (some group))
    | .ok none =>
      ask (.fetchGroup g id) fun
        | .error cause => done (.error cause)
        | .ok none => done (.ok none)
        | .ok (some group) =>
          ask (.putGroup g group) fun
            | .ok () => done (.ok (some group))
            | .error e => done (.error (.index e))

def readTrack (g : Grouping) (id : UInt32) (filename : String) :
    Procedure (Except Catalog.Error (Option Track)) :=
  ask (.findTrack g id filename) fun
    | .error e => done (.error (.index e))
    | .ok (some track) => done (.ok (some track))
    | .ok none =>
      ask (.fetchTrack g id filename) fun
        | .error cause => done (.error cause)
        | .ok none => done (.ok none)
        | .ok (some track) =>
          ask (.putTrack g id track) fun
            | .ok () => done (.ok (some track))
            | .error e => done (.error (.index e))

/-- Fetch content and store it under a key. -/
def fetchContent (key path : String) : Procedure (Except Catalog.Error Content) :=
  ask (.fetchContent path) fun
    | .error cause => done (.error cause)
    | .ok content => ask (.writeContent key content) fun _ => done (.ok content)

def readContent (path : String) : Procedure (Except Catalog.Error Content) :=
  match Storage.keyOf path with
  | .error e => done (.error (.storage e))
  | .ok key =>
    let key := String.ofList key.toPath
    ask (.readContent key) fun
      | .ok content => done (.ok content)
      | .error _ =>
        guarded ("content:" ++ key) <| ask (.readContent key) fun
          | .ok content => done (.ok content)
          | .error _ => fetchContent key path

end ModuleArchive.Cache
