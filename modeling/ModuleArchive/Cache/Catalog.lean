import ModuleArchive.Cache.Lookup
import ModuleArchive.Index.Repository

/-!
# The cached catalog

A catalog that answers from an index and a content store and turns to another catalog for
what is missing or out of date. Its state holds the parts that its procedures ask; carried
out one after the other, procedures never wait for a lock.
-/
namespace ModuleArchive.Cache

/-- The parts of a cached catalog over a remote with state `ρ`. -/
structure State (ρ : Type) where
  repository : Repository := {}
  store : Storage.Store := .memory {}
  remote : ρ
  clock : Clock

variable {ρ : Type}

/-- The answer to a request about the index. -/
def State.update (w : State ρ) (write : Index → Except Index.Error Index) :
    Except Index.Error Unit × State ρ :=
  let (answer, repository) := w.repository.update write
  (answer, { w with repository })

/-- The answer to a request to the remote. -/
def State.fetch {α : Type} (w : State ρ) (act : Action ρ α) :
    Except Catalog.Error α × State ρ :=
  let (answer, remote) := act w.remote
  (answer, { w with remote })

/-- What becomes of each request when nothing else goes on. -/
def answer (remote : Catalog ρ) : (r : Request) → State ρ → r.Answer × State ρ
  | .now, w => (w.clock.now, { w with clock := w.clock.tick })
  | .refreshedAt s, w => (w.repository.query (·.refreshedAt s), w)
  | .list s, w => (w.repository.query (·.list s), w)
  | .replace s items time, w => w.update (·.replace s items time)
  | .getGroup g id, w => (w.repository.query (·.getGroup g id), w)
  | .putGroup g group, w => w.update fun ix => .ok (ix.putGroup g group)
  | .findTrack g id filename, w => (w.repository.query (·.findTrack g id filename), w)
  | .putTrack g id track, w => w.update (·.putTrack g id track)
  | .lock _, w => ((), w)
  | .unlock _, w => ((), w)
  | .fetchSet s, w =>
    let (listed, w) := w.fetch (remote.listing s).collect
    (listed.map (·.2), w)
  | .fetchGroup g id, w => w.fetch (remote.group g id)
  | .fetchTrack g id filename, w => w.fetch (remote.track g id filename)
  | .fetchContent path, w => w.fetch (remote.content path)
  | .readContent path, w =>
    let (answer, store) := w.store.read path
    (answer, { w with store })
  | .writeContent path content, w =>
    let (answer, store) := w.store.write path content.bytes
    (answer, { w with store })

/-- The operations of the cached catalog. A listing is complete before its first event. -/
def catalog (p : CachePolicy) (remote : Catalog ρ) : Catalog (State ρ) where
  listing s := .work (fun w => ((readSet p s).run (answer remote) w).2) fun w =>
    match ((readSet p s).run (answer remote) w).1 with
    | .ok items => .ofItems items
    | .error cause => .failed cause
  group g id := (readGroup g id).run (answer remote)
  track g id filename := (readTrack g id filename).run (answer remote)
  content path := (readContent path).run (answer remote)

end ModuleArchive.Cache
