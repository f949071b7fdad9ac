import ModuleArchive.Catalog.Memory
import ModuleArchive.Proofs.Cache.Run
import ModuleArchive.Proofs.Storage.Key
import ModuleArchive.Proofs.Storage.Store

/-!
# Stored content stays as it is

Over a store in memory, the first payload that is stored under a key is the only one. Every later
read of the key gives it and asks for nothing else; every read before gives what the remote has for
it, whether or not it can be stored. Between two reads the remote may change in any way, and the
store may begin or cease to refuse writes.
-/
namespace ModuleArchive.Cache

open Procedure
open Storage (MemoryStore keyOf)

variable {ρ : Type} {p : CachePolicy} {remote : Catalog ρ} {w : State ρ} {s : MemoryStore}
  {path : String} {key other : Storage.Key} {data : Bytes}

/-! ### One read -/

/-- A path without a key is asked for nowhere. -/
lemma readContent_of_error {e : Storage.Error} (hk : keyOf path = .error e) :
    readContent path = done (.error (.storage e)) := by
  rw [readContent, hk]

lemma run_readContent_of_offers (hk : keyOf path = .ok key) (hw : w.store = .memory s)
    (h : s.Offers key data) : (readContent path).run (answer remote) w =
      (.ok ⟨data, false⟩, { w with store := .memory { s with reads := s.reads + 1 } }) := by
  have hread := MemoryStore.read_of_offers (Storage.keyOf_toPath hk) h
  simp [readContent, hk, answer, hw, Storage.Store.read, hread]

lemma trace_readContent_of_offers (remote : Catalog ρ) (hk : keyOf path = .ok key)
    (hw : w.store = .memory s) (h : s.Offers key data) :
    (readContent path).trace (answer remote) w =
      [⟨.readContent (String.ofList key.toPath), .ok ⟨data, false⟩⟩] := by
  have hread := MemoryStore.read_of_offers (Storage.keyOf_toPath hk) h
  simp [readContent, hk, trace, answer, hw, Storage.Store.read, hread]

/-- A read that finds no payload gives what the remote gives, and tries to store it. -/
lemma run_readContent_of_not_offers (hk : keyOf path = .ok key) (hw : w.store = .memory s)
    (h : ∀ data, ¬ s.Offers key data) : (readContent path).run (answer remote) w =
      ((remote.content path w.remote).1,
        { w with
          remote := (remote.content path w.remote).2
          store := .memory (match (remote.content path w.remote).1 with
            | .ok content => s.keep key content.bytes
            | .error _ => s) }) := by
  have hkey := Storage.keyOf_toPath hk
  obtain ⟨e, hread⟩ := MemoryStore.read_of_not_offers hkey h
  obtain ⟨given, left, hfetch⟩ : ∃ given left, remote.content path w.remote = (given, left) :=
    ⟨_, _, rfl⟩
  cases given with
  | error cause =>
    simp [readContent, guarded, fetchContent, Procedure.bind, hk, answer, State.fetch, hw,
      Storage.Store.read, hread, hfetch]
  | ok content =>
    have hwrite := s.write_eq hkey content.bytes
    simp [readContent, guarded, fetchContent, Procedure.bind, hk, answer, State.fetch, hw,
      Storage.Store.read, Storage.Store.write, hread, hfetch, hwrite]

/-! ### Many reads -/

/-- A read of content, with what it meets. -/
structure Visit (ρ : Type) where
  path : String
  /-- The remote as it is at that time. -/
  remote : ρ
  /-- Whether the store refuses to write at that time. -/
  refusesWrites : Bool

def Visit.meet (v : Visit ρ) (w : State ρ) : State ρ :=
  { w with
    remote := v.remote
    store := match w.store with
      | .memory s => .memory { s with refusesWrites := v.refusesWrites }
      | .directory s => .directory s }

/-- What a read gives, and the state after it. -/
def Visit.run (p : CachePolicy) (remote : Catalog ρ) (v : Visit ρ) (w : State ρ) :
    Except Catalog.Error Content × State ρ :=
  (catalog p remote).content v.path (v.meet w)

def Visit.requests (remote : Catalog ρ) (v : Visit ρ) (w : State ρ) : List Request :=
  ((readContent v.path).trace (answer remote) (v.meet w)).map (·.request)

def afterVisits (p : CachePolicy) (remote : Catalog ρ) (w : State ρ) (vs : List (Visit ρ)) :
    State ρ :=
  vs.foldl (fun w v => (v.run p remote w).2) w

/-- Whether content is stored in memory. -/
def State.IsInMemory (w : State ρ) : Prop := ∃ s, w.store = .memory s

/-- The file that a store in memory has under a key. -/
def State.fileAt? (w : State ρ) (key : Storage.Key) : Option Bytes :=
  match w.store with
  | .memory s => s.get? key
  | .directory _ => none

/-- Whether a store in memory has a payload under a key. -/
def State.Offers (w : State ρ) (key : Storage.Key) (data : Bytes) : Prop :=
  w.fileAt? key = some data ∧ data ≠ []

section Visits

variable {v : Visit ρ} (p remote)

/-- What a read meets in memory has the files that were there before. -/
lemma exists_store_meet (v : Visit ρ) (hw : w.IsInMemory) :
    ∃ s : MemoryStore, (v.meet w).store = .memory s ∧ s.refusesWrites = v.refusesWrites ∧
      ∀ key, s.get? key = w.fileAt? key := by
  obtain ⟨s, hs⟩ := hw
  refine ⟨{ s with refusesWrites := v.refusesWrites }, by rw [Visit.meet, hs], rfl, fun key => ?_⟩
  rw [State.fileAt?, hs]
  rfl

lemma run_of_rejected {e : Storage.Error} (hk : keyOf v.path = .error e) :
    v.run p remote w = (.error (.storage e), v.meet w) ∧ v.requests remote w = [] := by
  have hread := readContent_of_error hk
  constructor
  · rw [Visit.run, catalog]
    simp only [hread, run_done]
  · rw [Visit.requests, hread]
    rfl

/-- A payload that is stored is all that a read asks for. -/
lemma run_of_hit (hw : w.IsInMemory) (hk : keyOf v.path = .ok key) (hit : w.Offers key data) :
    (v.run p remote w).1 = .ok ⟨data, false⟩ ∧
      v.requests remote w = [.readContent (String.ofList key.toPath)] ∧
      (v.run p remote w).2.IsInMemory ∧
      ∀ other, (v.run p remote w).2.fileAt? other = w.fileAt? other := by
  obtain ⟨s, hs, -, hget⟩ := exists_store_meet v hw
  have hoffers : s.Offers key data := ⟨(hget key).trans hit.1, hit.2⟩
  have hrun : v.run p remote w = _ := run_readContent_of_offers hk hs hoffers
  have htrace := trace_readContent_of_offers remote hk hs hoffers
  refine ⟨by rw [hrun], by rw [Visit.requests, htrace]; rfl, ⟨_, by rw [hrun]⟩, fun other => ?_⟩
  rw [hrun, ← hget other]
  rfl

/-- Without a payload a read gives what the remote gives. It changes no other file, and none at
all if the remote or the store fails. -/
lemma run_of_miss (hw : w.IsInMemory) (hk : keyOf v.path = .ok key)
    (miss : ∀ data, ¬ w.Offers key data) :
    (v.run p remote w).1 = (remote.content v.path v.remote).1 ∧
      (v.run p remote w).2.IsInMemory ∧
      ∀ other, (v.run p remote w).2.fileAt? other =
        match (v.run p remote w).1 with
        | .ok content =>
          if v.refusesWrites = false ∧ other = key then some content.bytes else w.fileAt? other
        | .error _ => w.fileAt? other := by
  obtain ⟨s, hs, hrefuses, hget⟩ := exists_store_meet v hw
  have hmiss : ∀ data, ¬ s.Offers key data := fun data h =>
    miss data ⟨(hget key).symm.trans h.get?_eq, h.ne_nil⟩
  have hrun : v.run p remote w = _ := run_readContent_of_not_offers hk hs hmiss
  have hmet : (v.meet w).remote = v.remote := rfl
  rw [hmet] at hrun
  refine ⟨by rw [hrun], ⟨_, by rw [hrun]⟩, fun other => ?_⟩
  rw [hrun]
  cases (remote.content v.path v.remote).1 with
  | error cause => exact hget other
  | ok content =>
    have hkeep := MemoryStore.get?_keep s key other content.bytes
    rw [hrefuses, hget] at hkeep
    exact hkeep

lemma isInMemory_run (v : Visit ρ) (hw : w.IsInMemory) : (v.run p remote w).2.IsInMemory := by
  cases hk : keyOf v.path with
  | error e =>
    obtain ⟨s, hs, -⟩ := exists_store_meet v hw
    rw [(run_of_rejected p remote hk).1]
    exact ⟨s, hs⟩
  | ok key =>
    by_cases hit : ∃ data, w.Offers key data
    · obtain ⟨data, hit⟩ := hit
      exact (run_of_hit p remote hw hk hit).2.2.1
    · exact (run_of_miss p remote hw hk (not_exists.mp hit)).2.1

/-- A file changes only when a read of its key fetches something and the store accepts it. -/
lemma fileAt?_run_of (hw : w.IsInMemory) (key : Storage.Key)
    (h : keyOf v.path ≠ .ok key ∨ v.refusesWrites = true ∨
      ∃ cause, (v.run p remote w).1 = .error cause) :
    (v.run p remote w).2.fileAt? key = w.fileAt? key := by
  cases hk : keyOf v.path with
  | error e =>
    obtain ⟨s, hs, -, hget⟩ := exists_store_meet v hw
    rw [(run_of_rejected p remote hk).1, State.fileAt?, hs]
    exact hget key
  | ok asked =>
    by_cases hit : ∃ data, w.Offers asked data
    · obtain ⟨data, hit⟩ := hit
      exact (run_of_hit p remote hw hk hit).2.2.2 key
    · obtain ⟨-, -, hfile⟩ := run_of_miss p remote hw hk (not_exists.mp hit)
      rw [hfile key]
      cases hresult : (v.run p remote w).1 with
      | error cause => rfl
      | ok content =>
        have hnot : ¬ (v.refusesWrites = false ∧ key = asked) := by
          rintro ⟨haccepts, rfl⟩
          rcases h with h | h | ⟨cause, h⟩
          · exact h hk
          · rw [haccepts] at h
            contradiction
          · rw [hresult] at h
            contradiction
        exact if_neg hnot

lemma State.Offers.run (hit : w.Offers key data) (hw : w.IsInMemory) (v : Visit ρ) :
    (v.run p remote w).2.Offers key data := by
  refine ⟨?_, hit.2⟩
  rw [← hit.1]
  by_cases hk : keyOf v.path = .ok key
  · exact (run_of_hit p remote hw hk hit).2.2.2 key
  · exact fileAt?_run_of p remote hw key (.inl hk)

lemma isInMemory_afterVisits (hw : w.IsInMemory) (vs : List (Visit ρ)) :
    (afterVisits p remote w vs).IsInMemory := by
  induction vs generalizing w with
  | nil => exact hw
  | cons v vs ih => exact ih (isInMemory_run p remote v hw)

lemma State.Offers.afterVisits (hit : w.Offers key data) (hw : w.IsInMemory)
    (vs : List (Visit ρ)) : (afterVisits p remote w vs).Offers key data := by
  induction vs generalizing w with
  | nil => exact hit
  | cons v vs ih => exact ih (hit.run p remote hw v) (isInMemory_run p remote v hw)

end Visits

/-- Over any number of reads, with a store in memory: a path without a key is answered at once and
asks for nothing. Once a payload is stored under a key it stays, and every read of the key gives it
and asks for nothing else. Until then each read gives what the remote has for it at that time, and
stores a payload that is not empty unless the store refuses. Whenever the remote or the store
fails, and for every other key, the files stay as they are. -/
theorem content_immutable (p : CachePolicy) (remote : Catalog ρ) (w : State ρ)
    (hw : w.IsInMemory) (before : List (Visit ρ)) (v : Visit ρ) :
    let reached := afterVisits p remote w before
    let outcome := v.run p remote reached
    (∀ e, keyOf v.path = .error e →
      outcome = (.error (.storage e), v.meet reached) ∧ v.requests remote reached = []) ∧
    (∀ key data, keyOf v.path = .ok key → reached.Offers key data →
      outcome.1 = .ok ⟨data, false⟩ ∧
        v.requests remote reached = [.readContent (String.ofList key.toPath)]) ∧
    (∀ key data, reached.Offers key data →
      ∀ rest, (afterVisits p remote reached rest).Offers key data) ∧
    (∀ key, keyOf v.path = .ok key → (∀ data, ¬ reached.Offers key data) →
      outcome.1 = (remote.content v.path v.remote).1 ∧
        (∀ content, outcome.1 = .ok content → content.bytes ≠ [] → v.refusesWrites = false →
          outcome.2.Offers key content.bytes)) ∧
    (∀ key, keyOf v.path ≠ .ok key ∨ v.refusesWrites = true ∨ (∃ cause, outcome.1 = .error cause) →
      outcome.2.fileAt? key = reached.fileAt? key) := by
  intro reached outcome
  have hreached : reached.IsInMemory := isInMemory_afterVisits p remote hw before
  refine ⟨fun e hk => run_of_rejected p remote hk, ?_, ?_, ?_, ?_⟩
  · intro key data hk hit
    obtain ⟨hresult, hrequests, -⟩ := run_of_hit p remote hreached hk hit
    exact ⟨hresult, hrequests⟩
  · intro key data hit rest
    exact hit.afterVisits p remote hreached rest
  · intro key hk miss
    obtain ⟨hresult, -, hfile⟩ := run_of_miss p remote hreached hk miss
    refine ⟨hresult, fun content hc hne haccepts => ⟨?_, hne⟩⟩
    rw [hfile key]
    simp only [outcome] at hc
    rw [hc]
    exact if_pos ⟨haccepts, rfl⟩
  · intro key h
    exact fileAt?_run_of p remote hreached key h

/-- A read of `path` while the remote has `data` there. -/
def visitOf (path : String) (data : Bytes) (refusesWrites : Bool) : Visit MemoryCatalog where
  path := path
  remote := { contents := [(path, data)] }
  refusesWrites := refusesWrites

/-- A new cache with an empty file. -/
def emptyFile : State MemoryCatalog where
  store := .memory { files := [(["pub".toList, "a.mod".toList], [])] }
  remote := {}
  clock := Instant.ofSeconds 0

/-- The first payload could not be stored, the second one is read by another path of the key. -/
theorem content_immutable_emptyFile :
    let reached := afterVisits {} MemoryCatalog.catalog emptyFile
      [visitOf "/pub/a.mod" [1] true, visitOf "pub/./a.mod" [2] false]
    ((visitOf "/pub/a.mod" [3] false).run {} MemoryCatalog.catalog reached).1 =
        .ok ⟨[2], false⟩ ∧
      (visitOf "/pub/a.mod" [3] false).requests MemoryCatalog.catalog reached =
        [.readContent "pub/a.mod"] := by
  have hmemory : emptyFile.IsInMemory := ⟨_, rfl⟩
  obtain ⟨-, hhit, -⟩ := content_immutable {} MemoryCatalog.catalog emptyFile hmemory
    [visitOf "/pub/a.mod" [1] true, visitOf "pub/./a.mod" [2] false]
    (visitOf "/pub/a.mod" [3] false)
  exact hhit ["pub".toList, "a.mod".toList] [2] rfl ⟨rfl, by decide⟩

end ModuleArchive.Cache
