import ModuleArchive.Proofs.Content.Arrival

/-!
# Allocations that are tried again

An allocation that fails is tried once more after memory has been given back. A reader that is
refused memory now and then asks for the same allocations, in the same order, as one that is granted
everything, up to the first that is refused twice; if there is none, it reads the same.
-/
namespace ModuleArchive.Content

/-! ### Single allocations -/

/-- How an allocation ends. -/
inductive Grant where
  | atOnce
  /-- The first attempt fails and the second one does not. -/
  | afterReclaim
  /-- Both attempts fail. -/
  | refused
deriving Repr, DecidableEq

namespace Grant

/-- What is done for an allocation of some bytes that ends so. -/
def events (size : Nat) : Grant → List MemoryEvent
  | atOnce => [.attempt size true]
  | afterReclaim => [.attempt size false, .reclaim, .attempt size true]
  | refused => [.attempt size false, .reclaim, .attempt size false]

/-- How many attempts are made in an allocation that ends so. -/
def attempts : Grant → Nat
  | atOnce => 1
  | _ => 2

lemma countP_events (size : Nat) (g : Grant) :
    (g.events size).countP MemoryEvent.isAttempt = g.attempts := by
  cases g <;> rfl

lemma count_reclaim_events (size : Nat) (g : Grant) :
    (g.events size).count .reclaim = if g = .atOnce then 0 else 1 := by
  cases g <;> rfl

end Grant

/-- How an allocation ends whose first attempt is the `n`th of all. -/
def Allocator.grant (alloc : Allocator) (n size : Nat) : Grant :=
  if alloc n size then .atOnce
  else if alloc (n + 1) size then .afterReclaim
  else .refused

namespace Effort

@[simp] lemma attempts_mk (events : List MemoryEvent) :
    Effort.attempts ⟨events⟩ = events.countP MemoryEvent.isAttempt := rfl

@[simp] lemma attempts_after_attempt (e : Effort) (size : Nat) (granted : Bool) :
    (e.after (.attempt size granted)).attempts = e.attempts + 1 := by
  simp [after, attempts, List.countP_append, MemoryEvent.isAttempt]

@[simp] lemma attempts_after_reclaim (e : Effort) : (e.after .reclaim).attempts = e.attempts := by
  simp [after, attempts, List.countP_append, MemoryEvent.isAttempt]

end Effort

/-- An allocation is granted unless it is refused, and all that is done for it is what its end
takes. -/
lemma allocate_eq (alloc : Allocator) (size : Nat) (e : Effort) :
    allocate alloc size e =
      (alloc.grant e.attempts size != .refused,
        ⟨e.events ++ (alloc.grant e.attempts size).events size⟩) := by
  have htwice : ((e.after (.attempt size false)).after .reclaim).attempts = e.attempts + 1 := by
    rw [Effort.attempts_after_reclaim, Effort.attempts_after_attempt]
  simp only [allocate, Effort.attempt, Allocator.grant]
  by_cases hfirst : alloc e.attempts size = true
  · simp only [hfirst, if_true]
    rfl
  · rw [Bool.not_eq_true] at hfirst
    simp only [hfirst, Bool.false_eq_true, if_false, htwice]
    by_cases hsecond : alloc (e.attempts + 1) size = true
    · simp [hsecond, Effort.after, Grant.events]
    · simp [hsecond, Effort.after, Grant.events]

/-! ### Allocations in a row -/

/-- An allocation and how it ended. -/
structure Served where
  size : Nat
  grant : Grant
deriving Repr, DecidableEq

/-- All that is done for some allocations in a row. -/
def Served.events (served : List Served) : List MemoryEvent :=
  served.flatMap fun s => s.grant.events s.size

/-- How allocations in a row end whose first attempt is the `n`th of all. None is begun behind one
that is refused. -/
def Allocator.serve (alloc : Allocator) : Nat → List Nat → List Served
  | _, [] => []
  | n, size :: sizes =>
    let grant := alloc.grant n size
    ⟨size, grant⟩ :: if grant = .refused then [] else alloc.serve (n + grant.attempts) sizes

/-- Whether some allocation in a row was refused. -/
def Served.isRefused (served : List Served) : Prop := ∃ s ∈ served, s.grant = .refused

section Serve

variable {alloc : Allocator} {n size : Nat} {sizes : List Nat}

lemma serve_of_refused (h : alloc.grant n size = .refused) :
    alloc.serve n (size :: sizes) = [⟨size, .refused⟩] := by
  simp [Allocator.serve, h]

lemma serve_of_granted (h : alloc.grant n size ≠ .refused) :
    alloc.serve n (size :: sizes) =
      ⟨size, alloc.grant n size⟩ ::
        alloc.serve (n + (alloc.grant n size).attempts) sizes := by
  simp [Allocator.serve, h]

/-- Memory is given back once for each allocation that is not granted at once. -/
lemma count_reclaim_served (served : List Served) :
    (Served.events served).count .reclaim = served.countP (·.grant ≠ .atOnce) := by
  induction served with
  | nil => rfl
  | cons s served ih =>
    rw [Served.events, List.flatMap_cons, List.count_append, Grant.count_reclaim_events]
    rw [Served.events] at ih
    rw [ih, List.countP_cons, Nat.add_comm]
    by_cases h : s.grant = .atOnce <;> simp [h]

/-- No allocation is attempted more than twice. -/
lemma countP_isAttempt_served (served : List Served) :
    (Served.events served).countP MemoryEvent.isAttempt ≤ 2 * served.length := by
  induction served with
  | nil => exact Nat.le_refl 0
  | cons s served ih =>
    rw [Served.events, List.flatMap_cons, List.countP_append, Grant.countP_events]
    rw [Served.events] at ih
    have hs : s.grant.attempts ≤ 2 := by cases s.grant <;> decide
    rw [List.length_cons]
    omega

end Serve

/-! ### Readers beside each other -/

/-- A reader that is refused memory now and then, beside one that is granted everything, from the
efforts `e` and `e₀` on. -/
structure Retries (alloc : Allocator) (e e₀ : Effort) (sizes : List Nat)
    (reading undisturbed : Reading) : Prop where
  /-- The one asks for allocations of these sizes. -/
  undisturbed_events : undisturbed.effort.events = e₀.events ++ sizes.map (.attempt · true)
  /-- The other asks for the same ones, and does nothing else. -/
  events : reading.effort.events = e.events ++ Served.events (alloc.serve e.attempts sizes)
  /-- It runs out of memory if one of them is refused. -/
  outOfMemory : Served.isRefused (alloc.serve e.attempts sizes) →
    reading.result = .error (.io .outOfMemory)
  /-- Else it reads the same. -/
  result_eq : ¬ Served.isRefused (alloc.serve e.attempts sizes) →
    reading.result = undisturbed.result

namespace Retries

variable {alloc : Allocator} {e e₀ : Effort} {size : Nat} {sizes : List Nat}
  {reading undisturbed : Reading}

/-- Where nothing is left to be allocated, both read the same. -/
lemma done (result : Except Error Content) (asked : List Nat) :
    Retries alloc e e₀ [] ⟨result, e, asked⟩ ⟨result, e₀, asked⟩ where
  undisturbed_events := by simp
  events := by simp [Allocator.serve, Served.events]
  outOfMemory h := by simp [Allocator.serve, Served.isRefused] at h
  result_eq _ := rfl

/-- An allocation in front of what is done if it is granted. -/
lemma allocation
    (hu : undisturbed.effort.events = e₀.events ++ (size :: sizes).map (.attempt · true))
    (hr : (allocate alloc size e).1 = false →
      reading.result = .error (.io .outOfMemory) ∧ reading.effort = (allocate alloc size e).2)
    (hg : (allocate alloc size e).1 = true →
      Retries alloc (allocate alloc size e).2 (allocate .unlimited size e₀).2 sizes reading
        undisturbed) :
    Retries alloc e e₀ (size :: sizes) reading undisturbed := by
  rw [allocate_eq] at hr hg
  have hattempts : Effort.attempts ⟨e.events ++ (alloc.grant e.attempts size).events size⟩ =
      e.attempts + (alloc.grant e.attempts size).attempts := by
    rw [Effort.attempts_mk, List.countP_append, Grant.countP_events]
    rfl
  by_cases h : alloc.grant e.attempts size = .refused
  · obtain ⟨hresult, heffort⟩ := hr (by rw [h]; rfl)
    have hserve : alloc.serve e.attempts (size :: sizes) = [⟨size, .refused⟩] := serve_of_refused h
    refine ⟨hu, ?_, fun _ => hresult, fun hnot => absurd ?_ hnot⟩
    · rw [heffort, hserve, h]
      simp [Served.events]
    · rw [hserve]
      exact ⟨_, List.mem_singleton_self _, rfl⟩
  · obtain ⟨-, hevents, hout, hsame⟩ := hg (by simpa using h)
    rw [hattempts] at hevents hout hsame
    have hserve : alloc.serve e.attempts (size :: sizes) = ⟨size, alloc.grant e.attempts size⟩ ::
        alloc.serve (e.attempts + (alloc.grant e.attempts size).attempts) sizes :=
      serve_of_granted h
    have hiff : Served.isRefused (alloc.serve e.attempts (size :: sizes)) ↔
        Served.isRefused
          (alloc.serve (e.attempts + (alloc.grant e.attempts size).attempts) sizes) := by
      simp [hserve, Served.isRefused, h]
    refine ⟨hu, ?_, fun hmem => hout (hiff.mp hmem), fun hnot => hsame fun hmem =>
      hnot (hiff.mpr hmem)⟩
    rw [hevents, hserve, List.append_assoc]
    rfl

/-- Memory is given back exactly once for each allocation that is not granted at once. -/
lemma reclaims (h : Retries alloc e e₀ sizes reading undisturbed) :
    reading.effort.reclaims =
      e.reclaims + (alloc.serve e.attempts sizes).countP (·.grant ≠ .atOnce) := by
  rw [Effort.reclaims, h.events, List.count_append, count_reclaim_served]
  rfl

/-- Each allocation is attempted at most twice. -/
lemma attempts_le (h : Retries alloc e e₀ sizes reading undisturbed) :
    reading.effort.attempts ≤ e.attempts + 2 * (alloc.serve e.attempts sizes).length := by
  have hserved := countP_isAttempt_served (alloc.serve e.attempts sizes)
  rw [Effort.attempts, h.events, List.countP_append]
  exact Nat.add_le_add_left hserved _

end Retries

namespace Reader

section Readers

variable (alloc : Allocator) (e e₀ : Effort)

lemma retries_readGrowing {filled room : Nat} {h : 0 < room ∧ 2 ≤ filled + room}
    {pieces : List Bytes} {asked : List (List Nat)} {stream : List Chunk} :
    ∃ sizes, Retries alloc e e₀ sizes
      (readGrowing alloc filled room h pieces asked e stream)
      (readGrowing .unlimited filled room h pieces asked e₀ stream) := by
  induction hw : weight stream using Nat.strongRecOn
    generalizing filled room pieces asked e e₀ stream with
  | ind n ih =>
    by_cases hfull : (fill room stream).bytes.length = room
    · have hless := weight_rest_lt h.1 hfull
      rw [hw] at hless
      obtain ⟨sizes, hrest⟩ : ∃ sizes,
          Retries alloc (allocate alloc room e).2 (allocate .unlimited room e₀).2 sizes
            (readGrowing alloc (filled + room) ((filled + room) / 2) (room_of_growing h)
              ((fill room stream).bytes :: pieces) ((fill room stream).asked :: asked)
              (allocate alloc room e).2 (fill room stream).rest)
            (readGrowing .unlimited (filled + room) ((filled + room) / 2) (room_of_growing h)
              ((fill room stream).bytes :: pieces) ((fill room stream).asked :: asked)
              (allocate .unlimited room e₀).2 (fill room stream).rest) := ih _ hless _ _ rfl
      refine ⟨room :: sizes, .allocation ?_ (fun hr => ?_) fun hg => ?_⟩
      · rw [readGrowing_of_full rfl hfull, hrest.undisturbed_events, allocate_unlimited]
        simp [Effort.after]
      · rw [readGrowing_of_refused hr]
        exact ⟨rfl, rfl⟩
      · rwa [readGrowing_of_full hg hfull, readGrowing_of_full rfl hfull]
    · refine ⟨[room], .allocation ?_ (fun hr => ?_) fun hg => ?_⟩
      · rw [readGrowing_of_short rfl hfull]
        rfl
      · rw [readGrowing_of_refused hr]
        exact ⟨rfl, rfl⟩
      · rw [readGrowing_of_short hg hfull, readGrowing_of_short rfl hfull]
        exact .done _ _

lemma retries_readStream (r : Reader) (stream : List Chunk) :
    ∃ sizes, Retries alloc {} {} sizes (r.readStream alloc stream)
      (r.readStream .unlimited stream) :=
  retries_readGrowing alloc {} {}

lemma retries_readSized (size : Nat) (stream : List Chunk) :
    ∃ sizes, Retries alloc e e₀ sizes (readSized alloc size e stream)
      (readSized .unlimited size e₀ stream) := by
  by_cases hsize : size = 0
  · simp only [readSized, hsize, if_true]
    exact ⟨[], .done _ _⟩
  · refine ⟨[size], .allocation ?_ (fun hr => ?_) fun hg => ?_⟩
    · rw [readSized_of_granted hsize rfl]
      rfl
    · rw [readSized_of_refused hsize hr]
      exact ⟨rfl, rfl⟩
    · rw [readSized_of_granted hsize hg, readSized_of_granted hsize rfl]
      exact .done _ _

end Readers

/-! ### Files -/

/-- What is done to map a file: nothing if it is empty or small, and memory is given back if mapping
it fails. -/
def mapping (r : Reader) (file : OpenFile) : List MemoryEvent :=
  if file.size = 0 ∨ file.size < r.mmapThreshold then []
  else if file.mapped?.isSome then [.mapping true]
  else [.mapping false, .reclaim]

/-- Whether these are the bytes of a file: it is mapped to them if it can be mapped, and reads to
them if it can be read. -/
structure OpenFile.Holds (file : OpenFile) (data : Bytes) : Prop where
  mapped : ∀ bytes, file.mapped? = some bytes → bytes = data
  stream : fault? file.stream = none → delivered file.stream = data

section Files

variable (r : Reader) (alloc : Allocator) (file : OpenFile)

lemma readFile_of_notMapped (h : file.mapped? = none ∨ file.size < r.mmapThreshold) :
    r.readFile alloc file = readSized alloc file.size ⟨r.mapping file⟩ file.stream := by
  rw [readFile, mapping]
  by_cases hzero : file.size = 0
  · simp only [hzero, if_true, true_or, readSized]
  · by_cases hsmall : file.size < r.mmapThreshold
    · simp only [hzero, hsmall, Nat.not_le.mpr hsmall, if_false, or_true, if_true]
    · have hnone : file.mapped? = none := h.resolve_right hsmall
      simp only [hzero, hsmall, Nat.not_lt.mp hsmall, hnone, if_true, if_false, or_self,
        Option.isSome_none, Bool.false_eq_true]
      rfl

lemma readFile_of_mapped {data : Bytes} (h : file.mapped? = some data) (hzero : file.size ≠ 0)
    (hlarge : r.mmapThreshold ≤ file.size) :
    r.readFile alloc file = ⟨.ok ⟨data, true⟩, ⟨r.mapping file⟩, []⟩ := by
  simp only [readFile, mapping, hzero, hlarge, h, Nat.not_lt.mpr hlarge, if_true, if_false, or_self,
    Option.isSome_some]
  rfl

lemma retries_readFile :
    ∃ sizes, Retries alloc ⟨r.mapping file⟩ ⟨r.mapping file⟩ sizes (r.readFile alloc file)
      (r.readFile .unlimited file) := by
  by_cases h : file.mapped? = none ∨ file.size < r.mmapThreshold
  · rw [readFile_of_notMapped r alloc file h, readFile_of_notMapped r .unlimited file h]
    exact retries_readSized alloc _ _ _ _
  · obtain ⟨hmapped, hlarge⟩ := not_or.mp h
    obtain ⟨data, hdata⟩ := Option.ne_none_iff_exists'.mp hmapped
    refine ⟨[], ?_⟩
    by_cases hzero : file.size = 0
    · have hempty (alloc : Allocator) : r.readFile alloc file = ⟨.error .empty, {}, []⟩ := by
        rw [readFile, if_pos hzero]
      have hnothing : r.mapping file = [] := if_pos (.inl hzero)
      rw [hempty, hempty, hnothing]
      exact .done _ _
    · rw [readFile_of_mapped r alloc file hdata hzero (by omega),
        readFile_of_mapped r .unlimited file hdata hzero (by omega)]
      exact .done _ _

lemma countP_isAttempt_mapping : (r.mapping file).countP MemoryEvent.isAttempt = 0 := by
  unfold mapping
  split
  · rfl
  · split <;> rfl

lemma count_reclaim_mapping :
    (r.mapping file).count .reclaim =
      if file.size ≠ 0 ∧ r.mmapThreshold ≤ file.size ∧ file.mapped? = none then 1 else 0 := by
  unfold mapping
  by_cases h : file.size = 0 ∨ file.size < r.mmapThreshold
  · rw [if_pos h, if_neg (by omega)]
    rfl
  · rw [if_neg h]
    cases file.mapped? with
    | some data => simp
    | none =>
      rw [if_neg (by simp), if_pos ⟨by omega, by omega, rfl⟩]
      rfl

lemma bytes_of_readFile {data : Bytes} {c : Content} (hfile : file.Holds data)
    (h : (r.readFile alloc file).result = .ok c) : c.bytes = data := by
  by_cases hread : file.mapped? = none ∨ file.size < r.mmapThreshold
  · rw [readFile_of_notMapped r alloc file hread] at h
    obtain ⟨hf, rfl, -⟩ := delivered_of_readSized h
    exact hfile.stream hf
  · obtain ⟨hmapped, hlarge⟩ := not_or.mp hread
    obtain ⟨bytes, hbytes⟩ := Option.ne_none_iff_exists'.mp hmapped
    by_cases hzero : file.size = 0
    · rw [readFile, if_pos hzero] at h
      cases h
    · rw [readFile_of_mapped r alloc file hbytes hzero (by omega)] at h
      obtain rfl := Except.ok.inj h
      exact hfile.mapped bytes hbytes

end Files

end Reader

/-! ### All readers -/

/-- A reader that is refused memory now and then, beside one that is granted everything: `served` is
how its allocations ended, and `before` is what it did in front of them. -/
structure RetriesOnce (alloc : Allocator) (before : List MemoryEvent) (served : List Served)
    (reading undisturbed : Reading) : Prop where
  /-- The allocations are those of the undisturbed reader, up to the first that is refused. -/
  served_eq : ∃ sizes, served = alloc.serve 0 sizes ∧
    undisturbed.effort.events = before ++ sizes.map (.attempt · true)
  /-- Nothing else is done. -/
  events_eq : reading.effort.events = before ++ Served.events served
  /-- Memory is given back exactly once for each allocation that is not granted at once. -/
  reclaims_eq : reading.effort.reclaims =
    before.count .reclaim + served.countP (·.grant ≠ .atOnce)
  /-- No allocation is attempted more than twice. -/
  attempts_le : reading.effort.attempts ≤ 2 * served.length
  outOfMemory : Served.isRefused served → reading.result = .error (.io .outOfMemory)
  result_eq : ¬ Served.isRefused served → reading.result = undisturbed.result

lemma Retries.once {alloc : Allocator} {before : List MemoryEvent} {sizes : List Nat}
    {reading undisturbed : Reading} (h : Retries alloc ⟨before⟩ ⟨before⟩ sizes reading undisturbed)
    (hbefore : before.countP MemoryEvent.isAttempt = 0) :
    RetriesOnce alloc before (alloc.serve 0 sizes) reading undisturbed := by
  have hzero : Effort.attempts ⟨before⟩ = 0 := hbefore
  have hattempts := h.attempts_le
  have hreclaims := h.reclaims
  have hevents := h.events
  have hout := h.outOfMemory
  have hresult := h.result_eq
  rw [hzero] at hattempts hreclaims hevents hout hresult
  exact ⟨⟨sizes, rfl, h.undisturbed_events⟩, hevents, hreclaims, by omega, hout, hresult⟩

/-- Every allocation that fails is tried once more, after memory has been given back once, and what
is read does not depend on that. Only mapping a large file in vain gives memory back besides. What
is read from a file is what it holds. -/
theorem allocations_are_retried_once (alloc : Allocator) :
    (∀ (r : Reader) (stream : List Chunk), ∃ served,
      RetriesOnce alloc [] served (r.readStream alloc stream) (r.readStream .unlimited stream)) ∧
    (∀ (size : Nat) (stream : List Chunk), ∃ served,
      RetriesOnce alloc [] served (Reader.readSized alloc size {} stream)
        (Reader.readSized .unlimited size {} stream)) ∧
    (∀ (r : Reader) (file : Reader.OpenFile),
      (∃ served, RetriesOnce alloc (r.mapping file) served (r.readFile alloc file)
        (r.readFile .unlimited file)) ∧
      (r.mapping file).count .reclaim =
        (if file.size ≠ 0 ∧ r.mmapThreshold ≤ file.size ∧ file.mapped? = none then 1 else 0) ∧
      ∀ data c, file.Holds data → (r.readFile alloc file).result = .ok c → c.bytes = data) := by
  refine ⟨fun r stream => ?_, fun size stream => ?_, fun r file => ⟨?_, ?_, ?_⟩⟩
  · obtain ⟨sizes, h⟩ := Reader.retries_readStream alloc r stream
    exact ⟨_, h.once rfl⟩
  · obtain ⟨sizes, h⟩ := Reader.retries_readSized alloc {} {} size stream
    exact ⟨_, h.once rfl⟩
  · obtain ⟨sizes, h⟩ := Reader.retries_readFile r alloc file
    exact ⟨_, h.once (r.countP_isAttempt_mapping file)⟩
  · exact r.count_reclaim_mapping file
  · exact fun data c hfile h => r.bytes_of_readFile alloc file hfile h

/-- A large file that cannot be mapped, read by a reader that is granted memory at its second
attempt. -/
theorem allocations_are_retried_once_unmapped :
    (⟨3, none, [.data [77], .interrupted, .data [79, 68]]⟩ : Reader.OpenFile).Holds [77, 79, 68] ∧
    ∃ c, ((Reader.standard.withMmapThreshold 2).readFile (fun n _ => n = 1)
        ⟨3, none, [.data [77], .interrupted, .data [79, 68]]⟩).result = .ok c ∧
      c.bytes = [77, 79, 68] ∧
      ((Reader.standard.withMmapThreshold 2).readFile (fun n _ => n = 1)
        ⟨3, none, [.data [77], .interrupted, .data [79, 68]]⟩).effort.reclaims = 2 := by
  have hfile : (⟨3, none, [.data [77], .interrupted, .data [79, 68]]⟩ : Reader.OpenFile).Holds
      [77, 79, 68] := ⟨nofun, fun _ => rfl⟩
  refine ⟨hfile, ⟨[77, 79, 68], false⟩, rfl, ?_, rfl⟩
  exact ((allocations_are_retried_once fun n _ => n = 1).2.2 (Reader.standard.withMmapThreshold 2)
    ⟨3, none, [.data [77], .interrupted, .data [79, 68]]⟩).2.2 _ _ hfile rfl

end ModuleArchive.Content
