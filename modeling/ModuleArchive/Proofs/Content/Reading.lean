import ModuleArchive.Proofs.Content.Retry

/-!
# What is read

Content that a reader gives is what its source holds: all bytes that a stream delivers, or all bytes
of the file, however often memory is refused.
-/
namespace ModuleArchive.Content

/-! ### Streams -/

lemma delivered_of_readStream {r : Reader} {alloc : Allocator} {stream : List Chunk} {c : Content}
    (h : (r.readStream alloc stream).result = .ok c) :
    fault? stream = none ∧ c = ⟨delivered stream, false⟩ ∧ delivered stream ≠ [] := by
  obtain ⟨sizes, hretries⟩ := Reader.retries_readStream alloc r stream
  by_cases hout : Served.isRefused (alloc.serve 0 sizes)
  · rw [hretries.outOfMemory hout] at h
    cases h
  · rw [hretries.result_eq hout, result_readStream] at h
    cases hf : fault? stream with
    | some fault =>
      rw [hf] at h
      cases h
    | none =>
      rw [hf, Option.elim_none, payload] at h
      by_cases hempty : delivered stream = []
      · rw [hempty] at h
        cases h
      · rw [if_neg (by simpa using hempty)] at h
        exact ⟨rfl, (Except.ok.inj h).symm, hempty⟩

/-- A stream of unknown length that is granted all memory it asks for is content if it ends and
delivers something. -/
lemma readStream_eq_ok_iff {r : Reader} {stream : List Chunk} {c : Content} :
    (r.readStream .unlimited stream).result = .ok c ↔
      fault? stream = none ∧ c = ⟨delivered stream, false⟩ ∧ delivered stream ≠ [] := by
  refine ⟨delivered_of_readStream, fun ⟨hf, hc, hne⟩ => ?_⟩
  rw [result_readStream, hf, Option.elim_none, payload, if_neg (by simpa using hne), hc]

/-- A stream of declared length that is granted a buffer is content if it ends and delivers so many
bytes. -/
lemma readSized_eq_ok_iff {alloc : Allocator} {size : Nat} {effort : Effort} {stream : List Chunk}
    {c : Content} (hg : (allocate alloc size effort).1 = true) :
    (Reader.readSized alloc size effort stream).result = .ok c ↔
      fault? stream = none ∧ c = ⟨delivered stream, false⟩ ∧ delivered stream ≠ [] ∧
        (delivered stream).length = size := by
  constructor
  · intro h
    obtain ⟨hf, hc, hlen⟩ := Reader.delivered_of_readSized h
    refine ⟨hf, hc, fun hnil => ?_, hlen⟩
    rw [hnil] at hlen
    obtain rfl : size = 0 := hlen.symm
    rw [Reader.readSized, if_pos rfl] at h
    cases h
  · rintro ⟨hf, hc, hne, hlen⟩
    have hsize : size ≠ 0 := fun hzero => hne (List.length_eq_zero_iff.mp (hlen.trans hzero))
    rw [Reader.result_readSized hsize hg, hf, Option.elim_none, if_pos hlen, hc]

lemma delivered_data (bytes : Bytes) :
    delivered [.data bytes] = bytes ∧ fault? [.data bytes] = none := by
  by_cases h : bytes = []
  · rw [h]
    exact ⟨rfl, rfl⟩
  · obtain ⟨hd, hf⟩ := delivered_of_arrivals (arrivals_data [] h)
    rw [hd, hf]
    exact ⟨List.append_nil _, rfl⟩

/-! ### Files -/

namespace Reader

lemma holds_toFile (canMap : Bool) (data : Bytes) :
    ((Opened.file data).toFile canMap).Holds data where
  mapped bytes h := by
    cases canMap with
    | true => exact (Option.some.inj h).symm
    | false => cases h
  stream _ := (delivered_data data).1

end Reader

/-- What is read from an opened file is the data of the file. -/
theorem file_of_readOpened {r : Reader} {alloc : Allocator} {canMap : Bool}
    {opened : Except IoFault Reader.Opened} {c : Content}
    (hr : (r.readOpened alloc canMap opened).result = .ok c) :
    opened = .ok (.file c.bytes) := by
  cases opened with
  | error fault => cases hr
  | ok opened =>
    cases opened with
    | file data => rw [r.bytes_of_readFile alloc _ (Reader.holds_toFile canMap data) hr]
    | directory size =>
      -- a directory cannot be mapped, and reading it fails
      rw [Reader.readOpened, Reader.readFile_of_notMapped r alloc _ (.inl rfl)] at hr
      cases (Reader.delivered_of_readSized hr).1

lemma ne_nil_of_readOpened {r : Reader} {alloc : Allocator} {canMap : Bool}
    {opened : Except IoFault Reader.Opened} {c : Content}
    (hr : (r.readOpened alloc canMap opened).result = .ok c) : c.bytes ≠ [] := by
  intro he
  rw [file_of_readOpened hr, he] at hr
  cases hr

/-- A file that is not empty can be read, if memory is granted. -/
theorem exists_readOpened_file (r : Reader) (canMap : Bool) {data : Bytes} (h : data ≠ []) :
    ∃ c, (r.readOpened .unlimited canMap (.ok (.file data))).result = .ok c := by
  have hsize : data.length ≠ 0 := fun hzero => h (List.length_eq_zero_iff.mp hzero)
  rw [Reader.readOpened]
  by_cases hread : ((Reader.Opened.file data).toFile canMap).mapped? = none ∨
      data.length < r.mmapThreshold
  · obtain ⟨hd, hf⟩ := delivered_data data
    refine ⟨⟨data, false⟩, ?_⟩
    rw [Reader.readFile_of_notMapped r .unlimited _ hread, Reader.Opened.toFile,
      Reader.result_readSized hsize rfl, hd, hf, Option.elim_none, if_pos rfl]
  · obtain ⟨hmapped, hlarge⟩ := not_or.mp hread
    obtain ⟨bytes, hbytes⟩ := Option.ne_none_iff_exists'.mp hmapped
    exact ⟨⟨bytes, true⟩, by
      rw [Reader.readFile_of_mapped r .unlimited _ hbytes hsize (Nat.not_lt.mp hlarge)]⟩

end ModuleArchive.Content
