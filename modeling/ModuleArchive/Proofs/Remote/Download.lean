import ModuleArchive.Proofs.Remote.Server

/-!
# Downloads

A payload whose length is announced is read into a buffer of that length, one whose length is not
into a buffer that grows. Both ways lead to the same content, except that an announced length has to
be the true one.
-/
namespace ModuleArchive.Remote

open Content (Allocator Chunk Reader allocate delivered fault?)

/-- An answer that is granted all memory it asks for is content if it is read to its end, there is
any, and it is as long as announced. -/
lemma read_eq_ok_iff {reader : Reader} {d : Delivery} {c : Content} :
    d.read reader .unlimited = .ok c ↔
      fault? d.body = none ∧ c = ⟨delivered d.body, false⟩ ∧ c.bytes ≠ [] ∧
        ∀ size, d.size = some size → size = c.bytes.length := by
  obtain ⟨body, size⟩ := d
  cases size with
  | none =>
    rw [Delivery.read, Content.readStream_eq_ok_iff]
    constructor
    · rintro ⟨hf, rfl, hne⟩
      exact ⟨hf, rfl, hne, fun size h => by cases h⟩
    · rintro ⟨hf, rfl, hne, -⟩
      exact ⟨hf, rfl, hne⟩
  | some size =>
    rw [Delivery.read, Content.readSized_eq_ok_iff rfl]
    constructor
    · rintro ⟨hf, rfl, hne, hlen⟩
      exact ⟨hf, rfl, hne, fun _ h => (Option.some.inj h).symm.trans hlen.symm⟩
    · rintro ⟨hf, rfl, hne, hlen⟩
      exact ⟨hf, rfl, hne, (hlen size rfl).symm⟩

/-- A stream of declared length that is granted its buffer is its failure, all it delivers, or a
mismatch between what was declared and what is delivered. It is content exactly if it is content of
that size when read without being told the length. A download is content exactly if the whole answer
is read, is not empty, and has the length that was announced. -/
theorem declared_length_agrees :
    (∀ (alloc : Allocator) (size : Nat) (stream : List Chunk), 1 ≤ size →
      (allocate alloc size {}).1 = true →
      let result := (Reader.readSized alloc size {} stream).result
      (∀ fault, fault? stream = some fault → result = .error (.io fault)) ∧
      (fault? stream = none → (delivered stream).length = size →
        result = .ok ⟨delivered stream, false⟩) ∧
      (fault? stream = none → (delivered stream).length ≠ size →
        result = .error (.sizeMismatch size (delivered stream).length))) ∧
    (∀ (r : Reader) (alloc : Allocator) (size : Nat) (stream : List Chunk) (c : Content),
      (allocate alloc size {}).1 = true →
      ((Reader.readSized alloc size {} stream).result = .ok c ↔
        (r.readStream .unlimited stream).result = .ok c ∧ c.bytes.length = size)) ∧
    (∀ (r : Reader) (url : Url) (answer : Except Catalog.Error Delivery) (c : Content),
      receive r .unlimited url answer = .ok c ↔
        ∃ d, answer = .ok d ∧ fault? d.body = none ∧ c = ⟨delivered d.body, false⟩ ∧
          c.bytes ≠ [] ∧ ∀ size, d.size = some size → size = c.bytes.length) ∧
    (∀ (a : Archive) (server : Server) (url : Url) (c : Content), a.alloc = .unlimited →
      ((a.download url server).1 = .ok c ↔
        ∃ response, (server.fetch url).1 = .ok response ∧ c = ⟨response.body, false⟩ ∧
          c.bytes ≠ [] ∧ ∀ size, response.size = some size → size = c.bytes.length)) := by
  refine ⟨fun alloc size stream hsize hg => ?_, fun r alloc size stream c hg => ?_,
    fun r url answer c => ?_, fun a server url c halloc => ?_⟩
  · have hzero : size ≠ 0 := Nat.ne_of_gt hsize
    refine ⟨fun fault hf => ?_, fun hf hlen => ?_, fun hf hlen => ?_⟩
    · rw [Reader.result_readSized hzero hg, hf]
      rfl
    · rw [Reader.result_readSized hzero hg, hf, Option.elim_none, if_pos hlen]
    · rw [Reader.result_readSized hzero hg, hf, Option.elim_none, if_neg hlen]
  · rw [Content.readSized_eq_ok_iff hg, Content.readStream_eq_ok_iff]
    constructor
    · rintro ⟨hf, rfl, hne, hlen⟩
      exact ⟨⟨hf, rfl, hne⟩, hlen⟩
    · rintro ⟨⟨hf, rfl, hne⟩, hlen⟩
      exact ⟨hf, rfl, hne, hlen⟩
  · rw [receive_eq_ok_iff]
    exact exists_congr fun d => and_congr_right fun _ => read_eq_ok_iff
  · change (server.download a.reader a.alloc url).1 = .ok c ↔ _
    rw [Server.fst_download, halloc, receive_eq_ok_iff]
    cases hanswer : (server.fetch url).1 with
    | error cause => simp [Except.map]
    | ok response =>
      have hdelivered := Content.delivered_data response.body
      simp [Except.map, read_eq_ok_iff, Response.delivery, hdelivered.1, hdelivered.2]

/-- Streams of three and of four bytes that are declared to have three, one of them granted its
buffer at the second attempt, and an answer of three bytes. -/
theorem declared_length_agrees_threeBytes :
    (Reader.readSized (fun n _ => n = 1) 3 {} [.data [77], .interrupted, .data [79, 68]]).result =
      .ok ⟨[77, 79, 68], false⟩ ∧
    (Reader.readSized (.upTo 3) 3 {} [.data [77], .data [79, 68, 46]]).result =
      .error (.sizeMismatch 3 4) ∧
    (Reader.readSized (.upTo 3) 3 {} [.data [77, 79, 68], .failure .isDirectory]).result =
      .error (.io .isDirectory) ∧
    (Reader.standard.readStream .unlimited [.data [77], .interrupted, .data [79, 68]]).result =
      .ok ⟨[77, 79, 68], false⟩ ∧
    ∀ site url, ((Archive.mk site .standard .unlimited).download url
      ⟨[(url.print, ⟨[77, 79, 68], some 3⟩)], [], false⟩).1 = .ok ⟨[77, 79, 68], false⟩ := by
  obtain ⟨hresult, hread, -, hdownload⟩ := declared_length_agrees
  have hok := (hresult (fun n _ => n = 1) 3 [.data [77], .interrupted, .data [79, 68]]
    (by decide) rfl).2.1 rfl rfl
  refine ⟨hok, (hresult (.upTo 3) 3 [.data [77], .data [79, 68, 46]] (by decide) rfl).2.2 rfl
    (by decide), (hresult (.upTo 3) 3 [.data [77, 79, 68], .failure .isDirectory] (by decide)
    rfl).1 _ rfl, ((hread .standard (fun n _ => n = 1) 3 _ _ rfl).mp hok).1, fun site url => ?_⟩
  refine (hdownload (Archive.mk site .standard .unlimited) _ url _ rfl).mpr
    ⟨⟨[77, 79, 68], some 3⟩, ?_, rfl, by decide, fun size h => (Option.some.inj h).symm⟩
  simp [Server.fetch, Server.page?]

end ModuleArchive.Remote
