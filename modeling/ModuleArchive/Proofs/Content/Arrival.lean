import ModuleArchive.Content.Reader
import Mathlib.Tactic.Lemma

/-!
# What arrives

A stream brings bytes, then an end or a failure. What is read of it depends on nothing else: not on
the pieces in which the bytes come, not on interruptions, and not on the buffer that they are read
into, as long as memory is granted.
-/
namespace ModuleArchive.Content

/-! ### Arrivals -/

/-- What a stream brings next. -/
inductive Arrival where
  | byte (b : UInt8)
  | ending
  | failure (fault : IoFault)
deriving Repr, DecidableEq

/-- What a piece of a script brings. -/
def Chunk.arrivals : Chunk → List Arrival
  | .data bytes => if bytes.isEmpty then [.ending] else bytes.map .byte
  | .interrupted => []
  | .failure fault => [.failure fault]

/-- What a stream brings. -/
def arrivals (stream : List Chunk) : List Arrival := stream.flatMap Chunk.arrivals

/-- The bytes before the first end or failure. -/
def bytesOf : List Arrival → Bytes
  | .byte b :: rest => b :: bytesOf rest
  | _ => []

/-- The first failure, if no end comes before it. -/
def faultOf? : List Arrival → Option IoFault
  | .byte _ :: rest => faultOf? rest
  | .failure fault :: _ => some fault
  | _ => none

/-- The bytes of a stream before its first end or failure. -/
def delivered (stream : List Chunk) : Bytes := bytesOf (arrivals stream)

/-- The failure of a stream, if it comes before its first end. -/
def fault? (stream : List Chunk) : Option IoFault := faultOf? (arrivals stream)

lemma bytesOf_append (bytes : Bytes) (rest : List Arrival) :
    bytesOf (bytes.map .byte ++ rest) = bytes ++ bytesOf rest := by
  induction bytes with
  | nil => rfl
  | cons b bytes ih => exact congrArg (b :: ·) ih

lemma faultOf?_append (bytes : Bytes) (rest : List Arrival) :
    faultOf? (bytes.map .byte ++ rest) = faultOf? rest := by
  induction bytes with
  | nil => rfl
  | cons b bytes ih => exact ih

/-- Bytes that arrive are in front of all that follows them. -/
lemma delivered_of_arrivals {stream rest : List Chunk} {bytes : Bytes}
    (h : arrivals stream = bytes.map .byte ++ arrivals rest) :
    delivered stream = bytes ++ delivered rest ∧ fault? stream = fault? rest := by
  rw [delivered, fault?, h, bytesOf_append, faultOf?_append]
  exact ⟨rfl, rfl⟩

section Chunks

variable (rest : List Chunk)

@[simp] lemma arrivals_interrupted : arrivals (.interrupted :: rest) = arrivals rest := rfl

lemma arrivals_data {bytes : Bytes} (h : bytes ≠ []) :
    arrivals (.data bytes :: rest) = bytes.map .byte ++ arrivals rest := by
  rw [arrivals, List.flatMap_cons, Chunk.arrivals, if_neg (by simpa using h)]
  rfl

/-- It makes no difference in how many pieces bytes come. -/
lemma arrivals_split {front back : Bytes} (hf : front ≠ []) (hb : back ≠ []) :
    arrivals (.data (front ++ back) :: rest) = arrivals (.data front :: .data back :: rest) := by
  rw [arrivals_data _ (by simp [hf]), arrivals_data _ hf, arrivals_data _ hb, List.map_append,
    List.append_assoc]

end Chunks

/-- Reading a stream to its end gives what it delivers, or its failure. -/
lemma drain_eq (stream : List Chunk) :
    drain stream = (fault? stream).elim (.ok (delivered stream)) .error := by
  fun_induction drain stream with
  | case1 => rfl
  | case2 rest ih => exact ih
  | case3 fault rest => rfl
  | case4 bytes rest he =>
    obtain rfl := List.isEmpty_iff.mp he
    rfl
  | case5 bytes rest he ih =>
    obtain ⟨hd, hf⟩ := delivered_of_arrivals (arrivals_data rest (by simpa using he))
    rw [ih, hd, hf]
    cases fault? rest <;> rfl

/-! ### Filling -/

section Filling

variable {room : Nat} {stream : List Chunk}

/-- A room that is filled leaves what comes behind it. -/
lemma fill_of_full (h : (fill room stream).bytes.length = room) :
    (fill room stream).fault = none ∧
      arrivals stream = (fill room stream).bytes.map .byte ++ arrivals (fill room stream).rest := by
  fun_induction fill room stream with
  | case1 stream => exact ⟨rfl, rfl⟩
  | case2 room => contradiction
  | case3 room rest f ih => exact ih h
  | case4 room fault rest => contradiction
  | case5 room bytes rest he => contradiction
  | case6 room bytes rest he hlong =>
    refine ⟨rfl, ?_⟩
    have hdrop : bytes.drop (room + 1) ≠ [] := by
      rw [Ne, List.drop_eq_nil_iff]
      omega
    simp only
    rw [arrivals_data _ (by simpa using he), arrivals_data _ hdrop, ← List.append_assoc,
      ← List.map_append, List.take_append_drop]
  | case7 room bytes rest he hshort f ih =>
    simp only [List.length_append] at h
    obtain ⟨hfault, hrest⟩ := ih (show f.bytes.length = room + 1 - bytes.length by omega)
    refine ⟨hfault, ?_⟩
    rw [arrivals_data _ (by simpa using he), List.map_append, List.append_assoc, hrest]

/-- A room that is not filled takes all that comes before the end or the failure. -/
lemma fill_of_short (h : (fill room stream).bytes.length < room) :
    (fill room stream).bytes = delivered stream ∧ (fill room stream).fault = fault? stream := by
  fun_induction fill room stream with
  | case1 stream => exact absurd h (Nat.not_lt_zero _)
  | case2 room => exact ⟨rfl, rfl⟩
  | case3 room rest f ih => exact ih h
  | case4 room fault rest => exact ⟨rfl, rfl⟩
  | case5 room bytes rest he =>
    obtain rfl := List.isEmpty_iff.mp he
    exact ⟨rfl, rfl⟩
  | case6 room bytes rest he hlong =>
    rw [List.length_take] at h
    omega
  | case7 room bytes rest he hshort f ih =>
    simp only [List.length_append] at h
    obtain ⟨hbytes, hfault⟩ := ih (show f.bytes.length < room + 1 - bytes.length by omega)
    obtain ⟨hd, hf⟩ := delivered_of_arrivals (arrivals_data rest (by simpa using he))
    exact ⟨by rw [hd, ← hbytes], by rw [hf, ← hfault]⟩

/-- A room is asked to be filled once for each piece or each byte, and once more at the end. -/
lemma length_asked_fill (room : Nat) (stream : List Chunk) :
    (fill room stream).asked.length + (fill room stream).rest.length ≤
      stream.length + (fill room stream).bytes.length +
        if (fill room stream).bytes.length = room then 0 else 1 := by
  fun_induction fill room stream with
  | case1 stream => simp
  | case2 room => simp
  | case3 room rest f ih =>
    have hf : f.asked.length + f.rest.length ≤
        rest.length + f.bytes.length + if f.bytes.length = room + 1 then 0 else 1 := ih
    simp only [List.length_cons, Nat.succ_eq_add_one]
    omega
  | case4 room fault rest => simp; omega
  | case5 room bytes rest he => simp; omega
  | case6 room bytes rest he hlong =>
    simp only [List.length_cons, List.length_nil, List.length_take]
    omega
  | case7 room bytes rest he hshort f ih =>
    have hf : f.asked.length + f.rest.length ≤
        rest.length + f.bytes.length + if f.bytes.length = room + 1 - bytes.length then 0 else 1 :=
      ih
    simp only [List.length_cons, List.length_append]
    split at hf
    · rw [if_pos (by omega)]
      omega
    · rw [if_neg (by omega)]
      omega

end Filling

/-! ### Streams of unknown length -/

/-- The content that some bytes are, if they are any. -/
def payload (bytes : Bytes) : Except Error Content :=
  if bytes.isEmpty then .error .empty else .ok ⟨bytes, false⟩

lemma allocate_unlimited (size : Nat) (e : Effort) :
    allocate .unlimited size e = (true, e.after (.attempt size true)) := rfl

namespace Reader

section Round

variable {alloc : Allocator} {filled room : Nat} {h : 0 < room ∧ 2 ≤ filled + room}
  {pieces : List Bytes} {asked : List (List Nat)} {effort : Effort} {stream : List Chunk}

lemma readGrowing_of_refused (hg : (allocate alloc room effort).1 = false) :
    readGrowing alloc filled room h pieces asked effort stream =
      ⟨.error (.io .outOfMemory), (allocate alloc room effort).2, asked.reverse.flatten⟩ := by
  rw [readGrowing]
  simp only [hg, Bool.not_false, if_true]

/-- A buffer of two bytes or more has room when it grows by half. -/
lemma room_of_growing (h : 0 < room ∧ 2 ≤ filled + room) :
    0 < (filled + room) / 2 ∧ 2 ≤ filled + room + (filled + room) / 2 := by
  omega

/-- A buffer that is full grows by half. -/
lemma readGrowing_of_full (hg : (allocate alloc room effort).1 = true)
    (hfull : (fill room stream).bytes.length = room) :
    readGrowing alloc filled room h pieces asked effort stream =
      readGrowing alloc (filled + room) ((filled + room) / 2) (room_of_growing h)
        ((fill room stream).bytes :: pieces) ((fill room stream).asked :: asked)
        (allocate alloc room effort).2 (fill room stream).rest := by
  rw [readGrowing]
  simp only [hg, Bool.not_true, Bool.false_eq_true, if_false, (fill_of_full hfull).1, hfull,
    dif_pos]

/-- A buffer that is not full holds all there is. -/
lemma readGrowing_of_short (hg : (allocate alloc room effort).1 = true)
    (hfull : (fill room stream).bytes.length ≠ room) :
    readGrowing alloc filled room h pieces asked effort stream =
      ⟨(fault? stream).elim (payload (pieces.reverse.flatten ++ delivered stream))
        (.error <| .io ·), (allocate alloc room effort).2,
        ((fill room stream).asked :: asked).reverse.flatten⟩ := by
  have hle := length_bytes_fill_le room stream
  obtain ⟨hd, hf⟩ := fill_of_short (by omega : (fill room stream).bytes.length < room)
  have hflatten : ((fill room stream).bytes :: pieces).reverse.flatten =
      pieces.reverse.flatten ++ delivered stream := by
    rw [List.reverse_cons, List.flatten_append, List.flatten_singleton, hd]
  rw [readGrowing]
  simp only [hg, Bool.not_true, Bool.false_eq_true, if_false, hflatten, hf]
  cases fault? stream with
  | some fault => rfl
  | none =>
    simp only [dif_neg hfull]
    rfl

lemma weight_rest_lt (h : 0 < room) (hfull : (fill room stream).bytes.length = room) :
    weight (fill room stream).rest < weight stream := by
  have hweight := weight_rest_fill room stream
  omega

/-- A growing buffer ends up with what was read before and all that the stream delivers, unless the
stream fails. -/
lemma result_readGrowing :
    (readGrowing .unlimited filled room h pieces asked effort stream).result =
      (fault? stream).elim (payload (pieces.reverse.flatten ++ delivered stream))
        (.error <| .io ·) := by
  -- each round that fills the buffer uses up bytes of the stream
  induction hw : weight stream using Nat.strongRecOn
    generalizing filled room pieces asked effort stream with
  | ind n ih =>
    by_cases hfull : (fill room stream).bytes.length = room
    · obtain ⟨hd, hf⟩ := delivered_of_arrivals (fill_of_full hfull).2
      rw [readGrowing_of_full rfl hfull, ih _ (hw ▸ weight_rest_lt h.1 hfull) rfl, hd, hf,
        List.reverse_cons, List.flatten_append, List.flatten_singleton, List.append_assoc]
    · rw [readGrowing_of_short rfl hfull]

/-- Every read but the last one uses up a piece of the script or a byte. -/
lemma length_asked_readGrowing :
    (readGrowing .unlimited filled room h pieces asked effort stream).asked.length ≤
      asked.flatten.length + stream.length + (delivered stream).length + 1 := by
  induction hw : weight stream using Nat.strongRecOn
    generalizing filled room pieces asked effort stream with
  | ind n ih =>
    have hread := length_asked_fill room stream
    have hcount : ((fill room stream).asked :: asked).flatten.length =
        (fill room stream).asked.length + asked.flatten.length := by
      rw [List.flatten_cons, List.length_append]
    by_cases hfull : (fill room stream).bytes.length = room
    · obtain ⟨hd, -⟩ := delivered_of_arrivals (fill_of_full hfull).2
      rw [readGrowing_of_full rfl hfull, hd, List.length_append]
      refine Nat.le_trans (ih _ (hw ▸ weight_rest_lt h.1 hfull) rfl) ?_
      rw [if_pos hfull] at hread
      omega
    · rw [readGrowing_of_short rfl hfull,
        (((fill room stream).asked :: asked).reverse_perm.flatten).length_eq]
      have hle := length_bytes_fill_le room stream
      rw [if_neg hfull, (fill_of_short (by omega)).1] at hread
      omega

end Round

/-! ### Streams of declared length -/

section Sized

variable {alloc : Allocator} {size : Nat} {effort : Effort} {stream : List Chunk}

lemma readSized_of_refused (hsize : size ≠ 0) (hg : (allocate alloc size effort).1 = false) :
    readSized alloc size effort stream =
      ⟨.error (.io .outOfMemory), (allocate alloc size effort).2, []⟩ := by
  rw [readSized]
  simp only [hsize, if_false, hg, Bool.not_false, if_true]

/-- A stream that has to deliver `size` bytes and is granted a buffer for them delivers them, fails,
or is told how many it has delivered. -/
lemma readSized_of_granted (hsize : size ≠ 0) (hg : (allocate alloc size effort).1 = true) :
    readSized alloc size effort stream =
      ⟨(fault? stream).elim
        (if (delivered stream).length = size then .ok ⟨delivered stream, false⟩
          else .error (.sizeMismatch size (delivered stream).length))
        (.error <| .io ·), (allocate alloc size effort).2, (fill size stream).asked⟩ := by
  rw [readSized]
  simp only [hsize, if_false, hg, Bool.not_true, Bool.false_eq_true, ne_eq, ite_not]
  by_cases hfull : (fill size stream).bytes.length = size
  · obtain ⟨hfault, hrest⟩ := fill_of_full hfull
    obtain ⟨hd, hf⟩ := delivered_of_arrivals hrest
    simp only [hfault, if_pos hfull, drain_eq, hf, hd, List.length_append]
    cases fault? (fill size stream).rest with
    | some fault => rfl
    | none =>
      cases delivered (fill size stream).rest with
      | nil => simp [hfull]
      | cons b more => simp [hfull]
  · have hle := length_bytes_fill_le size stream
    obtain ⟨hd, hf⟩ := fill_of_short (by omega : (fill size stream).bytes.length < size)
    rw [hd] at hfull
    simp only [hf, hd, if_neg hfull]
    cases fault? stream <;> rfl

lemma result_readSized (hsize : size ≠ 0) (hg : (allocate alloc size effort).1 = true) :
    (readSized alloc size effort stream).result =
      (fault? stream).elim
        (if (delivered stream).length = size then .ok ⟨delivered stream, false⟩
          else .error (.sizeMismatch size (delivered stream).length))
        (.error <| .io ·) := by
  rw [readSized_of_granted hsize hg]

/-- Content of a declared size is all that the stream delivers, and of that size. -/
lemma delivered_of_readSized {c : Content}
    (h : (readSized alloc size effort stream).result = .ok c) :
    fault? stream = none ∧ c = ⟨delivered stream, false⟩ ∧ (delivered stream).length = size := by
  have hsize : size ≠ 0 := by
    rintro rfl
    rw [readSized, if_pos rfl] at h
    cases h
  cases hg : (allocate alloc size effort).1 with
  | false =>
    rw [readSized_of_refused hsize hg] at h
    cases h
  | true =>
    rw [result_readSized hsize hg] at h
    cases hf : fault? stream with
    | some fault =>
      rw [hf] at h
      cases h
    | none =>
      rw [hf, Option.elim_none] at h
      by_cases hlen : (delivered stream).length = size
      · rw [if_pos hlen] at h
        exact ⟨rfl, (Except.ok.inj h).symm, hlen⟩
      · rw [if_neg hlen] at h
        cases h

end Sized

end Reader

/-! ### Independence -/

lemma arrivals_append (front back : List Chunk) :
    arrivals (front ++ back) = arrivals front ++ arrivals back :=
  List.flatMap_append

lemma result_readStream (r : Reader) (stream : List Chunk) :
    (r.readStream .unlimited stream).result =
      (fault? stream).elim (payload (delivered stream)) (.error <| .io ·) :=
  Reader.result_readGrowing

lemma length_asked_readStream (r : Reader) (stream : List Chunk) :
    (r.readStream .unlimited stream).asked.length ≤
      stream.length + (delivered stream).length + 1 := by
  refine Nat.le_trans Reader.length_asked_readGrowing ?_
  simp

/-- A stream of unknown length that is granted all memory it asks for is read to its end: to its
failure if it fails, else to all the bytes it delivers, if there are any. It is read a bounded
number of times, and pieces, interruptions and the first buffer make no difference to what is
read. -/
theorem stream_is_read_as_it_arrives (r : Reader) (size : Nat) (stream : List Chunk) :
    let reading := (r.withInitialBuffer size).readStream .unlimited stream
    (∀ fault, fault? stream = some fault → reading.result = .error (.io fault)) ∧
    (fault? stream = none → delivered stream = [] → reading.result = .error .empty) ∧
    (fault? stream = none → delivered stream ≠ [] →
      reading.result = .ok ⟨delivered stream, false⟩) ∧
    reading.asked.length ≤ stream.length + (delivered stream).length + 1 ∧
    ∀ (r' : Reader) (size' : Nat),
      let read := fun stream' => ((r'.withInitialBuffer size').readStream .unlimited stream').result
      (∀ stream', arrivals stream' = arrivals stream → read stream' = reading.result) ∧
      (∀ front back, stream = front ++ .interrupted :: back →
        read (front ++ back) = reading.result) ∧
      (∀ front x y back, x ≠ [] → y ≠ [] → stream = front ++ .data (x ++ y) :: back →
        read (front ++ .data x :: .data y :: back) = reading.result) := by
  have hsame (r' : Reader) (size' : Nat) (stream' : List Chunk)
      (h : arrivals stream' = arrivals stream) :
      ((r'.withInitialBuffer size').readStream .unlimited stream').result =
        ((r.withInitialBuffer size).readStream .unlimited stream).result := by
    simp only [result_readStream, fault?, delivered, h]
  refine ⟨fun fault hf => ?_, fun hf hd => ?_, fun hf hd => ?_, ?_, fun r' size' =>
    ⟨hsame r' size', fun front back hs => ?_, fun front x y back hx hy hs => ?_⟩⟩
  · rw [result_readStream, hf]
    rfl
  · rw [result_readStream, hf, hd]
    rfl
  · rw [result_readStream, hf, Option.elim_none, payload, if_neg (by simpa using hd)]
  · exact length_asked_readStream _ stream
  · refine hsame r' size' _ ?_
    rw [hs, arrivals_append, arrivals_append, arrivals_interrupted]
  · refine hsame r' size' _ ?_
    rw [hs, arrivals_append, arrivals_append, arrivals_split back hx hy]

/-- A module that comes in pieces, with an interruption and an end before a failure. -/
theorem stream_is_read_as_it_arrives_inPieces :
    fault? [.data [77, 46], .interrupted, .data [75], .data [], .failure .isDirectory] = none ∧
    delivered [.data [77, 46], .interrupted, .data [75], .data [], .failure .isDirectory] =
      [77, 46, 75] ∧
    ((Reader.standard.withInitialBuffer 0).readStream .unlimited
        [.data [77, 46], .interrupted, .data [75], .data [], .failure .isDirectory]).result =
      .ok ⟨[77, 46, 75], false⟩ ∧
    ((Reader.standard.withInitialBuffer 1).readStream .unlimited
        [.data [77, 46], .data [75], .data [], .failure .isDirectory]).result =
      .ok ⟨[77, 46, 75], false⟩ ∧
    ((Reader.standard.withInitialBuffer 0).readStream .unlimited
        [.data [77], .interrupted, .failure .isDirectory]).result = .error (.io .isDirectory) ∧
    ((Reader.standard.withInitialBuffer 0).readStream .unlimited [.interrupted]).result =
      .error .empty := by
  have h := stream_is_read_as_it_arrives .standard 0
    [.data [77, 46], .interrupted, .data [75], .data [], .failure .isDirectory]
  have hread := h.2.2.1 (by decide) (by decide)
  have hsame := (h.2.2.2.2 .standard 1).2.1 [.data [77, 46]]
    [.data [75], .data [], .failure .isDirectory] rfl
  exact ⟨by decide, by decide, hread, hsame.trans hread,
    (stream_is_read_as_it_arrives .standard 0 [.data [77], .interrupted, .failure .isDirectory]).1
      _ (by decide),
    (stream_is_read_as_it_arrives .standard 0 [.interrupted]).2.1 (by decide) (by decide)⟩

end ModuleArchive.Content
