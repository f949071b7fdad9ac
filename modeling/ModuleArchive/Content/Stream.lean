import ModuleArchive.Text.Utf8
import ModuleArchive.Content.Error

/-!
# Streams

A stream is a script of what its reads will give: pieces of data, interruptions and
failures. Filling a room of a given size reads until the room is full, the stream ends (a
read of no bytes) or a read fails; interrupted reads are repeated.
-/
namespace ModuleArchive.Content

/-- What the next read of a stream gives. -/
inductive Chunk where
  /-- These bytes, or as many of them as fit; an empty piece is the end of the stream. -/
  | data (bytes : Bytes)
  | interrupted
  | failure (fault : IoFault)
deriving Repr

/-- The outcome of filling a room from a stream. -/
structure Filling where
  /-- The bytes that were read. -/
  bytes : Bytes
  /-- What is left of the stream. -/
  rest : List Chunk
  /-- The room offered to each read, in order. -/
  asked : List Nat
  /-- The failure that ended the filling, if one did. -/
  fault : Option IoFault := none

/-- Fill a room from a stream. -/
def fill : Nat → List Chunk → Filling
  | 0, stream => ⟨[], stream, [], none⟩
  | room + 1, [] => ⟨[], [], [room + 1], none⟩
  | room + 1, .interrupted :: rest =>
    let f := fill (room + 1) rest
    { f with asked := (room + 1) :: f.asked }
  | room + 1, .failure fault :: rest => ⟨[], rest, [room + 1], some fault⟩
  | room + 1, .data bytes :: rest =>
    if bytes.isEmpty then ⟨[], rest, [room + 1], none⟩
    else if room + 1 < bytes.length then
      ⟨bytes.take (room + 1), .data (bytes.drop (room + 1)) :: rest, [room + 1], none⟩
    else
      let f := fill (room + 1 - bytes.length) rest
      { f with bytes := bytes ++ f.bytes, asked := (room + 1) :: f.asked }

/-- What reading a stream to its end gives: its bytes, or the failure that comes before the
end. -/
def drain : List Chunk → Except IoFault Bytes
  | [] => .ok []
  | .interrupted :: rest => drain rest
  | .failure fault :: _ => .error fault
  | .data bytes :: rest => if bytes.isEmpty then .ok [] else (drain rest).map (bytes ++ ·)

/-- An upper bound of the number of bytes that a stream can give. -/
def weight : List Chunk → Nat
  | [] => 0
  | .data bytes :: rest => bytes.length + weight rest
  | _ :: rest => weight rest

theorem length_bytes_fill_le (room : Nat) (stream : List Chunk) :
    (fill room stream).bytes.length ≤ room := by
  fun_induction fill room stream
  all_goals simp_all +zetaDelta
  all_goals omega

theorem weight_rest_fill (room : Nat) (stream : List Chunk) :
    (fill room stream).bytes.length + weight (fill room stream).rest ≤ weight stream := by
  fun_induction fill room stream <;> simp_all +zetaDelta [weight] <;> omega

end ModuleArchive.Content
