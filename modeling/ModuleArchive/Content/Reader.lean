import ModuleArchive.Content.Stream

/-!
# Reading payloads

Streams and files are read into owned content. A stream of unknown length is read into a
buffer that grows by half of its size whenever it is full; a stream of declared length has
to deliver exactly that many bytes; an empty payload is always a failure. Large files are
mapped into memory if that is possible. Every allocation that fails is tried once more
after memory has been reclaimed.
-/
namespace ModuleArchive

/-- A payload. -/
structure Content where
  bytes : Bytes
  /-- Whether the bytes are mapped from a file instead of held in a buffer. -/
  isMapped : Bool := false
deriving Repr, DecidableEq

namespace Content

/-- How content introduces itself, without its bytes. -/
def summary (c : Content) : String :=
  let kind := if c.isMapped then "Mapped" else "Heap"
  "Content \x7b kind: \"" ++ kind ++ "\", len: " ++ toString c.bytes.length ++ " \x7d"

/-- Which allocations succeed, by the number of the attempt and the size asked for. -/
abbrev Allocator := Nat → Nat → Bool

/-- An allocator that grants everything up to a limit. -/
def Allocator.upTo (limit : Nat) : Allocator := fun _ size => size ≤ limit

def Allocator.unlimited : Allocator := fun _ _ => true

/-- What a reader does to get memory. -/
inductive MemoryEvent where
  /-- It asks for some more bytes, which are granted or not. -/
  | attempt (size : Nat) (granted : Bool)
  /-- It asks for a file to be mapped, which is done or not. -/
  | mapping (done : Bool)
  /-- It has memory given back by whoever can spare some. -/
  | reclaim
deriving Repr, DecidableEq

def MemoryEvent.isAttempt : MemoryEvent → Bool
  | attempt _ _ => true
  | _ => false

/-- What has been done to get memory so far, in order. -/
structure Effort where
  events : List MemoryEvent := []
deriving Repr, DecidableEq

namespace Effort

def after (e : Effort) (event : MemoryEvent) : Effort := ⟨e.events ++ [event]⟩

def attempts (e : Effort) : Nat := e.events.countP MemoryEvent.isAttempt

def reclaims (e : Effort) : Nat := e.events.count .reclaim

/-- Ask for some bytes once. -/
def attempt (alloc : Allocator) (size : Nat) (e : Effort) : Bool × Effort :=
  let granted := alloc e.attempts size
  (granted, e.after (.attempt size granted))

end Effort

/-- Allocate, with one reclaim and one more attempt if the first one fails. -/
def allocate (alloc : Allocator) (size : Nat) (e : Effort) : Bool × Effort :=
  let (granted, e) := e.attempt alloc size
  if granted then (true, e) else (e.after .reclaim).attempt alloc size

/-- The outcome of reading a payload, and what it took. -/
structure Reading where
  result : Except Error Content
  effort : Effort
  /-- The room offered to each read, in order. -/
  asked : List Nat := []

/-- How payloads are read. -/
structure Reader where
  /-- Files of at least this many bytes are mapped. -/
  mmapThreshold : Nat := 128 * 1024
  /-- Size of the first buffer for a stream of unknown length. -/
  initialBuffer : Nat := 256 * 1024
  /-- A buffer of at least two bytes can grow by half. -/
  two_le : 2 ≤ initialBuffer := by omega

namespace Reader

/-- The reader with the usual limits. -/
def standard : Reader := {}

/-- A reader that maps files of at least this many bytes. -/
def withMmapThreshold (r : Reader) (size : Nat) : Reader := { r with mmapThreshold := size }

/-- A reader with at least two bytes of initial buffer. -/
def withInitialBuffer (r : Reader) (size : Nat) : Reader :=
  { r with initialBuffer := max size 2, two_le := by omega }

/-- Read on into a buffer of `filled` bytes, all of them in use, which is to grow by `room`. -/
def readGrowing (alloc : Allocator) (filled room : Nat) (h : 0 < room ∧ 2 ≤ filled + room)
    (pieces : List Bytes) (asked : List (List Nat)) (effort : Effort) (stream : List Chunk) :
    Reading :=
  let (granted, effort) := allocate alloc room effort
  if !granted then ⟨.error (.io .outOfMemory), effort, asked.reverse.flatten⟩
  else
    let f := fill room stream
    let asked := f.asked :: asked
    let pieces := f.bytes :: pieces
    match f.fault with
    | some fault => ⟨.error (.io fault), effort, asked.reverse.flatten⟩
    | none =>
      if hf : f.bytes.length = room then
        have : weight f.rest < weight stream := by
          have : f.bytes.length + weight f.rest ≤ weight stream := weight_rest_fill room stream
          omega
        readGrowing alloc (filled + room) ((filled + room) / 2) (by omega) pieces asked effort
          f.rest
      else
        let bytes := pieces.reverse.flatten
        ⟨if bytes.isEmpty then .error .empty else .ok ⟨bytes, false⟩, effort,
          asked.reverse.flatten⟩
termination_by weight stream

/-- Read a stream of unknown length to its end. -/
def readStream (r : Reader) (alloc : Allocator) (stream : List Chunk) : Reading :=
  readGrowing alloc 0 r.initialBuffer (by have := r.two_le; omega) [] [] {} stream

/-- Read a stream that has to deliver exactly `size` bytes. The size is taken to have no more than
the 64 bits of an address, so that a buffer of this size can be asked for. -/
def readSized (alloc : Allocator) (size : Nat) (effort : Effort) (stream : List Chunk) :
    Reading :=
  if size = 0 then ⟨.error .empty, effort, []⟩
  else
    let (granted, effort) := allocate alloc size effort
    if !granted then ⟨.error (.io .outOfMemory), effort, []⟩
    else
      let f := fill size stream
      match f.fault with
      | some fault => ⟨.error (.io fault), effort, f.asked⟩
      | none =>
        if f.bytes.length ≠ size then
          ⟨.error (.sizeMismatch size f.bytes.length), effort, f.asked⟩
        else
          match drain f.rest with
          | .error fault => ⟨.error (.io fault), effort, f.asked⟩
          | .ok trailing =>
            if trailing.isEmpty then ⟨.ok ⟨f.bytes, false⟩, effort, f.asked⟩
            else ⟨.error (.sizeMismatch size (size + trailing.length)), effort, f.asked⟩

structure OpenFile where
  /-- Its size, as the file system says. -/
  size : Nat
  /-- What it is mapped to, if it can be mapped. -/
  mapped? : Option Bytes
  /-- What reading it gives. -/
  stream : List Chunk

/-- Read a whole file, mapping it if it is large and can be mapped. -/
def readFile (r : Reader) (alloc : Allocator) (file : OpenFile) : Reading :=
  let effort : Effort := {}
  if file.size = 0 then ⟨.error .empty, effort, []⟩
  else if r.mmapThreshold ≤ file.size then
    match file.mapped? with
    | some data => ⟨.ok ⟨data, true⟩, effort.after (.mapping true), []⟩
    | none =>
      readSized alloc file.size ((effort.after (.mapping false)).after .reclaim) file.stream
  else readSized alloc file.size effort file.stream

/-- What can be opened by a path. -/
inductive Opened where
  | file (data : Bytes)
  /-- A directory has a size but can be neither mapped nor read. -/
  | directory (size : Nat)

def Opened.toFile (canMap : Bool) : Opened → OpenFile
  | file data => ⟨data.length, if canMap then some data else none, [.data data]⟩
  | directory size => ⟨size, none, [.failure .isDirectory]⟩

/-- Read what a path leads to. -/
def readOpened (r : Reader) (alloc : Allocator) (canMap : Bool) : Except IoFault Opened → Reading
  | .error fault => ⟨.error (.io fault), {}, []⟩
  | .ok opened => r.readFile alloc (opened.toFile canMap)

end Reader

end Content

end ModuleArchive
