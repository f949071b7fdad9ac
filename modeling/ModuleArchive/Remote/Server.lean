import ModuleArchive.Catalog.Error
import ModuleArchive.Content.Reader
import ModuleArchive.Url.Basic

/-!
# Web servers

The answer to a request arrives as a stream, and may announce its length. A web server is
known by what it answers for each address. It keeps a log of the requests, and can be told to
fail all of them.
-/
namespace ModuleArchive.Remote

/-- A successful answer while it is arriving. -/
structure Delivery where
  body : List Content.Chunk
  /-- The length that was announced, if one was. -/
  size : Option Nat

def Delivery.read (reader : Content.Reader) (alloc : Content.Allocator) (d : Delivery) :
    Except Content.Error Content :=
  match d.size with
  | some size => (Content.Reader.readSized alloc size {} d.body).result
  | none => (reader.readStream alloc d.body).result

/-- Read the answer to the request for an address. -/
def receive (reader : Content.Reader) (alloc : Content.Allocator) (url : Url) :
    Except Catalog.Error Delivery → Except Catalog.Error Content
  | .error cause => .error cause
  | .ok d => (d.read reader alloc).mapError fun cause => .content url.print (some cause)

/-- A successful answer as a whole. -/
structure Response where
  body : Bytes
  /-- The length that was announced, if one was. -/
  size : Option Nat
deriving Repr

/-- A response that announces its length. -/
def Response.ofBytes (body : Bytes) : Response := ⟨body, some body.length⟩

/-- A response that arrives in one piece. -/
def Response.delivery (r : Response) : Delivery := ⟨[.data r.body], r.size⟩

/-- The size of the buffer that is prepared for a response. -/
def Response.room (reader : Content.Reader) (r : Response) : Nat := r.size.getD reader.initialBuffer

structure Server where
  /-- The answers by address. -/
  pages : List (String × Response) := []
  /-- The addresses that were asked for, the last one first. -/
  requests : List String := []
  isFailing : Bool := false

namespace Server

def withPage (s : Server) (address : String) (response : Response) : Server :=
  { s with pages := (address, response) :: s.pages.filter (·.1 ≠ address) }

def page? (s : Server) (address : String) : Option Response :=
  (s.pages.find? (·.1 = address)).map (·.2)

/-- The addresses that were asked for, in order. -/
def requested (s : Server) : List String := s.requests.reverse

/-- The server after a request has been logged. -/
def log (s : Server) (address : String) : Server := { s with requests := address :: s.requests }

def fetch (s : Server) (url : Url) : Except Catalog.Error Response × Server :=
  let address := url.print
  let answer :=
    if s.isFailing then .error (.transport address)
    else
      match s.page? address with
      | none => .error (.transport ("404 Not Found: " ++ address))
      | some response => .ok response
  (answer, s.log address)

/-- Ask for an address and read the answer. -/
def download (reader : Content.Reader) (alloc : Content.Allocator) (s : Server) (url : Url) :
    Except Catalog.Error Content × Server :=
  let (answer, s) := s.fetch url
  (receive reader alloc url (answer.map Response.delivery), s)

end Server

end ModuleArchive.Remote
