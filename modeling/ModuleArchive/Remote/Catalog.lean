import ModuleArchive.Catalog.Basic
import ModuleArchive.Remote.Page
import ModuleArchive.Remote.Server
import ModuleArchive.Remote.Site

/-!
# The catalog of a remote archive

Listings are read page by page: a page is asked for when its first entry is needed. The
listing ends with the first page that shows no entry or has no link to a next one. A group
is looked up on the first page of its tracks, which names it; a track is looked up by its
file name in the listing of its group.
-/
namespace ModuleArchive.Remote

/-- What a page shows: the first one may begin with a hint. -/
def Page.shown {α : Type} (number : Nat) (page : Page α) : List (ListEvent α) :=
  let hint := match page.count with
    | some n => if number = 1 then [.hint n] else []
    | none => []
  hint ++ page.items.map .item

/-- The listing of at most `limit` pages from one on, whoever is asked for them. The number of a
page that is asked for is less than `number + limit`: from the first page on, 32 bits are enough
for it as long as there are fewer than 2 ^ 32 pages. -/
def pagesFrom {ρ α : Type} (fetch : Nat → Action ρ (Page α)) : Nat → Nat → Listing ρ α
  | 0, _ => .finished
  | limit + 1, number =>
    .work (fun w => (fetch number w).2) fun w =>
      match (fetch number w).1 with
      | .error cause => .failed cause
      | .ok page =>
        .append (page.shown number)
          (if page.items.isEmpty || !page.hasNext then .finished
          else pagesFrom fetch limit (number + 1))

/-- An archive on the web, and how payloads from it are read. -/
structure Archive where
  site : Site
  reader : Content.Reader := {}
  alloc : Content.Allocator

namespace Archive

/-- Ask for an address and read the answer. -/
def download (a : Archive) (url : Url) : Action Server Content :=
  fun server => server.download a.reader a.alloc url

/-- Ask for a page of a listing and read it. -/
def fetchPage (a : Archive) (s : Scope) (number : Nat) : Action Server (Page s.Item) :=
  fun server =>
    match a.download (a.site.pageUrl s number) server with
    | (.error cause, server) => (.error cause, server)
    | (.ok content, server) =>
      (Page.ofText a.site.storage s (Utf8.decodeLossy content.bytes), server)

/-- The addresses of different pages are different, so that no more pages than the server has
answers can be read; the limit is more than that number. -/
def listing (a : Archive) (s : Scope) : Listing Server s.Item :=
  .work id fun server => pagesFrom (a.fetchPage s) (server.pages.length + 1) 1

/-- The group with a number, as the first page of its tracks shows it. -/
def group (a : Archive) (g : Grouping) (id : UInt32) : Action Server (Option Group) :=
  fun server =>
    match a.fetchPage (.tracks g id) 1 server with
    | (.error cause, server) => (.error cause, server)
    | (.ok page, server) =>
      let tracks := min (page.count.getD page.items.length) (UInt32.size - 1)
      (.ok (page.heading.map fun name => ⟨id, name, UInt32.ofNat tracks⟩), server)

/-- How long reading an answer takes: a step for every MiB of the buffer, if it is granted. -/
def effortOf (a : Archive) (r : Response) : Nat :=
  let room := r.room a.reader
  if a.alloc 0 room then room / (1024 * 1024) else 0

/-- How long reading the answers has taken so far. -/
def effort (a : Archive) (server : Server) : Nat :=
  if server.isFailing then 0
  else (server.requests.filterMap server.page?).foldl (fun spent r => spent + a.effortOf r) 0

def catalog (a : Archive) : Catalog Server where
  listing := a.listing
  group := a.group
  track := Catalog.scan a.listing
  content path := a.download (a.site.fileUrl path)
  effort := a.effort

end Archive

end ModuleArchive.Remote
