import ModuleArchive.Catalog.Memory
import ModuleArchive.Remote.Catalog

/-!
# Sources

What a catalog can be made from: an archive held in memory, or listing pages and files on a
web server.
-/
namespace ModuleArchive

/-- Where an archive comes from. -/
inductive Source where
  | memory (archive : MemoryCatalog)
  | web (archive : Remote.Archive) (server : Remote.Server)

namespace Source

/-- The archive in memory; there is nothing in it if the source is another one. -/
def asMemory : Source → MemoryCatalog
  | memory m => m
  | web _ _ => {}

/-- The web server; it has no answers if the source is another one. -/
def asServer : Source → Remote.Server
  | memory _ => {}
  | web _ s => s

def setServer (s : Remote.Server) : Source → Source
  | memory m => memory m
  | web a _ => web a s

def operations : Source → Catalog Source
  | memory _ => MemoryCatalog.catalog.within asMemory fun m _ => memory m
  | web a _ => a.catalog.within asServer setServer

def catalog : Catalog Source := .choose operations

/-- The source with all its operations failing, or working again. -/
def setFailing (isFailing : Bool) : Source → Source
  | memory m => memory { m with isFailing }
  | web a s => web a { s with isFailing }

end Source

end ModuleArchive
