import ModuleArchive.Record
import ModuleArchive.Url.Form
import ModuleArchive.Url.Parser

/-!
# Addresses of an archive

An archive on the web consists of listing pages, which are told apart by their query, and of
module files on a storage host, whose paths are the paths of the tracks.
-/
namespace ModuleArchive

namespace Grouping

/-- The query mode of the pages that list the groups of a letter. -/
def bucketMode : Grouping → String
  | authors => "b_aut"
  | collections => "b_col"
  | formats => "b_fmt"

/-- The query mode of the pages that list the tracks of a group. -/
def trackMode : Grouping → String
  | authors => "aut"
  | collections => "col"
  | formats => "fmt"

end Grouping

namespace Remote

/-- Where an archive is. -/
structure Site where
  /-- The address of the listing pages, to which their queries are added. -/
  pages : Url
  /-- The host of the module files; its path does not count. -/
  storage : Url

namespace Site

/-- What the query of a listing page says, apart from the number of the page. -/
def scopeQuery : Scope → List (String × String)
  | .bucket g b => [("md", g.bucketMode), ("st", b.text)]
  | .tracks g id => [("md", g.trackMode), ("id", toString id.toNat)]

/-- The address of a page of a listing; pages are counted from 1. -/
def pageUrl (site : Site) (s : Scope) (page : Nat) : Url :=
  site.pages.withPairs
    ((scopeQuery s ++ [("pg", toString page)]).map fun (name, value) => (name.toList, value.toList))

/-- The address of the track at a path. Each segment of the path is a name of its own, so that
escapes in it stand for themselves. -/
def fileUrl (site : Site) (path : String) : Url :=
  site.storage.withNames (Text.splitOn '/' (Text.trimLeft (· == '/') path.toList))

end Site

end Remote

end ModuleArchive
