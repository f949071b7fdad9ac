import ModuleArchive.Catalog.Error
import ModuleArchive.Location.Identifier
import ModuleArchive.Record
import ModuleArchive.Url.Basic

/-!
# Nodes

A node is a place in the tree together with what the catalog knows about it. A file may also
be addressed by its URL on the storage host; it is then detached from the tree.
-/
namespace ModuleArchive

/-- A directory or a file. -/
inductive Node where
  | root
  | category (grouping : Grouping)
  | bucket (grouping : Grouping) (bucket : Bucket)
  | group (grouping : Grouping) (bucket : Bucket) (group : Group)
  | track (grouping : Grouping) (bucket : Bucket) (group : GroupRef) (track : Track)
  /-- A file on the storage host, without a place in the tree. -/
  | detached (url : Url) (track : Track)
deriving Repr, DecidableEq

/-- The group as an identifier names it. -/
def Group.toRef (g : Group) : GroupRef := ⟨g.id, g.name⟩

namespace Node

/-- The place of a node in the tree. -/
def location? : Node → Option Location
  | root => some .root
  | category g => some (.category g)
  | bucket g b => some (.bucket g b)
  | group g b r => some (.group g b r.toRef)
  | track g b r t => some (.track g b r t.filename)
  | detached _ _ => none

/-- The name of a node; the root has none. -/
def name : Node → String
  | root => ""
  | category g => g.path
  | bucket _ b => b.text
  | group _ _ r => r.name
  | track _ _ _ t | detached _ t => t.filename

/-- What is to be said about a node, for people. -/
def description? : Node → Option String
  | category g => some g.description
  | group _ _ r => some r.description
  | _ => none

def track? : Node → Option Track
  | track _ _ _ t | detached _ t => some t
  | _ => none

def isFile (n : Node) : Bool := n.track?.isSome

def isDirectory (n : Node) : Bool := !n.isFile

/-- The size of a file in bytes; 0 for detached files. -/
def size? (n : Node) : Option UInt64 := n.track?.map (·.size)

end Node

namespace Filesystem

/-- Why an operation on the tree failed. -/
inductive Error where
  /-- An identifier is not built as expected, or there is none for a node. -/
  | malformed (fault : Location.Fault) (subject : String)
  | catalog (cause : Catalog.Error)
  /-- The content of a directory was asked for. -/
  | notAFile (name : String)
deriving Repr, DecidableEq

namespace Error

def message : Error → String
  | malformed fault subject => "malformed identifier: " ++ fault.message subject
  | catalog _ => "catalog failure"
  | notAFile name => "not a file: " ++ name

def isRetryable : Error → Bool
  | catalog _ => true
  | _ => false

end Error

def encodeLocation (scheme : String) (l : Location) : Except Error String :=
  (l.encode scheme).mapError (.malformed · scheme)

/-- The location that an identifier under a scheme names. -/
def decodeLocation (scheme identifier : String) : Except Error Location :=
  (Location.decode scheme identifier).mapError (.malformed · identifier)

end Filesystem

end ModuleArchive
