import ModuleArchive.Content.Error

/-!
# Failures of a content store
-/
namespace ModuleArchive.Storage

/-- Why a store could not do what it was asked. -/
inductive Error where
  /-- There is no file at the path; `cause` is what reading it gave. -/
  | notFound (path : String) (cause : Option Content.Error := none)
  | io (fault : IoFault)
  /-- The path leaves the root or names no file. -/
  | invalidPath (path : String)
  /-- The file is there but cannot be used; `cause` is what reading it gave. -/
  | content (path : String) (cause : Option Content.Error := none)
deriving Repr, DecidableEq

namespace Error

def message : Error → String
  | notFound path _ => "file not found: " ++ path
  | io fault => "I/O error: " ++ fault.message
  | invalidPath path => "invalid path: " ++ path
  | content path _ => "unreadable content: " ++ path

def isRetryable : Error → Bool
  | io _ => true
  | _ => false

/-- The failure of reading below an error. -/
def cause? : Error → Option Content.Error
  | notFound _ cause | content _ cause => cause
  | _ => none

/-- The failure of reading the file at `path`, as a failure of the store. -/
def ofContent (path : String) (e : Content.Error) : Error :=
  if e = .io .notFound then notFound path (some e) else content path (some e)

end Error

end ModuleArchive.Storage
