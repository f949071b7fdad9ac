/-!
# Failures of reading

What the operating system reports, and what can be wrong with a payload.
-/
namespace ModuleArchive

/-- A failure reported by the operating system. -/
inductive IoFault where
  | notFound
  | exists
  | notDirectory
  | isDirectory
  | nameTooLong
  | embeddedNul
  | storageFull
  | outOfMemory
  | other (text : String)
deriving Repr, DecidableEq

def IoFault.message : IoFault → String
  | notFound => "No such file or directory (os error 2)"
  | «exists» => "File exists (os error 17)"
  | notDirectory => "Not a directory (os error 20)"
  | isDirectory => "Is a directory (os error 21)"
  | nameTooLong => "File name too long (os error 36)"
  | embeddedNul => "file name contained an unexpected NUL byte"
  | storageFull => "no storage space"
  | outOfMemory => "out of memory"
  | other text => text

namespace Content

/-- Why a payload could not be read. A declared size has 64 bits, as addresses in memory have: none
is too large to be addressed. -/
inductive Error where
  /-- There are no bytes at all. -/
  | empty
  /-- The declared size is not that of the payload. -/
  | sizeMismatch (expected actual : Nat)
  | io (fault : IoFault)
deriving Repr, DecidableEq

namespace Error

def message : Error → String
  | empty => "empty content"
  | sizeMismatch expected actual => s!"size mismatch: expected {expected} bytes, got {actual}"
  | io fault => "I/O error: " ++ fault.message

def isRetryable : Error → Bool
  | io _ => true
  | _ => false

def isOutOfMemory (e : Error) : Bool := e = io .outOfMemory

end Error

end Content

end ModuleArchive
