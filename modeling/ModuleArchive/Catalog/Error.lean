import ModuleArchive.Content.Error
import ModuleArchive.Index.Basic
import ModuleArchive.Storage.Error
import ModuleArchive.Text.Quoted

/-!
# Failures of a catalog

A catalog fails for want of an answer: the remote could not be reached, sent something that
cannot be read, or a layer of the cache failed. That something does not exist is no failure.
-/
namespace ModuleArchive.Catalog

/-- Why a catalog could not answer. -/
inductive Error where
  /-- The remote did not complete a request. -/
  | transport (what : String)
  /-- A listing page is not built as expected. -/
  | parse (what : String)
  /-- A payload could not be read. -/
  | content (location : String) (cause : Option Content.Error := none)
  /-- The index failed. -/
  | index (cause : Option Index.Error := none)
  /-- The content store failed. -/
  | storage (cause : Option Storage.Error := none)
  /-- A text is no bucket. -/
  | invalidBucket (text : String)
  /-- The catalog refuses to answer. -/
  | unavailable
deriving Repr, DecidableEq

namespace Error

def message : Error → String
  | transport what => "transport failure: " ++ what
  | parse what => "malformed listing: " ++ what
  | content location _ => "unreadable content: " ++ location
  | index _ => "index failure"
  | storage _ => "content cache failure"
  | invalidBucket text => "invalid bucket: " ++ String.ofList (Text.quoted text.toList)
  | unavailable => "catalog unavailable"

/-- Whether another attempt might succeed. -/
def isRetryable : Error → Bool
  | transport _ | unavailable | index _ | storage _ => true
  | _ => false

end Error

def parseBucket (text : String) : Except Error Bucket :=
  match Bucket.ofText? text.toList with
  | some b => .ok b
  | none => .error (.invalidBucket text)

end ModuleArchive.Catalog
