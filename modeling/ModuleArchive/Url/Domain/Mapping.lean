import ModuleArchive.Text.Classes
import ModuleArchive.Text.CodeTable
import ModuleArchive.Url.Domain.Mapping.Table

/-!
# The form of a domain name that counts

Domain names that differ in case, in width or in other compatible ways are the same. Each
character is replaced by the form that counts, which may be several characters or none. Some
characters cannot be in a domain name at all. In ASCII only upper-case letters are replaced; the
tables are about all other characters.
-/
namespace ModuleArchive.Url.Domain.Mapping

open Text

def excluded : Array (Nat × Nat × List Nat) := CodeTable.ranges excludedTable

def ignored : Array (Nat × Nat × List Nat) := CodeTable.ranges ignoredTable

def runs : Array (Nat × Nat × List Nat) := CodeTable.ranges runTable

def replacements : Array (Nat × List Char) :=
  (CodeTable.rows replacementTable).filterMap fun
    | code :: form => some (code, form.map Char.ofNat)
    | [] => none

/-- What becomes of a character beyond ASCII whose form is not itself. -/
def listedForm? (c : Char) : Option (List Char) :=
  let n := c.toNat
  let inRun := runs.findSome? fun
    | (first, last, [step, form]) =>
      if first ≤ n ∧ n ≤ last ∧ (n - first) % step = 0 then some [.ofNat (form + (n - first))]
      else none
    | _ => none
  match inRun with
  | some form => some form
  | none =>
    if CodeTable.mem ignored n then some []
    else (replacements.find? (·.1 = n)).map (·.2)

/-- What becomes of a character whose form is not itself. -/
def replacement? (c : Char) : Option (List Char) :=
  if isAscii c then (if c.toLower = c then none else some [c.toLower]) else listedForm? c

/-- Whether a character may be in a domain name, if only as another form of one that counts. -/
def isAllowed (c : Char) : Bool := isAscii c || !CodeTable.mem excluded c.toNat

/-- Whether a character may be in a domain name and stands for itself. -/
def isValid (c : Char) : Bool := isAllowed c && (replacement? c).isNone

/-- A text with the forms that count. -/
def map? (text : List Char) : Option (List Char) :=
  if text.all isAllowed then some (text.flatMap fun c => (replacement? c).getD [c]) else none

end ModuleArchive.Url.Domain.Mapping
