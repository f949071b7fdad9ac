/-!
# Configuration values

What the sources of a configuration are made of. A later source overrides an earlier one key
by key: tables are merged, anything else replaces what was there.
-/
namespace ModuleArchive.Config

/-- A value from a configuration source. -/
inductive Value where
  | null
  | bool (value : Bool)
  | integer (value : Int)
  /-- A number with a fraction or an exponent; no setting takes one, so it is not kept. -/
  | real
  | text (value : String)
  | list (items : List Value)
  /-- Values by name; every name occurs once. -/
  | table (entries : List (String × Value))
deriving Repr

namespace Value

def get? : Value → String → Option Value
  | table entries, key => entries.lookup key
  | _, _ => none

/-- The entries with the value of a key replaced in its place, or added at the end. -/
def put (key : String) (value : Value) : List (String × Value) → List (String × Value)
  | [] => [(key, value)]
  | (k, v) :: rest => if k = key then (key, value) :: rest else (k, v) :: put key value rest

/-- The table of some entries; the last value of a key counts. -/
def ofEntries (entries : List (String × Value)) : Value :=
  table (entries.foldl (fun done (key, value) => put key value done) [])

mutual

/-- A value with another one laid over it. -/
def overlay (base changed : Value) : Value :=
  match changed with
  | table changes =>
    match base with
    | table entries => table (overlayEntries entries changes)
    | _ => table changes
  | other => other

/-- Entries with other ones laid over them. -/
def overlayEntries (entries : List (String × Value)) :
    List (String × Value) → List (String × Value)
  | [] => entries
  | (key, value) :: rest =>
    let merged := match entries.lookup key with
      | some old => overlay old value
      | none => value
    overlayEntries (put key merged entries) rest

end

/-- The value below a path of names. -/
def nested : List String → Value → Value
  | [], value => value
  | name :: names, value => table [(name, nested names value)]

end Value

end ModuleArchive.Config
