import ModuleArchive.Config.Value

/-!
# Tables of a TOML document

Which tables a document may define, and which it may still extend. A table comes about by a
header, by the path to a header below it, or by a key with points in it. A header may define
a table once, and a table that only lay on the path to another one; keys with points may
extend only tables that came about by such keys.
-/
namespace ModuleArchive.Config.Toml

/-- How a table came about. -/
inductive Origin where
  /-- By a header of its own. -/
  | header
  /-- It lies on the path to a header. -/
  | path
  /-- By a key with points in it. -/
  | key
deriving Repr, DecidableEq

/-- What can stand under a name. -/
inductive Entry where
  | value (v : Value)
  | table (origin : Origin) (entries : List (String × Entry))
  /-- Tables with the same header, the last one first. -/
  | tables (elements : List (List (String × Entry)))

abbrev Entries := List (String × Entry)

namespace Entries

/-- The entries with the one of a name replaced, or added at the end. -/
def put (name : String) (e : Entry) : Entries → Entries
  | [] => [(name, e)]
  | (n, old) :: rest => if n = name then (name, e) :: rest else (n, old) :: put name e rest

/-- Change the table at a path; tables that are missing come about as `made` tells. Of tables
with the same header the last one is meant. -/
def change (made : Origin) (f : Origin → Entries → Option Entries) :
    List String → Origin → Entries → Option Entries
  | [], origin, entries => f origin entries
  | name :: path, _, entries =>
    match entries.lookup name with
    | none => (change made f path made []).map fun inner => put name (.table made inner) entries
    | some (.table origin inner) =>
      if made = .key ∧ origin = .header then none
      else (change made f path origin inner).map fun inner => put name (.table origin inner) entries
    | some (.tables (last :: earlier)) =>
      (change made f path .header last).map fun last => put name (.tables (last :: earlier)) entries
    | some _ => none

/-- Add a value under a key that may have points in it; `path` is what stands before the last
point. -/
def addValue (path : List String) (name : String) (v : Value) : Entries → Option Entries :=
  change .key (fun origin entries =>
    if (entries.lookup name).isSome || (!path.isEmpty && origin != .key) then none
    else some (put name (.value v) entries)) path .header

/-- Define a table by a header. -/
def define (path : List String) (name : String) : Entries → Option Entries :=
  change .path (fun _ entries =>
    match entries.lookup name with
    | none => some (put name (.table .header []) entries)
    | some (.table .path inner) => some (put name (.table .header inner) entries)
    | some _ => none) path .header

/-- Begin the next one of the tables with the same header. -/
def defineNext (path : List String) (name : String) : Entries → Option Entries :=
  change .path (fun _ entries =>
    match entries.lookup name with
    | none => some (put name (.tables [[]]) entries)
    | some (.tables elements) => some (put name (.tables ([] :: elements)) entries)
    | some _ => none) path .header

end Entries

mutual

def Entry.toValue : Entry → Value
  | .value v => v
  | .table _ entries => .table (entriesValues entries)
  | .tables elements => .list (tablesValues elements).reverse

def entriesValues : List (String × Entry) → List (String × Value)
  | [] => []
  | (name, e) :: rest => (name, e.toValue) :: entriesValues rest

def tablesValues : List (List (String × Entry)) → List Value
  | [] => []
  | entries :: rest => .table (entriesValues entries) :: tablesValues rest

end

end ModuleArchive.Config.Toml
