/-!
# Groupings

The archive can be browsed by author, by collection or by format.
-/
namespace ModuleArchive

/-- A way of browsing the archive. -/
inductive Grouping where
  | authors
  | collections
  | formats
deriving Repr, DecidableEq

namespace Grouping

/-- All groupings, in the order in which the root lists them. -/
def all : List Grouping := [authors, collections, formats]

def path : Grouping → String
  | authors => "Authors"
  | collections => "Collections"
  | formats => "Formats"

/-- The lower-case name under which the index files a grouping. -/
def key : Grouping → String
  | authors => "authors"
  | collections => "collections"
  | formats => "formats"

/-- What a grouping holds, for people. -/
def description : Grouping → String
  | authors => "Modules by author"
  | collections => "Modules by collection"
  | formats => "Modules by format"

def ofPath? (segment : String) : Option Grouping := all.find? (·.path = segment)

def ofKey? (key : String) : Option Grouping := all.find? (·.key = key)

theorem mem_all (g : Grouping) : g ∈ all := by cases g <;> decide

@[simp] theorem ofPath?_path (g : Grouping) : ofPath? g.path = some g := by cases g <;> decide

@[simp] theorem ofKey?_key (g : Grouping) : ofKey? g.key = some g := by cases g <;> decide

end Grouping

end ModuleArchive
