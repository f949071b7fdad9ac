import ModuleArchive.Catalog.Listing
import ModuleArchive.Content.Reader

/-!
# Catalogs

A catalog answers what sets hold, which group has a number, which track of a group has a
file name, and what a track's bytes are. It may keep a state: counters, a log of requests,
a cache. An operation takes the state before it to an answer and the state after it.
-/
namespace ModuleArchive

/-- An operation on a state that may fail. -/
abbrev Action (σ α : Type) := σ → Except Catalog.Error α × σ

/-- Access to an archive. -/
structure Catalog (σ : Type) where
  /-- The records of a set. -/
  listing : (s : Scope) → Listing σ s.Item
  /-- The group with a number. -/
  group : Grouping → UInt32 → Action σ (Option Group)
  /-- The track of a group with exactly this file name. -/
  track : Grouping → UInt32 → String → Action σ (Option Track)
  /-- The bytes of the track at a path. -/
  content : String → Action σ Content
  /-- How long reading answers has taken so far, in steps of whoever waits for them. -/
  effort : σ → Nat := fun _ => 0

namespace Catalog

variable {σ τ : Type}

/-- Look for a file name in the listing of a group, no further than its first occurrence. -/
def scan (listing : (s : Scope) → Listing σ s.Item) (g : Grouping) (id : UInt32)
    (filename : String) : Action σ (Option Track) :=
  (listing (.tracks g id)).find? fun (t : Track) => t.filename = filename

/-- An operation on a part of a larger state. -/
def actWithin {α : Type} (get : τ → σ) (set : σ → τ → τ) (act : Action σ α) : Action τ α :=
  fun w =>
    let (answer, part) := act (get w)
    (answer, set part w)

/-- A catalog over a part of a larger state. -/
def within (get : τ → σ) (set : σ → τ → τ) (c : Catalog σ) : Catalog τ where
  listing s := (c.listing s).within get set
  group g id := actWithin get set (c.group g id)
  track g id filename := actWithin get set (c.track g id filename)
  content path := actWithin get set (c.content path)
  effort w := c.effort (get w)

/-- The catalog that the state chooses for each operation. -/
def choose (select : σ → Catalog σ) : Catalog σ where
  listing s := .work id fun w => (select w).listing s
  group g id w := (select w).group g id w
  track g id filename w := (select w).track g id filename w
  content path w := (select w).content path w
  effort w := (select w).effort w

end Catalog

end ModuleArchive
