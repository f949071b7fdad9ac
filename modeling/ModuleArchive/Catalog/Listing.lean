import ModuleArchive.Catalog.Error

/-!
# Listings

A listing is delivered as a sequence of events: at most one count hint, then the items. It
is lazy: between two events it may work on the state of the catalog behind it, and work
that comes after the last event taken is never done. A listing is consumed by a visitor,
which may stop it, or collected as a whole.
-/
namespace ModuleArchive

inductive ListEvent (α : Type) where
  /-- How many items are to be expected. -/
  | hint (count : Nat)
  | item (value : α)
deriving Repr, DecidableEq

namespace ListEvent

variable {α β : Type}

def item? : ListEvent α → Option α
  | hint _ => none
  | item a => some a

def map (f : α → β) : ListEvent α → ListEvent β
  | hint n => hint n
  | item a => item (f a)

end ListEvent

/-- A lazy listing over a state `σ`. -/
inductive Listing (σ α : Type) where
  | finished
  | failed (cause : Catalog.Error)
  | event (e : ListEvent α) (rest : Listing σ α)
  /-- Change the state by `run`, then go on as `rest` says for the state before. -/
  | work (run : σ → σ) (rest : σ → Listing σ α)

namespace Listing

variable {σ τ α β γ : Type}

/-- Events followed by a listing. -/
def append : List (ListEvent α) → Listing σ α → Listing σ α
  | [], rest => rest
  | e :: events, rest => event e (append events rest)

/-- The listing of some events and the failure that may follow them. -/
def ofEvents (events : List (ListEvent α)) : Option Catalog.Error → Listing σ α
  | none => append events finished
  | some cause => append events (failed cause)

/-- The listing of items that are known, with their number as the hint. -/
def ofItems (items : List α) : Listing σ α :=
  ofEvents (.hint items.length :: items.map .item) none

def map (f : α → β) : Listing σ α → Listing σ β
  | finished => finished
  | failed cause => failed cause
  | event e rest => event (e.map f) (map f rest)
  | work run rest => work run fun w => map f (rest w)

/-- A listing over a part of a larger state. -/
def within (get : τ → σ) (set : σ → τ → τ) : Listing σ α → Listing τ α
  | finished => finished
  | failed cause => failed cause
  | event e rest => event e (within get set rest)
  | work run rest => work (fun w => set (run (get w)) w) fun w => within get set (rest (get w))

/-- How the consumption of a listing ended. -/
inductive Ending where
  | complete
  | failed (cause : Catalog.Error)
  /-- The consumer stopped. -/
  | dropped
deriving Repr, DecidableEq

/-- Show the events to a visitor until it breaks, which it does by answering `true`. -/
def visit (visitor : γ → ListEvent α → γ × Bool) : Listing σ α → γ → σ → Ending × γ × σ
  | finished, c, w => (.complete, c, w)
  | failed cause, c, w => (.failed cause, c, w)
  | event e rest, c, w =>
    let (c, breaks) := visitor c e
    if breaks then (.dropped, c, w) else visit visitor rest c w
  | work run rest, c, w => visit visitor (rest w) c (run w)

/-- Take at most `limit` events; nothing is done for the events after them. -/
def take : Option Nat → Listing σ α → σ → List (ListEvent α) × Ending × σ
  | some 0, _, w => ([], .dropped, w)
  | _, finished, w => ([], .complete, w)
  | _, failed cause, w => ([], .failed cause, w)
  | limit, event e rest, w =>
    let (events, ending, w) := take (limit.map (· - 1)) rest w
    (e :: events, ending, w)
  | limit, work run rest, w => take limit (rest w) (run w)

/-- The last hint and all items, added to those that were found before. -/
def collectInto : Option Nat → List α → Listing σ α → σ →
    Except Catalog.Error (Option Nat × List α) × σ
  | hint, items, finished, w => (.ok (hint, items.reverse), w)
  | _, _, failed cause, w => (.error cause, w)
  | _, items, event (.hint n) rest, w => collectInto (some n) items rest w
  | hint, items, event (.item a) rest, w => collectInto hint (a :: items) rest w
  | hint, items, work run rest, w => collectInto hint items (rest w) (run w)

/-- The last hint and all items of a listing. -/
def collect (l : Listing σ α) (w : σ) : Except Catalog.Error (Option Nat × List α) × σ :=
  collectInto none [] l w

/-- The first item with a property. The listing is not consumed any further. -/
def find? (p : α → Bool) : Listing σ α → σ → Except Catalog.Error (Option α) × σ
  | finished, w => (.ok none, w)
  | failed cause, w => (.error cause, w)
  | event (.hint _) rest, w => find? p rest w
  | event (.item a) rest, w => if p a then (.ok (some a), w) else find? p rest w
  | work run rest, w => find? p (rest w) (run w)

end Listing

end ModuleArchive
