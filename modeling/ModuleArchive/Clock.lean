/-!
# Points in time

Time is counted in nanoseconds from the beginning of 1970, before and after. The index keeps
whole seconds, rounded down, and can give back times of the years -9999 to 9999. A clock shows
a time whenever it is read; nothing is assumed of how the times follow each other.
-/
namespace ModuleArchive

/-- A point in time. -/
structure Instant where
  /-- Nanoseconds since the beginning of 1970. -/
  nanos : Int
deriving Repr, DecidableEq

namespace Instant

/-- How many nanoseconds a second has. -/
def perSecond : Int := 1000000000

/-- The point in time `seconds` after the beginning of 1970, and some nanoseconds. -/
def ofSeconds (seconds : Int) (nanos : Int := 0) : Instant := ⟨seconds * perSecond + nanos⟩

/-- The whole seconds since the beginning of 1970, rounded down. -/
def seconds (t : Instant) : Int := t.nanos / perSecond

/-- The first second of the year -9999. -/
def firstSecond : Int := -377705116800

/-- The last second of the year 9999. -/
def lastSecond : Int := 253402300799

/-- The point in time that a number of seconds stands for, within the years -9999 to 9999. -/
def ofSeconds? (seconds : Int) : Option Instant :=
  if firstSecond ≤ seconds ∧ seconds ≤ lastSecond then some (ofSeconds seconds) else none

end Instant

/-- A clock, given by all times it will ever show. -/
structure Clock where
  /-- What the clock shows at each reading. -/
  reading : Nat → Instant
  /-- How often it has been read. -/
  taken : Nat := 0

namespace Clock

/-- The time that the next reading shows. -/
def now (c : Clock) : Instant := c.reading c.taken

def tick (c : Clock) : Clock := { c with taken := c.taken + 1 }

def still (t : Instant) : Clock := { reading := fun _ => t }

instance : Coe Instant Clock := ⟨still⟩

end Clock

end ModuleArchive
