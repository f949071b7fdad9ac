import ModuleArchive.Cache.Policy

/-!
# Ages in words

The index keeps the second of a refresh in a signed word. How long ago it was is a span of a
signed word of seconds and one of nanoseconds, and a time to live has words without a sign. So
each step from the kept second to the freshness of a set may fail, or be wrong, where a number does
not fit.
-/
namespace ModuleArchive

/-- A span of time: whole seconds, and less than a second beyond them in the same direction. -/
structure Span where
  seconds : Int64
  nanos : Int32
  isRest : -Instant.perSecond < nanos.toInt ∧ nanos.toInt < Instant.perSecond
  isAligned : (0 < seconds.toInt → 0 ≤ nanos.toInt) ∧ (seconds.toInt < 0 → nanos.toInt ≤ 0)
deriving Repr, DecidableEq

namespace Span

/-- Whether a number of nanoseconds has seconds that fit a word. -/
abbrev Fits (nanos : Int) : Prop :=
  Int64.minValue.toInt ≤ nanos.tdiv Instant.perSecond ∧
    nanos.tdiv Instant.perSecond ≤ Int64.maxValue.toInt

def secondsOf (nanos : Int) : Int64 := Int64.ofInt (nanos.tdiv Instant.perSecond)

/-- The nanoseconds beyond the whole seconds. -/
def restOf (nanos : Int) : Int32 := Int32.ofInt (nanos.tmod Instant.perSecond)

/-- Division rounds towards zero, so it leaves a rest on the same side. -/
theorem tdiv_tmod (n : Int) :
    n.tdiv Instant.perSecond * Instant.perSecond + n.tmod Instant.perSecond = n ∧
      (-Instant.perSecond < n.tmod Instant.perSecond ∧
        n.tmod Instant.perSecond < Instant.perSecond) ∧
      (0 < n.tdiv Instant.perSecond → 0 ≤ n.tmod Instant.perSecond) ∧
      (n.tdiv Instant.perSecond < 0 → n.tmod Instant.perSecond ≤ 0) := by
  rw [Instant.perSecond]
  rcases Int.le_total 0 n with h | h
  · rw [Int.tdiv_eq_ediv_of_nonneg h, Int.tmod_eq_emod_of_nonneg h]
    omega
  · obtain ⟨m, rfl⟩ : ∃ m, n = -m := ⟨-n, (Int.neg_neg n).symm⟩
    have hm : 0 ≤ m := by omega
    rw [Int.neg_tdiv, Int.neg_tmod, Int.tdiv_eq_ediv_of_nonneg hm, Int.tmod_eq_emod_of_nonneg hm]
    omega

theorem toInt_secondsOf {n : Int} (h : Fits n) :
    (secondsOf n).toInt = n.tdiv Instant.perSecond := by
  obtain ⟨hmin, hmax⟩ := h
  rw [Int64.toInt_minValue] at hmin
  rw [Int64.toInt_maxValue] at hmax
  exact Int64.toInt_ofInt_of_le hmin (by omega)

theorem toInt_restOf (n : Int) : (restOf n).toInt = n.tmod Instant.perSecond := by
  obtain ⟨-, hrest, -⟩ := tdiv_tmod n
  rw [Instant.perSecond] at hrest
  exact Int32.toInt_ofInt_of_le (by rw [Instant.perSecond]; omega)
    (by rw [Instant.perSecond]; omega)

/-- The span of some nanoseconds, if its seconds fit a word. -/
def ofNanos? (nanos : Int) : Option Span :=
  if h : Fits nanos then
    have hparts := tdiv_tmod nanos
    have hseconds := toInt_secondsOf h
    have hrest := toInt_restOf nanos
    some {
      seconds := secondsOf nanos
      nanos := restOf nanos
      isRest := hrest.symm ▸ hparts.2.1
      isAligned := hrest.symm ▸ hseconds.symm ▸ hparts.2.2 }
  else none

/-- Whether a span is shorter than one without a sign. Seconds that do not fit a signed word are
more than any span has. -/
def isBelow (s : Span) (seconds : UInt64) (nanos : UInt32) : Bool :=
  if Int64.maxValue.toUInt64 < seconds then true
  else s.seconds < seconds.toInt64 ∨ s.seconds = seconds.toInt64 ∧ s.nanos < nanos.toInt32

end Span

/-- The freshness at `now` of a set whose refresh is kept as this second, if every number on the way
fits its words. -/
def CachePolicy.freshnessInWords? (p : CachePolicy) (kept : Int64) (now : Instant) :
    Option Freshness := do
  let refreshed ← Instant.ofSeconds? kept.toInt
  let age ← Span.ofNanos? (now.nanos - refreshed.nanos)
  pure (if age.isBelow (UInt64.ofNat p.ttl) (UInt32.ofNat p.ttlNanos) then .fresh else .stale)

end ModuleArchive
