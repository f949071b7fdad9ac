import ModuleArchive.Clock

/-!
# Freshness

A set that was refreshed less than the time to live ago is fresh and answers on its own. An
older one is stale: it is refreshed, and serves at most in place of a remote that fails.
-/
namespace ModuleArchive

/-- How long refreshed sets are trusted, and whether older ones may stand in. -/
structure CachePolicy where
  /-- The whole seconds of the time to live. -/
  ttl : Nat := 24 * 60 * 60
  /-- The nanoseconds of the time to live beyond its whole seconds. -/
  ttlNanos : Nat := 0
  /-- Whether a stale set is served when the remote fails. -/
  serveStale : Bool := true
deriving Repr, DecidableEq

/-- How far a stored set can be trusted. -/
inductive Freshness where
  | fresh
  | stale
  /-- The set has never been refreshed. -/
  | missing
deriving Repr, DecidableEq

/-- The time to live in nanoseconds. -/
def CachePolicy.lifetime (p : CachePolicy) : Int := p.ttl * Instant.perSecond + p.ttlNanos

/-- The freshness at `now` of a set with this refresh time. -/
def CachePolicy.freshness (p : CachePolicy) (refreshed : Option Instant) (now : Instant) :
    Freshness :=
  match refreshed with
  | none => .missing
  | some time =>
    if now.nanos - time.nanos < p.lifetime then .fresh else .stale

end ModuleArchive
