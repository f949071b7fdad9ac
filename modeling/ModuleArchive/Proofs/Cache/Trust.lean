import ModuleArchive.Cache.Age
import ModuleArchive.Proofs.Cache.Refresh

/-!
# How long a set is trusted

The index keeps the second in which a set was refreshed and drops the rest, so a set seems older
than it is, by less than a second. It is never trusted longer than its time to live, and at most a
second shorter. Between any two times of the calendar every number fits its words, also if the time
to live has more seconds than a signed word: the freshness that is worked out in words is the one
that the exact age gives.
-/
namespace ModuleArchive

/-! ### Spans -/

namespace Span

def length (s : Span) : Int := s.seconds.toInt * Instant.perSecond + s.nanos.toInt

lemma length_of_fits {n : Int} (h : Fits n) : ∃ s, ofNanos? n = some s ∧ s.length = n := by
  refine ⟨_, dif_pos h, ?_⟩
  rw [length, toInt_secondsOf h, toInt_restOf]
  exact (tdiv_tmod n).1

lemma toInt_toInt64 {seconds : UInt64} (h : seconds ≤ Int64.maxValue.toUInt64) :
    seconds.toInt64.toInt = seconds.toNat := by
  have hle : seconds.toNat ≤ 9223372036854775807 := UInt64.le_iff_toNat_le.mp h
  have hsmall : 2 * seconds.toBitVec.toNat < 18446744073709551616 := by
    rw [UInt64.toNat_toBitVec]
    omega
  exact BitVec.toInt_eq_toNat_of_lt hsmall

lemma toInt_toInt32 {nanos : UInt32} (h : (nanos.toNat : Int) < Instant.perSecond) :
    nanos.toInt32.toInt = nanos.toNat := by
  rw [Instant.perSecond] at h
  have hsmall : 2 * nanos.toBitVec.toNat < 4294967296 := by
    rw [UInt32.toNat_toBitVec]
    omega
  exact BitVec.toInt_eq_toNat_of_lt hsmall

theorem isBelow_iff (s : Span) {seconds : UInt64} {nanos : UInt32}
    (h : (nanos.toNat : Int) < Instant.perSecond) :
    s.isBelow seconds nanos = true ↔
      s.length < seconds.toNat * Instant.perSecond + nanos.toNat := by
  obtain ⟨-, hrest⟩ := s.isRest
  obtain ⟨haligned, -⟩ := s.isAligned
  rw [isBelow, length]
  split
  · next hlarge =>
    have hlarge : 9223372036854775807 < seconds.toNat := UInt64.lt_iff_toNat_lt.mp hlarge
    have hmax := s.seconds.toInt_le
    rw [Int64.toInt_maxValue] at hmax
    refine iff_of_true rfl ?_
    rw [Instant.perSecond] at *
    omega
  · next hsmall =>
    have hseconds := toInt_toInt64 (UInt64.not_lt.mp hsmall)
    rw [decide_eq_true_eq, Int64.lt_iff_toInt_lt, ← Int64.toInt_inj, Int32.lt_iff_toInt_lt,
      hseconds, toInt_toInt32 h]
    -- as for the digits of a number, the seconds decide unless they are equal
    rw [Instant.perSecond] at *
    omega

end Span

namespace Cache

open Index (IsDated StoredLast Write)

section Words

variable {p : CachePolicy} {kept : Int64} {refreshed now : Instant}

/-- Times of the calendar are not too far apart. -/
lemma fits_sub (hr : Instant.ofSeconds? kept.toInt = some refreshed) (hn : IsDated now) :
    Span.Fits (now.nanos - refreshed.nanos) := by
  rw [Instant.ofSeconds?] at hr
  split at hr
  · next hk =>
    obtain rfl := Option.some_inj.mp hr
    obtain ⟨hfirst, hlast⟩ := hn
    obtain ⟨hsum, hrest, -⟩ :=
      Span.tdiv_tmod (now.nanos - (Instant.ofSeconds kept.toInt).nanos)
    rw [Span.Fits, Int64.toInt_minValue, Int64.toInt_maxValue]
    simp only [Instant.ofSeconds, Instant.seconds, Instant.firstSecond, Instant.lastSecond,
      Instant.perSecond] at *
    omega
  · contradiction

/-- In words a set is as fresh as it is by its exact age. -/
theorem freshnessInWords?_eq (hr : Instant.ofSeconds? kept.toInt = some refreshed)
    (hn : IsDated now) (hseconds : p.ttl < UInt64.size)
    (hnanos : (p.ttlNanos : Int) < Instant.perSecond) :
    p.freshnessInWords? kept now = some (p.freshness (some refreshed) now) := by
  obtain ⟨age, hage, hlength⟩ := Span.length_of_fits (fits_sub hr hn)
  have hs : (UInt64.ofNat p.ttl).toNat = p.ttl := UInt64.toNat_ofNat_of_lt' hseconds
  have hn : (UInt32.ofNat p.ttlNanos).toNat = p.ttlNanos := by
    have hlt : p.ttlNanos < 1000000000 := Int.ofNat_lt.mp hnanos
    exact UInt32.toNat_ofNat_of_lt' (Nat.lt_trans hlt (by decide))
  have hbelow : age.isBelow (UInt64.ofNat p.ttl) (UInt32.ofNat p.ttlNanos) = true ↔
      now.nanos - refreshed.nanos < p.lifetime := by
    rw [Span.isBelow_iff age (by rwa [hn]), hlength, hs, hn, CachePolicy.lifetime]
  rw [CachePolicy.freshnessInWords?, hr, Option.bind_eq_bind, Option.bind_some, hage,
    Option.bind_eq_bind, Option.bind_some, CachePolicy.freshness]
  simp only [hbelow]
  rfl

end Words

/-! ### Sets that were stored -/

variable {ρ : Type} {isPersistent : Bool} {calls : List Write}

lemma toInt_ofInt_seconds {t : Instant} (h : IsDated t) :
    (Int64.ofInt t.seconds).toInt = t.seconds := by
  obtain ⟨hfirst, hlast⟩ := h
  rw [Instant.firstSecond] at hfirst
  rw [Instant.lastSecond] at hlast
  exact Int64.toInt_ofInt_of_le (by omega) (by omega)

/-- After any run, a set that was stored at a time of the calendar, and not again since, is judged at
any other time of the calendar by the second it was stored in. That second is kept in a word and can
be read back, and the freshness worked out in words is that of the judgement: fresh if and only if
less than the time to live has gone by since the second began. So the set is not trusted any more as
soon as the time to live is over, and is still trusted a second before that. -/
theorem trust_ends_with_lifetime {s : Scope} {items : List s.Item} {t : Instant}
    {since : List Write} {w : State ρ}
    (hw : w.repository = (Repository.new isPersistent).after calls)
    (hs : StoredLast ((Repository.new isPersistent).log calls) s items t since) (ht : IsDated t)
    (hnow : IsDated w.clock.now) {p : CachePolicy} (hseconds : p.ttl < UInt64.size)
    (hnanos : (p.ttlNanos : Int) < Instant.perSecond) :
    let now := w.clock.now
    ∃ (kept : Int64) (verdict : Freshness), kept.toInt = t.seconds ∧
      w.repository.index.refreshes.get? s.key = some kept.toInt ∧
      w.repository.query (·.refreshedAt s) = .ok (some (.ofSeconds kept.toInt)) ∧
      p.freshnessInWords? kept now = some verdict ∧
      (∀ (remote : Catalog ρ) (next : Freshness → Procedure (Except Catalog.Error (List s.Item))),
        (judge p s next).run (answer remote) w = (next verdict).run (answer remote) w.tick) ∧
      (verdict = .fresh ↔ now.nanos - t.seconds * Instant.perSecond < p.lifetime) ∧
      (p.lifetime ≤ now.nanos - t.nanos → verdict ≠ .fresh) ∧
      (now.nanos - t.nanos ≤ p.lifetime - Instant.perSecond → verdict = .fresh) := by
  intro now
  obtain ⟨kept, hkept⟩ : ∃ kept : Int64, kept.toInt = t.seconds := ⟨_, toInt_ofInt_seconds ht⟩
  have hindex : w.repository.index.refreshes.get? s.key = some kept.toInt := by
    rw [hw, Repository.after_new, hkept]
    exact hs.refreshes_eq
  have hread : Instant.ofSeconds? kept.toInt = some (.ofSeconds kept.toInt) := by
    rw [hkept]
    exact Index.ofSeconds?_of_isDated ht
  have hrefreshed : w.repository.query (·.refreshedAt s) =
      .ok (some (.ofSeconds kept.toInt)) := by
    rw [hw, Repository.query_after_new, Index.refreshedAt, hs.refreshes_eq, ← hkept]
    simp only [hread]
  have hfresh : p.freshness (some (.ofSeconds kept.toInt)) now = .fresh ↔
      now.nanos - t.seconds * Instant.perSecond < p.lifetime := by
    rw [freshness_eq_fresh_iff, Instant.ofSeconds, Int.add_zero, hkept]
  -- the second began before the set was stored, and less than a second before
  have hbegan : t.seconds * Instant.perSecond ≤ t.nanos ∧
      t.nanos < t.seconds * Instant.perSecond + Instant.perSecond := by
    rw [Instant.seconds, Instant.perSecond]
    omega
  refine ⟨kept, _, hkept, hindex, hrefreshed, freshnessInWords?_eq hread hnow hseconds hnanos, ?_,
    hfresh, ?_, ?_⟩
  · intro remote next
    rw [judge, Procedure.run_ask, show (answer remote (.refreshedAt s) w).1 = _ from hrefreshed]
    rfl
  · intro hover
    rw [ne_eq, hfresh]
    omega
  · intro hunder
    rw [hfresh]
    omega

/-- A set that was stored just before the end of a second, ten seconds before 1970, and a clock that
shows a time two seconds later, less a nanosecond. -/
def beforeEpoch : State Nat where
  repository := (Repository.new false).after
    [.replace (.tracks .authors 1) [.ofPath "/pub/one.mod" 8] (.ofSeconds (-10) 999999999)]
  remote := 0
  clock := Instant.ofSeconds (-8) 999999998

/-- The set is not trusted for the last nanosecond of two seconds, but it is by a policy whose time
to live has more seconds than a signed word. -/
theorem trust_ends_with_lifetime_beforeEpoch :
    let now := beforeEpoch.clock.now
    now.nanos - (Instant.ofSeconds (-10) 999999999).nanos = 1999999999 ∧
      beforeEpoch.repository.query (·.refreshedAt (.tracks .authors 1)) =
        .ok (some (.ofSeconds (-10))) ∧
      ({ ttl := 2 } : CachePolicy).freshnessInWords? (-10) now ≠ some .fresh ∧
      ({ ttl := 18446744073709551615 } : CachePolicy).freshnessInWords? (-10) now =
        some .fresh := by
  intro now
  have hs : StoredLast ((Repository.new false).log
      [.replace (.tracks .authors 1) [.ofPath "/pub/one.mod" 8] (.ofSeconds (-10) 999999999)])
      (.tracks .authors 1) [.ofPath "/pub/one.mod" 8] (.ofSeconds (-10) 999999999) [] :=
    ⟨[], rfl, Index.keeps_nil _⟩
  have hwritten : IsDated (.ofSeconds (-10) 999999999) := ⟨by decide, by decide⟩
  have hnow : IsDated beforeEpoch.clock.now := ⟨by decide, by decide⟩
  -- both policies judge by the same kept second
  have hverdict {p : CachePolicy} (hseconds : p.ttl < UInt64.size)
      (hnanos : (p.ttlNanos : Int) < Instant.perSecond) :
      ∃ verdict, p.freshnessInWords? (-10) now = some verdict ∧
        (verdict = .fresh ↔ now.nanos - -10 * Instant.perSecond < p.lifetime) := by
    obtain ⟨kept, verdict, hkept, -, -, hwords, -, hfresh, -, -⟩ :=
      trust_ends_with_lifetime (w := beforeEpoch) rfl hs hwritten hnow hseconds hnanos
    obtain rfl : kept = -10 := Int64.toInt_inj.mp (hkept.trans (by decide))
    exact ⟨verdict, hwords, hfresh⟩
  obtain ⟨short, hshort, hstale⟩ := hverdict (p := { ttl := 2 }) (by decide) (by decide)
  obtain ⟨long, hlong, hfresh⟩ :=
    hverdict (p := { ttl := 18446744073709551615 }) (by decide) (by decide)
  refine ⟨by decide, by decide +kernel, ?_, ?_⟩
  · rw [hshort, ne_eq, Option.some_inj, hstale]
    decide
  · rw [hlong, Option.some_inj, hfresh]
    decide

end Cache

end ModuleArchive
