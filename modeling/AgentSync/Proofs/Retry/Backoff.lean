import AgentSync.Retry
import AgentSync.Settings.Queue
import Mathlib.Algebra.Ring.Int.Defs
import Mathlib.Algebra.Ring.Nat

namespace AgentSync

namespace RetryPolicy

/-- The milliseconds that an event waits after some failures, before they are cut off. The base
delay is the word it wraps to. -/
def uncut (policy : RetryPolicy) (attempts : Int) : Nat :=
  Word.low64 policy.baseDelay.millis * attempts.toNat ^ policy.exponent.toNat

/-- Without failures nothing is waited for. -/
theorem backoff_of_nonpos {policy : RetryPolicy} {attempts : Int} (h : attempts ≤ 0) :
    policy.backoff attempts = .zero := if_pos h

/-- The waiting time is cut off only where the product does not fit a word. -/
theorem backoff_of_pos {policy : RetryPolicy} {attempts : Int} (h : 0 < attempts) :
    policy.backoff attempts = .ofMillis (Word.saturate64 (policy.uncut attempts)) := by
  have hfactor : Word.saturatedPow attempts.toNat policy.exponent.toNat =
      Word.saturate64 (attempts.toNat ^ policy.exponent.toNat) := Word.saturatedPow_eq _ _
  simp only [backoff, if_neg (Int.not_le.mpr h), hfactor, Word.saturate64_mul_saturate64, uncut]

theorem factor_pos {attempts : Int} (h : 0 < attempts) (exponent : Nat) :
    0 < attempts.toNat ^ exponent := Nat.pow_pos (by omega)

/-- More attempts never give less before the cut. -/
theorem uncut_le_uncut (policy : RetryPolicy) {a b : Int} (h : a ≤ b) :
    policy.uncut a ≤ policy.uncut b :=
  Nat.mul_le_mul_left _ (Nat.pow_le_pow_left (Int.toNat_le_toNat h) _)

/-- With a positive exponent and base delay more attempts give more. -/
theorem uncut_lt_uncut {policy : RetryPolicy} {a b : Int} (hpos : 0 < a) (h : a < b)
    (hexponent : 1 ≤ policy.exponent) (hbase : 0 < Word.low64 policy.baseDelay.millis) :
    policy.uncut a < policy.uncut b :=
  Nat.mul_lt_mul_of_pos_left (Nat.pow_lt_pow_left (by omega) (by omega)) hbase

/-- With a base delay that needs no wrapping, the waiting time is the exact one unless that is cut
off. -/
theorem uncut_of_le {policy : RetryPolicy} (hbase : policy.baseDelay.millis ≤ Word.max64)
    (attempts : Int) :
    policy.uncut attempts = policy.baseDelay.millis * attempts.toNat ^ policy.exponent.toNat := by
  rw [uncut, Word.low64_of_le hbase]

/-- Wrapping the base delay only makes it shorter. -/
theorem uncut_le_exact (policy : RetryPolicy) (attempts : Int) :
    policy.uncut attempts ≤ policy.baseDelay.millis * attempts.toNat ^ policy.exponent.toNat :=
  Nat.mul_le_mul_right _ (Nat.mod_le _ _)

/-- A base delay that wraps changes the waiting time, unless what is left of it is cut off as
well. -/
theorem backoff_eq_exact_iff {policy : RetryPolicy} {attempts : Int} (h : 0 < attempts) :
    policy.backoff attempts = .ofMillis (Word.saturate64
        (policy.baseDelay.millis * attempts.toNat ^ policy.exponent.toNat)) ↔
      policy.baseDelay.millis ≤ Word.max64 ∨ Word.max64 ≤ policy.uncut attempts := by
  rw [backoff_of_pos h, Duration.ofMillis_inj, Word.saturate64_eq_saturate64_iff]
  constructor
  · rintro (hsame | ⟨hcut, -⟩)
    · -- The factor is positive, so that the base delay is the word it wraps to.
      have hbase := Nat.eq_of_mul_eq_mul_right (factor_pos h _) hsame
      exact .inl (hbase ▸ Word.low64_le_max64 _)
    · exact .inr hcut
  · rintro (hwhole | hcut)
    · exact .inl (uncut_of_le hwhole attempts)
    · exact .inr ⟨hcut, Nat.le_trans hcut (policy.uncut_le_exact attempts)⟩

/-- Two base delays compare by what they wrap to, as far as nothing is cut off. -/
theorem backoff_lt_backoff_iff {policy : RetryPolicy} {attempts : Int} (h : 0 < attempts)
    (other : Duration) :
    ({ policy with baseDelay := other }.backoff attempts).nanos < (policy.backoff attempts).nanos ↔
      Word.low64 other.millis < Word.low64 policy.baseDelay.millis ∧
        Word.low64 other.millis * attempts.toNat ^ policy.exponent.toNat < Word.max64 := by
  rw [backoff_of_pos h, backoff_of_pos h, Duration.nanos_ofMillis_lt_iff,
    Word.saturate64_lt_saturate64_iff, uncut, uncut,
    Nat.mul_lt_mul_right (factor_pos h _)]

/-- The waiting time is the product of the base delay and the power, cut off at the largest 64-bit
number of milliseconds, exactly when the base delay does not lie beyond that number or what it wraps
to is cut off as well. A longer base delay within that number never shortens the waiting time;
another base delay does exactly when it wraps to less, and to so little that nothing is cut off. -/
theorem backoff_saturates_iff {policy : RetryPolicy} {attempts : Int} (hattempts : 1 ≤ attempts) :
    (policy.backoff attempts =
        .ofMillis (min
          (policy.baseDelay.millis * attempts.toNat ^ (max policy.exponent 0).toNat) Word.max64) ↔
      policy.baseDelay.millis ≤ Word.max64 ∨
        Word.max64 ≤ Word.low64 policy.baseDelay.millis *
          attempts.toNat ^ (max policy.exponent 0).toNat) ∧
    (∀ longer : Duration, policy.baseDelay.nanos ≤ longer.nanos → longer.millis ≤ Word.max64 →
      (policy.backoff attempts).nanos ≤
        ({ policy with baseDelay := longer }.backoff attempts).nanos) ∧
    ∀ other : Duration,
      (({ policy with baseDelay := other }.backoff attempts).nanos <
          (policy.backoff attempts).nanos ↔
        Word.low64 other.millis < Word.low64 policy.baseDelay.millis ∧
          Word.low64 other.millis * attempts.toNat ^ (max policy.exponent 0).toNat <
            Word.max64) := by
  have hexponent : (max policy.exponent 0).toNat = policy.exponent.toNat := by omega
  rw [hexponent]
  refine ⟨backoff_eq_exact_iff hattempts, ?_, backoff_lt_backoff_iff hattempts⟩
  intro longer hlonger hwhole
  have hmillis := Duration.millis_le_millis hlonger
  -- Neither base delay wraps, so that the longer one cannot have wrapped to less.
  rw [← Nat.not_lt, backoff_lt_backoff_iff hattempts, Word.low64_of_le hwhole,
    Word.low64_of_le (Nat.le_trans hmillis hwhole)]
  omega

/-- The default policy with a base delay of `2^64 + 384` milliseconds, set by a variable. -/
def wrapping : RetryPolicy :=
  .ofVariables (.ofList [("EVENT_BASE_DELAY_SECS", "18446744073709552")])

/-- The first waiting time is a fraction of a second instead of the longest there is, and shorter
than the one with the default base delay of a minute. -/
theorem wrapping_backoff_short :
    wrapping = { (default : RetryPolicy) with baseDelay := .ofSeconds 18446744073709552 } ∧
      wrapping.backoff 1 = .ofMillis 384 ∧
      wrapping.backoff 1 ≠
        .ofMillis (min (wrapping.baseDelay.millis * Int.toNat 1 ^ (max wrapping.exponent 0).toNat)
          Word.max64) ∧
      (default : RetryPolicy).baseDelay.nanos ≤ wrapping.baseDelay.nanos ∧
      (wrapping.backoff 1).nanos < ((default : RetryPolicy).backoff 1).nanos := by
  have hpolicy : wrapping =
      { (default : RetryPolicy) with baseDelay := .ofSeconds 18446744073709552 } := by decide
  rw [hpolicy]
  decide

/-- Waiting times that grow with the sixtieth power. -/
def steep : RetryPolicy := { (default : RetryPolicy) with exponent := 60 }

/-- The longest waiting time there is, which a longer base delay leaves as it is. -/
theorem steep_backoff_longest : (1 : Int) ≤ 1000 ∧
    (.ofMillis Word.max64 : Duration) = .ofMillis (min
      (steep.baseDelay.millis * Int.toNat 1000 ^ (max steep.exponent 0).toNat) Word.max64) ∧
    steep.backoff 1000 = .ofMillis (min
      (steep.baseDelay.millis * Int.toNat 1000 ^ (max steep.exponent 0).toNat) Word.max64) ∧
    (steep.backoff 1000).nanos ≤
      ({ steep with baseDelay := .ofSeconds 61 }.backoff 1000).nanos ∧
    ¬({ steep with baseDelay := .ofSeconds 61 }.backoff 1000).nanos <
      (steep.backoff 1000).nanos := by
  have hattempts : (1 : Int) ≤ 1000 := by decide
  obtain ⟨hexact, hlonger, hshorter⟩ := @backoff_saturates_iff steep 1000 hattempts
  refine ⟨hattempts, by decide, hexact.mpr (.inl (by decide)),
    hlonger (.ofSeconds 61) (by decide) (by decide), ?_⟩
  rw [hshorter]
  decide

/-- Waiting times never fall from one number of attempts to a later one, nor from one exponent to a
higher one. Within the base delays from one millisecond to the largest number of them they rise with
the attempts under every positive exponent, until they are cut off. -/
theorem backoff_monotone (policy : RetryPolicy) :
    (∀ a b : Int, a ≤ b → (policy.backoff a).nanos ≤ (policy.backoff b).nanos) ∧
    (∀ attempts exponent : Int, policy.exponent ≤ exponent →
      (policy.backoff attempts).nanos ≤
        ({ policy with exponent }.backoff attempts).nanos) ∧
    ∀ a b : Int, 1 ≤ a → a < b → 1 ≤ policy.exponent →
      (Duration.ofMillis 1).nanos ≤ policy.baseDelay.nanos →
      policy.baseDelay.nanos ≤ (Duration.ofMillis Word.max64).nanos →
      (policy.backoff a).nanos < (policy.backoff b).nanos ∨
        policy.backoff b = .ofMillis Word.max64 := by
  refine ⟨?_, ?_, ?_⟩
  · intro a b hle
    by_cases hpos : 0 < a
    · rw [backoff_of_pos hpos, backoff_of_pos (Int.lt_of_lt_of_le hpos hle),
        Duration.nanos_ofMillis_le_iff]
      exact Word.saturate64_le_saturate64 (policy.uncut_le_uncut hle)
    · rw [backoff_of_nonpos (Int.not_lt.mp hpos)]
      exact Nat.zero_le _
  · intro attempts exponent hle
    by_cases hpos : 0 < attempts
    · rw [backoff_of_pos hpos, backoff_of_pos hpos, Duration.nanos_ofMillis_le_iff]
      refine Word.saturate64_le_saturate64 (Nat.mul_le_mul_left _ ?_)
      exact Nat.pow_le_pow_right (by omega) (Int.toNat_le_toNat hle)
    · rw [backoff_of_nonpos (Int.not_lt.mp hpos)]
      exact Nat.zero_le _
  · intro a b hpos hlt hexponent hshortest hlongest
    have hbase := Duration.millis_le_millis hshortest
    have hwhole := Duration.millis_le_millis hlongest
    rw [Duration.millis_ofMillis] at hbase hwhole
    -- What comes before the cut rises strictly, so that only the cut can make the two equal.
    have hrises := uncut_lt_uncut hpos hlt hexponent (by rwa [Word.low64_of_le hwhole])
    rw [backoff_of_pos hpos, backoff_of_pos (by omega), Duration.nanos_ofMillis_lt_iff,
      Duration.ofMillis_inj, Word.saturate64_lt_saturate64_iff]
    rcases Nat.lt_or_ge (policy.uncut a) Word.max64 with hwithin | hcut
    · exact .inl ⟨hrises, hwithin⟩
    · exact .inr (Word.saturate64_of_ge (Nat.le_trans hcut (Nat.le_of_lt hrises)))

/-- The default waiting times, from the second attempt to the third and to a higher power. -/
theorem default_backoff_rises :
    ((default : RetryPolicy).backoff 2).nanos ≤ ((default : RetryPolicy).backoff 3).nanos ∧
    ((default : RetryPolicy).backoff 2).nanos ≤
      ({ (default : RetryPolicy) with exponent := 6 }.backoff 2).nanos ∧
    (((default : RetryPolicy).backoff 2).nanos < ((default : RetryPolicy).backoff 3).nanos ∨
      (default : RetryPolicy).backoff 3 = .ofMillis Word.max64) := by
  obtain ⟨hattempts, hexponent, hstrict⟩ := backoff_monotone default
  exact ⟨hattempts 2 3 (by decide), hexponent 2 6 (by decide),
    hstrict 2 3 (by decide) (by decide) (by decide) (by decide) (by decide)⟩

end RetryPolicy

end AgentSync
