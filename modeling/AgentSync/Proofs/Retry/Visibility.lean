import AgentSync.Proofs.Retry.Backoff
import AgentSync.Proofs.Time.Instant

namespace AgentSync

namespace RetryPolicy

/-- The end of the waiting time after a failed attempt, if a date reaches it. -/
abbrev waitEnd? (policy : RetryPolicy) (event : Event) (last : Instant) : Option Instant :=
  last.add? (policy.backoff event.attempts).seconds (policy.backoff event.attempts).subsecond

/-- An event has attempts left, and its delay is over. -/
structure IsDue (policy : RetryPolicy) (event : Event) (now : Instant) : Prop where
  attempts_le : event.attempts ≤ policy.maxAttempts
  visible : ∃ visibleAt, event.createdAt.add? event.delay 0 = some visibleAt ∧ visibleAt ≤ now

/-- What decides whether an event can be claimed, with the answer that it leads to. -/
inductive Answers (policy : RetryPolicy) (event : Event) (now : Instant) : Option Bool → Prop
  | exhausted (hattempts : policy.maxAttempts < event.attempts) :
      Answers policy event now (some false)
  | undated (hattempts : event.attempts ≤ policy.maxAttempts)
      (hvisible : event.createdAt.add? event.delay 0 = none) : Answers policy event now none
  | delayed {visibleAt : Instant} (hattempts : event.attempts ≤ policy.maxAttempts)
      (hvisible : event.createdAt.add? event.delay 0 = some visibleAt)
      (hearly : now < visibleAt) : Answers policy event now (some false)
  | fresh (hdue : policy.IsDue event now) (hlast : event.lastAttempt = none) :
      Answers policy event now (some true)
  | unbounded {last : Instant} (hdue : policy.IsDue event now)
      (hlast : event.lastAttempt = some last)
      (hlong : maxWindow < (policy.backoff event.attempts).millis) :
      Answers policy event now (some false)
  | unreachable {last : Instant} (hdue : policy.IsDue event now)
      (hlast : event.lastAttempt = some last)
      (hshort : (policy.backoff event.attempts).millis ≤ maxWindow)
      (hend : policy.waitEnd? event last = none) : Answers policy event now none
  | waiting {last claimableAt : Instant} (hdue : policy.IsDue event now)
      (hlast : event.lastAttempt = some last)
      (hshort : (policy.backoff event.attempts).millis ≤ maxWindow)
      (hend : policy.waitEnd? event last = some claimableAt) (hearly : now < claimableAt) :
      Answers policy event now (some false)
  | waited {last claimableAt : Instant} (hdue : policy.IsDue event now)
      (hlast : event.lastAttempt = some last)
      (hshort : (policy.backoff event.attempts).millis ≤ maxWindow)
      (hend : policy.waitEnd? event last = some claimableAt) (hover : claimableAt ≤ now) :
      Answers policy event now (some true)

variable {policy : RetryPolicy} {event : Event} {now : Instant}

/-- The end of a wait is as many nanoseconds after the failure as the wait is long. -/
theorem sinceEpoch_waitEnd? {last claimableAt : Instant} (hlast : last.isLeap = false)
    (hend : policy.waitEnd? event last = some claimableAt) :
    claimableAt.isLeap = false ∧
      claimableAt.sinceEpoch = last.sinceEpoch + (policy.backoff event.attempts).nanos := by
  obtain ⟨hregular, hexact⟩ := Instant.sinceEpoch_add? hlast hend
  refine ⟨hregular, ?_⟩
  rw [hexact, Int.add_assoc, ← (policy.backoff event.attempts).seconds_add_subsecond]
  push_cast
  rfl

/-- An event is due when its delay has passed, counted exactly. -/
theorem IsDue.delay_le (hdue : policy.IsDue event now) (hcreated : event.createdAt.isLeap = false)
    (hnow : now.isLeap = false) :
    event.createdAt.sinceEpoch + event.delay * Instant.nanosPerSecond ≤ now.sinceEpoch := by
  obtain ⟨visibleAt, hvisible, hover⟩ := hdue.visible
  obtain ⟨hregular, hexact⟩ := Instant.sinceEpoch_add? hcreated hvisible
  rw [Instant.le_iff_sinceEpoch hregular hnow, hexact] at hover
  simpa using hover

/-- A due event stays due. -/
theorem IsDue.mono (hdue : policy.IsDue event now) {later : Instant} (hlater : now ≤ later) :
    policy.IsDue event later := by
  obtain ⟨hattempts, visibleAt, hvisible, hover⟩ := hdue
  exact ⟨hattempts, visibleAt, hvisible, Instant.le_trans hover hlater⟩

/-- Of a due event only the wait after its last failure decides. -/
theorem isClaimable?_of_isDue (hdue : policy.IsDue event now) :
    policy.isClaimable? event now =
      match event.lastAttempt with
      | none => some true
      | some last =>
        if maxWindow < (policy.backoff event.attempts).millis then some false
        else (policy.waitEnd? event last).map fun claimableAt => decide (claimableAt ≤ now) := by
  obtain ⟨hattempts, visibleAt, hvisible, hover⟩ := hdue
  rw [isClaimable?, if_neg (Int.not_lt.mpr hattempts), hvisible, Option.bind_eq_bind,
    Option.bind_some, if_neg (Instant.not_lt_iff_le.mpr hover)]
  simp only [Option.map_eq_bind]
  rfl

/-- Whatever the event and the time, one of these cases decides. -/
theorem answers_isClaimable? : policy.Answers event now (policy.isClaimable? event now) := by
  by_cases hattempts : policy.maxAttempts < event.attempts
  · rw [isClaimable?, if_pos hattempts]
    exact .exhausted hattempts
  cases hvisible : event.createdAt.add? event.delay 0 with
  | none =>
    rw [isClaimable?, if_neg hattempts, hvisible]
    exact .undated (Int.not_lt.mp hattempts) hvisible
  | some visibleAt =>
    by_cases hearly : now < visibleAt
    · rw [isClaimable?, if_neg hattempts, hvisible, Option.bind_eq_bind, Option.bind_some,
        if_pos hearly]
      exact .delayed (Int.not_lt.mp hattempts) hvisible hearly
    have hdue : policy.IsDue event now :=
      ⟨Int.not_lt.mp hattempts, visibleAt, hvisible, Instant.not_lt_iff_le.mp hearly⟩
    rw [isClaimable?_of_isDue hdue]
    cases hlast : event.lastAttempt with
    | none => exact .fresh hdue hlast
    | some last =>
      by_cases hlong : maxWindow < (policy.backoff event.attempts).millis
      · simpa only [hlong, if_true] using Answers.unbounded hdue hlast hlong
      have hshort := Nat.not_lt.mp hlong
      simp only [hlong, if_false]
      cases hend : policy.waitEnd? event last with
      | none => exact .unreachable hdue hlast hshort hend
      | some claimableAt =>
        by_cases hover : claimableAt ≤ now
        · simpa [hover] using Answers.waited hdue hlast hshort hend hover
        · have hearly : now < claimableAt := Instant.not_le_iff_lt.mp hover
          simpa [hover] using Answers.waiting hdue hlast hshort hend hearly

/-- The answer is the one that a reason leads to, whichever reason is found. -/
theorem isClaimable?_eq_iff {answer : Option Bool} :
    policy.isClaimable? event now = answer ↔ policy.Answers event now answer := by
  refine ⟨fun h => h ▸ answers_isClaimable?, fun h => ?_⟩
  cases h with
  | exhausted hattempts => exact if_pos hattempts
  | undated hattempts hvisible => simp [isClaimable?, Int.not_lt.mpr hattempts, hvisible]
  | delayed hattempts hvisible hearly =>
    simp [isClaimable?, Int.not_lt.mpr hattempts, hvisible, hearly]
  | fresh hdue hlast => simp only [isClaimable?_of_isDue hdue, hlast]
  | unbounded hdue hlast hlong => simp only [isClaimable?_of_isDue hdue, hlast, hlong, if_true]
  | unreachable hdue hlast hshort hend =>
    simp only [isClaimable?_of_isDue hdue, hlast, Nat.not_lt.mpr hshort, if_false, hend,
      Option.map_none]
  | waiting hdue hlast hshort hend hearly =>
    simp only [isClaimable?_of_isDue hdue, hlast, Nat.not_lt.mpr hshort, if_false, hend,
      Option.map_some, Instant.not_le_iff_lt.mpr hearly, decide_false]
  | waited hdue hlast hshort hend hover =>
    simp only [isClaimable?_of_isDue hdue, hlast, Nat.not_lt.mpr hshort, if_false, hend,
      Option.map_some, hover, decide_true]

/-- What a claim needs: attempts that are left, a delay that has passed, and a waiting time since
the last failure that has passed. -/
theorem of_isClaimable? (hcreated : event.createdAt.isLeap = false)
    (hlast : ∀ last, event.lastAttempt = some last → last.isLeap = false)
    (hnow : now.isLeap = false) (hclaimable : policy.isClaimable? event now = some true) :
    event.attempts ≤ policy.maxAttempts ∧
      event.createdAt.sinceEpoch + event.delay * Instant.nanosPerSecond ≤ now.sinceEpoch ∧
      ∀ last, event.lastAttempt = some last →
        last.sinceEpoch + (policy.backoff event.attempts).nanos ≤ now.sinceEpoch := by
  rw [isClaimable?_eq_iff] at hclaimable
  cases hclaimable with
  | fresh hdue hfresh =>
    exact ⟨hdue.attempts_le, hdue.delay_le hcreated hnow, by simp [hfresh]⟩
  | @waited failed claimableAt hdue hfailed hshort hend hover =>
    refine ⟨hdue.attempts_le, hdue.delay_le hcreated hnow, fun last hsome => ?_⟩
    obtain rfl : failed = last := Option.some.inj (hfailed.symm.trans hsome)
    obtain ⟨hregular, hexact⟩ := sinceEpoch_waitEnd? (hlast failed hsome) hend
    rw [← hexact]
    exact (Instant.le_iff_sinceEpoch hregular hnow).mp hover

/-- What a refusal needs where attempts are left and the delay is over: a waiting time since the
last failure that has not passed. -/
theorem of_not_isClaimable? (hcreated : event.createdAt.isLeap = false)
    (hlast : ∀ last, event.lastAttempt = some last → last.isLeap = false ∧ last.IsDated)
    (hnow : now.isLeap = false) (hdated : now.IsDated)
    (hrefused : policy.isClaimable? event now = some false)
    (hattempts : event.attempts ≤ policy.maxAttempts)
    (hdelay : event.createdAt.sinceEpoch + event.delay * Instant.nanosPerSecond ≤ now.sinceEpoch) :
    ∃ last, event.lastAttempt = some last ∧
      now.sinceEpoch < last.sinceEpoch + (policy.backoff event.attempts).nanos := by
  rw [isClaimable?_eq_iff] at hrefused
  cases hrefused with
  | exhausted hexhausted => omega
  | delayed _ hvisible hearly =>
    obtain ⟨hregular, hexact⟩ := Instant.sinceEpoch_add? hcreated hvisible
    rw [Instant.lt_iff_sinceEpoch hnow hregular, hexact] at hearly
    omega
  | @unbounded last _ hsome hlong =>
    refine ⟨last, hsome, ?_⟩
    -- A waiting time that cannot be added to a date is longer than all dates together.
    have hspan := hdated.sinceEpoch_sub_lt (hlast last hsome).2
    have hdates : (Instant.maxSecond - Instant.minSecond + 2) * Instant.nanosPerSecond ≤
        (maxWindow * Duration.nanosPerMilli : Nat) := by decide
    have hlong := Nat.mul_le_of_le_div _ _ _ (Nat.le_of_lt hlong)
    omega
  | @waiting last _ _ hsome _ hend hearly =>
    obtain ⟨hregular, hexact⟩ := sinceEpoch_waitEnd? (hlast last hsome).1 hend
    rw [Instant.lt_iff_sinceEpoch hnow hregular, hexact] at hearly
    exact ⟨last, hsome, hearly⟩

/-- Within the spans of time that can be represented, a waiting time has passed when the exact one
has. -/
theorem backoff_le_iff {millis : Nat} (hbase : policy.baseDelay = .ofMillis millis)
    (hmillis : millis ≤ Word.max64) {attempts : Int} (hattempts : 1 ≤ attempts) {span : Int}
    (hspan : span < (Duration.ofMillis Word.max64).nanos) :
    (policy.backoff attempts).nanos ≤ span ↔
      policy.baseDelay.nanos * attempts ^ policy.exponent.toNat ≤ span := by
  have hexact : (policy.baseDelay.nanos * attempts ^ policy.exponent.toNat : Int) =
      (Duration.ofMillis (policy.uncut attempts)).nanos := by
    have hcast : attempts = (attempts.toNat : Int) := by omega
    rw [uncut_of_le (by rwa [hbase, Duration.millis_ofMillis]), hbase, Duration.millis_ofMillis]
    simp only [Duration.ofMillis]
    push_cast
    rw [← hcast, Int.mul_right_comm]
  rw [hexact, backoff_of_pos hattempts]
  rcases Nat.le_total (policy.uncut attempts) Word.max64 with hwhole | hcut
  · rw [Word.saturate64_of_le hwhole]
  · -- Both are longer than the span.
    have hlonger := Duration.nanos_ofMillis_le_iff.mpr hcut
    rw [Word.saturate64_of_ge hcut]
    omega

/-- The rule of visibility, in numbers without bounds: attempts are left, the delay is over, and
since the last attempt there has passed the base delay times a power of the number of attempts. -/
structure Shows (policy : RetryPolicy) (event : Event) (now : Instant) : Prop where
  attempts_le : event.attempts ≤ policy.maxAttempts
  delay_le :
    event.createdAt.sinceEpoch + event.delay * Instant.nanosPerSecond ≤ now.sinceEpoch
  wait_le : ∀ last, event.lastAttempt = some last →
    policy.baseDelay.nanos * event.attempts ^ policy.exponent.toNat ≤
      now.sinceEpoch - last.sinceEpoch

/-- Where there is an answer, it is that of the exact rule, whatever the attempts, the exponent and
the base delay. An event that can be claimed stays so. -/
theorem claimable_iff_shows {millis : Nat} (hbase : policy.baseDelay = .ofMillis millis)
    (hmillis : millis < 2 ^ 64) (hcreated : event.createdAt.isLeap = false)
    (hlast : ∀ last, event.lastAttempt = some last →
      1 ≤ event.attempts ∧ last.isLeap = false ∧ last.IsDated) :
    (∀ (now : Instant) (answer : Bool), now.isLeap = false → now.IsDated →
      policy.isClaimable? event now = some answer → (answer = true ↔ policy.Shows event now)) ∧
    ∀ now later : Instant, now ≤ later → policy.isClaimable? event now = some true →
      policy.isClaimable? event later = some true := by
  refine ⟨fun now answer hregular hdated hanswer => ?_, fun now later hlater hclaimable => ?_⟩
  · have hwait : ∀ last, event.lastAttempt = some last →
        ((policy.backoff event.attempts).nanos ≤ now.sinceEpoch - last.sinceEpoch ↔
          policy.baseDelay.nanos * event.attempts ^ policy.exponent.toNat ≤
            now.sinceEpoch - last.sinceEpoch) := by
      intro last hsome
      obtain ⟨hattempts, -, hlastDated⟩ := hlast last hsome
      -- Two dates lie less apart than the longest waiting time, so that the cut never decides.
      have hdates : (Instant.maxSecond - Instant.minSecond + 2) * Instant.nanosPerSecond ≤
          (Duration.ofMillis Word.max64).nanos := by decide
      exact backoff_le_iff hbase (Nat.le_of_lt_succ hmillis) hattempts
        (Int.lt_of_lt_of_le (hdated.sinceEpoch_sub_lt hlastDated) hdates)
    cases answer with
    | true =>
      obtain ⟨hattempts, hdelay, hpassed⟩ :=
        of_isClaimable? hcreated (fun last hsome => (hlast last hsome).2.1) hregular hanswer
      refine iff_of_true rfl ⟨hattempts, hdelay, fun last hsome => (hwait last hsome).mp ?_⟩
      have := hpassed last hsome
      omega
    | false =>
      refine iff_of_false Bool.false_ne_true fun hshows => ?_
      obtain ⟨last, hsome, hearly⟩ := of_not_isClaimable? hcreated
        (fun last hsome => (hlast last hsome).2) hregular hdated hanswer hshows.attempts_le
        hshows.delay_le
      have hpassed := (hwait last hsome).mpr (hshows.wait_le last hsome)
      omega
  · rw [isClaimable?_eq_iff] at hclaimable ⊢
    cases hclaimable with
    | fresh hdue hfresh => exact .fresh (hdue.mono hlater) hfresh
    | waited hdue hfailed hshort hend hover =>
      exact .waited (hdue.mono hlater) hfailed hshort hend (Instant.le_trans hover hlater)

/-- An event of 2026-01-01 that failed at once. -/
def failedOnce : Event :=
  (Event.new .nil "poll" default ⟨1767225600, 0⟩).markFailed "refused" ⟨1767225600, 0⟩

theorem failedOnce_regular : ∀ last, failedOnce.lastAttempt = some last →
    1 ≤ failedOnce.attempts ∧ last.isLeap = false ∧ last.IsDated := by
  rintro last ⟨⟩
  exact ⟨by decide, rfl, by decide, by decide, by decide⟩

/-- Under the default policy the event can be claimed a minute after its failure and from then on,
and no earlier. -/
theorem failedOnce_shows_after_minute :
    (default : RetryPolicy).baseDelay = .ofMillis 60000 ∧ 60000 < 2 ^ 64 ∧
    failedOnce.createdAt.isLeap = false ∧
    (∀ last, failedOnce.lastAttempt = some last →
      1 ≤ failedOnce.attempts ∧ last.isLeap = false ∧ last.IsDated) ∧
    ¬(default : RetryPolicy).Shows failedOnce ⟨1767225659, 999999999⟩ ∧
    (default : RetryPolicy).Shows failedOnce ⟨1767225660, 0⟩ ∧
    (default : RetryPolicy).isClaimable? failedOnce ⟨1767225661, 500000000⟩ = some true := by
  have hbase : (default : RetryPolicy).baseDelay = .ofMillis 60000 := rfl
  obtain ⟨hshows, hstays⟩ := claimable_iff_shows hbase (by decide) rfl failedOnce_regular
  have hminute : (default : RetryPolicy).isClaimable? failedOnce ⟨1767225660, 0⟩ = some true := by
    decide
  refine ⟨hbase, by decide, rfl, failedOnce_regular, ?_, ?_, hstays _ _ (by decide) hminute⟩
  · have hearly := hshows ⟨1767225659, 999999999⟩ false rfl
      ⟨by decide, by decide, by decide⟩ (by decide)
    exact fun h => Bool.false_ne_true (hearly.mpr h)
  · exact (hshows _ true rfl ⟨by decide, by decide, by decide⟩ hminute).mp rfl

/-- Whether a waiting time lies beyond the longest window can be told before the cut, which lies
further out. -/
theorem backoff_millis_le_iff {attempts : Int} (hattempts : 0 < attempts) :
    (policy.backoff attempts).millis ≤ maxWindow ↔ policy.uncut attempts ≤ maxWindow := by
  rw [backoff_of_pos hattempts, Duration.millis_ofMillis, Word.saturate64_le_iff (by decide)]

/-- Below the longest waiting time nothing is cut off. -/
theorem backoff_of_short {attempts : Int} (hattempts : 0 < attempts)
    (hshort : policy.uncut attempts ≤ maxWindow) :
    policy.backoff attempts = .ofMillis (policy.uncut attempts) := by
  have hwhole : policy.uncut attempts ≤ Word.max64 := Nat.le_trans hshort (by decide)
  rw [backoff_of_pos hattempts, Word.saturate64_of_le hwhole]

/-- The end of a waiting time can only be missing after a failure that counts. -/
theorem attempts_pos_of_waitEnd? {last : Instant} (hlast : last.IsDated)
    (hend : policy.waitEnd? event last = none) : 0 < event.attempts := by
  refine Int.not_le.mp fun hnone => ?_
  have hzero : Duration.zero.nanos = 0 := rfl
  rw [waitEnd?, backoff_of_nonpos hnone, hlast.add?_eq_none_iff, hzero, Nat.add_zero,
    Nat.div_eq_of_lt (Nat.mod_lt _ (by decide))] at hend
  have hmax := hlast.inRange.2
  omega

/-- For an event of the years 1 to 9999 and a delay of 32 bits, there is no answer exactly when the
event is due and failed, and its waiting time is no longer than the longest that can be added to a
date, but ends after the last one. Where it is longer than that, the event cannot be claimed. -/
theorem unanswered_iff_ends_beyond (hlow : -0x80000000 ≤ event.delay)
    (hhigh : event.delay ≤ 0x7FFFFFFF) (hcreated : event.createdAt.InYears 1 9999)
    (hlast : ∀ last, event.lastAttempt = some last → last.InYears 1 9999) :
    (policy.isClaimable? event now = none ↔
      policy.IsDue event now ∧ 0 < event.attempts ∧ policy.uncut event.attempts ≤ maxWindow ∧
        ∃ last, event.lastAttempt = some last ∧
          Instant.maxSecond < last.second +
            ((last.nano % Instant.nanosPerSecond +
              (Duration.ofMillis (policy.uncut event.attempts)).nanos) /
                Instant.nanosPerSecond : Nat)) ∧
    (policy.IsDue event now → event.lastAttempt.isSome → 0 < event.attempts →
      maxWindow < policy.uncut event.attempts →
        policy.isClaimable? event now = some false) := by
  rw [isClaimable?_eq_iff, isClaimable?_eq_iff]
  refine ⟨⟨fun hnone => ?_, ?_⟩, ?_⟩
  · cases hnone with
    | undated _ hvisible =>
      obtain ⟨visibleAt, hsome⟩ := hcreated.exists_add? hlow hhigh
      rw [hvisible] at hsome
      cases hsome
    | @unreachable last hdue hsome hshort hend =>
      have hdated := (hlast last hsome).isDated
      have hattempts := attempts_pos_of_waitEnd? hdated hend
      rw [backoff_millis_le_iff hattempts] at hshort
      rw [waitEnd?, hdated.add?_eq_none_iff, backoff_of_short hattempts hshort] at hend
      exact ⟨hdue, hattempts, hshort, last, hsome, hend⟩
  · rintro ⟨hdue, hattempts, hshort, last, hsome, hbeyond⟩
    refine .unreachable hdue hsome ((backoff_millis_le_iff hattempts).mpr hshort) ?_
    rw [waitEnd?, (hlast last hsome).isDated.add?_eq_none_iff, backoff_of_short hattempts hshort]
    exact hbeyond
  · intro hdue hfailed hattempts hlong
    obtain ⟨last, hsome⟩ := Option.isSome_iff_exists.mp hfailed
    refine .unbounded hdue hsome (Nat.lt_of_not_le fun hshort => ?_)
    rw [backoff_millis_le_iff hattempts] at hshort
    omega

/-- A base delay of ten trillion seconds, which is longer than three hundred thousand years. -/
def ages : RetryPolicy := { (default : RetryPolicy) with baseDelay := .ofSeconds 10000000000000 }

theorem failedOnce_inYears : failedOnce.createdAt.InYears 1 9999 ∧
    ∀ last, failedOnce.lastAttempt = some last → last.InYears 1 9999 := by
  have hinYears : Instant.InYears 1 9999 ⟨1767225600, 0⟩ :=
    ⟨by decide, by decide, by decide⟩
  exact ⟨hinYears, fun last hsome => Option.some.inj hsome ▸ hinYears⟩

/-- There is no answer, though a thousand times the base delay has one. -/
theorem ages_unanswered : failedOnce.delay = 0 ∧
    failedOnce.createdAt.InYears 1 9999 ∧
    (∀ last, failedOnce.lastAttempt = some last → last.InYears 1 9999) ∧
    ages.isClaimable? failedOnce ⟨1767225600, 0⟩ = none ∧
    { ages with baseDelay := .ofSeconds 10000000000000000 }.isClaimable? failedOnce
      ⟨1767225600, 0⟩ = some false :=
  ⟨rfl, failedOnce_inYears.1, failedOnce_inYears.2, by decide, by decide⟩

/-- The waiting time ends after the last date. -/
theorem ages_end_beyond : -0x80000000 ≤ failedOnce.delay ∧ failedOnce.delay ≤ 0x7FFFFFFF ∧
    failedOnce.createdAt.InYears 1 9999 ∧
    (∀ last, failedOnce.lastAttempt = some last → last.InYears 1 9999) ∧
    ages.IsDue failedOnce ⟨1767225600, 0⟩ ∧ 0 < failedOnce.attempts ∧
    ages.uncut failedOnce.attempts ≤ maxWindow ∧
    ∃ last, failedOnce.lastAttempt = some last ∧
      Instant.maxSecond < last.second +
        ((last.nano % Instant.nanosPerSecond +
          (Duration.ofMillis (ages.uncut failedOnce.attempts)).nanos) /
            Instant.nanosPerSecond : Nat) := by
  obtain ⟨hcreated, hlast⟩ := failedOnce_inYears
  exact ⟨by decide, by decide, hcreated, hlast,
    (unanswered_iff_ends_beyond (by decide) (by decide) hcreated hlast).1.mp (by decide)⟩

end RetryPolicy

end AgentSync
