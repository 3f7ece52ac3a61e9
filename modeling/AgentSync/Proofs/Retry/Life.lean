import AgentSync.Proofs.Retry.Visibility
import Mathlib.Logic.Relation

namespace AgentSync

/-- A claim that failed, with the time of its failure. -/
structure FailedClaim where
  claimed : Instant
  failed : Instant
  deriving DecidableEq

/-- An event with what happened to it so far. -/
structure Life where
  event : Event
  failures : List FailedClaim
  /-- When the event was claimed, while it is being handled. -/
  held : Option Instant
  now : Instant

namespace Life

/-- An event to which nothing has happened yet. -/
def start (event : Event) (now : Instant) : Life := ⟨event, [], none, now⟩

/-- The times of all claims. -/
def claims (life : Life) : List Instant :=
  life.failures.map FailedClaim.claimed ++ life.held.toList

/-- The event when some time has passed. -/
def pass (life : Life) (t : Instant) : Life := { life with now := t }

/-- The event when it has been claimed. -/
def hold (life : Life) (t : Instant) : Life := { life with held := some t, now := t }

/-- The event when its handling has failed. -/
def fail (life : Life) (claimed : Instant) (error : String) (t : Instant) : Life where
  event := life.event.markFailed error t
  failures := life.failures ++ [⟨claimed, t⟩]
  held := none
  now := t

/-- What can happen next, no earlier than what happened last and outside leap seconds. -/
inductive Step (policy : RetryPolicy) (life : Life) : Life → Prop
  | pass {t : Instant} (hlater : life.now ≤ t) (hregular : t.isLeap = false) :
      Step policy life (life.pass t)
  | claim {t : Instant} (hlater : life.now ≤ t) (hregular : t.isLeap = false)
      (hfree : life.held = none) (hclaimable : policy.isClaimable? life.event t = some true) :
      Step policy life (life.hold t)
  | fail {t claimed : Instant} (error : String) (hlater : life.now ≤ t)
      (hregular : t.isLeap = false) (hheld : life.held = some claimed) :
      Step policy life (life.fail claimed error t)

/-- Any number of steps. -/
abbrev Leads (policy : RetryPolicy) : Life → Life → Prop := Relation.ReflTransGen (Step policy)

/-- A failure is no claim. -/
theorem claims_fail {life : Life} {claimed : Instant} (hheld : life.held = some claimed)
    (error : String) (t : Instant) : (life.fail claimed error t).claims = life.claims := by
  simp [claims, fail, hheld]

theorem claims_hold {life : Life} (hfree : life.held = none) (t : Instant) :
    (life.hold t).claims = life.claims ++ [t] := by
  simp [claims, hold, hfree]

theorem claims_of_free {life : Life} (hfree : life.held = none) :
    life.claims = life.failures.map FailedClaim.claimed := by
  simp [claims, hfree]

/-- What is true of an event at every time of its life: its record agrees with what happened, no
more was claimed than the policy allows, and every claim came late enough. -/
structure Follows (policy : RetryPolicy) (event : Event) (life : Life) : Prop where
  counted : life.event.attempts = life.failures.length
  latest : life.event.lastAttempt = life.failures.getLast?.map FailedClaim.failed
  createdAt : life.event.createdAt = event.createdAt
  delay : life.event.delay = event.delay
  regular_now : life.now.isLeap = false
  regular : ∀ failure ∈ life.failures, failure.failed.isLeap = false
  allowed : life.claims.length ≤ policy.maxAttempts + 1
  held_le : ∀ claimed, life.held = some claimed → claimed.sinceEpoch ≤ life.now.sinceEpoch
  ordered : ∀ failure ∈ life.failures, failure.claimed.sinceEpoch ≤ failure.failed.sinceEpoch
  visible : ∀ claimed ∈ life.claims,
    event.createdAt.sinceEpoch + event.delay * Instant.nanosPerSecond ≤ claimed.sinceEpoch
  spaced : ∀ (k : Nat) failure next, life.failures[k]? = some failure →
    life.claims[k + 1]? = some next →
      failure.failed.sinceEpoch + (policy.backoff (k + 1)).nanos ≤ next.sinceEpoch

namespace Follows

variable {policy : RetryPolicy} {event : Event} {life next : Life}

theorem start {now : Instant} (hattempts : event.attempts = 0) (hlast : event.lastAttempt = none)
    (hmin : 0 ≤ policy.maxAttempts) (hnow : now.isLeap = false) :
    Follows policy event (.start event now) where
  counted := hattempts
  latest := hlast
  createdAt := rfl
  delay := rfl
  regular_now := hnow
  regular _ hmem := nomatch hmem
  allowed := by simpa [claims, Life.start] using Int.add_nonneg hmin (by decide)
  held_le _ hheld := nomatch hheld
  ordered _ hmem := nomatch hmem
  visible _ hmem := nomatch hmem
  spaced _ _ _ hfailure _ := nomatch hfailure

theorem pass (h : Follows policy event life) {t : Instant} (hlater : life.now ≤ t)
    (hregular : t.isLeap = false) : Follows policy event (life.pass t) :=
  { h with
    regular_now := hregular
    held_le := fun claimed hheld => Int.le_trans (h.held_le claimed hheld)
      ((Instant.le_iff_sinceEpoch h.regular_now hregular).mp hlater) }

/-- A claim is made only where the policy allows it, so it keeps its distance from the failure
before. -/
theorem claim (h : Follows policy event life) (hcreated : event.createdAt.isLeap = false)
    {t : Instant} (hregular : t.isLeap = false) (hfree : life.held = none)
    (hclaimable : policy.isClaimable? life.event t = some true) :
    Follows policy event (life.hold t) := by
  have hclaims := claims_hold hfree t
  have hlength : life.claims.length = life.failures.length := by
    rw [claims_of_free hfree, List.length_map]
  have hlast : ∀ last, life.event.lastAttempt = some last → last.isLeap = false := by
    intro last hsome
    rw [h.latest, Option.map_eq_some_iff] at hsome
    obtain ⟨failure, hfailure, rfl⟩ := hsome
    exact h.regular failure (List.mem_of_getLast? hfailure)
  obtain ⟨hleft, hvisible, hwaited⟩ := RetryPolicy.of_isClaimable? (h.createdAt ▸ hcreated) hlast
    hregular hclaimable
  rw [h.counted] at hleft hwaited
  exact { h with
    regular_now := hregular
    held_le := by
      rintro _ ⟨⟩
      exact Int.le_refl _
    allowed := by
      rw [hclaims, List.length_append, List.length_singleton]
      omega
    visible := by
      intro claimed hmem
      rw [hclaims, List.mem_append, List.mem_singleton] at hmem
      rcases hmem with hmem | rfl
      · exact h.visible claimed hmem
      · rw [← h.createdAt, ← h.delay]
        exact hvisible
    spaced := by
      intro k failure next hfailure hnext
      change life.failures[k]? = some failure at hfailure
      rw [hclaims] at hnext
      have hk : k < life.failures.length := (List.getElem?_eq_some_iff.mp hfailure).1
      -- Either the claim is an earlier one, or it is the new one and the failure the last.
      by_cases hearlier : k + 1 < life.failures.length
      · rw [List.getElem?_append_left (by omega)] at hnext
        exact h.spaced k failure next hfailure hnext
      · have hlength' : life.failures.length = k + 1 := by omega
        rw [List.getElem?_append_right (by omega), hlength, hlength', Nat.sub_self] at hnext
        cases hnext
        have hgetLast : life.failures.getLast? = some failure := by
          rw [List.getLast?_eq_getElem?, hlength', Nat.add_sub_cancel, hfailure]
        have hpassed := hwaited failure.failed (by rw [h.latest, hgetLast, Option.map_some])
        rw [hlength'] at hpassed
        exact_mod_cast hpassed }

/-- A failure frees the event and is counted, and the next waiting time is that of the new count. -/
theorem fail (h : Follows policy event life) (hmax : policy.maxAttempts < 0x7FFFFFFF)
    {t claimed : Instant} (error : String) (hlater : life.now ≤ t) (hregular : t.isLeap = false)
    (hheld : life.held = some claimed) : Follows policy event (life.fail claimed error t) := by
  have hclaims := claims_fail hheld error t
  have hlength : life.claims.length = life.failures.length + 1 := by simp [claims, hheld]
  have hallowed := h.allowed
  have hpassed := (Instant.le_iff_sinceEpoch h.regular_now hregular).mp hlater
  exact {
    counted := by
      have hcounted := h.counted
      change Word.wrap32 (life.event.attempts + 1) = (life.failures ++ [_]).length
      rw [List.length_append, List.length_singleton,
        Word.wrap32_of_bounds (by omega) (by omega)]
      omega
    latest := by simp [Life.fail, Event.markFailed]
    createdAt := h.createdAt
    delay := h.delay
    regular_now := hregular
    regular := by
      intro failure hmem
      rcases List.mem_append.mp hmem with hmem | hmem
      · exact h.regular failure hmem
      · rw [List.mem_singleton.mp hmem]
        exact hregular
    allowed := by
      rw [hclaims]
      exact hallowed
    held_le := fun _ hnone => nomatch hnone
    ordered := by
      intro failure hmem
      rcases List.mem_append.mp hmem with hmem | hmem
      · exact h.ordered failure hmem
      · rw [List.mem_singleton.mp hmem]
        exact Int.le_trans (h.held_le claimed hheld) hpassed
    visible := by
      rw [hclaims]
      exact h.visible
    spaced := by
      intro k failure next hfailure hnext
      rw [hclaims] at hnext
      have hk : k + 1 < life.claims.length := (List.getElem?_eq_some_iff.mp hnext).1
      rw [Life.fail, List.getElem?_append_left (by omega)] at hfailure
      exact h.spaced k failure next hfailure hnext }

/-- Every step keeps to the policy. -/
theorem step (h : Follows policy event life) (hmax : policy.maxAttempts < 0x7FFFFFFF)
    (hcreated : event.createdAt.isLeap = false) (hstep : Step policy life next) :
    Follows policy event next := by
  cases hstep with
  | pass hlater hregular => exact h.pass hlater hregular
  | claim _ hregular hfree hclaimable => exact h.claim hcreated hregular hfree hclaimable
  | fail error hlater hregular hheld => exact h.fail hmax error hlater hregular hheld

/-- So does every life, by induction on its steps. -/
theorem leads (h : Follows policy event life) (hmax : policy.maxAttempts < 0x7FFFFFFF)
    (hcreated : event.createdAt.isLeap = false) (hleads : Leads policy life next) :
    Follows policy event next := by
  induction hleads with
  | refl => exact h
  | tail _ hstep ih => exact ih.step hmax hcreated hstep

/-- An event with more failures than the policy allows is not being handled. -/
theorem free_of_exhausted (h : Follows policy event life)
    (hexhausted : policy.maxAttempts < life.event.attempts) : life.held = none := by
  cases hheld : life.held with
  | none => rfl
  | some claimed =>
    have hallowed := h.allowed
    have hcounted := h.counted
    simp only [claims, hheld, Option.toList_some, List.length_append, List.length_map,
      List.length_singleton] at hallowed
    omega

end Follows

/-- Once the failures are used up no time makes the event claimable. -/
theorem isClaimable?_of_exhausted {policy : RetryPolicy} {event : Event}
    (hexhausted : policy.maxAttempts < event.attempts) (t : Instant) :
    policy.isClaimable? event t = some false := if_pos hexhausted

/-- An event with more failures than the policy allows is left alone, whatever time passes. -/
theorem leads_of_exhausted {policy : RetryPolicy} {life later : Life} (hfree : life.held = none)
    (hexhausted : policy.maxAttempts < life.event.attempts) (hleads : Leads policy life later) :
    later.event = life.event ∧ later.held = none ∧ later.claims = life.claims := by
  induction hleads with
  | refl => exact ⟨rfl, hfree, rfl⟩
  | tail _ hstep ih =>
    obtain ⟨hevent, hnone, hclaims⟩ := ih
    cases hstep with
    | pass _ _ => exact ⟨hevent, hnone, hclaims⟩
    | claim _ _ _ hclaimable =>
      rw [hevent, isClaimable?_of_exhausted hexhausted] at hclaimable
      cases hclaimable
    | fail error _ _ hheld =>
      rw [hnone] at hheld
      cases hheld

/-- A fresh event is claimed at most once more often than its failures may count, never before its
delay has passed, and between two claims one after the other lies a failure with the waiting time
that belongs to the number of failures so far. Once the failures are used up it can never be claimed
again. -/
theorem claims_bounded_and_spaced {policy : RetryPolicy} {event : Event} {now : Instant}
    {life : Life} (hattempts : event.attempts = 0) (hlast : event.lastAttempt = none)
    (hmin : 0 ≤ policy.maxAttempts) (hmax : policy.maxAttempts < 0x7FFFFFFF)
    (hcreated : event.createdAt.isLeap = false) (hnow : now.isLeap = false)
    (hleads : Leads policy (start event now) life) :
    life.claims.length ≤ policy.maxAttempts + 1 ∧
      (∀ (k : Nat) claimed next, life.claims[k]? = some claimed →
        life.claims[k + 1]? = some next → ∃ failure,
          life.failures[k]? = some failure ∧ failure.claimed = claimed ∧
          claimed.sinceEpoch ≤ failure.failed.sinceEpoch ∧
          failure.failed.sinceEpoch + (policy.backoff (k + 1)).nanos ≤ next.sinceEpoch) ∧
      (∀ claimed ∈ life.claims,
        event.createdAt.sinceEpoch + event.delay * Instant.nanosPerSecond ≤ claimed.sinceEpoch) ∧
      (policy.maxAttempts < life.event.attempts → ∀ later, Leads policy life later →
        later.claims = life.claims ∧ ∀ t, policy.isClaimable? later.event t = some false) := by
  have hfollows := (Follows.start hattempts hlast hmin hnow).leads hmax hcreated hleads
  refine ⟨hfollows.allowed, ?_, hfollows.visible, ?_⟩
  · intro k claimed next hclaimed hnext
    have hk : k < life.failures.length := by
      have hlength := (List.getElem?_eq_some_iff.mp hnext).1
      have hheld : life.held.toList.length ≤ 1 := by cases life.held <;> simp
      simp only [claims, List.length_append, List.length_map] at hlength
      omega
    have hfailure : life.failures[k]? = some life.failures[k] := List.getElem?_eq_getElem hk
    have hsame : life.failures[k].claimed = claimed := by
      rw [claims, List.getElem?_append_left (by simpa using hk), List.getElem?_map,
        hfailure] at hclaimed
      exact Option.some.inj hclaimed
    refine ⟨_, hfailure, hsame, ?_, hfollows.spaced k _ next hfailure hnext⟩
    rw [← hsame]
    exact hfollows.ordered _ (List.getElem_mem hk)
  · intro hexhausted later hlater
    obtain ⟨hevent, -, hclaims⟩ :=
      leads_of_exhausted (hfollows.free_of_exhausted hexhausted) hexhausted hlater
    exact ⟨hclaims, fun t => hevent ▸ isClaimable?_of_exhausted hexhausted t⟩

/-- One more attempt after the first, a second later. -/
def oneRetry : RetryPolicy := ⟨1, .ofSeconds 1, 1⟩

def polled : Event := .new .nil "poll" default ⟨0, 0⟩

/-- An event that fails a second after its first claim and at once after its second. -/
def twiceFailed : Life :=
  ((((start polled ⟨0, 0⟩).hold ⟨0, 0⟩).fail ⟨0, 0⟩ "refused" ⟨1, 0⟩).hold ⟨2, 0⟩).fail ⟨2, 0⟩
    "refused" ⟨2, 0⟩

theorem leads_twiceFailed : Leads oneRetry (start polled ⟨0, 0⟩) twiceFailed := by
  refine .tail (.tail (.tail (.tail .refl (.claim (t := ⟨0, 0⟩) ?_ rfl rfl ?_))
    (.fail (t := ⟨1, 0⟩) "refused" ?_ rfl rfl)) (.claim (t := ⟨2, 0⟩) ?_ rfl rfl ?_))
    (.fail (t := ⟨2, 0⟩) "refused" ?_ rfl rfl)
  all_goals decide

/-- The event is claimed as often as it can be. -/
theorem twiceFailed_claims_bounded_and_spaced : Leads oneRetry (start polled ⟨0, 0⟩) twiceFailed ∧
    twiceFailed.claims = [⟨0, 0⟩, ⟨2, 0⟩] ∧
    ((twiceFailed.claims.length : Int) ≤ oneRetry.maxAttempts + 1 ∧
      (∀ (k : Nat) claimed next, twiceFailed.claims[k]? = some claimed →
        twiceFailed.claims[k + 1]? = some next → ∃ failure,
          twiceFailed.failures[k]? = some failure ∧ failure.claimed = claimed ∧
          claimed.sinceEpoch ≤ failure.failed.sinceEpoch ∧
          failure.failed.sinceEpoch + (oneRetry.backoff (k + 1)).nanos ≤ next.sinceEpoch) ∧
      (∀ claimed ∈ twiceFailed.claims,
        polled.createdAt.sinceEpoch + polled.delay * Instant.nanosPerSecond ≤
          claimed.sinceEpoch) ∧
      (oneRetry.maxAttempts < twiceFailed.event.attempts → ∀ later,
        Leads oneRetry twiceFailed later → later.claims = twiceFailed.claims ∧
          ∀ t, oneRetry.isClaimable? later.event t = some false)) ∧
    oneRetry.maxAttempts < twiceFailed.event.attempts :=
  ⟨leads_twiceFailed, rfl, claims_bounded_and_spaced rfl rfl (by decide) (by decide) rfl rfl
    leads_twiceFailed, by decide⟩

end Life

end AgentSync
