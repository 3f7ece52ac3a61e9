import AgentSync.Defaults
import AgentSync.Event

namespace AgentSync

/-- How often and after what time an event is tried again. -/
structure RetryPolicy where
  /-- An event with more failed attempts is never claimed again. -/
  maxAttempts : Int
  /-- The waiting time after the first failed attempt. -/
  baseDelay : Duration
  /-- The power of the number of attempts with which the waiting time grows. -/
  exponent : Int
  deriving DecidableEq, Repr

namespace RetryPolicy

/-- Three attempts, at least a minute apart, and the fifth power of their number. -/
instance : Inhabited RetryPolicy := ⟨{
  maxAttempts := Defaults.eventMaxAttempts
  baseDelay := .ofSeconds Defaults.eventBaseDelaySeconds
  exponent := Defaults.eventBackoffExponent }⟩

/-- The time after a failed attempt in which an event is not claimed: the base delay, in whole
milliseconds, times a power of the number of attempts. It saturates at `2^64 - 1` milliseconds. -/
def backoff (policy : RetryPolicy) (attempts : Int) : Duration :=
  if attempts ≤ 0 then .zero
  else
    let factor := Word.saturatedPow attempts.toNat policy.exponent.toNat
    .ofMillis (Word.saturate64 (Word.low64 policy.baseDelay.millis * factor))

/-- The longest waiting time that can be added to a time, in milliseconds. -/
def maxWindow : Nat := 0x7FFFFFFFFFFFFFFF

/-- Whether an event can be claimed at a time; `none` when a date it depends on does not exist. -/
def isClaimable? (policy : RetryPolicy) (event : Event) (now : Instant) : Option Bool :=
  if policy.maxAttempts < event.attempts then some false
  else do
    let visibleAt ← event.createdAt.add? event.delay 0
    if now < visibleAt then return false
    match event.lastAttempt with
    | none => return true
    | some last =>
      let window := policy.backoff event.attempts
      if maxWindow < window.millis then return false
      let claimableAt ← last.add? window.seconds window.subsecond
      return decide (claimableAt ≤ now)

end RetryPolicy

end AgentSync
