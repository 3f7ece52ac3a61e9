import AgentSync.Defaults
import AgentSync.World

namespace AgentSync

/-- What a drain makes of one call to the consumer. -/
inductive DrainStep where
  | consumed (n : Nat)
  | failed (error : Error)
  | finished
  deriving DecidableEq, Repr, Inhabited

namespace DrainStep

/-- The end of a call. Nothing left and a cancellation both end the drain. -/
def ofResult : Except Error Nat → DrainStep
  | .ok 0 => finished
  | .ok n => consumed n
  | .error .cancelled => finished
  | .error error => failed error

end DrainStep

/-- A consumer as a drain sees it. -/
structure Consumer (σ : Type) where
  isCancelled : σ → Bool
  consume : Action σ Error Nat

namespace Consumer

variable {σ : Type}

/-- Calls the consumer once, unless the work is cancelled. -/
def step (consumer : Consumer σ) : StateM σ DrainStep := do
  if consumer.isCancelled (← get) then return .finished
  return .ofResult (← consumer.consume.run)

/-- Consumes until there is nothing left, a failure is final, or the work is cancelled. After a
failure `onError` decides whether it goes on. Answers the number of events consumed, or nothing if
the rounds were used up. The number is a word of 64 bits and wraps. -/
def drain (consumer : Consumer σ) (onError : Error → StateM σ Bool) :
    Nat → Nat → StateT σ Option Nat
  | 0, _ => fun _ => none
  | rounds + 1, total => fun state =>
    match consumer.step.run state with
    | (.finished, state) => some (total, state)
    | (.consumed n, state) => consumer.drain onError rounds (Word.low64 (total + n)) state
    | (.failed error, state) =>
      match (onError error).run state with
      | (true, state) => consumer.drain onError rounds total state
      | (false, state) => some (total, state)

end Consumer

/-- The time the default error handler waits before it goes on. -/
def errorDelay : Duration := .ofMillis Defaults.consumerErrorDelayMillis

/-- A pause on a clock that only pauses move, with one cancellation planned at a time. The pause is
cut short, which the answer tells, if the scope is cancelled or the plan falls into it. -/
def World.pause {ω : Type} (planned : Option (Instant × Scope)) (scope : Scope)
    (length : Duration) : StateM (World ω) Bool := do
  let world ← get
  let fallsDue := world.now.advance length
  if world.scopes.isCancelled scope then return false
  match planned with
  | some (time, target) =>
    if time < fallsDue then
      let scopes := world.scopes.cancel target
      let now := if world.now < time then time else world.now
      if scopes.isCancelled scope then
        set { world with now, scopes }
        return false
      set { world with now := fallsDue, scopes }
      return true
  | none => pure ()
  set { world with now := fallsDue }
  return true

/-- The default error handler goes on after a pause, unless the pause is cut short. -/
def defaultErrorHandler {ω : Type} (planned : Option (Instant × Scope)) (scope : Scope)
    (_ : Error) : StateM (World ω) Bool :=
  World.pause planned scope errorDelay

end AgentSync
