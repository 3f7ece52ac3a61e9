import AgentSync.Action
import AgentSync.Metrics
import AgentSync.Scope
import AgentSync.Time.Instant
import AgentSync.Uuid

namespace AgentSync

/-- The state that the parts of an agent share: the clock, the identifiers given out, the scopes and
the counters, and whatever else there is, databases and other machines. -/
structure World (ω : Type) where
  now : Instant
  serial : Nat
  scopes : Scopes
  metrics : Metrics
  inner : ω

namespace World

variable {ω ε α : Type}

/-- Runs a computation on the inner state alone. -/
def onInner (computation : StateM ω α) : StateM (World ω) α := fun world =>
  let (answer, inner) := computation.run world.inner
  (answer, { world with inner })

/-- Runs an action on the inner state alone. -/
def inside (action : Action ω ε α) : Action (World ω) ε α := ExceptT.mk (onInner action.run)

instance : MonadLift (Action ω ε) (Action (World ω) ε) := ⟨inside⟩

/-- The time. -/
def clock : Action (World ω) ε Instant := Action.ask World.now

/-- An identifier that was not given out before. -/
def freshId : Action (World ω) ε Uuid := do
  let world ← Action.ask id
  Action.update fun world => { world with serial := world.serial + 1 }
  let millis := world.now.second * 1000 + (world.now.nano / 1000000 : Nat)
  return .timeOrdered millis.toNat world.serial

/-- Adds to a counter. -/
def count (metric : Metric) (amount : Nat) : Action (World ω) ε Unit :=
  Action.update fun world => { world with metrics := world.metrics.add metric amount }

/-- Makes a scope that is cancelled with another. -/
def child (parent : Scope) : Action (World ω) ε Scope := do
  let world ← Action.ask id
  let (scope, scopes) := world.scopes.child parent
  Action.update fun world => { world with scopes }
  return scope

def cancel (scope : Scope) : Action (World ω) ε Unit :=
  Action.update fun world => { world with scopes := world.scopes.cancel scope }

def isCancelled (scope : Scope) : Action (World ω) ε Bool :=
  Action.ask fun world => world.scopes.isCancelled scope

/-- Fails if a scope is cancelled. -/
def guard (scope : Scope) : Action (World ω) Error Unit := do
  if ← isCancelled scope then throw .cancelled

end World

end AgentSync
