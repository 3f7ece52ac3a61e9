import AgentSync.Error

namespace AgentSync

/-- A scope of cancellation, as its own number and the numbers of those it was made from, nearest
first. It is cancelled with them, and on its own. -/
structure Scope where
  line : List Nat
  deriving DecidableEq, Repr, Inhabited

/-- How many scopes there are and which of them were cancelled. -/
structure Scopes where
  count : Nat
  cancelled : List Nat
  deriving DecidableEq, Repr, Inhabited

namespace Scopes

/-- No scope yet. -/
def none : Scopes := ⟨0, []⟩

/-- Makes a scope that depends on no other. -/
def root (scopes : Scopes) : Scope × Scopes :=
  (⟨[scopes.count]⟩, { scopes with count := scopes.count + 1 })

/-- Makes a scope that is cancelled with another. -/
def child (scopes : Scopes) (parent : Scope) : Scope × Scopes :=
  (⟨scopes.count :: parent.line⟩, { scopes with count := scopes.count + 1 })

/-- Cancels a scope and all that were or will be made from it. -/
def cancel (scopes : Scopes) (scope : Scope) : Scopes :=
  { scopes with cancelled := scope.line.take 1 ++ scopes.cancelled }

def isCancelled (scopes : Scopes) (scope : Scope) : Bool :=
  scope.line.any scopes.cancelled.contains

end Scopes

/-- A computation on a state that may have to wait. -/
inductive Task (σ α : Type) where
  | done (result : α)
  | change (effect : σ → σ) (next : Task σ α)
  /-- Waits and is woken later. -/
  | wait (next : Task σ α)
  /-- Waits and is never woken. -/
  | stuck

namespace Task

variable {σ α : Type}

/-- Runs a task unless it is cancelled. Cancellation is looked at before the start and whenever a
waiting task could go on; a task that does not wait is not interrupted. `none` for a task that
waits forever. -/
def run (isCancelled : σ → Bool) (task : Task σ (Except Error α)) (state : σ) :
    Option (Except Error α) × σ :=
  if isCancelled state then (some (.error .cancelled), state)
  else
    match task with
    | done result => (some result, state)
    | change effect next => go (effect state) next
    | wait next => next.run isCancelled state
    | stuck => (none, state)
where
  /-- Runs up to the next wait. -/
  go (state : σ) : Task σ (Except Error α) → Option (Except Error α) × σ
    | done result => (some result, state)
    | change effect next => go (effect state) next
    | wait next => next.run isCancelled state
    | stuck => if isCancelled state then (some (.error .cancelled), state) else (none, state)

end Task

end AgentSync
