namespace AgentSync

/-- A computation on a state that answers or fails. -/
abbrev Action (σ ε α : Type) := ExceptT ε (StateM σ) α

/-- A computation on a state that answers, fails, or stops without either because it used up the
rounds it was given. -/
abbrev Bounded (σ ε α : Type) := ExceptT ε (StateT σ Option) α

namespace Action

variable {σ ε α : Type}

/-- The outcome of an action, a failure included, as an answer. -/
def attempt {δ : Type} (action : Action σ ε α) : Action σ δ (Except ε α) :=
  ExceptT.lift (ExceptT.run action)

/-- Fails with what another kind of failure becomes. -/
def mapFailure {δ : Type} (f : ε → δ) (action : Action σ ε α) : Action σ δ α :=
  ExceptT.adapt f action

/-- Changes the state. -/
def update (f : σ → σ) : Action σ ε Unit := ExceptT.lift (modify f)

/-- Reads something off the state. -/
def ask (f : σ → α) : Action σ ε α := ExceptT.lift (do return f (← get))

/-- An outcome that is already known. -/
def ofExcept (result : Except ε α) : Action σ ε α := ExceptT.mk (pure result)

end Action

namespace Bounded

variable {σ ε α : Type}

/-- No round is left. -/
def outOfRounds : Bounded σ ε α := ExceptT.mk (fun _ => none)

/-- An action is a run that needs no rounds. -/
def ofAction (action : Action σ ε α) : Bounded σ ε α :=
  ExceptT.mk fun state => some (action.run.run state)

instance : MonadLift (Action σ ε) (Bounded σ ε) := ⟨ofAction⟩

/-- An outcome that is already known. -/
def ofExcept (result : Except ε α) : Bounded σ ε α := ExceptT.mk (pure result)

/-- The outcome of a run, a failure included, as an answer. -/
def attempt {δ : Type} (run : Bounded σ ε α) : Bounded σ δ (Except ε α) :=
  ExceptT.lift (ExceptT.run run)

end Bounded

/-- A state beside something of its own that no computation on the state alone can reach. -/
structure Beside (τ σ : Type) where
  own : τ
  rest : σ

namespace Beside

variable {τ σ ε α : Type}

/-- Runs a computation on the state alone. -/
def onRest (computation : StateM σ α) : StateM (Beside τ σ) α := fun state =>
  let (answer, rest) := computation.run state.rest
  (answer, { state with rest })

/-- Runs an action on the state alone. -/
def action (action : Action σ ε α) : Action (Beside τ σ) ε α := ExceptT.mk (onRest action.run)

/-- Gives a run of a loop on the state alone. -/
def bounded (run : Bounded σ ε α) : Bounded (Beside τ σ) ε α := ExceptT.mk fun state => do
  let (answer, rest) ← run.run.run state.rest
  return (answer, { state with rest })

instance : MonadLift (Action σ ε) (Action (Beside τ σ) ε) := ⟨action⟩

instance : MonadLift (Bounded σ ε) (Bounded (Beside τ σ) ε) := ⟨bounded⟩

end Beside

end AgentSync
