import AgentSync.Proofs.Action

namespace AgentSync

namespace Beside

open AgentSync.Action

/-- Runs an action on the rest of a state and notes how it ended. -/
def noting {κ σ ε α : Type} (note : Except ε α → κ) (act : Action σ ε α) :
    Action (Beside (List κ) σ) ε α :=
  ExceptT.mk fun state =>
    let (outcome, rest) := runFrom act state.rest
    (outcome, ⟨state.own ++ [note outcome], rest⟩)

/-- An action on the rest of a state leaves what lies beside it. -/
theorem runFrom_action {τ σ ε α : Type} (act : Action σ ε α) (state : Beside τ σ) :
    runFrom (Beside.action act) state =
      ((runFrom act state.rest).1, ⟨state.own, (runFrom act state.rest).2⟩) := rfl

theorem keeps_action {τ σ ε α β : Type} {f : σ → β} {act : Action σ ε α} (hact : Keeps f act) :
    Keeps (fun state : Beside τ σ => f state.rest) (Beside.action act) := fun state =>
  hact state.rest

/-- Actions on the rest of a state may be put together before or after they are seen as such. -/
theorem action_bind {τ σ ε α β : Type} (first : Action σ ε α) (next : α → Action σ ε β) :
    (Beside.action (first >>= next) : Action (Beside τ σ) ε β) =
      Beside.action first >>= fun value => Beside.action (next value) := by
  funext state
  change runFrom (Beside.action (first >>= next)) state =
    runFrom (Beside.action first >>= fun value => Beside.action (next value)) state
  rw [runFrom_action, runFrom_bind, runFrom_bind, runFrom_action]
  rcases runFrom first state.rest with ⟨error | value, after⟩
  · rfl
  · rfl

/-- An action on a state with something beside it that does to the state what another action does
on the state alone. -/
def Erases {τ σ ε α : Type} (full : Action (Beside τ σ) ε α) (bare : Action σ ε α) : Prop :=
  ∀ own state, ((runFrom full ⟨own, state⟩).1, (runFrom full ⟨own, state⟩).2.rest) =
    runFrom bare state

/-- Writing a note changes nothing for the state. -/
theorem Erases.noting {κ σ ε α : Type} (note : Except ε α → κ) (act : Action σ ε α) :
    Erases (Beside.noting note act) act := fun _ _ => rfl

theorem Erases.pure {τ σ ε α : Type} (value : α) :
    Erases (Pure.pure value : Action (Beside τ σ) ε α) (Pure.pure value) := fun _ _ => rfl

theorem Erases.throw {τ σ ε α : Type} (error : ε) :
    Erases (MonadExcept.throw error : Action (Beside τ σ) ε α) (MonadExcept.throw error) :=
  fun _ _ => rfl

/-- What lies beside the state may differ between two steps, so the second is compared for every
note that the first may leave. -/
theorem Erases.bind {τ σ ε α β : Type} {full : Action (Beside τ σ) ε α} {bare : Action σ ε α}
    {fullNext : α → Action (Beside τ σ) ε β} {bareNext : α → Action σ ε β}
    (hfirst : Erases full bare) (hnext : ∀ value, Erases (fullNext value) (bareNext value)) :
    Erases (full >>= fullNext) (bare >>= bareNext) := by
  intro own state
  have hstep := hfirst own state
  rw [runFrom_bind, runFrom_bind, ← hstep]
  rcases runFrom full ⟨own, state⟩ with ⟨error | value, after⟩
  · rfl
  · exact hnext value after.own after.rest

theorem Erases.attempt {τ σ ε δ α : Type} {full : Action (Beside τ σ) ε α} {bare : Action σ ε α}
    (h : Erases full bare) :
    Erases (Action.attempt full : Action (Beside τ σ) δ (Except ε α)) (Action.attempt bare) := by
  intro own state
  rw [runFrom_attempt, runFrom_attempt, ← h own state]

end Beside

end AgentSync
