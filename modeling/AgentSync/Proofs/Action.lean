import AgentSync.Action

namespace AgentSync

namespace Action

/-- What an action comes to from a state: its answer or failure, and the state it leaves. -/
def runFrom {σ ε α : Type} (action : Action σ ε α) (state : σ) : Except ε α × σ :=
  (action.run.run state).run

/-- What answers at once leaves the state as it is. -/
@[simp] theorem runFrom_pure {σ ε α : Type} (value : α) (state : σ) :
    runFrom (pure value : Action σ ε α) state = (.ok value, state) := rfl

@[simp] theorem runFrom_throw {σ ε α : Type} (error : ε) (state : σ) :
    runFrom (throw error : Action σ ε α) state = (.error error, state) := rfl

/-- An action runs from the state that the one before it left, unless that one failed. -/
theorem runFrom_bind {σ ε α β : Type} (action : Action σ ε α) (next : α → Action σ ε β)
    (state : σ) :
    runFrom (action >>= next) state =
      match runFrom action state with
      | (.ok value, after) => runFrom (next value) after
      | (.error error, after) => (.error error, after) := by
  unfold runFrom ExceptT.run StateT.run Id.run
  simp only [bind, ExceptT.bind, ExceptT.mk, ExceptT.bindCont, StateT.bind]
  rcases action state with ⟨_ | value, after⟩
  · rfl
  · rfl

/-- An attempt never fails: it answers what its action came to. -/
@[simp] theorem runFrom_attempt {σ ε δ α : Type} (action : Action σ ε α) (state : σ) :
    runFrom (attempt action : Action σ δ (Except ε α)) state =
      (.ok (runFrom action state).1, (runFrom action state).2) := rfl

/-- Only the failure changes, neither the answer nor the state. -/
@[simp] theorem runFrom_mapFailure {σ ε δ α : Type} (f : ε → δ) (action : Action σ ε α)
    (state : σ) :
    runFrom (mapFailure f action) state =
      ((runFrom action state).1.mapError f, (runFrom action state).2) := rfl

@[simp] theorem runFrom_update {σ ε : Type} (f : σ → σ) (state : σ) :
    runFrom (update f : Action σ ε Unit) state = (.ok (), f state) := rfl

@[simp] theorem runFrom_ask {σ ε α : Type} (f : σ → α) (state : σ) :
    runFrom (ask f : Action σ ε α) state = (.ok (f state), state) := rfl

@[simp] theorem runFrom_ofExcept {σ ε α : Type} (result : Except ε α) (state : σ) :
    runFrom (ofExcept result : Action σ ε α) state = (result, state) := rfl

/-- A computation that cannot fail sees the failure of its first action as an answer. -/
theorem run_run_bind {σ ε α β : Type} (action : Action σ ε α) (next : Except ε α → StateM σ β)
    (state : σ) :
    (action.run >>= next).run state =
      (next (runFrom action state).1).run (runFrom action state).2 := rfl

/-- A sequence goes on from where its first action answered. -/
theorem runFrom_bind_of_ok {σ ε α β : Type} {action : Action σ ε α} {state after : σ} {value : α}
    (h : runFrom action state = (.ok value, after)) (next : α → Action σ ε β) :
    runFrom (action >>= next) state = runFrom (next value) after := by
  rw [runFrom_bind, h]

/-- A sequence fails where its first action fails. -/
theorem runFrom_bind_of_error {σ ε α β : Type} {action : Action σ ε α} {state after : σ}
    {error : ε} (h : runFrom action state = (.error error, after)) (next : α → Action σ ε β) :
    runFrom (action >>= next) state = (.error error, after) := by
  rw [runFrom_bind, h]

/-- A function of the answer changes neither the failure nor the state. -/
theorem runFrom_map {σ ε α β : Type} (f : α → β) (action : Action σ ε α) (state : σ) :
    runFrom (do return f (← action)) state =
      ((runFrom action state).1.map f, (runFrom action state).2) := by
  rw [runFrom_bind]
  rcases runFrom action state with ⟨error | value, after⟩
  · rfl
  · rfl

/-- An action that leaves what `f` reads off the state as it is, whether it answers or fails. -/
def Keeps {σ ε α β : Type} (f : σ → β) (action : Action σ ε α) : Prop :=
  ∀ state, f (runFrom action state).2 = f state

theorem Keeps.pure {σ ε α β : Type} (f : σ → β) (value : α) :
    Keeps f (Pure.pure value : Action σ ε α) := fun _ => rfl

theorem Keeps.throw {σ ε α β : Type} (f : σ → β) (error : ε) :
    Keeps f (MonadExcept.throw error : Action σ ε α) := fun _ => rfl

theorem Keeps.ask {σ ε α β : Type} (f : σ → β) (read : σ → α) :
    Keeps f (Action.ask read : Action σ ε α) := fun _ => rfl

/-- A change that leaves `f` of the state as it was. -/
theorem Keeps.update {σ ε β : Type} {f : σ → β} {change : σ → σ}
    (hkeep : ∀ state, f (change state) = f state) :
    Keeps f (Action.update change : Action σ ε Unit) := hkeep

theorem Keeps.attempt {σ ε δ α β : Type} {f : σ → β} {action : Action σ ε α}
    (h : Keeps f action) : Keeps f (Action.attempt action : Action σ δ (Except ε α)) := h

/-- What a sequence leaves is what its first action left, if the rest keeps it. -/
theorem Keeps.after_bind {σ ε α β γ : Type} {f : σ → β} (action : Action σ ε α)
    {next : α → Action σ ε γ} (hnext : ∀ value, Keeps f (next value)) (state : σ) :
    f (runFrom (action >>= next) state).2 = f (runFrom action state).2 := by
  rcases hrun : runFrom action state with ⟨error | value, after⟩
  · rw [runFrom_bind_of_error hrun]
  · rw [runFrom_bind_of_ok hrun]
    exact hnext value after

/-- Actions one after another keep what both of them keep. -/
theorem Keeps.bind {σ ε α β γ : Type} {f : σ → β} {action : Action σ ε α}
    {next : α → Action σ ε γ} (hfirst : Keeps f action) (hnext : ∀ value, Keeps f (next value)) :
    Keeps f (action >>= next) := fun state =>
  (Keeps.after_bind action hnext state).trans (hfirst state)

/-- An action whose failures all satisfy `p`. -/
def FailsOnly {σ ε α : Type} (p : ε → Prop) (action : Action σ ε α) : Prop :=
  ∀ state error, (runFrom action state).1 = .error error → p error

theorem FailsOnly.pure {σ ε α : Type} (p : ε → Prop) (value : α) :
    FailsOnly p (Pure.pure value : Action σ ε α) := by
  intro state error hfail
  cases hfail

theorem FailsOnly.throw {σ ε α : Type} {p : ε → Prop} {error : ε} (herror : p error) :
    FailsOnly p (MonadExcept.throw error : Action σ ε α) := by
  intro state failure hfail
  cases hfail
  exact herror

/-- Actions one after another fail in the ways in which one of them does. -/
theorem FailsOnly.bind {σ ε α β : Type} {p : ε → Prop} {action : Action σ ε α}
    {next : α → Action σ ε β} (hfirst : FailsOnly p action)
    (hnext : ∀ value, FailsOnly p (next value)) : FailsOnly p (action >>= next) := by
  intro state error hfail
  rcases hrun : runFrom action state with ⟨failure | value, after⟩
  · rw [runFrom_bind_of_error hrun] at hfail
    cases hfail
    exact hfirst state _ (by rw [hrun])
  · rw [runFrom_bind_of_ok hrun] at hfail
    exact hnext value after error hfail

end Action

namespace Bounded

/-- What a run comes to from a state; `none` if it needs more rounds than it was given. -/
def runFrom {σ ε α : Type} (run : Bounded σ ε α) (state : σ) : Option (Except ε α × σ) :=
  run.run.run state

@[simp] theorem runFrom_pure {σ ε α : Type} (value : α) (state : σ) :
    runFrom (pure value : Bounded σ ε α) state = some (.ok value, state) := rfl

/-- An action needs no rounds. -/
@[simp] theorem runFrom_ofAction {σ ε α : Type} (action : Action σ ε α) (state : σ) :
    runFrom (ofAction action) state = some (action.runFrom state) := rfl

@[simp] theorem runFrom_ofExcept {σ ε α : Type} (result : Except ε α) (state : σ) :
    runFrom (ofExcept result : Bounded σ ε α) state = some (result, state) := rfl

/-- An attempt does not give more rounds: where its run stops, it stops too. -/
theorem runFrom_attempt {σ ε δ α : Type} (run : Bounded σ ε α) (state : σ) :
    runFrom (attempt run : Bounded σ δ (Except ε α)) state =
      (runFrom run state).map fun ended => (.ok ended.1, ended.2) := by
  unfold runFrom attempt
  simp [ExceptT.run_lift]

/-- A sequence needs more rounds if its first run does. -/
theorem runFrom_bind_of_none {σ ε α β : Type} {run : Bounded σ ε α} {state : σ}
    (h : runFrom run state = none) (next : α → Bounded σ ε β) :
    runFrom (run >>= next) state = none := by
  unfold runFrom ExceptT.run StateT.run at h ⊢
  simp only [bind, ExceptT.bind, ExceptT.mk, StateT.bind, h, Option.bind_none]

/-- A sequence goes on from where its first run answered. -/
theorem runFrom_bind_of_ok {σ ε α β : Type} {run : Bounded σ ε α} {state after : σ} {value : α}
    (h : runFrom run state = some (.ok value, after)) (next : α → Bounded σ ε β) :
    runFrom (run >>= next) state = runFrom (next value) after := by
  unfold runFrom ExceptT.run StateT.run at h ⊢
  simp only [bind, ExceptT.bind, ExceptT.mk, StateT.bind, h, Option.bind_some, ExceptT.bindCont]

/-- A sequence fails where its first run fails. -/
theorem runFrom_bind_of_error {σ ε α β : Type} {run : Bounded σ ε α} {state after : σ} {error : ε}
    (h : runFrom run state = some (.error error, after)) (next : α → Bounded σ ε β) :
    runFrom (run >>= next) state = some (.error error, after) := by
  unfold runFrom ExceptT.run StateT.run at h ⊢
  simp only [bind, ExceptT.bind, ExceptT.mk, StateT.bind, h, Option.bind_some, ExceptT.bindCont]
  rfl

/-- A run whose failures all satisfy `p`. -/
def FailsOnly {σ ε α : Type} (p : ε → Prop) (run : Bounded σ ε α) : Prop :=
  ∀ state error after, runFrom run state = some (.error error, after) → p error

namespace FailsOnly

variable {σ ε α β : Type} {p : ε → Prop}

/-- To stop for want of rounds is no failure. -/
theorem outOfRounds : FailsOnly p (Bounded.outOfRounds : Bounded σ ε α) := nofun

theorem ofAction {action : Action σ ε α} (h : Action.FailsOnly p action) :
    FailsOnly p (Bounded.ofAction action) := by
  intro state error after hfail
  exact h state error (congrArg Prod.fst (Option.some.inj hfail))

/-- A result fails as it says. -/
theorem ofExcept {result : Except ε α} (h : ∀ error, result = .error error → p error) :
    FailsOnly p (Bounded.ofExcept result : Bounded σ ε α) := by
  intro state error after hfail
  exact h error (congrArg Prod.fst (Option.some.inj hfail))

theorem bind {run : Bounded σ ε α} {next : α → Bounded σ ε β} (hfirst : FailsOnly p run)
    (hnext : ∀ value, FailsOnly p (next value)) : FailsOnly p (run >>= next) := by
  intro state error last hfail
  rcases hrun : runFrom run state with _ | ⟨failure | value, after⟩
  · cases (runFrom_bind_of_none hrun next).symm.trans hfail
  · cases (runFrom_bind_of_error hrun next).symm.trans hfail
    exact hfirst state error last hrun
  · rw [runFrom_bind_of_ok hrun] at hfail
    exact hnext value after error last hfail

end FailsOnly

end Bounded

end AgentSync
