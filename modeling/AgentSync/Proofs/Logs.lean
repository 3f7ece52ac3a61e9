import AgentSync.Proofs.Action

namespace AgentSync

open AgentSync.Action

variable {σ τ κ ε δ α β : Type} {log : σ → List κ} {bare : σ → τ}

/-- An action that keeps a log and the same action without one come to the same, and what is added
to the log fits what they come to. -/
def Logs (log : σ → List κ) (bare : σ → τ) (full : Action σ ε α) (plain : Action τ ε α)
    (fits : Except ε α → List κ → Prop) : Prop :=
  ∀ state, ∃ outcome entries after,
    runFrom full state = (outcome, after) ∧ runFrom plain (bare state) = (outcome, bare after) ∧
    log after = log state ++ entries ∧ fits outcome entries

namespace Logs

variable {full : Action σ ε α} {plain : Action τ ε α} {next : α → Action σ ε β}
  {plainNext : α → Action τ ε β} {firstFits : Except ε α → List κ → Prop}
  {fits : Except ε β → List κ → Prop}

theorem pure {value : β} (h : fits (.ok value) []) :
    Logs log bare (Pure.pure value) (Pure.pure value) fits :=
  fun state => ⟨_, [], state, rfl, rfl, (List.append_nil _).symm, h⟩

theorem throw {error : ε} (h : fits (.error error) []) :
    Logs log bare (MonadExcept.throw error : Action σ ε β)
      (MonadExcept.throw error : Action τ ε β) fits :=
  fun state => ⟨_, [], state, rfl, rfl, (List.append_nil _).symm, h⟩

theorem mono {other : Except ε α → List κ → Prop} (h : Logs log bare full plain firstFits)
    (hfits : ∀ outcome entries, firstFits outcome entries → other outcome entries) :
    Logs log bare full plain other := by
  intro state
  obtain ⟨outcome, entries, after, hfull, hplain, hlog, hfirst⟩ := h state
  exact ⟨outcome, entries, after, hfull, hplain, hlog, hfits outcome entries hfirst⟩

/-- The second step is described after the entries of the first; a failure of the first has to fit
by itself. -/
theorem bind (hfirst : Logs log bare full plain firstFits)
    (herror : ∀ error entries, firstFits (.error error) entries → fits (.error error) entries)
    (hnext : ∀ value entries, firstFits (.ok value) entries →
      Logs log bare (next value) (plainNext value)
        fun outcome more => fits outcome (entries ++ more)) :
    Logs log bare (full >>= next) (plain >>= plainNext) fits := by
  intro state
  obtain ⟨outcome, entries, between, hfull, hplain, hlog, hfits⟩ := hfirst state
  cases outcome with
  | error error =>
    exact ⟨_, entries, between, runFrom_bind_of_error hfull _, runFrom_bind_of_error hplain _, hlog,
      herror error entries hfits⟩
  | ok value =>
    obtain ⟨outcome, more, after, hfull', hplain', hlog', hfits'⟩ :=
      hnext value entries hfits between
    refine ⟨outcome, entries ++ more, after, ?_, ?_, ?_, hfits'⟩
    · rw [runFrom_bind_of_ok hfull, hfull']
    · rw [runFrom_bind_of_ok hplain, hplain']
    · rw [hlog', hlog, List.append_assoc]

/-- What follows a step that is noted once sees its answer, unless the step fails. -/
theorem note_bind (note : Except δ α → κ) {f : δ → ε}
    (hfirst : Logs log bare full plain fun outcome entries =>
      ∃ answer, entries = [note answer] ∧ outcome = answer.mapError f)
    (herror : ∀ error, fits (.error (f error)) [note (.error error)])
    (hnext : ∀ value, Logs log bare (next value) (plainNext value)
      fun outcome more => fits outcome (note (.ok value) :: more)) :
    Logs log bare (full >>= next) (plain >>= plainNext) fits := by
  refine hfirst.bind ?_ ?_
  · rintro _ _ ⟨error | _, rfl, heq⟩
    · cases heq
      exact herror error
    · cases heq
  · rintro value _ ⟨_ | _, rfl, heq⟩
    · cases heq
    · cases heq
      exact hnext value

/-- What two descriptions say of the same actions holds together. -/
theorem and {other : Except ε α → List κ → Prop} (h : Logs log bare full plain firstFits)
    (hother : Logs log bare full plain other) :
    Logs log bare full plain fun outcome entries =>
      firstFits outcome entries ∧ other outcome entries := by
  intro state
  obtain ⟨outcome, entries, after, hfull, hplain, hlog, hfirst⟩ := h state
  obtain ⟨_, more, last, hagain, _, hlog', hmore⟩ := hother state
  rw [hfull] at hagain
  cases hagain
  have hentries : entries = more := List.append_cancel_left (hlog.symm.trans hlog')
  subst hentries
  exact ⟨outcome, entries, after, hfull, hplain, hlog, hfirst, hmore⟩

theorem attempt (h : Logs log bare full plain firstFits) :
    Logs log bare (Action.attempt full : Action σ δ (Except ε α)) (Action.attempt plain)
      fun outcome entries => ∃ result, outcome = .ok result ∧ firstFits result entries := by
  intro state
  obtain ⟨result, entries, after, hfull, hplain, hlog, hfits⟩ := h state
  refine ⟨.ok result, entries, after, ?_, ?_, hlog, result, rfl, hfits⟩
  · rw [runFrom_attempt, hfull]
  · rw [runFrom_attempt, hplain]

theorem mapFailure {fits : Except δ α → List κ → Prop} {f : ε → δ}
    (h : Logs log bare full plain fun outcome entries => fits (outcome.mapError f) entries) :
    Logs log bare (Action.mapFailure f full) (Action.mapFailure f plain) fits := by
  intro state
  obtain ⟨outcome, entries, after, hfull, hplain, hlog, hfits⟩ := h state
  refine ⟨outcome.mapError f, entries, after, ?_, ?_, hlog, hfits⟩
  · rw [runFrom_mapFailure, hfull]
  · rw [runFrom_mapFailure, hplain]

/-- What follows an attempt sees a failure as an answer. -/
theorem attempt_bind {next : Except ε α → Action σ δ β} {plainNext : Except ε α → Action τ δ β}
    {fits : Except δ β → List κ → Prop} (hfirst : Logs log bare full plain firstFits)
    (hnext : ∀ result entries, firstFits result entries →
      Logs log bare (next result) (plainNext result)
        fun outcome more => fits outcome (entries ++ more)) :
    Logs log bare (Action.attempt full >>= next) (Action.attempt plain >>= plainNext) fits := by
  refine hfirst.attempt.bind ?_ ?_
  · rintro error entries ⟨result, hresult, _⟩
    cases hresult
  · rintro value entries ⟨result, hresult, hfits⟩
    cases hresult
    exact hnext value entries hfits

end Logs

/-- Two actions that come to the same, where one writes down entries that all satisfy `p`. -/
abbrev LogsOnly (log : σ → List κ) (bare : σ → τ) (p : κ → Prop) (full : Action σ ε α)
    (plain : Action τ ε α) : Prop :=
  Logs log bare full plain fun _ entries => ∀ entry ∈ entries, p entry

namespace LogsOnly

variable {p : κ → Prop} {full : Action σ ε α} {plain : Action τ ε α} {next : α → Action σ ε β}
  {plainNext : α → Action τ ε β}

theorem pure (value : β) :
    LogsOnly (ε := ε) log bare p (Pure.pure value) (Pure.pure value) :=
  Logs.pure (by simp)

theorem throw (error : ε) :
    LogsOnly log bare p (MonadExcept.throw error : Action σ ε β)
      (MonadExcept.throw error : Action τ ε β) :=
  Logs.throw (by simp)

/-- Only steps that write down such entries may follow one another. -/
theorem bind (hfirst : LogsOnly log bare p full plain)
    (hnext : ∀ value, LogsOnly log bare p (next value) (plainNext value)) :
    LogsOnly log bare p (full >>= next) (plain >>= plainNext) :=
  Logs.bind hfirst (fun _ _ hentries => hentries) fun value _ hentries =>
    (hnext value).mono fun _ _ hmore => List.forall_mem_append.mpr ⟨hentries, hmore⟩

theorem attempt (h : LogsOnly log bare p full plain) :
    LogsOnly log bare p (Action.attempt full : Action σ δ (Except ε α)) (Action.attempt plain) :=
  (Logs.attempt h).mono fun _ _ ⟨_, _, hentries⟩ => hentries

theorem mapFailure {f : ε → δ} (h : LogsOnly log bare p full plain) :
    LogsOnly log bare p (Action.mapFailure f full) (Action.mapFailure f plain) :=
  Logs.mapFailure h

/-- What is read off the state does not depend on the log. -/
theorem ask {f : σ → α} {g : τ → α} (hsame : ∀ state, g (bare state) = f state) :
    LogsOnly (ε := ε) log bare p (Action.ask f) (Action.ask g) := by
  intro state
  refine ⟨.ok (f state), [], state, rfl, ?_, (List.append_nil _).symm, by simp⟩
  rw [runFrom_ask, hsame]

/-- A change that leaves the log alone, and that is another change of what lies beside it. -/
theorem update {f : σ → σ} {g : τ → τ} (hlog : ∀ state, log (f state) = log state)
    (hbare : ∀ state, g (bare state) = bare (f state)) :
    LogsOnly (ε := ε) log bare p (Action.update f) (Action.update g) := by
  intro state
  refine ⟨.ok (), [], f state, rfl, ?_, ?_, by simp⟩
  · rw [runFrom_update, hbare]
  · rw [hlog, List.append_nil]

theorem ofExcept (result : Except ε β) :
    LogsOnly log bare p (Action.ofExcept result : Action σ ε β) (Action.ofExcept result) :=
  fun state => ⟨result, [], state, rfl, rfl, (List.append_nil _).symm, by simp⟩

/-- What follows a known outcome is only of interest for that outcome. -/
theorem ofExcept_bind {result : Except ε α} (hnext : ∀ value, result = .ok value →
    LogsOnly log bare p (next value) (plainNext value)) :
    LogsOnly log bare p (Action.ofExcept result >>= next)
      (Action.ofExcept result >>= plainNext) := by
  cases result with
  | error error => exact throw error
  | ok value => exact hnext value rfl

end LogsOnly

/-- What `Logs` says of every state, said of one. What fits may depend on the state that is left. -/
def LogsFrom (log : σ → List κ) (bare : σ → τ) (state : σ) (full : Action σ ε α)
    (plain : Action τ ε α) (fits : Except ε α → List κ → σ → Prop) : Prop :=
  ∃ outcome entries after,
    runFrom full state = (outcome, after) ∧ runFrom plain (bare state) = (outcome, bare after) ∧
    log after = log state ++ entries ∧ fits outcome entries after

namespace LogsFrom

variable {state : σ} {full : Action σ ε α} {plain : Action τ ε α} {next : α → Action σ ε β}
  {plainNext : α → Action τ ε β} {firstFits : Except ε α → List κ → σ → Prop}
  {fits : Except ε β → List κ → σ → Prop}

theorem pure {value : β} (h : fits (.ok value) [] state) :
    LogsFrom log bare state (Pure.pure value) (Pure.pure value) fits :=
  ⟨_, [], state, rfl, rfl, (List.append_nil _).symm, h⟩

theorem throw {error : ε} (h : fits (.error error) [] state) :
    LogsFrom log bare state (MonadExcept.throw error : Action σ ε β)
      (MonadExcept.throw error : Action τ ε β) fits :=
  ⟨_, [], state, rfl, rfl, (List.append_nil _).symm, h⟩

theorem mono {other : Except ε α → List κ → σ → Prop}
    (h : LogsFrom log bare state full plain firstFits)
    (hfits : ∀ outcome entries after, firstFits outcome entries after →
      other outcome entries after) : LogsFrom log bare state full plain other := by
  obtain ⟨outcome, entries, after, hfull, hplain, hlog, hfirst⟩ := h
  exact ⟨outcome, entries, after, hfull, hplain, hlog, hfits outcome entries after hfirst⟩

/-- As `Logs.bind`, where the second step may start from a state that the first one left. -/
theorem bind (hfirst : LogsFrom log bare state full plain firstFits)
    (herror : ∀ error entries after, firstFits (.error error) entries after →
      fits (.error error) entries after)
    (hnext : ∀ value entries after, firstFits (.ok value) entries after →
      LogsFrom log bare after (next value) (plainNext value)
        fun outcome more last => fits outcome (entries ++ more) last) :
    LogsFrom log bare state (full >>= next) (plain >>= plainNext) fits := by
  obtain ⟨outcome, entries, between, hfull, hplain, hlog, hfits⟩ := hfirst
  cases outcome with
  | error error =>
    exact ⟨_, entries, between, runFrom_bind_of_error hfull _, runFrom_bind_of_error hplain _, hlog,
      herror error entries between hfits⟩
  | ok value =>
    obtain ⟨outcome, more, after, hfull', hplain', hlog', hfits'⟩ :=
      hnext value entries between hfits
    refine ⟨outcome, entries ++ more, after, ?_, ?_, ?_, hfits'⟩
    · rw [runFrom_bind_of_ok hfull, hfull']
    · rw [runFrom_bind_of_ok hplain, hplain']
    · rw [hlog', hlog, List.append_assoc]

theorem attempt (h : LogsFrom log bare state full plain firstFits) :
    LogsFrom log bare state (Action.attempt full : Action σ δ (Except ε α)) (Action.attempt plain)
      fun outcome entries after =>
        ∃ result, outcome = .ok result ∧ firstFits result entries after := by
  obtain ⟨result, entries, after, hfull, hplain, hlog, hfits⟩ := h
  refine ⟨.ok result, entries, after, ?_, ?_, hlog, result, rfl, hfits⟩
  · rw [runFrom_attempt, hfull]
  · rw [runFrom_attempt, hplain]

/-- What follows an attempt sees a failure as an answer. -/
theorem attempt_bind {next : Except ε α → Action σ δ β} {plainNext : Except ε α → Action τ δ β}
    {fits : Except δ β → List κ → σ → Prop} (hfirst : LogsFrom log bare state full plain firstFits)
    (hnext : ∀ result entries after, firstFits result entries after →
      LogsFrom log bare after (next result) (plainNext result)
        fun outcome more last => fits outcome (entries ++ more) last) :
    LogsFrom log bare state (Action.attempt full >>= next) (Action.attempt plain >>= plainNext)
      fits := by
  refine hfirst.attempt.bind ?_ ?_
  · rintro error entries after ⟨result, hresult, _⟩
    cases hresult
  · rintro value entries after ⟨result, hresult, hfits⟩
    cases hresult
    exact hnext value entries after hfits

end LogsFrom

/-- A run that keeps a log and the same run without one come to the same, and what is added to the
log fits what they come to. -/
def LogsRun (log : σ → List κ) (bare : σ → τ) (full : Bounded σ ε α) (plain : Bounded τ ε α)
    (fits : Except ε α → List κ → Prop) : Prop :=
  ∀ state, ∃ outcome entries after,
    Bounded.runFrom full state = some (outcome, after) ∧
    Bounded.runFrom plain (bare state) = some (outcome, bare after) ∧
    log after = log state ++ entries ∧ fits outcome entries

namespace LogsRun

variable {full : Bounded σ ε α} {plain : Bounded τ ε α} {next : α → Bounded σ ε β}
  {plainNext : α → Bounded τ ε β} {firstFits : Except ε α → List κ → Prop}
  {fits : Except ε β → List κ → Prop}

/-- An action needs no rounds, so its description holds of the run. -/
theorem ofAction {full : Action σ ε α} {plain : Action τ ε α}
    (h : Logs log bare full plain firstFits) :
    LogsRun log bare (Bounded.ofAction full) (Bounded.ofAction plain) firstFits := by
  intro state
  obtain ⟨outcome, entries, after, hfull, hplain, hlog, hfits⟩ := h state
  refine ⟨outcome, entries, after, ?_, ?_, hlog, hfits⟩
  · rw [Bounded.runFrom_ofAction, hfull]
  · rw [Bounded.runFrom_ofAction, hplain]

theorem ofExcept {result : Except ε β} (h : fits result []) :
    LogsRun log bare (Bounded.ofExcept result) (Bounded.ofExcept result) fits :=
  fun state => ⟨result, [], state, rfl, rfl, (List.append_nil _).symm, h⟩

theorem mono {other : Except ε α → List κ → Prop} (h : LogsRun log bare full plain firstFits)
    (hfits : ∀ outcome entries, firstFits outcome entries → other outcome entries) :
    LogsRun log bare full plain other := by
  intro state
  obtain ⟨outcome, entries, after, hfull, hplain, hlog, hfirst⟩ := h state
  exact ⟨outcome, entries, after, hfull, hplain, hlog, hfits outcome entries hfirst⟩

/-- As `Logs.bind`, for two runs that end. -/
theorem bind (hfirst : LogsRun log bare full plain firstFits)
    (herror : ∀ error entries, firstFits (.error error) entries → fits (.error error) entries)
    (hnext : ∀ value entries, firstFits (.ok value) entries →
      LogsRun log bare (next value) (plainNext value)
        fun outcome more => fits outcome (entries ++ more)) :
    LogsRun log bare (full >>= next) (plain >>= plainNext) fits := by
  intro state
  obtain ⟨outcome, entries, between, hfull, hplain, hlog, hfits⟩ := hfirst state
  cases outcome with
  | error error =>
    exact ⟨_, entries, between, Bounded.runFrom_bind_of_error hfull _,
      Bounded.runFrom_bind_of_error hplain _, hlog, herror error entries hfits⟩
  | ok value =>
    obtain ⟨outcome, more, after, hfull', hplain', hlog', hfits'⟩ :=
      hnext value entries hfits between
    refine ⟨outcome, entries ++ more, after, ?_, ?_, ?_, hfits'⟩
    · rw [Bounded.runFrom_bind_of_ok hfull, hfull']
    · rw [Bounded.runFrom_bind_of_ok hplain, hplain']
    · rw [hlog', hlog, List.append_assoc]

/-- What follows an attempt sees a failure as an answer. -/
theorem attempt_bind {full : Action σ ε α} {plain : Action τ ε α}
    {next : Except ε α → Bounded σ δ β} {plainNext : Except ε α → Bounded τ δ β}
    {fits : Except δ β → List κ → Prop} (hfirst : Logs log bare full plain firstFits)
    (hnext : ∀ result entries, firstFits result entries →
      LogsRun log bare (next result) (plainNext result)
        fun outcome more => fits outcome (entries ++ more)) :
    LogsRun log bare (Bounded.ofAction (Action.attempt full) >>= next)
      (Bounded.ofAction (Action.attempt plain) >>= plainNext) fits := by
  refine (ofAction hfirst.attempt).bind ?_ ?_
  · rintro error entries ⟨result, hresult, _⟩
    cases hresult
  · rintro value entries ⟨result, hresult, hfits⟩
    cases hresult
    exact hnext value entries hfits

/-- A known outcome adds nothing to the log. -/
theorem ofExcept_bind {result : Except ε α}
    (herror : ∀ error, result = .error error → fits (.error error) [])
    (hnext : ∀ value, result = .ok value →
      LogsRun log bare (next value) (plainNext value) fits) :
    LogsRun log bare (Bounded.ofExcept result >>= next) (Bounded.ofExcept result >>= plainNext)
      fits := by
  cases result with
  | error error =>
    intro state
    have hfull := Bounded.runFrom_ofExcept (.error error : Except ε α) state
    have hplain := Bounded.runFrom_ofExcept (.error error : Except ε α) (bare state)
    exact ⟨_, [], state, Bounded.runFrom_bind_of_error hfull _,
      Bounded.runFrom_bind_of_error hplain _, (List.append_nil _).symm, herror error rfl⟩
  | ok value =>
    intro state
    rw [Bounded.runFrom_bind_of_ok (Bounded.runFrom_ofExcept _ _),
      Bounded.runFrom_bind_of_ok (Bounded.runFrom_ofExcept _ _)]
    exact hnext value rfl state

end LogsRun

/-- Like `LogsRun`, but for runs that may both need more rounds than they were given. -/
def LogsWithin (log : σ → List κ) (bare : σ → τ) (full : Bounded σ ε α) (plain : Bounded τ ε α)
    (fits : Except ε α → List κ → Prop) : Prop :=
  ∀ state, (Bounded.runFrom full state = none ∧ Bounded.runFrom plain (bare state) = none) ∨
    ∃ outcome entries after,
      Bounded.runFrom full state = some (outcome, after) ∧
      Bounded.runFrom plain (bare state) = some (outcome, bare after) ∧
      log after = log state ++ entries ∧ fits outcome entries

namespace LogsWithin

variable {full : Bounded σ ε α} {plain : Bounded τ ε α} {next : α → Bounded σ ε β}
  {plainNext : α → Bounded τ ε β} {firstFits : Except ε α → List κ → Prop}
  {fits : Except ε β → List κ → Prop}

/-- Nothing has to be said of a run that stops for want of rounds. -/
theorem outOfRounds :
    LogsWithin log bare (Bounded.outOfRounds : Bounded σ ε β) Bounded.outOfRounds fits :=
  fun _ => .inl ⟨rfl, rfl⟩

theorem ofExcept {result : Except ε β} (h : fits result []) :
    LogsWithin log bare (Bounded.ofExcept result) (Bounded.ofExcept result) fits :=
  fun state => .inr ⟨result, [], state, rfl, rfl, (List.append_nil _).symm, h⟩

theorem mono {other : Except ε α → List κ → Prop} (h : LogsWithin log bare full plain firstFits)
    (hfits : ∀ outcome entries, firstFits outcome entries → other outcome entries) :
    LogsWithin log bare full plain other := by
  intro state
  obtain hnone | ⟨outcome, entries, after, hfull, hplain, hlog, hfirst⟩ := h state
  · exact .inl hnone
  · exact .inr ⟨outcome, entries, after, hfull, hplain, hlog, hfits outcome entries hfirst⟩

/-- What follows a run that ends. -/
theorem bind (hfirst : LogsRun log bare full plain firstFits)
    (herror : ∀ error entries, firstFits (.error error) entries → fits (.error error) entries)
    (hnext : ∀ value entries, firstFits (.ok value) entries →
      LogsWithin log bare (next value) (plainNext value)
        fun outcome more => fits outcome (entries ++ more)) :
    LogsWithin log bare (full >>= next) (plain >>= plainNext) fits := by
  intro state
  obtain ⟨outcome, entries, between, hfull, hplain, hlog, hfits⟩ := hfirst state
  cases outcome with
  | error error =>
    exact .inr ⟨_, entries, between, Bounded.runFrom_bind_of_error hfull _,
      Bounded.runFrom_bind_of_error hplain _, hlog, herror error entries hfits⟩
  | ok value =>
    rw [Bounded.runFrom_bind_of_ok hfull, Bounded.runFrom_bind_of_ok hplain]
    obtain hnone | ⟨outcome, more, after, hfull', hplain', hlog', hfits'⟩ :=
      hnext value entries hfits between
    · exact .inl hnone
    · refine .inr ⟨outcome, entries ++ more, after, hfull', hplain', ?_, hfits'⟩
      rw [hlog', hlog, List.append_assoc]

/-- What follows an attempt sees a failure as an answer. -/
theorem attempt_bind {full : Action σ ε α} {plain : Action τ ε α}
    {next : Except ε α → Bounded σ δ β} {plainNext : Except ε α → Bounded τ δ β}
    {fits : Except δ β → List κ → Prop} (hfirst : Logs log bare full plain firstFits)
    (hnext : ∀ result entries, firstFits result entries →
      LogsWithin log bare (next result) (plainNext result)
        fun outcome more => fits outcome (entries ++ more)) :
    LogsWithin log bare (Bounded.ofAction (Action.attempt full) >>= next)
      (Bounded.ofAction (Action.attempt plain) >>= plainNext) fits := by
  refine bind (.ofAction hfirst.attempt) ?_ ?_
  · rintro error entries ⟨result, hresult, _⟩
    cases hresult
  · rintro value entries ⟨result, hresult, hfits⟩
    cases hresult
    exact hnext value entries hfits

/-- A known outcome adds nothing to the log. -/
theorem ofExcept_bind {result : Except ε α}
    (herror : ∀ error, result = .error error → fits (.error error) [])
    (hnext : ∀ value, result = .ok value →
      LogsWithin log bare (next value) (plainNext value) fits) :
    LogsWithin log bare (Bounded.ofExcept result >>= next) (Bounded.ofExcept result >>= plainNext)
      fits := by
  have hfirst : LogsRun log bare (Bounded.ofExcept result) (Bounded.ofExcept result)
      fun outcome entries => outcome = result ∧ entries = [] := .ofExcept ⟨rfl, rfl⟩
  refine bind hfirst ?_ ?_
  · rintro error _ ⟨rfl, rfl⟩
    exact herror error rfl
  · rintro value _ ⟨rfl, rfl⟩
    exact hnext value rfl

end LogsWithin

/-- What `LogsRun` says of every state, said of one. What fits may depend on the state that is
left. -/
def LogsRunFrom (log : σ → List κ) (bare : σ → τ) (state : σ) (full : Bounded σ ε α)
    (plain : Bounded τ ε α) (fits : Except ε α → List κ → σ → Prop) : Prop :=
  ∃ outcome entries after,
    Bounded.runFrom full state = some (outcome, after) ∧
    Bounded.runFrom plain (bare state) = some (outcome, bare after) ∧
    log after = log state ++ entries ∧ fits outcome entries after

namespace LogsRunFrom

variable {state : σ}

theorem ofExcept {result : Except ε α} {fits : Except ε α → List κ → σ → Prop}
    (h : fits result [] state) :
    LogsRunFrom log bare state (Bounded.ofExcept result) (Bounded.ofExcept result) fits :=
  ⟨result, [], state, rfl, rfl, (List.append_nil _).symm, h⟩

theorem mono {full : Bounded σ ε α} {plain : Bounded τ ε α}
    {fits other : Except ε α → List κ → σ → Prop}
    (h : LogsRunFrom log bare state full plain fits)
    (hfits : ∀ outcome entries after, fits outcome entries after →
      other outcome entries after) : LogsRunFrom log bare state full plain other := by
  obtain ⟨outcome, entries, after, hfull, hplain, hlog, hfirst⟩ := h
  exact ⟨outcome, entries, after, hfull, hplain, hlog, hfits outcome entries after hfirst⟩

/-- A run goes on from where its first action answered. -/
theorem ofAction_bind {full : Action σ ε α} {plain : Action τ ε α} {next : α → Bounded σ ε β}
    {plainNext : α → Bounded τ ε β} {firstFits : Except ε α → List κ → σ → Prop}
    {fits : Except ε β → List κ → σ → Prop}
    (hfirst : LogsFrom log bare state full plain firstFits)
    (herror : ∀ error entries after, firstFits (.error error) entries after →
      fits (.error error) entries after)
    (hnext : ∀ value entries after, firstFits (.ok value) entries after →
      LogsRunFrom log bare after (next value) (plainNext value)
        fun outcome more last => fits outcome (entries ++ more) last) :
    LogsRunFrom log bare state (Bounded.ofAction full >>= next)
      (Bounded.ofAction plain >>= plainNext) fits := by
  obtain ⟨outcome, entries, between, hfull, hplain, hlog, hfits⟩ := hfirst
  have hfullRun := Bounded.runFrom_ofAction full state
  have hplainRun := Bounded.runFrom_ofAction plain (bare state)
  rw [hfull] at hfullRun
  rw [hplain] at hplainRun
  cases outcome with
  | error error =>
    exact ⟨_, entries, between, Bounded.runFrom_bind_of_error hfullRun _,
      Bounded.runFrom_bind_of_error hplainRun _, hlog, herror error entries between hfits⟩
  | ok value =>
    obtain ⟨outcome, more, after, hfull', hplain', hlog', hfits'⟩ :=
      hnext value entries between hfits
    refine ⟨outcome, entries ++ more, after, ?_, ?_, ?_, hfits'⟩
    · rw [Bounded.runFrom_bind_of_ok hfullRun, hfull']
    · rw [Bounded.runFrom_bind_of_ok hplainRun, hplain']
    · rw [hlog', hlog, List.append_assoc]

/-- What follows an attempt sees a failure as an answer. -/
theorem attempt_bind {full : Action σ ε α} {plain : Action τ ε α}
    {next : Except ε α → Bounded σ δ β} {plainNext : Except ε α → Bounded τ δ β}
    {firstFits : Except ε α → List κ → σ → Prop} {fits : Except δ β → List κ → σ → Prop}
    (hfirst : LogsFrom log bare state full plain firstFits)
    (hnext : ∀ result entries after, firstFits result entries after →
      LogsRunFrom log bare after (next result) (plainNext result)
        fun outcome more last => fits outcome (entries ++ more) last) :
    LogsRunFrom log bare state (Bounded.ofAction (Action.attempt full) >>= next)
      (Bounded.ofAction (Action.attempt plain) >>= plainNext) fits := by
  refine ofAction_bind hfirst.attempt ?_ ?_
  · rintro error entries after ⟨result, hresult, _⟩
    cases hresult
  · rintro value entries after ⟨result, hresult, hfits⟩
    cases hresult
    exact hnext value entries after hfits

end LogsRunFrom

end AgentSync
