import AgentSync.Proofs.Action
import AgentSync.Sync.Degradation

namespace AgentSync.RowWriter

open AgentSync.Action

/-- A call as one equation for each kind of answer: a refusal is an answer, any other failure ends
the save. -/
theorem runFrom_accepted {σ : Type} (save : Action σ Error Unit) (state : σ) :
    runFrom (accepted save) state =
      match runFrom save state with
      | (.ok (), after) => (.ok true, after)
      | (.error error, after) =>
        if error.isConflict then (.ok false, after) else (.error error, after) := by
  rw [accepted, runFrom_bind, runFrom_attempt]
  rcases runFrom save state with ⟨error | ⟨⟩, after⟩
  · by_cases hconflict : error.isConflict = true <;> simp [hconflict]
  · rfl

/-- Rows saved one by one, from a state to a state, with the rows refused or the failure that
stopped them. Each answer decides on the next call. -/
inductive SavesSingly {σ : Type} (writer : RowWriter σ) (table : Table) :
    List Row → σ → Except Error (List Row) → σ → Prop
  | nil {state : σ} : SavesSingly writer table [] state (.ok []) state
  | accepted {row : Row} {rest : List Row} {result : Except Error (List Row)}
      {state middle after : σ}
      (hsave : runFrom (writer.saveOne table row) state = (.ok (), middle))
      (hrest : SavesSingly writer table rest middle result after) :
      SavesSingly writer table (row :: rest) state result after
  | refused {row : Row} {rest : List Row} {result : Except Error (List Row)}
      {error : Error} {state middle after : σ}
      (hsave : runFrom (writer.saveOne table row) state = (.error error, middle))
      (hconflict : error.isConflict = true)
      (hrest : SavesSingly writer table rest middle result after) :
      SavesSingly writer table (row :: rest) state (result.map (row :: ·)) after
  | failed {row : Row} {rest : List Row} {error : Error} {state after : σ}
      (hsave : runFrom (writer.saveOne table row) state = (.error error, after))
      (hother : error.isConflict = false) :
      SavesSingly writer table (row :: rest) state (.error error) after

/-- Rows saved in at most so many cycles, from a state to a state, with the rows refused in the
last one or the failure that stopped them. -/
inductive SavesInCycles {σ : Type} (writer : RowWriter σ) (table : Table) :
    Nat → List Row → σ → Except Error (List Row) → σ → Prop
  | spent {rows : List Row} {state : σ} : SavesInCycles writer table 0 rows state (.ok rows) state
  | accepted {cycles : Nat} {rows : List Row} {state after : σ}
      (hsave : runFrom (writer.saveBatch table rows) state = (.ok (), after)) :
      SavesInCycles writer table (cycles + 1) rows state (.ok []) after
  | failed {cycles : Nat} {rows : List Row} {error : Error} {state after : σ}
      (hsave : runFrom (writer.saveBatch table rows) state = (.error error, after))
      (hother : error.isConflict = false) :
      SavesInCycles writer table (cycles + 1) rows state (.error error) after
  | stopped {cycles : Nat} {rows : List Row} {error failure : Error} {state middle after : σ}
      (hsave : runFrom (writer.saveBatch table rows) state = (.error error, middle))
      (hconflict : error.isConflict = true)
      (hsingly : SavesSingly writer table rows middle (.error failure) after) :
      SavesInCycles writer table (cycles + 1) rows state (.error failure) after
  | cleared {cycles : Nat} {rows : List Row} {error : Error} {state middle after : σ}
      (hsave : runFrom (writer.saveBatch table rows) state = (.error error, middle))
      (hconflict : error.isConflict = true)
      (hsingly : SavesSingly writer table rows middle (.ok []) after) :
      SavesInCycles writer table (cycles + 1) rows state (.ok []) after
  | again {cycles : Nat} {rows refused : List Row} {error : Error}
      {result : Except Error (List Row)} {state middle later after : σ}
      (hsave : runFrom (writer.saveBatch table rows) state = (.error error, middle))
      (hconflict : error.isConflict = true)
      (hsingly : SavesSingly writer table rows middle (.ok refused) later)
      (hrefused : refused ≠ [])
      (hnext : SavesInCycles writer table cycles refused later result after) :
      SavesInCycles writer table (cycles + 1) rows state result after

/-- Saving rows one by one follows the course of single saves. -/
theorem saveSingly_runs {σ : Type} (writer : RowWriter σ) (table : Table) (rows : List Row) :
    ∀ state, SavesSingly writer table rows state (runFrom (writer.saveSingly table rows) state).1
      (runFrom (writer.saveSingly table rows) state).2 := by
  induction rows with
  | nil => intro state; exact .nil
  | cons row rest ih =>
    intro state
    rw [saveSingly, runFrom_bind, runFrom_accepted]
    rcases hsave : runFrom (writer.saveOne table row) state with ⟨error | ⟨⟩, middle⟩
    · cases hconflict : error.isConflict with
      | false => simpa [hconflict] using SavesSingly.failed hsave hconflict
      | true =>
        have hrest := SavesSingly.refused hsave hconflict (ih middle)
        simp only [hconflict, ↓reduceIte, Bool.false_eq_true, runFrom_bind]
        rcases hrun : runFrom (writer.saveSingly table rest) middle with ⟨failure | refused, after⟩
        · rw [hrun] at hrest
          exact hrest
        · rw [hrun] at hrest
          exact hrest
    · exact .accepted hsave (ih middle)

/-- Saving rows in cycles follows the course of cycles. -/
theorem saveCycles_runs {σ : Type} (writer : RowWriter σ) (table : Table) (cycles : Nat) :
    ∀ rows state, SavesInCycles writer table cycles rows state
      (runFrom (writer.saveCycles table cycles rows) state).1
      (runFrom (writer.saveCycles table cycles rows) state).2 := by
  induction cycles with
  | zero => intro rows state; exact .spent
  | succ cycles ih =>
    intro rows state
    rw [saveCycles, runFrom_bind, runFrom_accepted]
    rcases hsave : runFrom (writer.saveBatch table rows) state with ⟨error | ⟨⟩, middle⟩
    · cases hconflict : error.isConflict with
      | false => simpa [hconflict] using SavesInCycles.failed hsave hconflict
      | true =>
        have hsingly := saveSingly_runs writer table rows middle
        simp only [hconflict, ↓reduceIte, Bool.false_eq_true, runFrom_bind]
        rcases hrun : runFrom (writer.saveSingly table rows) middle with ⟨failure | refused, later⟩
        · rw [hrun] at hsingly
          exact .stopped hsave hconflict hsingly
        · rw [hrun] at hsingly
          cases refused with
          | nil => exact .cleared hsave hconflict hsingly
          | cons row more => exact .again hsave hconflict hsingly (by simp) (ih (row :: more) later)
    · exact .accepted hsave

/-- What stops single saves is never a refusal. -/
theorem SavesSingly.not_isConflict {σ : Type} {writer : RowWriter σ} {table : Table}
    {rows : List Row} {state after : σ} {result : Except Error (List Row)}
    (h : SavesSingly writer table rows state result after) :
    ∀ error, result = .error error → error.isConflict = false := by
  induction h with
  | nil => intro error hresult; cases hresult
  | accepted _ _ ih => exact ih
  | @refused row rest result _ _ _ _ _ _ _ ih =>
    intro error hresult
    cases result with
    | error failure => exact ih error hresult
    | ok refused => cases hresult
  | failed _ hother =>
    intro error hresult
    cases hresult
    exact hother

/-- What stops the cycles is never a refusal, so a conflict only comes from rows that are left. -/
theorem SavesInCycles.not_isConflict {σ : Type} {writer : RowWriter σ} {table : Table}
    {cycles : Nat} {rows : List Row} {state after : σ} {result : Except Error (List Row)}
    (h : SavesInCycles writer table cycles rows state result after) :
    ∀ error, result = .error error → error.isConflict = false := by
  induction h with
  | spent => intro error hresult; cases hresult
  | accepted _ => intro error hresult; cases hresult
  | failed _ hother =>
    intro error hresult
    cases hresult
    exact hother
  | stopped _ _ hsingly => exact hsingly.not_isConflict
  | cleared _ _ _ => intro error hresult; cases hresult
  | again _ _ _ _ _ ih => exact ih

/-- A whole save, from a state to a state: nothing to do, everything accepted, rows left after the
last cycle, or a failure. -/
inductive Saves {σ : Type} (writer : RowWriter σ) (table : Table) (maxRetries : Nat) :
    List Row → σ → Except Error Unit → σ → Prop
  | nothing {state : σ} : Saves writer table maxRetries [] state (.ok ()) state
  | saved {rows : List Row} {state after : σ} (hrows : rows ≠ [])
      (hcycles : SavesInCycles writer table (max maxRetries 1) rows state (.ok []) after) :
      Saves writer table maxRetries rows state (.ok ()) after
  | left {rows refused : List Row} {state after : σ} (hrows : rows ≠ [])
      (hcycles : SavesInCycles writer table (max maxRetries 1) rows state (.ok refused) after)
      (hrefused : refused ≠ []) :
      Saves writer table maxRetries rows state
        (.error (.conflict (refused.filterMap table.key?))) after
  | failed {rows : List Row} {error : Error} {state after : σ} (hrows : rows ≠ [])
      (hcycles : SavesInCycles writer table (max maxRetries 1) rows state (.error error) after)
      (hother : error.isConflict = false) :
      Saves writer table maxRetries rows state (.error error) after

/-- Every save has a course, whatever the writer answers; each law about saving is an induction on
it. -/
theorem saveWithDegradation_runs {σ : Type} (writer : RowWriter σ) (table : Table)
    (rows : List Row) (maxRetries : Nat) (state : σ) :
    Saves writer table maxRetries rows state
      (runFrom (writer.saveWithDegradation table rows maxRetries) state).1
      (runFrom (writer.saveWithDegradation table rows maxRetries) state).2 := by
  rw [saveWithDegradation]
  cases rows with
  | nil => exact .nothing
  | cons row rest =>
    have hcycles := saveCycles_runs writer table (max maxRetries 1) (row :: rest) state
    simp only [List.isEmpty_cons, Bool.false_eq_true, ↓reduceIte, runFrom_bind]
    rcases hrun : runFrom (writer.saveCycles table (max maxRetries 1) (row :: rest)) state with
      ⟨error | refused, after⟩
    · rw [hrun] at hcycles
      exact .failed (List.cons_ne_nil _ _) hcycles (hcycles.not_isConflict error rfl)
    · rw [hrun] at hcycles
      cases refused with
      | nil => exact .saved (List.cons_ne_nil _ _) hcycles
      | cons first more => exact .left (List.cons_ne_nil _ _) hcycles (List.cons_ne_nil _ _)

section Exact

variable {σ : Type} {writer : RowWriter σ} {table : Table} {rows : List Row} {state after : σ}

/-- The course of single saves fixes what they come to. -/
theorem SavesSingly.runFrom_eq {result : Except Error (List Row)}
    (h : SavesSingly writer table rows state result after) :
    runFrom (writer.saveSingly table rows) state = (result, after) := by
  induction h with
  | nil => rfl
  | accepted hsave _ ih =>
    rw [saveSingly, runFrom_bind, runFrom_accepted, hsave]
    exact ih
  | @refused _ _ result _ _ _ _ hsave hconflict _ ih =>
    rw [saveSingly, runFrom_bind, runFrom_accepted, hsave]
    simp only [hconflict, ↓reduceIte, Bool.false_eq_true, runFrom_bind, ih]
    cases result <;> rfl
  | failed hsave hother =>
    rw [saveSingly, runFrom_bind, runFrom_accepted, hsave]
    simp only [hother, Bool.false_eq_true, ↓reduceIte]

/-- The course of cycles fixes what they come to. -/
theorem SavesInCycles.runFrom_eq {cycles : Nat} {result : Except Error (List Row)}
    (h : SavesInCycles writer table cycles rows state result after) :
    runFrom (writer.saveCycles table cycles rows) state = (result, after) := by
  induction h with
  | spent => rfl
  | accepted hsave =>
    rw [saveCycles, runFrom_bind, runFrom_accepted, hsave]
    rfl
  | failed hsave hother =>
    rw [saveCycles, runFrom_bind, runFrom_accepted, hsave]
    simp only [hother, Bool.false_eq_true, ↓reduceIte]
  | stopped hsave hconflict hsingly =>
    rw [saveCycles, runFrom_bind, runFrom_accepted, hsave]
    simp only [hconflict, ↓reduceIte, Bool.false_eq_true, runFrom_bind, hsingly.runFrom_eq]
  | cleared hsave hconflict hsingly =>
    rw [saveCycles, runFrom_bind, runFrom_accepted, hsave]
    simp only [hconflict, ↓reduceIte, Bool.false_eq_true, runFrom_bind, hsingly.runFrom_eq]
    rfl
  | @again _ _ refused _ _ _ _ _ _ hsave hconflict hsingly hrefused _ ih =>
    rw [saveCycles, runFrom_bind, runFrom_accepted, hsave]
    simp only [hconflict, ↓reduceIte, Bool.false_eq_true, runFrom_bind, hsingly.runFrom_eq]
    cases refused with
    | nil => exact absurd rfl hrefused
    | cons row more => exact ih

/-- The course of a save fixes what the save comes to, so that it can stand for the save. -/
theorem Saves.runFrom_eq {maxRetries : Nat} {result : Except Error Unit}
    (h : Saves writer table maxRetries rows state result after) :
    runFrom (writer.saveWithDegradation table rows maxRetries) state = (result, after) := by
  have hsome (hrows : rows ≠ []) : rows.isEmpty = false := by simpa using hrows
  cases h with
  | nothing => rfl
  | saved hrows hcycles =>
    rw [saveWithDegradation, hsome hrows, if_neg Bool.false_ne_true,
      runFrom_bind_of_ok hcycles.runFrom_eq]
    rfl
  | @left _ refused _ _ hrows hcycles hrefused =>
    rw [saveWithDegradation, hsome hrows, if_neg Bool.false_ne_true,
      runFrom_bind_of_ok hcycles.runFrom_eq]
    cases refused with
    | nil => exact absurd rfl hrefused
    | cons row more => rfl
  | failed hrows hcycles _ =>
    rw [saveWithDegradation, hsome hrows, if_neg Bool.false_ne_true,
      runFrom_bind_of_error hcycles.runFrom_eq]

end Exact

end AgentSync.RowWriter
