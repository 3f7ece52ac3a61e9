import AgentSync.Proofs.Degradation.Course

namespace AgentSync.RowWriter

open AgentSync.Action

/-- `taken` lists the rows of `table` that a writer has accepted so far: a call adds its rows when
it is accepted and nothing otherwise. -/
structure Takes {σ : Type} (writer : RowWriter σ) (table : Table) (taken : σ → List Row) :
    Prop where
  batch_ok : ∀ {rows state after}, runFrom (writer.saveBatch table rows) state = (.ok (), after) →
    taken after = taken state ++ rows
  batch_error : ∀ {rows state error after},
    runFrom (writer.saveBatch table rows) state = (.error error, after) → taken after = taken state
  one_ok : ∀ {row state after}, runFrom (writer.saveOne table row) state = (.ok (), after) →
    taken after = taken state ++ [row]
  one_error : ∀ {row state error after},
    runFrom (writer.saveOne table row) state = (.error error, after) → taken after = taken state

/-- Rows saved singly are taken or left, and those left keep their order. -/
theorem SavesSingly.perm {σ : Type} {writer : RowWriter σ} {table : Table} {taken : σ → List Row}
    (htakes : writer.Takes table taken) {rows : List Row} {state after : σ}
    {result : Except Error (List Row)} (h : SavesSingly writer table rows state result after) :
    ∀ refused, result = .ok refused →
      refused.Sublist rows ∧ (taken after ++ refused).Perm (taken state ++ rows) := by
  induction h with
  | nil =>
    intro refused hresult
    cases hresult
    exact ⟨.refl _, .refl _⟩
  | accepted hsave _ ih =>
    intro refused hresult
    obtain ⟨hsub, hperm⟩ := ih refused hresult
    rw [htakes.one_ok hsave, List.append_assoc] at hperm
    exact ⟨hsub.cons _, hperm⟩
  | @refused row rest result _ _ _ _ hsave _ _ ih =>
    intro refused hresult
    cases result with
    | error failure => cases hresult
    | ok others =>
      cases hresult
      obtain ⟨hsub, hperm⟩ := ih others rfl
      rw [htakes.one_error hsave] at hperm
      refine ⟨hsub.cons_cons row, ?_⟩
      exact List.perm_middle.trans ((hperm.cons row).trans List.perm_middle.symm)
  | failed _ _ => intro refused hresult; cases hresult

/-- Rows saved in cycles are taken or left, and those left keep their order. -/
theorem SavesInCycles.perm {σ : Type} {writer : RowWriter σ} {table : Table} {taken : σ → List Row}
    (htakes : writer.Takes table taken) {cycles : Nat} {rows : List Row} {state after : σ}
    {result : Except Error (List Row)}
    (h : SavesInCycles writer table cycles rows state result after) :
    ∀ refused, result = .ok refused →
      refused.Sublist rows ∧ (taken after ++ refused).Perm (taken state ++ rows) := by
  induction h with
  | spent =>
    intro refused hresult
    cases hresult
    exact ⟨.refl _, .refl _⟩
  | accepted hsave =>
    intro refused hresult
    cases hresult
    rw [htakes.batch_ok hsave, List.append_nil]
    exact ⟨List.nil_sublist _, .refl _⟩
  | failed _ _ => intro refused hresult; cases hresult
  | stopped _ _ _ => intro refused hresult; cases hresult
  | cleared hsave _ hsingly =>
    intro refused hresult
    cases hresult
    have hparts := hsingly.perm htakes [] rfl
    rwa [htakes.batch_error hsave] at hparts
  | @again _ _ left _ _ _ _ _ _ hsave _ hsingly _ _ ih =>
    intro refused hresult
    obtain ⟨hsub, hperm⟩ := hsingly.perm htakes left rfl
    obtain ⟨hsubNext, hpermNext⟩ := ih refused hresult
    rw [htakes.batch_error hsave] at hperm
    exact ⟨hsubNext.trans hsub, hpermNext.trans hperm⟩

/-- A save that succeeds has had every row accepted. -/
theorem Takes.of_ok {σ : Type} {writer : RowWriter σ} {table : Table} {taken : σ → List Row}
    (htakes : writer.Takes table taken) {rows : List Row} {maxRetries : Nat} {state after : σ}
    (hrun : runFrom (writer.saveWithDegradation table rows maxRetries) state = (.ok (), after)) :
    (taken after).Perm (taken state ++ rows) := by
  have hcourse := saveWithDegradation_runs writer table rows maxRetries state
  rw [hrun] at hcourse
  cases hcourse with
  | nothing => rw [List.append_nil]
  | saved _ hcycles => simpa only [List.append_nil] using (hcycles.perm htakes [] rfl).2

/-- A save that ends in a conflict names the keys of the rows it never had accepted. -/
theorem Takes.of_conflict {σ : Type} {writer : RowWriter σ} {table : Table} {taken : σ → List Row}
    (htakes : writer.Takes table taken) {rows : List Row} {maxRetries : Nat} {state after : σ}
    {ids : List String}
    (hrun : runFrom (writer.saveWithDegradation table rows maxRetries) state =
      (.error (.conflict ids), after)) :
    ∃ refused, refused ≠ [] ∧ refused.Sublist rows ∧
      (taken after ++ refused).Perm (taken state ++ rows) ∧ ids = refused.filterMap table.key? := by
  have hcourse := saveWithDegradation_runs writer table rows maxRetries state
  rw [hrun] at hcourse
  cases hcourse with
  | left _ hcycles hrefused =>
    obtain ⟨hsub, hperm⟩ := hcycles.perm htakes _ rfl
    exact ⟨_, hrefused, hsub, hperm, rfl⟩
  | failed _ _ hother => simp [Error.isConflict] at hother

section

variable {σ β : Type} {writer : RowWriter σ} {table : Table} {f : σ → β}

/-- Whether a save is accepted is found out by that save alone. -/
theorem keeps_accepted {save : Action σ Error Unit} (hsave : Keeps f save) :
    Keeps f (accepted save) := by
  refine .bind hsave.attempt fun result => ?_
  cases result with
  | ok => exact .pure _ _
  | error error =>
    dsimp only
    split
    · exact .pure _ _
    · exact .throw _ _

/-- Single saves keep what every one of them keeps. -/
theorem keeps_saveSingly (hone : ∀ row, Keeps f (writer.saveOne table row)) (rows : List Row) :
    Keeps f (writer.saveSingly table rows) := by
  induction rows with
  | nil => exact .pure _ _
  | cons row rest ih =>
    refine .bind (keeps_accepted (hone row)) fun isAccepted => ?_
    split
    · exact ih
    · exact .bind ih fun _ => .pure _ _

theorem keeps_saveCycles (hbatch : ∀ rows, Keeps f (writer.saveBatch table rows))
    (hone : ∀ row, Keeps f (writer.saveOne table row)) (cycles : Nat) (rows : List Row) :
    Keeps f (writer.saveCycles table cycles rows) := by
  induction cycles generalizing rows with
  | zero => exact .pure _ _
  | succ cycles ih =>
    refine .bind (keeps_accepted (hbatch rows)) fun isAccepted => ?_
    split
    · exact .pure _ _
    · refine .bind (keeps_saveSingly hone rows) fun refused => ?_
      cases refused with
      | nil => exact .pure _ _
      | cons row more => exact ih (row :: more)

/-- A save keeps what all calls of the writer keep. -/
theorem keeps_saveWithDegradation (hbatch : ∀ rows, Keeps f (writer.saveBatch table rows))
    (hone : ∀ row, Keeps f (writer.saveOne table row)) (rows : List Row) (maxRetries : Nat) :
    Keeps f (writer.saveWithDegradation table rows maxRetries) := by
  unfold saveWithDegradation
  split
  · exact .pure _ _
  · refine .bind (keeps_saveCycles hbatch hone _ rows) fun refused => ?_
    split
    · exact .throw _ _
    · exact .pure _ _

end

end AgentSync.RowWriter
