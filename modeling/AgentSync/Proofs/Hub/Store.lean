import AgentSync.Memory.Link
import AgentSync.Proofs.Beside
import AgentSync.Proofs.Bundle.Wire
import AgentSync.Proofs.Database
import AgentSync.Proofs.Degradation.Accepted

namespace AgentSync

open AgentSync.Action

/-- One more statement adds the rows that it saves if it succeeds. -/
theorem acceptedRows_append (table : Table) (sent : List Sent) (entry : Sent) :
    acceptedRows table (sent ++ [entry]) = acceptedRows table sent ++ entry.accepted table := by
  unfold acceptedRows
  rw [List.flatMap_append, List.flatMap_cons, List.flatMap_nil, List.append_nil]

/-- An accepted row was in an upsert that the database answered. -/
theorem mem_acceptedRows {table : Table} {row : Row} {sent : List Sent}
    (hrow : row ∈ acceptedRows table sent) :
    ∃ columns batch answer, ⟨.upsert table columns batch, .ok answer⟩ ∈ sent ∧ row ∈ batch := by
  obtain ⟨entry, hsent, haccepted⟩ := List.mem_flatMap.mp hrow
  unfold Sent.accepted at haccepted
  split at haccepted
  · split at haccepted
    · next hother =>
      cases hother
      exact ⟨_, _, _, hsent, haccepted⟩
    · cases haccepted
  · cases haccepted

/-- A statement that is not an upsert saves no rows. -/
theorem Sent.accepted_of_not_upsert {table : Table} {sent : Sent}
    (hcommand : ∀ other columns rows, sent.command ≠ .upsert other columns rows) :
    sent.accepted table = [] := by
  unfold accepted
  split
  · exact absurd rfl (hcommand _ _ _)
  · rfl

namespace Database

/-- A recorded database writes down what it is sent with what it answers. -/
theorem runFrom_recorded {ω : Type} (db : Database ω) (command : Command)
    (state : Beside (List Sent) ω) :
    ∃ answer rest, runFrom (db.recorded.run command) state =
      (answer.mapError Error.database, ⟨state.own ++ [⟨command, answer⟩], rest⟩) :=
  ⟨_, _, db.recorded.runFrom_run command state⟩

section Queries

variable {ω α : Type} {db : Database ω} {command : Command}
  (hcommand : ∀ other columns rows, command ≠ .upsert other columns rows) (table : Table)

include hcommand in
/-- A statement that saves no rows leaves the accepted ones as they are. -/
theorem keeps_run :
    Keeps (fun state => acceptedRows table state.own) (db.recorded.run command) := by
  intro state
  obtain ⟨answer, rest, hsend⟩ := db.runFrom_recorded command state
  rw [hsend]
  dsimp only
  rw [acceptedRows_append, Sent.accepted_of_not_upsert hcommand, List.append_nil]

include hcommand in
theorem keeps_queryAll (read : Json → Option α) :
    Keeps (fun state => acceptedRows table state.own) (db.recorded.queryAll command read) :=
  .bind (keeps_run hcommand table) fun _ => keeps_decode _ _

include hcommand in
theorem keeps_queryFirst? (read : Json → Option α) :
    Keeps (fun state => acceptedRows table state.own) (db.recorded.queryFirst? command read) := by
  refine .bind (keeps_run hcommand table) fun answer => ?_
  cases answer.rows with
  | nil => exact .pure _ _
  | cons row rest => exact .bind (keeps_decode _ _) fun _ => .pure _ _

include hcommand in
theorem keeps_queryOne (read : Json → Option α) :
    Keeps (fun state => acceptedRows table state.own) (db.recorded.queryOne command read) := by
  refine .bind (keeps_queryFirst? hcommand table read) fun value => ?_
  cases value with
  | none => exact .throw _ _
  | some value => exact .pure _ value

end Queries

section Failures

variable {ω α : Type} {p : Error → Prop} (hdatabase : ∀ error, p (.database error))
  (db : Database ω) (command : Command)

include hdatabase

theorem failsOnly_run : FailsOnly p (db.run command) := by
  intro state error hfail
  rcases hsend : (db.send command).run state with ⟨failure | answer, after⟩
  · rw [runFrom_run, hsend] at hfail
    cases hfail
    exact hdatabase failure
  · rw [runFrom_run, hsend] at hfail
    cases hfail

theorem failsOnly_decode (value : Option α) : FailsOnly p (decode value : Action ω Error α) := by
  cases value with
  | none => exact .throw (hdatabase _)
  | some value => exact .pure _ value

/-- A query for one value fails only as its statement or the reading of its answer does. -/
theorem failsOnly_queryOne (read : Json → Option α) : FailsOnly p (db.queryOne command read) := by
  have hfirst : FailsOnly p (db.queryFirst? command read) := by
    refine .bind (failsOnly_run hdatabase db command) fun answer => ?_
    cases answer.rows with
    | nil => exact .pure _ _
    | cons row rest => exact .bind (failsOnly_decode hdatabase _) fun _ => .pure _ _
  refine .bind hfirst fun value => ?_
  cases value with
  | none => exact .throw (hdatabase _)
  | some value => exact .pure _ value

end Failures

end Database

namespace HubStore

variable {ω : Type} (db : Database ω) (maxRetries : Nat)

/-- Asking for columns saves no rows. -/
theorem keeps_columnsOf (table other : Table) :
    Keeps (fun state => acceptedRows other state.rest.own)
      ((HubStore.mk db.recorded maxRetries).columnsOf table) := by
  refine .bind (.ask _ _) fun cache => ?_
  cases cache table with
  | some columns => exact .pure _ _
  | none =>
    have hquery : Keeps (fun state => acceptedRows other state.own)
        (db.recorded.queryAll (.columnsOf table) Json.string?) :=
      Database.keeps_queryAll (by simp) other Json.string?
    refine .bind (Beside.keeps_action hquery) fun columns => ?_
    dsimp only
    split
    · exact .bind (.throw _ _) fun _ => .bind (.update fun _ => rfl) fun _ => .pure _ _
    · exact .bind (.update fun _ => rfl) fun _ => .pure _ _

theorem keeps_registerAgent (name : String) (table : Table) :
    Keeps (fun state => acceptedRows table state.own)
      ((HubStore.mk db.recorded maxRetries).registerAgent name) := by
  have hrequire : Keeps (fun state : Beside (List Sent) ω => acceptedRows table state.own)
      (requireName name) := by
    unfold requireName
    split
    · exact .throw _ _
    · exact .pure _ _
  exact .bind hrequire fun _ => Database.keeps_queryOne (by simp) table _

/-- A registration never ends in a conflict over rows. -/
theorem failsOnly_registerAgent (store : HubStore ω) (name : String) :
    FailsOnly (fun error => ∀ ids, error ≠ .conflict ids) (store.registerAgent name) := by
  have hrequire : FailsOnly (σ := ω) (fun error => ∀ ids, error ≠ .conflict ids)
      (requireName name) := by
    unfold requireName
    split
    · exact .throw (by simp)
    · exact .pure _ _
  exact .bind hrequire fun _ => Database.failsOnly_queryOne (by simp) store.db _ _

/-- Saving rows of one table has no rows of another accepted. -/
theorem keeps_saveBatch {table other : Table} (hother : other ≠ table) (rows : List Row) :
    Keeps (fun state => acceptedRows other state.rest.own)
      ((HubStore.mk db.recorded maxRetries).saveBatch table rows) := by
  unfold saveBatch
  split
  · exact .pure _ _
  · refine .bind (keeps_columnsOf db maxRetries table other) fun columns => ?_
    have hupsert : Keeps (fun state => acceptedRows other state.own)
        (db.recorded.run (.upsert table (insertColumns columns rows) rows)) := by
      intro state
      obtain ⟨answer, rest, hsend⟩ :=
        db.runFrom_recorded (.upsert table (insertColumns columns rows) rows) state
      rw [hsend]
      dsimp only
      rw [acceptedRows_append]
      cases answer <;> simp [Sent.accepted, hother.symm]
    have hsend := Keeps.bind (Beside.keeps_action hupsert)
      fun _ => Keeps.pure (fun state : HubState (Beside (List Sent) ω) =>
        acceptedRows other state.rest.own) ()
    dsimp only
    split
    · exact .bind (.throw _ _) fun _ => hsend
    · exact hsend

/-- The save of one table leaves what was accepted of every other. -/
theorem keeps_save {table other : Table} (hother : other ≠ table) (rows : List Row) :
    Keeps (fun state => acceptedRows other state.rest.own)
      ((HubStore.mk db.recorded maxRetries).writer.saveWithDegradation table rows maxRetries) :=
  RowWriter.keeps_saveWithDegradation (keeps_saveBatch db maxRetries hother)
    (fun row => keeps_saveBatch db maxRetries hother [row]) rows maxRetries

/-- A batch has its rows accepted if it is saved, and otherwise none. -/
theorem acceptedRows_saveBatch {table : Table} {rows : List Row}
    {state after : HubState (Beside (List Sent) ω)} {outcome : Except Error Unit}
    (hrun : runFrom ((HubStore.mk db.recorded maxRetries).saveBatch table rows) state =
      (outcome, after)) :
    acceptedRows table after.rest.own =
      acceptedRows table state.rest.own ++ if outcome.isOk then rows else [] := by
  unfold saveBatch at hrun
  by_cases hrows : rows.isEmpty = true
  · rw [if_pos hrows] at hrun
    cases hrun
    rw [List.isEmpty_iff.mp hrows, ite_self, List.append_nil]
  · rw [if_neg hrows] at hrun
    have hkeep := keeps_columnsOf db maxRetries table table state
    rcases hcolumns : runFrom ((HubStore.mk db.recorded maxRetries).columnsOf table) state with
      ⟨error | columns, middle⟩
    · rw [hcolumns] at hkeep
      rw [runFrom_bind_of_error hcolumns] at hrun
      cases hrun
      exact hkeep.trans (List.append_nil _).symm
    · rw [hcolumns] at hkeep
      rw [runFrom_bind_of_ok hcolumns] at hrun
      dsimp only at hrun hkeep
      split at hrun
      · cases hrun
        exact hkeep.trans (List.append_nil _).symm
      · obtain ⟨answer, rest, hsend⟩ :=
          db.runFrom_recorded (.upsert table (insertColumns columns rows) rows) middle.rest
        rw [runFrom_bind, Beside.runFrom_action, hsend] at hrun
        cases answer with
        | error error =>
          cases hrun
          rw [acceptedRows_append, hkeep]
          rfl
        | ok answer =>
          cases hrun
          rw [acceptedRows_append, hkeep, Sent.accepted, if_pos rfl]
          rfl

/-- What the database accepted is what the store's writer takes. -/
theorem writer_takes (table : Table) :
    (HubStore.mk db.recorded maxRetries).writer.Takes table
      fun state => acceptedRows table state.rest.own where
  batch_ok hrun := acceptedRows_saveBatch db maxRetries hrun
  batch_error hrun := (acceptedRows_saveBatch db maxRetries hrun).trans (List.append_nil _)
  one_ok hrun := acceptedRows_saveBatch db maxRetries
    (show runFrom ((HubStore.mk db.recorded maxRetries).saveBatch table [_]) _ = _ from hrun)
  one_error hrun := (acceptedRows_saveBatch db maxRetries
    (show runFrom ((HubStore.mk db.recorded maxRetries).saveBatch table [_]) _ = _ from hrun)).trans
      (List.append_nil _)

/-- How the rows of one table fare, by the outcome of their save and by what the database has
accepted before and after: all were accepted; or a conflict names the keys of those that never
were; or there is another failure. -/
inductive Splits (table : Table) (rows before after : List Row) : Except Error Nat → Prop
  | saved {count : Nat} (hperm : after.Perm (before ++ rows)) :
      Splits table rows before after (.ok count)
  | refused {refused : List Row} (hrefused : refused ≠ []) (hsub : refused.Sublist rows)
      (hperm : (after ++ refused).Perm (before ++ rows)) :
      Splits table rows before after (.error (.conflict (refused.filterMap table.key?)))
  | failed {error : Error} (hother : ∀ ids, error ≠ .conflict ids) :
      Splits table rows before after (.error error)

/-- What a save of one table answers and what the database accepted fit each other. -/
theorem saveTables_splits {table : Table} {rows : List Row}
    (hkeys : ∀ row ∈ rows, ∃ key, table.key? row = some key)
    {state after : HubState (Beside (List Sent) ω)} {outcome : Except Error Nat}
    (hrun : runFrom ((HubStore.mk db.recorded maxRetries).saveTables [(table, rows)] ⟨0, []⟩)
      state = (outcome, after)) :
    Splits table rows (acceptedRows table state.rest.own) (acceptedRows table after.rest.own)
      outcome := by
  have htakes := writer_takes db maxRetries table
  rcases hsave : runFrom ((HubStore.mk db.recorded maxRetries).writer.saveWithDegradation table rows
    maxRetries) state with ⟨result, middle⟩
  rw [saveTables, runFrom_bind, runFrom_attempt, hsave] at hrun
  dsimp only at hrun
  rw [runFrom_bind, runFrom_ofExcept] at hrun
  cases result with
  | ok _ =>
    cases hrun
    exact .saved (htakes.of_ok hsave)
  | error error =>
    cases error with
    | conflict ids =>
      obtain ⟨refused, hrefused, hsub, hperm, rfl⟩ := htakes.of_conflict hsave
      have hids : (refused.filterMap table.key?).isEmpty = false := by
        obtain ⟨row, more, rfl⟩ := List.exists_cons_of_ne_nil hrefused
        obtain ⟨key, hkey⟩ := hkeys row (hsub.subset List.mem_cons_self)
        rw [List.filterMap_cons_some hkey, List.isEmpty_cons]
      simp only [Saved.afterTable, List.nil_append, saveTables, runFrom_ofExcept, Saved.result,
        hids, Bool.false_eq_true, ↓reduceIte] at hrun
      cases hrun
      exact .refused hrefused hsub hperm
    | _ =>
      cases hrun
      exact .failed (by simp)

/-- The rows of a bundle with one table alone are split under the owner they are given. -/
theorem insertBundle_splits {bundle : Bundle} {table : Table}
    {state after : HubState (Beside (List Sent) ω)} {outcome : Except Error Nat}
    (hrun : runFrom ((HubStore.mk db.recorded maxRetries).insertBundle bundle) state =
      (outcome, after))
    (hrows : bundle.rows table ≠ []) (honly : ∀ other, other ≠ table → bundle.rows other = [])
    (hkeys : ∀ row ∈ bundle.rows table, ∃ key, table.key? row = some key) :
    ∃ owner, Splits table ((bundle.populateOwner owner).rows table)
      (acceptedRows table state.rest.own) (acceptedRows table after.rest.own) outcome := by
  have hkeep := keeps_registerAgent db maxRetries bundle.agentName table state.rest
  have hfails := failsOnly_registerAgent (HubStore.mk db.recorded maxRetries) bundle.agentName
    state.rest
  rcases hregister : runFrom ((HubStore.mk db.recorded maxRetries).registerAgent bundle.agentName)
    state.rest with ⟨error | owner, middle⟩
  · rw [insertBundle, runFrom_bind, Beside.runFrom_action, hregister] at hrun
    rw [hregister] at hfails
    cases hrun
    exact ⟨.nil, .failed (hfails error rfl)⟩
  · rw [insertBundle, runFrom_bind, Beside.runFrom_action, hregister] at hrun
    rw [hregister] at hkeep
    have hrowsOwned : (bundle.populateOwner owner).rows table ≠ [] :=
      mt Bundle.populateOwner_rows_eq_nil.mp hrows
    have honlyOwned : ∀ other, other ≠ table → (bundle.populateOwner owner).rows other = [] :=
      fun other hother => Bundle.populateOwner_rows_eq_nil.mpr (honly other hother)
    have hkeysOwned : ∀ row ∈ (bundle.populateOwner owner).rows table,
        ∃ key, table.key? row = some key :=
      Table.exists_key_of_map_eq (bundle.keys_populateOwner owner table) hkeys
    dsimp only at hrun hkeep
    rw [Bundle.tables_of_only hrowsOwned honlyOwned] at hrun
    have hsplits := saveTables_splits db maxRetries hkeysOwned hrun
    dsimp only at hsplits
    rw [hkeep] at hsplits
    exact ⟨owner, hsplits⟩

end HubStore

end AgentSync
