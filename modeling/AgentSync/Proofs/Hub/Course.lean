import AgentSync.Proofs.Degradation.Calls
import AgentSync.Proofs.Hub.Store

namespace AgentSync

open AgentSync.Action

/-- Only the keys that were refused say whether there is a conflict, and over what. -/
theorem HubStore.Saved.result_congr {saved other : Saved} (hrefused : saved.refused = other.refused)
    (hcount : saved.refused = [] → saved.count = other.count) : saved.result = other.result := by
  obtain ⟨count, refused⟩ := saved
  obtain ⟨otherCount, _⟩ := other
  obtain rfl := hrefused
  cases refused with
  | nil => rw [show count = otherCount from hcount rfl]
  | cons key rest => rfl

/-- A failure that is no conflict ends the saves. -/
theorem HubStore.Saved.afterTable_of_stopped (saved : HubStore.Saved) (count : Nat) {error : Error}
    (hother : error.isConflict = false) :
    saved.afterTable count (.error error) = .error error := by
  cases error with
  | conflict ids => cases hother
  | _ => rfl

/-- What all saves come to is the same, whether the keys refused in one table are counted as refused
before the rest or with the rest. -/
theorem HubStore.Saved.result_after_conflict (saved : HubStore.Saved) (rows rest : Nat)
    (ids : List String) (result : Except Error (List String)) :
    (result.bind fun keys => HubStore.Saved.result
      ⟨saved.count + (rows - ids.length) + rest, saved.refused ++ ids ++ keys⟩) =
    (result.map (ids ++ ·)).bind fun keys => HubStore.Saved.result
      ⟨saved.count + (rows + rest), saved.refused ++ keys⟩ := by
  cases result with
  | error error => rfl
  | ok keys =>
    -- If nothing is refused the conflict of this table was over rows without a key.
    refine HubStore.Saved.result_congr (List.append_assoc _ _ _) fun hnone => ?_
    have hids : ids = [] := (List.append_eq_nil_iff.mp (List.append_eq_nil_iff.mp hnone).1).2
    rw [hids, List.length_nil, Nat.sub_zero, Nat.add_assoc]

namespace RowWriter

variable {σ : Type} {writer : RowWriter σ} {maxRetries : Nat}

/-- Saves the rows of tables in turn, each with so many cycles. -/
def saveTables (writer : RowWriter σ) (maxRetries : Nat) :
    List (Table × List Row) → HubStore.Saved → Action σ Error Nat
  | [], saved => Action.ofExcept saved.result
  | (table, rows) :: rest, saved => do
    let result ← Action.attempt (writer.saveWithDegradation table rows maxRetries)
    let saved ← Action.ofExcept (saved.afterTable rows.length result)
    writer.saveTables maxRetries rest saved

/-- Tables saved one after another, from a state to a state, with the keys of the rows refused or
the failure that stopped them. Each table has a save of its own. -/
inductive SavesInTurn (writer : RowWriter σ) (maxRetries : Nat) :
    List (Table × List Row) → σ → Except Error (List String) → σ → Prop
  | done {state : σ} : SavesInTurn writer maxRetries [] state (.ok []) state
  | saved {table : Table} {rows : List Row} {rest : List (Table × List Row)}
      {result : Except Error (List String)} {state middle after : σ}
      (hsave : writer.Saves table maxRetries rows state (.ok ()) middle)
      (hrest : SavesInTurn writer maxRetries rest middle result after) :
      SavesInTurn writer maxRetries ((table, rows) :: rest) state result after
  | refused {table : Table} {rows : List Row} {ids : List String} {rest : List (Table × List Row)}
      {result : Except Error (List String)} {state middle after : σ}
      (hsave : writer.Saves table maxRetries rows state (.error (.conflict ids)) middle)
      (hrest : SavesInTurn writer maxRetries rest middle result after) :
      SavesInTurn writer maxRetries ((table, rows) :: rest) state (result.map (ids ++ ·)) after
  | stopped {table : Table} {rows : List Row} {error : Error} {rest : List (Table × List Row)}
      {state after : σ} (hsave : writer.Saves table maxRetries rows state (.error error) after)
      (hother : error.isConflict = false) :
      SavesInTurn writer maxRetries ((table, rows) :: rest) state (.error error) after

/-- A save reports no violation but as a conflict. -/
theorem Saves.isConflict_eq_false {table : Table} {rows : List Row} {state after : σ}
    {error : Error} (h : writer.Saves table maxRetries rows state (.error error) after)
    (hnone : ∀ ids, error ≠ .conflict ids) : error.isConflict = false := by
  cases h with
  | left => exact absurd rfl (hnone _)
  | failed _ _ hother => exact hother

/-- The first table has a save of its own, whose answer decides whether the next one follows. -/
theorem runFrom_saveTables_cons (writer : RowWriter σ) (maxRetries : Nat) (table : Table)
    (rows : List Row) (rest : List (Table × List Row)) (saved : HubStore.Saved) (state : σ) :
    runFrom (writer.saveTables maxRetries ((table, rows) :: rest) saved) state =
      let (answer, middle) := runFrom (writer.saveWithDegradation table rows maxRetries) state
      match saved.afterTable rows.length answer with
      | .ok more => runFrom (writer.saveTables maxRetries rest more) middle
      | .error error => (.error error, middle) := by
  rw [saveTables, runFrom_bind, runFrom_attempt]
  dsimp only
  rw [runFrom_bind, runFrom_ofExcept]
  cases saved.afterTable rows.length
    (runFrom (writer.saveWithDegradation table rows maxRetries) state).1 <;> rfl

/-- Saving tables is saving them in turn; what was refused before is refused still. -/
theorem saveTables_runs (writer : RowWriter σ) (maxRetries : Nat)
    (tables : List (Table × List Row)) :
    ∀ (saved : HubStore.Saved) (state : σ), ∃ result after,
      writer.SavesInTurn maxRetries tables state result after ∧
        runFrom (writer.saveTables maxRetries tables saved) state =
          (result.bind fun keys => HubStore.Saved.result
            ⟨saved.count + (tables.flatMap Prod.snd).length, saved.refused ++ keys⟩, after) := by
  induction tables with
  | nil =>
    intro saved state
    refine ⟨.ok [], state, .done, ?_⟩
    rw [saveTables, runFrom_ofExcept]
    exact congrArg (·, state)
      (HubStore.Saved.result_congr (List.append_nil _).symm fun _ => rfl)
  | cons entry rest ih =>
    intro saved state
    obtain ⟨table, rows⟩ := entry
    have hcourse := saveWithDegradation_runs writer table rows maxRetries state
    rw [runFrom_saveTables_cons, List.flatMap_cons, List.length_append]
    rcases hsave : runFrom (writer.saveWithDegradation table rows maxRetries) state with
      ⟨error | ⟨⟩, middle⟩
    · rw [hsave] at hcourse
      by_cases hconflict : ∃ ids, error = .conflict ids
      · obtain ⟨ids, rfl⟩ := hconflict
        obtain ⟨result, after, hturn, hrun⟩ :=
          ih ⟨saved.count + (rows.length - ids.length), saved.refused ++ ids⟩ middle
        refine ⟨_, after, .refused hcourse hturn, hrun.trans ?_⟩
        exact congrArg (·, after) (saved.result_after_conflict _ _ ids result)
      · have hother := hcourse.isConflict_eq_false fun ids heq => hconflict ⟨ids, heq⟩
        refine ⟨_, middle, .stopped hcourse hother, ?_⟩
        dsimp only
        rw [saved.afterTable_of_stopped _ hother]
        rfl
    · rw [hsave] at hcourse
      obtain ⟨result, after, hturn, hrun⟩ :=
        ih { saved with count := saved.count + rows.length } middle
      refine ⟨result, after, .saved hcourse hturn, hrun.trans ?_⟩
      rw [Nat.add_assoc]

end RowWriter

/-- The calls by which tables are saved in turn, with the keys of the rows refused or the failure
that ends them: those of each table's own save follow those of the table before. -/
inductive TurnCalls (limit : Nat) :
    List (Table × List Row) → List SaveRecord → Except Error (List String) → Prop
  | done : TurnCalls limit [] [] (.ok [])
  | saved {table : Table} {rows refused : List Row} {rest : List (Table × List Row)}
      {records more : List SaveRecord} {result : Except Error (List String)}
      (hsave : SaveCalls table limit rows records (.ok refused))
      (hrest : TurnCalls limit rest more result) :
      TurnCalls limit ((table, rows) :: rest) (records ++ more)
        (result.map (refused.filterMap table.key? ++ ·))
  | stopped {table : Table} {rows : List Row} {rest : List (Table × List Row)}
      {records : List SaveRecord} {error : Error}
      (hsave : SaveCalls table limit rows records (.error error)) :
      TurnCalls limit ((table, rows) :: rest) records (.error error)

/-- The calls of all turns end in the failure that the last of them reports, if it is no conflict.
-/
theorem TurnCalls.endsIn {limit : Nat} {tables : List (Table × List Row)}
    {records : List SaveRecord} {result : Except Error (List String)}
    (h : TurnCalls limit tables records result) : EndsIn records (Error.stopping? result) := by
  induction h with
  | done => exact .nil
  | saved hsave _ ih =>
    rw [Error.stopping?_map]
    exact hsave.endsIn.append ih
  | stopped hsave =>
    have hends := hsave.endsIn
    cases hsave with
    | failed _ _ _ _ _ hother =>
      rw [Error.stopping?_of_other hother]
      rwa [Error.stopping?_of_other hother] at hends

namespace RowWriter

variable {σ : Type} {writer : RowWriter σ} {maxRetries : Nat} {tables : List (Table × List Row)}
  {result : Except Error (List String)} {state after : σ}

/-- The calls of tables that are saved in turn, for any writer. -/
theorem SavesInTurn.calls (h : writer.SavesInTurn maxRetries tables state result after) :
    ∃ records, writer.Makes state records after ∧
      TurnCalls (max maxRetries 1) tables records result := by
  induction h with
  | done => exact ⟨[], .nil, .done⟩
  | @saved table _ rest result _ _ _ hsave _ ih =>
    obtain ⟨more, hmore, hturn⟩ := ih
    have hkeys : result.map (([] : List Row).filterMap table.key? ++ ·) = result := by
      cases result <;> rfl
    rw [← hkeys]
    cases hsave with
    | nothing => exact ⟨_, hmore, .saved (.cleared .nil (Nat.zero_le _)) hturn⟩
    | saved hrows hcycles =>
      obtain ⟨records, hmakes, hcalls⟩ := hcycles.calls hrows
      exact ⟨_, hmakes.append hmore, .saved hcalls hturn⟩
  | refused hsave _ ih =>
    obtain ⟨more, hmore, hturn⟩ := ih
    cases hsave with
    | left hrows hcycles _ =>
      obtain ⟨records, hmakes, hcalls⟩ := hcycles.calls hrows
      exact ⟨_, hmakes.append hmore, .saved hcalls hturn⟩
    | failed _ _ hother => simp [Error.isConflict] at hother
  | stopped hsave hother =>
    cases hsave with
    | left => simp [Error.isConflict] at hother
    | failed hrows hcycles _ =>
      obtain ⟨records, hmakes, hcalls⟩ := hcycles.calls hrows
      exact ⟨records, hmakes, .stopped hcalls⟩

/-- Tables saved in turn are calls of the writer, and a failure that is no conflict is that of the
last one. -/
theorem SavesInTurn.reaches (h : writer.SavesInTurn maxRetries tables state result after) :
    writer.Reaches state (Error.stopping? result) after := by
  obtain ⟨records, hmakes, hcalls⟩ := h.calls
  exact ⟨records, hmakes, hcalls.endsIn⟩

/-- What stops tables that are saved in turn is never a conflict. -/
theorem SavesInTurn.not_isConflict (h : writer.SavesInTurn maxRetries tables state result after) :
    ∀ error, result = .error error → error.isConflict = false := by
  induction h with
  | done => nofun
  | saved _ _ ih => exact ih
  | @refused _ _ _ _ result _ _ _ _ _ ih =>
    intro error hresult
    cases result with
    | error failure => exact ih error hresult
    | ok keys => cases hresult
  | stopped _ hother =>
    rintro error ⟨⟩
    exact hother

end RowWriter

namespace HubStore

variable {ω : Type}

/-- The hub saves tables as any writer does, with its own number of cycles. -/
theorem saveTables_eq (store : HubStore ω) (tables : List (Table × List Row)) (saved : Saved) :
    store.saveTables tables saved = store.writer.saveTables store.maxRetries tables saved := by
  induction tables generalizing saved with
  | nil => rfl
  | cons entry rest ih =>
    obtain ⟨table, rows⟩ := entry
    rw [saveTables, RowWriter.saveTables]
    simp only [ih]

/-- Which rows of tables were refused, by what was accepted before and after. -/
structure Accounts (tables : List (Table × List Row)) (before after refused : Table → List Row) :
    Prop where
  sublist : ∀ table rows, (table, rows) ∈ tables → (refused table).Sublist rows
  perm : ∀ table rows, (table, rows) ∈ tables →
    (after table ++ refused table).Perm (before table ++ rows)
  other : ∀ table, table ∉ tables.map Prod.fst → refused table = [] ∧ after table = before table

/-- The keys of the rows refused, in the order of the tables and of their rows. -/
def refusedKeys (tables : List (Table × List Row)) (refused : Table → List Row) : List String :=
  tables.flatMap fun entry => (refused entry.1).filterMap entry.1.key?

section

variable {tables : List (Table × List Row)} {before middle after refused : Table → List Row}
  {table : Table} {rows left : List Row}

/-- A table before the others adds the rows refused of its own. -/
theorem Accounts.cons (h : Accounts tables middle after refused)
    (hfresh : table ∉ tables.map Prod.fst) (hsub : left.Sublist rows)
    (hperm : (middle table ++ left).Perm (before table ++ rows))
    (hkeep : ∀ other, other ≠ table → middle other = before other) :
    Accounts ((table, rows) :: tables) before after (Function.update refused table left) := by
  have hother {other : Table} {otherRows : List Row} (hlater : (other, otherRows) ∈ tables) :
      other ≠ table := fun heq => hfresh (heq ▸ List.mem_map_of_mem hlater)
  refine ⟨fun other otherRows hmem => ?_, fun other otherRows hmem => ?_, fun other hnot => ?_⟩
  · rcases List.mem_cons.mp hmem with heq | hlater
    · cases heq
      rwa [Function.update_self]
    · rw [Function.update_of_ne (hother hlater)]
      exact h.sublist other otherRows hlater
  · rcases List.mem_cons.mp hmem with heq | hlater
    · cases heq
      rwa [Function.update_self, (h.other table hfresh).2]
    · rw [Function.update_of_ne (hother hlater), ← hkeep other (hother hlater)]
      exact h.perm other otherRows hlater
  · obtain ⟨hne, hnot⟩ := not_or.mp (mt List.mem_cons.mpr hnot)
    rw [Function.update_of_ne hne, ← hkeep other hne]
    exact h.other other hnot

/-- The refused rows of the first table come first in a conflict. -/
theorem refusedKeys_cons (hfresh : table ∉ tables.map Prod.fst) :
    refusedKeys ((table, rows) :: tables) (Function.update refused table left) =
      left.filterMap table.key? ++ refusedKeys tables refused := by
  unfold refusedKeys
  rw [List.flatMap_cons, Function.update_self]
  refine congrArg _ (List.flatMap_congr fun entry hentry => ?_)
  have hother : entry.1 ≠ table := fun heq => hfresh (heq ▸ List.mem_map_of_mem hentry)
  rw [Function.update_of_ne hother]

end

end HubStore

open HubStore in
/-- Tables saved in turn to the end have every row accepted or refused, and the keys are those of
the rows refused. -/
theorem RowWriter.SavesInTurn.accounts {ω : Type} {db : Database ω} {maxRetries : Nat}
    {tables : List (Table × List Row)} {result : Except Error (List String)}
    {state after : HubState (Beside (List Sent) ω)}
    (h : (HubStore.mk db.recorded maxRetries).writer.SavesInTurn maxRetries tables state result
      after) :
    (tables.map Prod.fst).Nodup → ∀ keys, result = .ok keys → ∃ refused,
      Accounts tables (fun table => acceptedRows table state.rest.own)
        (fun table => acceptedRows table after.rest.own) refused ∧
      keys = refusedKeys tables refused := by
  have hkeep {table : Table} {rows : List Row} {outcome : Except Error Unit}
      {state after : HubState (Beside (List Sent) ω)}
      (hsave : (HubStore.mk db.recorded maxRetries).writer.Saves table maxRetries rows state outcome
        after) (other : Table) (hother : other ≠ table) :
      acceptedRows other after.rest.own = acceptedRows other state.rest.own := by
    have hkept := keeps_save db maxRetries hother rows state
    rwa [hsave.runFrom_eq] at hkept
  induction h with
  | done =>
    rintro - keys ⟨⟩
    exact ⟨fun _ => [], ⟨nofun, nofun, fun _ _ => ⟨rfl, rfl⟩⟩, rfl⟩
  | @saved table rows _ _ _ _ _ hsave _ ih =>
    intro hnodup keys hresult
    obtain ⟨hfresh, hnodup⟩ := List.nodup_cons.mp hnodup
    obtain ⟨refused, haccounts, rfl⟩ := ih hnodup keys hresult
    have hperm := (writer_takes db maxRetries table).of_ok hsave.runFrom_eq
    refine ⟨_, haccounts.cons hfresh (List.nil_sublist rows) ?_ (hkeep hsave), ?_⟩
    · rwa [List.append_nil]
    · rw [refusedKeys_cons hfresh]
      rfl
  | @refused table rows ids _ result _ _ _ hsave _ ih =>
    intro hnodup keys hresult
    obtain ⟨hfresh, hnodup⟩ := List.nodup_cons.mp hnodup
    cases result with
    | error error => cases hresult
    | ok others =>
      cases hresult
      obtain ⟨refused, haccounts, rfl⟩ := ih hnodup others rfl
      obtain ⟨left, -, hsub, hperm, rfl⟩ :=
        (writer_takes db maxRetries table).of_conflict hsave.runFrom_eq
      exact ⟨_, haccounts.cons hfresh hsub hperm (hkeep hsave), (refusedKeys_cons hfresh).symm⟩
  | stopped => nofun

end AgentSync
