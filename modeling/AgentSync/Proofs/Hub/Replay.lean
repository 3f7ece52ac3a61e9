import AgentSync.Memory.Script
import AgentSync.Proofs.Degradation.Course
import AgentSync.Proofs.Dict
import AgentSync.Proofs.Hub.Store

namespace AgentSync

open AgentSync.Action

namespace ScriptedDatabase

/-- A database that gives some answers in turn, after some statements. -/
def replaying (answers : List (Except DatabaseError Answer)) (sent : List Command) :
    ScriptedDatabase :=
  ⟨[], answers.map (⟨none, none, ·⟩), sent⟩

/-- The next answer is given to whatever is asked next. -/
theorem runFrom_replaying {command : Command} (hcontrol : command.isControl = false)
    (answer : Except DatabaseError Answer) (rest : List (Except DatabaseError Answer))
    (sent : List Command) :
    runFrom (database.run command) (replaying (answer :: rest) sent) =
      (answer.mapError Error.database, replaying rest (sent ++ [command])) := by
  have hsend : (database.send command).run (replaying (answer :: rest) sent) =
      (answer, replaying rest (sent ++ [command])) := by
    have hfits : fits ⟨none, none, answer⟩ command = true := by
      simp [fits, startsWith, hcontrol]
    change (if fits ⟨none, none, answer⟩ command = true then _ else _ : StateM _ _) _ = _
    rw [if_pos hfits]
    rfl
  rw [Database.runFrom_run, hsend]

end ScriptedDatabase

namespace HubStore

/-- The columns of a table as an answer names them. -/
def Reveals (sent : List Sent) (table : Table) (columns : List String) : Prop :=
  ∃ answer, ⟨.columnsOf table, .ok answer⟩ ∈ sent ∧ answer.rows.mapM Json.string? = some columns

/-- Rows with the same of the columns that are known, but for the column that is never saved. -/
def SameColumns (known : Table → List String → Prop) (table : Table) (row other : Row) : Prop :=
  ∀ columns, known table columns → ∀ column ∈ columns, column ≠ flagColumn →
    (column ∈ row.keys ↔ column ∈ other.keys)

/-- The columns that an upsert names are the same for rows with the same of them. -/
theorem insertColumns_congr {known : Table → List String → Prop} {table : Table}
    {columns : List String} (hknown : known table columns) {rows others : List Row}
    (hrows : List.Forall₂ (SameColumns known table) rows others) :
    insertColumns columns rows = insertColumns columns others := by
  refine List.filter_congr fun column hcolumn => ?_
  by_cases hflag : column = flagColumn
  · simp [hflag]
  · have hany : (rows.any (·.keys.contains column)) = others.any (·.keys.contains column) := by
      induction hrows with
      | nil => rfl
      | cons hsame _ ih =>
        have hkeys := hsame columns hknown column hcolumn hflag
        rw [List.any_cons, List.any_cons, ih]
        simp [hkeys]
    rw [hany]

/-- Statements in the same place of two saves: they ask for the same columns, or they save paired
rows under the same names. -/
inductive Twin (known : Table → List String → Prop) (pair : Table → Row → Row → Prop) :
    Command → Command → Prop
  | columnsOf (table : Table) : Twin known pair (.columnsOf table) (.columnsOf table)
  | upsert {table : Table} {columns : List String} {rows others : List Row}
      (hknown : known table columns) (hsome : insertColumns columns rows ≠ [])
      (hrows : List.Forall₂ (pair table) rows others) :
      Twin known pair (.upsert table (insertColumns columns rows) rows)
        (.upsert table (insertColumns columns rows) others)

/-- The text of a statement is the same for its twin, since only the values of rows differ. -/
theorem Twin.text_eq {known : Table → List String → Prop} {pair : Table → Row → Row → Prop}
    {command other : Command} (h : Twin known pair command other) : other.text = command.text := by
  cases h with
  | columnsOf => rfl
  | upsert => rfl

/-- The columns that are remembered are known. -/
def Remembers (known : Table → List String → Prop) (cache : ColumnCache) : Prop :=
  ∀ table columns, cache table = some columns → known table columns

/-- An action over a database that gives the answers of other statements: it sends twins of those
statements and comes to `outcome`. -/
def Echoes {α : Type} (known : Table → List String → Prop) (pair : Table → Row → Row → Prop)
    (again : Action (HubState ScriptedDatabase) Error α) (cache : ColumnCache) (sent : List Sent)
    (outcome : Except Error α) (after : ColumnCache) : Prop :=
  ∃ commands, List.Forall₂ (Twin known pair) (sent.map (·.command)) commands ∧
    ∀ rest written,
      runFrom again ⟨cache, .replaying (sent.map (·.answer) ++ rest) written⟩ =
        (outcome, ⟨after, .replaying rest (written ++ commands)⟩)

/-- What was sent on the way from one state to another, if all columns that came up are known. -/
def Replayed {ω : Type} (known : Table → List String → Prop)
    (before after : HubState (Beside (List Sent) ω)) (fits : List Sent → Prop) : Prop :=
  ∃ sent, after.rest.own = before.rest.own ++ sent ∧
    (Remembers known before.own → (∀ table columns, Reveals sent table columns →
      known table columns) → Remembers known after.own ∧ fits sent)

namespace Echoes

variable {α β : Type} {known : Table → List String → Prop} {pair : Table → Row → Row → Prop}
  {cache middle after : ColumnCache} {sent more : List Sent}

/-- An action that sends nothing is the same again. -/
theorem silent {again : Action (HubState ScriptedDatabase) Error α} {outcome : Except Error α}
    (hagain : ∀ script, runFrom again ⟨cache, script⟩ = (outcome, ⟨cache, script⟩)) :
    Echoes known pair again cache [] outcome cache :=
  ⟨[], .nil, fun rest written => by rw [List.append_nil]; exact hagain _⟩

theorem pure (value : α) : Echoes known pair (Pure.pure value) cache [] (.ok value) cache :=
  silent fun _ => rfl

theorem throw (error : Error) :
    Echoes known pair (MonadExcept.throw error : Action _ Error α) cache [] (.error error) cache :=
  silent fun _ => rfl

theorem bind {first : Action (HubState ScriptedDatabase) Error α}
    (next : α → Action (HubState ScriptedDatabase) Error β) {value : α} {outcome : Except Error β}
    (hfirst : Echoes known pair first cache sent (.ok value) middle)
    (hnext : Echoes known pair (next value) middle more outcome after) :
    Echoes known pair (first >>= next) cache (sent ++ more) outcome after := by
  obtain ⟨commands, htwins, hrun⟩ := hfirst
  obtain ⟨others, hothers, hrunNext⟩ := hnext
  refine ⟨commands ++ others, ?_, fun rest written => ?_⟩
  · rw [List.map_append]
    exact List.rel_append htwins hothers
  · rw [List.map_append, List.append_assoc, runFrom_bind_of_ok (hrun _ written), hrunNext,
      List.append_assoc]

theorem bind_error {first : Action (HubState ScriptedDatabase) Error α}
    (next : α → Action (HubState ScriptedDatabase) Error β) {error : Error}
    (hfirst : Echoes known pair first cache sent (.error error) after) :
    Echoes known pair (first >>= next) cache sent (.error error) after := by
  obtain ⟨commands, htwins, hrun⟩ := hfirst
  exact ⟨commands, htwins, fun rest written => runFrom_bind_of_error (hrun rest written) _⟩

theorem map {first : Action (HubState ScriptedDatabase) Error α} {outcome : Except Error α}
    (f : α → β) (hfirst : Echoes known pair first cache sent outcome after) :
    Echoes known pair (do return f (← first)) cache sent (outcome.map f) after := by
  cases outcome with
  | error error => exact hfirst.bind_error _
  | ok value =>
    have hall := hfirst.bind (fun value => Pure.pure (f value)) (pure (f value))
    rwa [List.append_nil] at hall

theorem attempt {again : Action (HubState ScriptedDatabase) Error α} {outcome : Except Error α}
    (h : Echoes known pair again cache sent outcome after) :
    Echoes known pair (Action.attempt again) cache sent (.ok outcome) after := by
  obtain ⟨commands, htwins, hrun⟩ := h
  refine ⟨commands, htwins, fun rest written => ?_⟩
  rw [runFrom_attempt, hrun]

/-- A statement that gets the answer of its twin. -/
theorem run {command other : Command} (htwin : Twin known pair command other)
    (answer : Except DatabaseError Answer) :
    Echoes known pair (Beside.action (ScriptedDatabase.database.run other)) cache
      [⟨command, answer⟩] (answer.mapError Error.database) cache := by
  refine ⟨[other], .cons htwin .nil, fun rest written => ?_⟩
  have hcontrol : other.isControl = false := by
    cases htwin with
    | columnsOf => rfl
    | upsert => rfl
  rw [Beside.runFrom_action, List.map_singleton, List.singleton_append]
  dsimp only
  rw [ScriptedDatabase.runFrom_replaying hcontrol]

section

variable {save : Action (HubState ScriptedDatabase) Error Unit}

theorem accepted_of_ok (h : Echoes known pair save cache sent (.ok ()) after) :
    Echoes known pair (RowWriter.accepted save) cache sent (.ok true) after := by
  obtain ⟨commands, htwins, hrun⟩ := h
  refine ⟨commands, htwins, fun rest written => ?_⟩
  rw [RowWriter.runFrom_accepted, hrun]

theorem accepted_of_conflict {error : Error} (hconflict : error.isConflict = true)
    (h : Echoes known pair save cache sent (.error error) after) :
    Echoes known pair (RowWriter.accepted save) cache sent (.ok false) after := by
  obtain ⟨commands, htwins, hrun⟩ := h
  refine ⟨commands, htwins, fun rest written => ?_⟩
  rw [RowWriter.runFrom_accepted, hrun]
  dsimp only
  rw [if_pos hconflict]

theorem accepted_of_error {error : Error} (hother : error.isConflict = false)
    (h : Echoes known pair save cache sent (.error error) after) :
    Echoes known pair (RowWriter.accepted save) cache sent (.error error) after := by
  obtain ⟨commands, htwins, hrun⟩ := h
  refine ⟨commands, htwins, fun rest written => ?_⟩
  rw [RowWriter.runFrom_accepted, hrun]
  dsimp only
  rw [if_neg (by simp [hother])]

end

end Echoes

namespace Replayed

variable {ω : Type} {known : Table → List String → Prop}
  {before middle after : HubState (Beside (List Sent) ω)} {fits firstFits : List Sent → Prop}

theorem refl (state : HubState (Beside (List Sent) ω)) (h : fits []) :
    Replayed known state state fits :=
  ⟨[], (List.append_nil _).symm, fun hcache _ => ⟨hcache, h⟩⟩

theorem mono {other : List Sent → Prop} (h : Replayed known before after fits)
    (hfits : ∀ sent, fits sent → other sent) : Replayed known before after other := by
  obtain ⟨sent, hsent, hall⟩ := h
  refine ⟨sent, hsent, fun hcache hreveals => ?_⟩
  obtain ⟨hafter, hfit⟩ := hall hcache hreveals
  exact ⟨hafter, hfits sent hfit⟩

/-- Columns that one part reveals are revealed by the whole. -/
theorem trans (hfirst : Replayed known before middle firstFits)
    (hnext : Replayed known middle after fun more =>
      ∀ sent, firstFits sent → fits (sent ++ more)) : Replayed known before after fits := by
  obtain ⟨sent, hsent, hfirst⟩ := hfirst
  obtain ⟨more, hmore, hnext⟩ := hnext
  refine ⟨sent ++ more, by rw [hmore, hsent, List.append_assoc], fun hcache hreveals => ?_⟩
  obtain ⟨hmiddle, hfit⟩ := hfirst hcache fun table columns ⟨answer, hmem, hread⟩ =>
    hreveals table columns ⟨answer, List.mem_append_left _ hmem, hread⟩
  obtain ⟨hafter, hfits⟩ := hnext hmiddle fun table columns ⟨answer, hmem, hread⟩ =>
    hreveals table columns ⟨answer, List.mem_append_right _ hmem, hread⟩
  exact ⟨hafter, hfits sent hfit⟩

end Replayed

theorem runFrom_columnsOf_of_some {ω : Type} (store : HubStore ω) {state : HubState ω}
    {table : Table} {columns : List String} (hcache : state.own table = some columns) :
    runFrom (store.columnsOf table) state = (.ok columns, state) := by
  rw [columnsOf, runFrom_bind, runFrom_ask]
  dsimp only
  rw [hcache]
  rfl

/-- What an answer that names columns comes to, and what is remembered of it. -/
def readColumns (cache : ColumnCache) (table : Table) :
    Except Error Answer → Except Error (List String) × ColumnCache
  | .error error => (.error error, cache)
  | .ok answer =>
    match answer.rows.mapM Json.string? with
    | none => (.error (.database .undecodable), cache)
    | some columns =>
      if columns.isEmpty then
        (.error (.internal ("table " ++ table.name ++ " has no columns")), cache)
      else (.ok columns, cache.remember table columns)

theorem runFrom_columnsOf_of_none {ω : Type} (store : HubStore ω) {cache : ColumnCache}
    {table : Table} (hcache : cache table = none) {state after : ω} {answer : Except Error Answer}
    (hsend : runFrom (store.db.run (.columnsOf table)) state = (answer, after)) :
    runFrom (store.columnsOf table) ⟨cache, state⟩ =
      ((readColumns cache table answer).1, ⟨(readColumns cache table answer).2, after⟩) := by
  rw [columnsOf, runFrom_bind, runFrom_ask]
  dsimp only
  rw [hcache, Database.queryAll]
  dsimp only
  rw [runFrom_bind, Beside.runFrom_action, runFrom_bind]
  dsimp only
  rw [hsend]
  cases answer with
  | error error => rfl
  | ok answer =>
    dsimp only [readColumns]
    cases answer.rows.mapM Json.string? with
    | none => rfl
    | some columns =>
      cases columns with
      | nil => rfl
      | cons column more => rfl

/-- An answer adds to the cache only columns that it reveals. -/
theorem readColumns_remembers {known : Table → List String → Prop} {cache : ColumnCache}
    (hcache : Remembers known cache) {table : Table} {answer : Except DatabaseError Answer}
    (hreveals : ∀ columns, Reveals [⟨.columnsOf table, answer⟩] table columns →
      known table columns) :
    Remembers known (readColumns cache table (answer.mapError Error.database)).2 ∧
      ∀ columns, (readColumns cache table (answer.mapError Error.database)).1 = .ok columns →
        known table columns := by
  cases answer with
  | error error => exact ⟨hcache, nofun⟩
  | ok answer =>
    dsimp only [Except.mapError, readColumns]
    cases hread : answer.rows.mapM Json.string? with
    | none => exact ⟨hcache, nofun⟩
    | some columns =>
      have hknown : known table columns := hreveals columns ⟨answer, .head _, hread⟩
      dsimp only
      split
      · exact ⟨hcache, nofun⟩
      · refine ⟨fun other others hother => ?_, fun others hothers => ?_⟩
        · dsimp only [ColumnCache.remember] at hother
          split at hother
          · next heq =>
            cases hother
            rwa [heq]
          · exact hcache other others hother
        · cases hothers
          exact hknown

section Saves

variable {ω : Type} {known : Table → List String → Prop} {pair : Table → Row → Row → Prop}
  {db : Database ω} {maxRetries : Nat} {table : Table}
  {before after : HubState (Beside (List Sent) ω)}

/-- The store over a database that gives answers in turn. -/
def scripted (maxRetries : Nat) : HubStore ScriptedDatabase :=
  ⟨ScriptedDatabase.database, maxRetries⟩

variable (pair) in
/-- Columns are asked for again exactly if they were, since the caches are the same. -/
theorem columnsOf_replayed {outcome : Except Error (List String)}
    (hrun : runFrom ((HubStore.mk db.recorded maxRetries).columnsOf table) before =
      (outcome, after)) :
    Replayed known before after fun sent =>
      (∀ columns, outcome = .ok columns → known table columns) ∧
        Echoes known pair ((scripted maxRetries).columnsOf table) before.own sent outcome
          after.own := by
  cases hcache : before.own table with
  | some columns =>
    rw [runFrom_columnsOf_of_some _ hcache] at hrun
    cases hrun
    refine ⟨[], (List.append_nil _).symm, fun hknown _ => ⟨hknown, ?_, ?_⟩⟩
    · rintro _ ⟨⟩
      exact hknown table columns hcache
    · exact .silent fun script => runFrom_columnsOf_of_some _ hcache
  | none =>
    obtain ⟨answer, rest, hsend⟩ := db.runFrom_recorded (.columnsOf table) before.rest
    have hcolumns := runFrom_columnsOf_of_none (HubStore.mk db.recorded maxRetries) hcache hsend
    rw [hcolumns] at hrun
    cases hrun
    refine ⟨[⟨.columnsOf table, answer⟩], rfl, fun hknown hreveals => ?_⟩
    obtain ⟨hremembers, hread⟩ := readColumns_remembers hknown (hreveals table)
    refine ⟨hremembers, hread, [.columnsOf table], .cons (.columnsOf table) .nil, ?_⟩
    exact fun rest written => runFrom_columnsOf_of_none (scripted maxRetries) hcache
      (ScriptedDatabase.runFrom_replaying rfl answer rest written)

variable (pair) in
/-- A statement is sent again as its twin. -/
theorem run_replayed {command : Command} {outcome : Except Error Answer}
    (hrun : runFrom (Beside.action (db.recorded.run command)) before = (outcome, after)) :
    Replayed known before after fun sent => ∀ other, Twin known pair command other →
      Echoes known pair (Beside.action (ScriptedDatabase.database.run other)) before.own sent
        outcome after.own := by
  obtain ⟨answer, rest, hsend⟩ := db.runFrom_recorded command before.rest
  rw [Beside.runFrom_action, hsend] at hrun
  cases hrun
  exact ⟨[⟨command, answer⟩], rfl, fun hknown _ => ⟨hknown, fun _ htwin => .run htwin answer⟩⟩

/-- Saves rows once the columns of their table are there. -/
def saveNamed {ω : Type} (store : HubStore ω) (table : Table) (rows : List Row)
    (columns : List String) : Action (HubState ω) Error Unit :=
  if insertColumns columns rows = [] then
    throw (.invalidInput ("rows for " ++ table.name ++ " share no columns with the table"))
  else do
    let _ ← Beside.action (store.db.run (.upsert table (insertColumns columns rows) rows))
    return ()

theorem saveBatch_eq {ω : Type} (store : HubStore ω) (table : Table) {rows : List Row}
    (hrows : rows ≠ []) :
    store.saveBatch table rows = store.columnsOf table >>= store.saveNamed table rows := by
  unfold saveBatch
  rw [if_neg (by simpa using hrows)]
  congr 1
  funext columns
  by_cases hnone : insertColumns columns rows = []
  · simp only [hnone, List.isEmpty_nil, if_true, saveNamed]
    rfl
  · have hsome : (insertColumns columns rows).isEmpty = false := by simpa using hnone
    simp only [hsome, hnone, Bool.false_eq_true, if_false, saveNamed]

section Batches

variable {rows : List Row} {outcome : Except Error Unit}
  (hpair : ∀ row other, pair table row other → SameColumns known table row other)

include hpair

/-- Paired rows name the same columns, so their saves go on in the same way. -/
theorem saveNamed_replayed {columns : List String}
    (hrun : runFrom ((HubStore.mk db.recorded maxRetries).saveNamed table rows columns) before =
      (outcome, after)) :
    Replayed known before after fun sent => known table columns →
      ∀ others, List.Forall₂ (pair table) rows others →
        Echoes known pair ((scripted maxRetries).saveNamed table others columns) before.own sent
          outcome after.own := by
  have hsame {others : List Row} (hknown : known table columns)
      (hothers : List.Forall₂ (pair table) rows others) :
      insertColumns columns others = insertColumns columns rows :=
    (insertColumns_congr hknown (hothers.imp hpair)).symm
  unfold saveNamed at hrun ⊢
  by_cases hnone : insertColumns columns rows = []
  · rw [if_pos hnone] at hrun
    cases hrun
    refine .refl _ fun hknown others hothers => ?_
    rw [if_pos ((hsame hknown hothers).trans hnone)]
    exact .throw _
  · rw [if_neg hnone, runFrom_map] at hrun
    rcases hsend : runFrom (Beside.action (db.recorded.run
      (.upsert table (insertColumns columns rows) rows))) before with ⟨answer, last⟩
    rw [hsend] at hrun
    cases hrun
    refine (run_replayed pair hsend).mono fun sent hupsert hknown others hothers => ?_
    rw [hsame hknown hothers, if_neg hnone]
    exact (hupsert _ (.upsert hknown hnone hothers)).map fun _ => ()

/-- A batch of paired rows is saved again by the same statements. -/
theorem saveBatch_replayed
    (hrun : runFrom ((HubStore.mk db.recorded maxRetries).saveBatch table rows) before =
      (outcome, after)) :
    Replayed known before after fun sent => ∀ others, List.Forall₂ (pair table) rows others →
      Echoes known pair ((scripted maxRetries).saveBatch table others) before.own sent outcome
        after.own := by
  cases rows with
  | nil =>
    cases hrun
    refine .refl before fun others hothers => ?_
    cases hothers
    exact .pure ()
  | cons row more =>
    have hsome {others : List Row} (hothers : List.Forall₂ (pair table) (row :: more) others) :
        others ≠ [] := by
      rintro rfl
      cases hothers
    rw [saveBatch_eq _ _ (by simp)] at hrun
    rcases hcolumns : runFrom ((HubStore.mk db.recorded maxRetries).columnsOf table) before with
      ⟨error | columns, middle⟩
    · rw [runFrom_bind_of_error hcolumns] at hrun
      cases hrun
      refine (columnsOf_replayed pair hcolumns).mono fun sent h others hothers => ?_
      rw [saveBatch_eq _ _ (hsome hothers)]
      exact h.2.bind_error _
    · rw [runFrom_bind_of_ok hcolumns] at hrun
      refine (columnsOf_replayed pair hcolumns).trans
        ((saveNamed_replayed hpair hrun).mono fun more hmore sent h others hothers => ?_)
      rw [saveBatch_eq _ _ (hsome hothers)]
      exact h.2.bind _ (hmore (h.1 columns rfl) others hothers)

end Batches

/-- Two saves that come to the same, but for the keys that a conflict names. -/
inductive Alike {α β : Type} (r : α → β → Prop) : Except Error α → Except Error β → Prop
  | ok {value : α} {other : β} (hvalue : r value other) : Alike r (.ok value) (.ok other)
  | error (error : Error) : Alike r (.error error) (.error error)
  | conflict (ids others : List String) :
      Alike r (.error (.conflict ids)) (.error (.conflict others))

namespace Alike

variable {α β : Type} {r : α → β → Prop} {result : Except Error α} {other : Except Error β}

theorem of_ok (h : Alike r result other) {value : α} (hvalue : result = .ok value) :
    ∃ answer, other = .ok answer := by
  cases h with
  | ok _ => exact ⟨_, rfl⟩
  | error _ => cases hvalue
  | conflict _ _ => cases hvalue

theorem of_error (h : Alike r result other) {error : Error} (herror : result = .error error) :
    ∃ failure, other = .error failure := by
  cases h with
  | ok _ => cases herror
  | error error => exact ⟨error, rfl⟩
  | conflict _ others => exact ⟨_, rfl⟩

/-- What is saved of a table decides on the next ones only by how the save ended. -/
theorem afterTable {r : Unit → Unit → Prop} {result other : Except Error Unit}
    (h : Alike r result other) (saved spared : Saved) (count others : Nat) :
    Alike (fun _ _ => True) (saved.afterTable count result) (spared.afterTable others other) := by
  cases h with
  | ok _ => exact .ok trivial
  | error error =>
    cases error with
    | conflict ids => exact .ok trivial
    | _ => exact .error _
  | conflict ids others => exact .ok trivial

end Alike

section

variable {rows : List Row} {cycles : Nat} {result : Except Error (List Row)}
  (hpair : ∀ row other, pair table row other → SameColumns known table row other)

include hpair

theorem saveOne_replayed {row : Row} {outcome : Except Error Unit}
    (hrun : runFrom ((HubStore.mk db.recorded maxRetries).writer.saveOne table row) before =
      (outcome, after)) :
    Replayed known before after fun sent => ∀ other, pair table row other →
      Echoes known pair ((scripted maxRetries).writer.saveOne table other) before.own sent outcome
        after.own := by
  have hbatch : runFrom ((HubStore.mk db.recorded maxRetries).saveBatch table [row]) before =
      (outcome, after) := hrun
  exact (saveBatch_replayed hpair hbatch).mono fun _ hone _ hrow => hone _ (.cons hrow .nil)

/-- Single saves are made again row by row. By induction on their course, the rows left being paired
as the rows were. -/
theorem saveSingly_replayed
    (h : RowWriter.SavesSingly (HubStore.mk db.recorded maxRetries).writer table rows before result
      after) :
    Replayed known before after fun sent => ∀ others, List.Forall₂ (pair table) rows others →
      ∃ other, Alike (List.Forall₂ (pair table)) result other ∧
        Echoes known pair ((scripted maxRetries).writer.saveSingly table others) before.own sent
          other after.own := by
  induction h with
  | nil =>
    refine .refl _ fun others hothers => ?_
    cases hothers
    exact ⟨_, .ok .nil, .pure []⟩
  | accepted hsave _ ih =>
    refine (saveOne_replayed hpair hsave).trans (ih.mono fun more hmore sent hone => ?_)
    rintro _ (_ | ⟨hrow, hrest⟩)
    obtain ⟨other, halike, hechoes⟩ := hmore _ hrest
    exact ⟨other, halike, (hone _ hrow).accepted_of_ok.bind _ hechoes⟩
  | @refused _ _ result _ _ _ _ hsave hconflict _ ih =>
    refine (saveOne_replayed hpair hsave).trans (ih.mono fun more hmore sent hone => ?_)
    rintro _ (_ | ⟨hrow, hrest⟩)
    obtain ⟨other, halike, hechoes⟩ := hmore _ hrest
    refine ⟨other.map _, ?_,
      ((hone _ hrow).accepted_of_conflict hconflict).bind _ (hechoes.map _)⟩
    cases halike with
    | ok hrefused => exact .ok (.cons hrow hrefused)
    | error error => exact .error error
    | conflict ids others => exact .conflict ids others
  | failed hsave hother =>
    refine (saveOne_replayed hpair hsave).mono fun sent hone => ?_
    rintro _ (_ | ⟨hrow, hrest⟩)
    exact ⟨_, .error _, ((hone _ hrow).accepted_of_error hother).bind_error _⟩

/-- Cycles are made again over the paired rows that they leave. By induction on their course. -/
theorem saveCycles_replayed
    (h : RowWriter.SavesInCycles (HubStore.mk db.recorded maxRetries).writer table cycles rows
      before result after) :
    Replayed known before after fun sent => ∀ others, List.Forall₂ (pair table) rows others →
      ∃ other, Alike (List.Forall₂ (pair table)) result other ∧
        Echoes known pair ((scripted maxRetries).writer.saveCycles table cycles others) before.own
          sent other after.own := by
  induction h with
  | spent => exact .refl _ fun others hothers => ⟨_, .ok hothers, .pure others⟩
  | accepted hsave =>
    refine (saveBatch_replayed hpair hsave).mono fun sent hbatch others hothers => ?_
    refine ⟨_, .ok .nil, ?_⟩
    rw [← List.append_nil sent]
    exact (hbatch others hothers).accepted_of_ok.bind _ (.pure [])
  | failed hsave hother =>
    refine (saveBatch_replayed hpair hsave).mono fun sent hbatch others hothers => ?_
    exact ⟨_, .error _, ((hbatch others hothers).accepted_of_error hother).bind_error _⟩
  | stopped hsave hconflict hsingly =>
    refine (saveBatch_replayed hpair hsave).trans ((saveSingly_replayed hpair hsingly).mono
      fun more hmore sent hbatch others hothers => ?_)
    have hrefused := (hbatch others hothers).accepted_of_conflict hconflict
    obtain ⟨other, halike, hechoes⟩ := hmore others hothers
    cases halike with
    | error => exact ⟨_, .error _, hrefused.bind _ (hechoes.bind_error _)⟩
    | conflict => exact ⟨_, .conflict _ _, hrefused.bind _ (hechoes.bind_error _)⟩
  | cleared hsave hconflict hsingly =>
    refine (saveBatch_replayed hpair hsave).trans ((saveSingly_replayed hpair hsingly).mono
      fun more hmore sent hbatch others hothers => ?_)
    have hrefused := (hbatch others hothers).accepted_of_conflict hconflict
    obtain ⟨other, halike, hechoes⟩ := hmore others hothers
    cases halike with
    | ok hleft =>
      cases hleft
      refine ⟨_, .ok .nil, hrefused.bind _ ?_⟩
      rw [← List.append_nil more]
      exact hechoes.bind _ (.pure [])
  | again hsave hconflict hsingly hsome _ ih =>
    refine (saveBatch_replayed hpair hsave).trans ((saveSingly_replayed hpair hsingly).trans
      (ih.mono fun last hlast more hmore sent hbatch others hothers => ?_))
    have hrefused := (hbatch others hothers).accepted_of_conflict hconflict
    obtain ⟨other, halike, hechoes⟩ := hmore others hothers
    cases halike with
    | ok hleft =>
      obtain ⟨final, halike, hagain⟩ := hlast _ hleft
      refine ⟨final, halike, hrefused.bind _ (hechoes.bind _ ?_)⟩
      cases hleft with
      | nil => exact absurd rfl hsome
      | cons _ _ => exact hagain

/-- A save of one table is made again. -/
theorem save_replayed {outcome : Except Error Unit}
    (hrun : runFrom ((HubStore.mk db.recorded maxRetries).writer.saveWithDegradation table rows
      maxRetries) before = (outcome, after)) :
    Replayed known before after fun sent => ∀ others, List.Forall₂ (pair table) rows others →
      ∃ other, Alike (fun _ _ => True) outcome other ∧
        Echoes known pair ((scripted maxRetries).writer.saveWithDegradation table others maxRetries)
          before.own sent other after.own := by
  cases rows with
  | nil =>
    cases hrun
    refine .refl _ fun others hothers => ?_
    cases hothers
    exact ⟨_, .ok trivial, .pure ()⟩
  | cons row rest =>
    have hcourse := RowWriter.saveWithDegradation_runs (HubStore.mk db.recorded maxRetries).writer
      table (row :: rest) maxRetries before
    rw [hrun] at hcourse
    cases hcourse with
    | saved _ hcycles =>
      refine (saveCycles_replayed hpair hcycles).mono fun sent hsent => ?_
      rintro _ (_ | ⟨hrow, hrest⟩)
      obtain ⟨other, halike, hechoes⟩ := hsent _ (.cons hrow hrest)
      cases halike with
      | ok hleft =>
        cases hleft
        refine ⟨.ok (), .ok trivial, ?_⟩
        rw [← List.append_nil sent]
        exact hechoes.bind _ (.pure ())
    | left _ hcycles hsome =>
      refine (saveCycles_replayed hpair hcycles).mono fun sent hsent => ?_
      rintro _ (_ | ⟨hrow, hrest⟩)
      obtain ⟨other, halike, hechoes⟩ := hsent _ (.cons hrow hrest)
      cases halike with
      | @ok _ left hleft =>
        refine ⟨.error (.conflict (left.filterMap table.key?)), .conflict _ _, ?_⟩
        rw [← List.append_nil sent]
        refine hechoes.bind _ ?_
        cases hleft with
        | nil => exact absurd rfl hsome
        | cons _ _ => exact .throw _
    | failed _ hcycles hother =>
      refine (saveCycles_replayed hpair hcycles).mono fun sent hsent => ?_
      rintro _ (_ | ⟨hrow, hrest⟩)
      obtain ⟨other, halike, hechoes⟩ := hsent _ (.cons hrow hrest)
      cases halike with
      | error => exact ⟨_, .error _, hechoes.bind_error _⟩
      | conflict => exact ⟨_, .conflict _ _, hechoes.bind_error _⟩

end

/-- Rows of tables that are paired one to one. -/
def PairedTables (pair : Table → Row → Row → Prop) (tables others : List (Table × List Row)) :
    Prop :=
  List.Forall₂ (fun entry other => entry.1 = other.1 ∧ List.Forall₂ (pair entry.1) entry.2 other.2)
    tables others

/-- The saves of all tables are made again. By induction on the tables; the conflicts may name other
keys, but there is one again where there was one. -/
theorem saveTables_replayed
    (hpair : ∀ table row other, pair table row other → SameColumns known table row other)
    {tables : List (Table × List Row)} {saved : Saved} {outcome : Except Error Nat}
    (hrun : runFrom ((HubStore.mk db.recorded maxRetries).saveTables tables saved) before =
      (outcome, after)) :
    Replayed known before after fun sent => ∀ others spared, PairedTables pair tables others →
      ∃ other, Echoes known pair ((scripted maxRetries).saveTables others spared) before.own sent
        other after.own := by
  induction tables generalizing before saved with
  | nil =>
    cases hrun
    refine .refl _ fun others spared hothers => ?_
    cases hothers
    exact ⟨_, .silent fun script => rfl⟩
  | cons entry rest ih =>
    obtain ⟨table, rows⟩ := entry
    rcases hsave : runFrom ((HubStore.mk db.recorded maxRetries).writer.saveWithDegradation table
      rows maxRetries) before with ⟨result, middle⟩
    have hattempt : runFrom (Action.attempt ((HubStore.mk db.recorded
        maxRetries).writer.saveWithDegradation table rows maxRetries) : Action _ Error _) before =
        (.ok result, middle) := by
      rw [runFrom_attempt, hsave]
    rw [saveTables, runFrom_bind_of_ok hattempt, runFrom_bind, runFrom_ofExcept] at hrun
    refine (save_replayed (hpair table) hsave).trans ?_
    cases hnext : saved.afterTable rows.length result with
    | error error =>
      rw [hnext] at hrun
      cases hrun
      refine .refl _ fun sent hsent => ?_
      rintro _ spared (_ | ⟨⟨rfl, hrows⟩, hrest⟩)
      obtain ⟨other, halike, hechoes⟩ := hsent _ hrows
      obtain ⟨failure, hfails⟩ := (halike.afterTable saved spared rows.length _).of_error hnext
      refine ⟨.error failure, hechoes.attempt.bind _ (.bind_error _ (.silent fun script => ?_))⟩
      rw [runFrom_ofExcept, hfails]
    | ok next =>
      rw [hnext] at hrun
      refine (ih hrun).mono fun more hmore sent hsent => ?_
      rintro _ spared (_ | ⟨⟨rfl, hrows⟩, hrest⟩)
      obtain ⟨other, halike, hechoes⟩ := hsent _ hrows
      obtain ⟨spared, hgoes⟩ := (halike.afterTable saved spared rows.length _).of_ok hnext
      obtain ⟨final, hfinal⟩ := hmore _ spared hrest
      refine ⟨final, hechoes.attempt.bind _ ?_⟩
      rw [← List.nil_append more]
      exact .bind _ (.silent fun script => by rw [runFrom_ofExcept, hgoes]) hfinal

end Saves

end HubStore

end AgentSync
