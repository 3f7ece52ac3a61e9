import AgentSync.Proofs.Hub.Influence
import AgentSync.Proofs.Hub.Notes
import Mathlib.Data.List.DropRight

namespace AgentSync

open AgentSync.Action

/-- The columns of a table that an answer names, if it can be read and names some. -/
def Sent.columns? (table : Table) : Sent → Option (List String)
  | ⟨.columnsOf other, .ok answer⟩ =>
    if other = table then (answer.rows.mapM Json.string?).filter (!·.isEmpty) else none
  | _ => none

/-- The columns of a table in the latest answer that names some. -/
def latestColumns? (table : Table) (sent : List Sent) : Option (List String) :=
  (sent.filterMap (Sent.columns? table)).getLast?

/-- The columns of a table in the latest answer that names some since columns were forgotten. -/
def knownColumns? (table : Table) (notes : List StoreNote) : Option (List String) :=
  latestColumns? table ((notes.rtakeWhile (!·.isCleared)).flatMap StoreNote.sent)

/-- What is answered later counts first. -/
theorem latestColumns?_append (table : Table) (sent more : List Sent) :
    latestColumns? table (sent ++ more) =
      (latestColumns? table more).or (latestColumns? table sent) := by
  rw [latestColumns?, List.filterMap_append, List.getLast?_append]
  rfl

theorem latestColumns?_singleton (table : Table) (entry : Sent) :
    latestColumns? table [entry] = entry.columns? table := by
  rw [latestColumns?, List.filterMap_cons]
  cases entry.columns? table <;> rfl

/-- An answer names columns of no other table. -/
theorem Sent.columns?_of_ne {table other : Table} (hother : other ≠ table)
    (answer : Except DatabaseError Answer) :
    Sent.columns? other ⟨.columnsOf table, answer⟩ = none := by
  cases answer with
  | error error => rfl
  | ok answer => exact if_neg hother.symm

/-- One more note either forgets everything or adds what its statements learn. -/
theorem knownColumns?_concat (table : Table) (notes : List StoreNote) (note : StoreNote) :
    knownColumns? table (notes ++ [note]) =
      if note.isCleared then none
      else (latestColumns? table note.sent).or (knownColumns? table notes) := by
  rw [knownColumns?, List.rtakeWhile_concat]
  cases note.isCleared with
  | true => rfl
  | false =>
    rw [Bool.not_false, if_pos rfl, if_neg Bool.false_ne_true, List.flatMap_append,
      List.flatMap_singleton, latestColumns?_append]
    rfl

/-- How a save fares when these columns are known of the tables. -/
structure SaveFits (known : Table → Option (List String)) (table : Table) (rows : List Row)
    (outcome : Except Error Unit) (sent : List Sent) : Prop where
  commands : ∀ entry ∈ sent,
    entry.command = .columnsOf table ∨ ∃ columns, entry.command = .upsert table columns rows
  asks_iff : (∃ answer, ⟨.columnsOf table, answer⟩ ∈ sent) ↔ rows ≠ [] ∧ known table = none
  nodup : (sent.map Sent.command).Nodup
  /-- An upsert has the columns of the latest answer that one of its rows mentions, in their order,
  but for the flag. -/
  uses : ∀ columns answer, ⟨.upsert table columns rows, answer⟩ ∈ sent →
    ∃ named, (latestColumns? table sent).or (known table) = some named ∧
      columns = named.filter fun column => column ≠ "is_pushed" ∧ ∃ row ∈ rows, column ∈ row.keys
  /-- Rows are sent once columns are known of which they have one. -/
  sends_iff : (∃ columns answer, ⟨.upsert table columns rows, answer⟩ ∈ sent) ↔
    ∃ named, (latestColumns? table sent).or (known table) = some named ∧
      ∃ row ∈ rows, ∃ column ∈ row.keys, column ∈ named ∧ column ≠ "is_pushed"
  /-- An answer that names no columns ends the save. -/
  fails : ∀ answer, ⟨.columnsOf table, answer⟩ ∈ sent →
    Sent.columns? table ⟨.columnsOf table, answer⟩ = none →
    sent = [⟨.columnsOf table, answer⟩] ∧ ∃ error, outcome = .error error ∧
      (error.isConflict = true ↔
        ∃ failure, answer = .error failure ∧ failure.isForeignKeyViolation = true)

/-- How a registration fares: without a name nothing is sent and there is no owner, with one the
owner is the one that the database answers. -/
inductive RegistrationFits (name : String) : Except Error Uuid → List Sent → Prop
  | nameless {outcome : Except Error Uuid} (hname : name = "") (hnone : outcome.toOption = none) :
      RegistrationFits name outcome []
  | answered {outcome : Except Error Uuid} {answer : Except DatabaseError Answer}
      (hname : name ≠ "") (howner : outcome.toOption = HubStore.ownerOf? answer) :
      RegistrationFits name outcome [⟨.registerAgent name, answer⟩]

/-- A registration asks for no columns. -/
theorem RegistrationFits.latestColumns?_eq {name : String} {outcome : Except Error Uuid}
    {sent : List Sent} (h : RegistrationFits name outcome sent) (table : Table) :
    latestColumns? table sent = none := by
  cases h with
  | nameless => rfl
  | answered => rfl

/-- How what is noted fits what is known of the tables. -/
def StoreNote.Fits (known : Table → Option (List String)) : StoreNote → Prop
  | cleared => True
  | registered name outcome sent => RegistrationFits name outcome sent
  | saved record sent => SaveFits known record.save.table record.save.rows record.answer sent

namespace HubStore

section Saves

variable {ω : Type} (db : Database ω) (maxRetries : Nat) (table : Table) (rows : List Row)

/-- What is sent of rows once the columns of their table are known. -/
inductive SendsRows (columns : List String) : Except Error Unit → List Sent → Prop
  | unshared (hnone : insertColumns columns rows = []) :
      SendsRows columns
        (.error (.invalidInput ("rows for " ++ table.name ++ " share no columns with the table")))
        []
  | upsert (hsome : insertColumns columns rows ≠ []) (answer : Except DatabaseError Answer) :
      SendsRows columns ((answer.mapError Error.database).map fun _ => ())
        [⟨.upsert table (insertColumns columns rows) rows, answer⟩]

/-- With known columns a save sends at most its upsert, and nothing when it is left without columns.
-/
theorem saveNamed_runs (columns : List String) (state : HubState (Beside (List Sent) ω)) :
    ∃ outcome sent rest,
      runFrom ((HubStore.mk db.recorded maxRetries).saveNamed table rows columns) state =
        (outcome, ⟨state.own, ⟨state.rest.own ++ sent, rest⟩⟩) ∧
      SendsRows table rows columns outcome sent := by
  unfold saveNamed
  by_cases hnone : insertColumns columns rows = []
  · rw [if_pos hnone]
    refine ⟨_, [], state.rest.rest, ?_, .unshared hnone⟩
    rw [List.append_nil]
    rfl
  · obtain ⟨answer, rest, hsend⟩ :=
      db.runFrom_recorded (.upsert table (insertColumns columns rows) rows) state.rest
    rw [if_neg hnone, runFrom_map, Beside.runFrom_action, hsend]
    exact ⟨_, _, rest, rfl, .upsert hnone answer⟩

/-- The course of a save: what is sent with which columns known before, and which are known after
it. -/
inductive SaveCourse (cache : ColumnCache) : Except Error Unit → List Sent → ColumnCache → Prop
  | nothing (hrows : rows = []) : SaveCourse cache (.ok ()) [] cache
  | unnamed (hrows : rows ≠ []) (hcache : cache table = none)
      {answer : Except DatabaseError Answer} {error : Error}
      (hanswer : Sent.columns? table ⟨.columnsOf table, answer⟩ = none)
      (hconflict : error.isConflict = true ↔
        ∃ failure, answer = .error failure ∧ failure.isForeignKeyViolation = true) :
      SaveCourse cache (.error error) [⟨.columnsOf table, answer⟩] cache
  | named (hrows : rows ≠ []) (hcache : cache table = none) {columns : List String}
      {answer : Except DatabaseError Answer} {outcome : Except Error Unit} {sent : List Sent}
      (hanswer : Sent.columns? table ⟨.columnsOf table, answer⟩ = some columns)
      (hsends : SendsRows table rows columns outcome sent) :
      SaveCourse cache outcome (⟨.columnsOf table, answer⟩ :: sent) (cache.remember table columns)
  | known (hrows : rows ≠ []) {columns : List String} (hcache : cache table = some columns)
      {outcome : Except Error Unit} {sent : List Sent}
      (hsends : SendsRows table rows columns outcome sent) : SaveCourse cache outcome sent cache

/-- An answer is read, or it is a failure. -/
theorem readColumns_eq (cache : ColumnCache) (answer : Except DatabaseError Answer) :
    (∃ columns, Sent.columns? table ⟨.columnsOf table, answer⟩ = some columns ∧
      readColumns cache table (answer.mapError Error.database) =
        (.ok columns, cache.remember table columns)) ∨
    (Sent.columns? table ⟨.columnsOf table, answer⟩ = none ∧ ∃ error : Error,
      (error.isConflict = true ↔
        ∃ failure, answer = .error failure ∧ failure.isForeignKeyViolation = true) ∧
      readColumns cache table (answer.mapError Error.database) = (.error error, cache)) := by
  cases answer with
  | error failure =>
    have hconflict : (Error.database failure).isConflict = failure.isForeignKeyViolation := rfl
    refine .inr ⟨rfl, .database failure, ?_, rfl⟩
    simp [hconflict]
  | ok answer =>
    have hread : Sent.columns? table ⟨.columnsOf table, .ok answer⟩ =
        (answer.rows.mapM Json.string?).filter (!·.isEmpty) := if_pos rfl
    rw [hread]
    dsimp only [Except.mapError, readColumns]
    cases answer.rows.mapM Json.string? with
    | none =>
      exact .inr ⟨rfl, .database .undecodable, iff_of_false (by decide) nofun, rfl⟩
    | some columns =>
      cases columns with
      | nil =>
        exact .inr ⟨rfl, .internal _, iff_of_false Bool.false_ne_true nofun, rfl⟩
      | cons column more => exact .inl ⟨_, rfl, rfl⟩

/-- Every batch save has a course, whatever the database answers. -/
theorem saveBatch_runs (state : HubState (Beside (List Sent) ω)) :
    ∃ outcome sent cache rest,
      runFrom ((HubStore.mk db.recorded maxRetries).saveBatch table rows) state =
        (outcome, ⟨cache, ⟨state.rest.own ++ sent, rest⟩⟩) ∧
      SaveCourse table rows state.own outcome sent cache := by
  by_cases hrows : rows = []
  · subst hrows
    refine ⟨_, [], state.own, state.rest.rest, ?_, .nothing rfl⟩
    rw [List.append_nil]
    rfl
  · rw [saveBatch_eq _ table hrows]
    cases hcache : state.own table with
    | some columns =>
      rw [runFrom_bind_of_ok (runFrom_columnsOf_of_some _ hcache)]
      obtain ⟨outcome, sent, rest, hrun, hsends⟩ :=
        saveNamed_runs db maxRetries table rows columns state
      exact ⟨outcome, sent, state.own, rest, hrun, .known hrows hcache hsends⟩
    | none =>
      obtain ⟨answer, rest, hsend⟩ := db.runFrom_recorded (.columnsOf table) state.rest
      have hcolumns := runFrom_columnsOf_of_none (HubStore.mk db.recorded maxRetries) hcache hsend
      obtain ⟨columns, hanswer, hread⟩ | ⟨hanswer, error, hconflict, hread⟩ :=
        readColumns_eq table state.own answer
      · rw [hread] at hcolumns
        rw [runFrom_bind_of_ok hcolumns]
        obtain ⟨outcome, sent, last, hrun, hsends⟩ :=
          saveNamed_runs db maxRetries table rows columns ⟨state.own.remember table columns,
            ⟨state.rest.own ++ [⟨.columnsOf table, answer⟩], rest⟩⟩
        rw [hrun, List.append_assoc]
        exact ⟨outcome, _, _, last, rfl, .named hrows hcache hanswer hsends⟩
      · rw [hread] at hcolumns
        rw [runFrom_bind_of_error hcolumns]
        exact ⟨_, _, _, rest, rfl, .unnamed hrows hcache hanswer hconflict⟩

variable {table rows} {cache known : ColumnCache} {outcome : Except Error Unit} {sent : List Sent}
  {columns : List String}

/-- No upsert names columns in its answer. -/
theorem SendsRows.latestColumns?_eq (h : SendsRows table rows columns outcome sent)
    (other : Table) : latestColumns? other sent = none := by
  cases h with
  | unshared => rfl
  | upsert => rfl

/-- A readable answer that names columns replaces what the cache holds for its table. -/
theorem remember_eq {answer : Except DatabaseError Answer}
    (hanswer : Sent.columns? table ⟨.columnsOf table, answer⟩ = some columns) (other : Table) :
    cache.remember table columns other =
      (latestColumns? other [⟨.columnsOf table, answer⟩]).or (cache other) := by
  rw [latestColumns?_singleton, ColumnCache.remember]
  by_cases hother : other = table
  · rw [if_pos hother, hother, hanswer, Option.some_or]
  · rw [if_neg hother, Sent.columns?_of_ne hother, Option.none_or]

/-- A save leaves known what its answer named, and what was known if it named nothing. -/
theorem SaveCourse.known_eq (h : SaveCourse table rows cache outcome sent known) (other : Table) :
    known other = (latestColumns? other sent).or (cache other) := by
  cases h with
  | nothing => rfl
  | @unnamed _ _ answer _ hanswer _ =>
    rw [latestColumns?_singleton]
    by_cases hother : other = table
    · rw [hother, hanswer, Option.none_or]
    · rw [Sent.columns?_of_ne hother, Option.none_or]
  | named _ _ hanswer hsends =>
    rw [← List.singleton_append, latestColumns?_append, hsends.latestColumns?_eq, Option.none_or,
      remember_eq hanswer]
  | known _ _ hsends => rw [hsends.latestColumns?_eq, Option.none_or]

theorem SendsRows.command_eq (h : SendsRows table rows columns outcome sent) {entry : Sent}
    (hentry : entry ∈ sent) :
    entry.command = .upsert table (insertColumns columns rows) rows := by
  cases h with
  | unshared => cases hentry
  | upsert => rw [List.mem_singleton.mp hentry]

/-- No statement of a save is sent twice. -/
theorem SendsRows.nodup (h : SendsRows table rows columns outcome sent) :
    (sent.map Sent.command).Nodup := by
  cases h with
  | unshared => exact .nil
  | upsert => exact List.nodup_singleton _

theorem SendsRows.not_mem (h : SendsRows table rows columns outcome sent)
    (answer : Except DatabaseError Answer) : ⟨.columnsOf table, answer⟩ ∉ sent :=
  fun hmem => nomatch h.command_eq hmem

/-- The columns of the upsert are those of the given ones that one of its rows mentions, but for
the flag. -/
theorem SendsRows.columns_eq (h : SendsRows table rows columns outcome sent)
    {written : List String} {answer : Except DatabaseError Answer}
    (hmem : ⟨.upsert table written rows, answer⟩ ∈ sent) :
    written = columns.filter fun column =>
      column ≠ "is_pushed" ∧ ∃ row ∈ rows, column ∈ row.keys := by
  injection h.command_eq hmem with _ hwritten
  rw [hwritten, insertColumns]
  refine List.filter_congr fun column _ => Bool.eq_iff_iff.mpr ?_
  rw [Bool.and_eq_true, decide_eq_true_iff, decide_eq_true_iff, List.any_eq_true]
  simp [flagColumn]

/-- The upsert is sent if it is left with a column. -/
theorem SendsRows.sends_iff (h : SendsRows table rows columns outcome sent) :
    (∃ written answer, ⟨.upsert table written rows, answer⟩ ∈ sent) ↔
      ∃ row ∈ rows, ∃ column ∈ row.keys, column ∈ columns ∧ column ≠ "is_pushed" := by
  cases h with
  | unshared hnone =>
    refine iff_of_false (by simp) ?_
    rintro ⟨row, hrow, column, hkey, hmem, hflag⟩
    exact List.not_mem_nil (hnone ▸ mem_insertColumns.mpr ⟨hmem, hflag, row, hrow, hkey⟩)
  | upsert hsome answer =>
    refine iff_of_true ⟨_, answer, .head _⟩ ?_
    obtain ⟨column, hcolumn⟩ := List.exists_mem_of_ne_nil _ hsome
    obtain ⟨hmem, hflag, row, hrow, hkey⟩ := mem_insertColumns.mp hcolumn
    exact ⟨row, hrow, column, hkey, hmem, hflag⟩

/-- Each way a save goes fits what was known before it. -/
theorem SaveCourse.fits (h : SaveCourse table rows cache outcome sent known) :
    SaveFits cache table rows outcome sent := by
  cases h with
  | nothing hrows =>
    refine ⟨fun _ hmem => ?_, by simp [hrows], .nil, fun _ _ hmem => ?_, by simp [hrows],
      fun _ hmem => ?_⟩
    all_goals exact absurd hmem List.not_mem_nil
  | @unnamed hrows hcache answer error hanswer hconflict =>
    have hunknown :
        (latestColumns? table [⟨.columnsOf table, answer⟩]).or (cache table) = none := by
      rw [latestColumns?_singleton, hanswer, hcache, Option.none_or]
    refine ⟨List.forall_mem_singleton.mpr (.inl rfl), iff_of_true ⟨answer, .head _⟩ ⟨hrows, hcache⟩,
      List.nodup_singleton _, fun _ _ hmem => ?_, iff_of_false ?_ ?_, fun other hmem _ => ?_⟩
    · cases List.mem_singleton.mp hmem
    · rintro ⟨columns, other, hmem⟩
      cases List.mem_singleton.mp hmem
    · rintro ⟨named, hnamed, -⟩
      cases hunknown.symm.trans hnamed
    · cases List.mem_singleton.mp hmem
      exact ⟨rfl, error, rfl, hconflict⟩
  | @named hrows hcache columns answer _ sent hanswer hsends =>
    have hlatest : (latestColumns? table (⟨.columnsOf table, answer⟩ :: sent)).or (cache table) =
        some columns := by
      rw [← List.singleton_append, latestColumns?_append, hsends.latestColumns?_eq,
        Option.none_or, latestColumns?_singleton, hanswer, Option.some_or]
    refine ⟨?_, iff_of_true ⟨answer, .head _⟩ ⟨hrows, hcache⟩, ?_, fun written other hmem => ?_, ?_,
      fun other hmem hnone => ?_⟩
    · exact List.forall_mem_cons.mpr
        ⟨.inl rfl, fun entry hentry => .inr ⟨_, hsends.command_eq hentry⟩⟩
    · refine List.nodup_cons.mpr ⟨fun hmem => ?_, hsends.nodup⟩
      obtain ⟨entry, hentry, hcommand⟩ := List.mem_map.mp hmem
      cases (hsends.command_eq hentry).symm.trans hcommand
    · rcases List.mem_cons.mp hmem with hhead | hlater
      · cases hhead
      · exact ⟨columns, hlatest, hsends.columns_eq hlater⟩
    · simpa [hlatest] using hsends.sends_iff
    · rcases List.mem_cons.mp hmem with hhead | hlater
      · cases hhead
        cases hnone.symm.trans hanswer
      · exact absurd hlater (hsends.not_mem other)
  | @known hrows columns hcache _ sent hsends =>
    have hlatest : (latestColumns? table sent).or (cache table) = some columns := by
      rw [hsends.latestColumns?_eq, Option.none_or, hcache]
    refine ⟨fun entry hentry => .inr ⟨_, hsends.command_eq hentry⟩, ?_, hsends.nodup,
      fun written other hmem => ⟨columns, hlatest, hsends.columns_eq hmem⟩, ?_,
      fun other hmem => absurd hmem (hsends.not_mem other)⟩
    · exact iff_of_false (fun ⟨answer, hmem⟩ => hsends.not_mem answer hmem) (by simp [hcache])
    · simpa [hlatest] using hsends.sends_iff

end Saves

section Runs

variable {ω α : Type} {db : Database ω} {maxRetries : Nat} {state : NotedState ω}

/-- What the notes of a store say of it. -/
structure Coheres (state : NotedState ω) : Prop where
  sent_eq : state.rest.rest.own = state.own.flatMap StoreNote.sent
  known_eq : ∀ table, state.rest.own table = knownColumns? table state.own
  fits : ∀ earlier note later, state.own = earlier ++ note :: later →
    note.Fits (knownColumns? · earlier)

/-- A new store knows nothing, and nothing is noted of it. -/
theorem coheres_start (inner : ω) : Coheres (NotedState.start inner) where
  sent_eq := rfl
  known_eq _ := rfl
  fits earlier note later h := by
    cases earlier <;> cases h

/-- One more note that fits what is known, and says what is known after it. -/
theorem Coheres.noted (h : Coheres state) {note : Except Error α → List Sent → StoreNote}
    {act : Action (HubState (Beside (List Sent) ω)) Error α} {outcome : Except Error α}
    {sent : List Sent} {cache : ColumnCache} {rest : ω}
    (hrun : runFrom act state.rest = (outcome, ⟨cache, ⟨state.rest.rest.own ++ sent, rest⟩⟩))
    (hsent : (note outcome sent).sent = sent)
    (hknown : ∀ table, cache table = if (note outcome sent).isCleared then none
      else (latestColumns? table sent).or (state.rest.own table))
    (hfits : (note outcome sent).Fits state.rest.own) :
    Coheres (runFrom (noted note act) state).2 := by
  have hafter : (runFrom (HubStore.noted note act) state).2 =
      ⟨state.own ++ [note outcome sent], ⟨cache, ⟨state.rest.rest.own ++ sent, rest⟩⟩⟩ := by
    rw [runFrom_noted, hrun]
    dsimp only
    rw [List.drop_left]
  have hcache : state.rest.own = (knownColumns? · state.own) := funext h.known_eq
  rw [hafter]
  refine ⟨?_, fun table => ?_, fun earlier other later hsplit => ?_⟩
  · dsimp only
    rw [h.sent_eq, List.flatMap_append, List.flatMap_singleton, hsent]
  · dsimp only
    rw [hknown, knownColumns?_concat, hsent, h.known_eq]
  · -- Either the new note is meant, or one that fitted already.
    rcases List.eq_nil_or_concat' later with rfl | ⟨later, last, rfl⟩
    · obtain ⟨hnotes, hnote⟩ := List.append_inj' hsplit rfl
      cases hnote
      rw [← hnotes, ← hcache]
      exact hfits
    · rw [← List.cons_append, ← List.append_assoc] at hsplit
      exact h.fits earlier other later (List.append_inj' hsplit rfl).1

/-- A registration sends its statement if the agent has a name. -/
theorem registerAgent_runs (db : Database ω) (maxRetries : Nat) (name : String)
    (state : Beside (List Sent) ω) :
    ∃ outcome sent rest,
      runFrom ((HubStore.mk db.recorded maxRetries).registerAgent name) state =
        (outcome, ⟨state.own ++ sent, rest⟩) ∧ RegistrationFits name outcome sent := by
  by_cases hname : name = ""
  · rw [registerAgent_of_nameless _ hname]
    refine ⟨.error (.invalidInput "agent name is required"), [], state.rest, ?_,
      .nameless hname rfl⟩
    rw [List.append_nil]
    rfl
  · obtain ⟨answer, rest, hsend⟩ := db.runFrom_recorded (.registerAgent name) state
    obtain ⟨outcome, hrun, howner⟩ :=
      runFrom_registerAgent (HubStore.mk db.recorded maxRetries) hname hsend
    exact ⟨outcome, _, rest, hrun, .answered hname howner⟩

/-- A registration teaches the store no columns. -/
theorem Coheres.register (h : Coheres state) (name : String) :
    Coheres (runFrom (HubStore.noted (.registered name)
      (Beside.action ((HubStore.mk db.recorded maxRetries).registerAgent name))) state).2 := by
  obtain ⟨outcome, sent, rest, hregister, hfits⟩ :=
    registerAgent_runs db maxRetries name state.rest.rest
  have hrun : runFrom (Beside.action ((HubStore.mk db.recorded maxRetries).registerAgent name))
      state.rest = (outcome, ⟨state.rest.own, ⟨state.rest.rest.own ++ sent, rest⟩⟩) := by
    rw [Beside.runFrom_action, hregister]
  refine h.noted hrun rfl (fun table => ?_) hfits
  rw [hfits.latestColumns?_eq, Option.none_or]
  rfl

/-- The saves of a store are its batch saves, those of one row included. -/
theorem perform_eq (store : HubStore ω) (save : Save) :
    store.writer.perform save = store.saveBatch save.table save.rows := by
  cases save with
  | batch table rows => rfl
  | one table row => rfl

/-- After a save the store knows what was asked for in it. -/
theorem Coheres.save (h : Coheres state) (save : Save) :
    Coheres (runFrom (notedSave db maxRetries save) state).2 := by
  obtain ⟨outcome, sent, cache, rest, hrun, hcourse⟩ :=
    saveBatch_runs db maxRetries save.table save.rows state.rest
  rw [← perform_eq] at hrun
  exact h.noted hrun rfl hcourse.known_eq hcourse.fits

/-- After columns are forgotten none of the earlier answers count. -/
theorem Coheres.clear (h : Coheres state) :
    Coheres (runFrom (HubStore.noted (fun _ _ => .cleared) clearColumnCache) state).2 := by
  have hrun : runFrom clearColumnCache state.rest =
      (.ok (), ⟨.empty, ⟨state.rest.rest.own ++ [], state.rest.rest.rest⟩⟩) := by
    rw [List.append_nil]
    rfl
  exact h.noted hrun rfl (fun _ => rfl) trivial

/-- What a store knows stays what its notes say, whichever call is made: the step of the induction
over its calls. -/
theorem Coheres.perform (h : Coheres state) (call : StoreCall) :
    Coheres (runFrom (performNoted db maxRetries call) state).2 :=
  performNoted_keeps (fun save _ h => h.save save) (fun name _ h => h.register name)
    (fun _ h => h.clear) call state h

/-- What a store knows after calls, whatever the database answers: of each table the columns in the
latest answer that named some since columns were forgotten. The calls make exactly the saves that
are noted for them: one for a call that saves rows, and for a bundle those by which its tables are
saved in turn, once its registration has given an owner. Every save goes by what was known before
it. It asks for columns exactly if it has rows and none are known; its upsert has the columns of the
latest answer that its rows mention, and is sent exactly if there are any; and an answer that names
none ends it with a failure, which is a conflict only if the database reported one. -/
theorem saves_follow_latest_columns (db : Database ω) (maxRetries : Nat) (calls : List StoreCall)
    (inner : ω) :
    ∃ records notes after,
      (serve (performNoted db maxRetries) calls).run (NotedState.start inner) = (records, after) ∧
      (serve (HubStore.mk db maxRetries).perform calls).run ⟨.empty, inner⟩ =
        (records, NotedState.bare after) ∧
      records.map StoreRecord.call = calls ∧
      after.own = notes.flatten ∧ List.Forall₂ (NotesOf maxRetries) records notes ∧
      after.rest.rest.own = after.own.flatMap StoreNote.sent ∧
      (∀ table, after.rest.own table = knownColumns? table after.own) ∧
      ∀ earlier note later, after.own = earlier ++ note :: later →
        note.Fits (knownColumns? · earlier) := by
  obtain ⟨records, notes, after, hnoted, hrecorded, hnotes, hcalls, hall⟩ :=
    serve_logs (NotesOf maxRetries) (notes_perform db maxRetries) calls (NotedState.start inner)
  obtain ⟨_, -, _, hagain, hbare, -⟩ :=
    serve_logs (fun _ _ => True) (hubRecords_perform db maxRetries) calls
      (NotedState.start inner).rest
  cases hrecorded.symm.trans hagain
  have hcoheres :
      Coheres ((serve (performNoted db maxRetries) calls).run (NotedState.start inner)).2 :=
    serve_keeps (fun call _ h => h.perform call) calls _ (coheres_start inner)
  rw [hnoted] at hcoheres
  exact ⟨records, notes, after, hnoted, hbare, hcalls, hnotes, hall, hcoheres.sent_eq,
    hcoheres.known_eq, hcoheres.fits⟩

end Runs

end HubStore

end AgentSync
