import AgentSync.Proofs.Hub.Columns

namespace AgentSync

open AgentSync.Action

namespace Table

/-- The columns that an upsert overwrites in a row that is there: those it names, but for the
key. -/
def overwritten (table : Table) (columns : List String) : List String :=
  columns.filter fun column => !table.primaryKey.contains column

/-- What an upsert leaves of a stored row that has the key of a new one. A column that the new row
lacks is null in the record that is read from it. -/
def upserted (table : Table) (columns : List String) (stored row : Row) : Row :=
  stored.insertAll
    ((table.overwritten columns).map fun column => (column, (row.get? column).getD .null))

variable {table : Table} {columns : List String} {column : String}

/-- The key is never overwritten. -/
theorem mem_overwritten :
    column ∈ table.overwritten columns ↔ column ∈ columns ∧ column ∉ table.primaryKey := by
  simp [overwritten]

/-- The columns that are overwritten are those that the text of the statement sets. -/
theorem onConflict_eq (table : Table) (columns : List String) :
    Command.onConflict table columns =
      if (table.overwritten columns).isEmpty then "DO NOTHING"
      else "DO UPDATE SET " ++ ", ".intercalate ((table.overwritten columns).map fun column =>
        Command.quotedColumn column ++ " = EXCLUDED." ++ Command.quotedColumn column) := rfl

/-- A column that is overwritten has the value of the new row, or null if it has none; every other
keeps its value. -/
theorem get?_upserted (stored row : Row) :
    (table.upserted columns stored row).get? column =
      if column ∈ table.overwritten columns then some ((row.get? column).getD .null)
      else stored.get? column := by
  rw [upserted]
  have hkeys : ((table.overwritten columns).map fun column =>
      (column, (row.get? column).getD .null)).map Prod.fst = table.overwritten columns := by
    rw [List.map_map]
    exact List.map_id _
  by_cases hcolumn : column ∈ table.overwritten columns
  · rw [if_pos hcolumn]
    refine Dict.get?_insertAll_of_forall _ _ (fun value hvalue => ?_) (.inl (by rwa [hkeys]))
    obtain ⟨_, _, hentry⟩ := List.mem_map.mp hvalue
    cases hentry
    rfl
  · rw [if_neg hcolumn, Dict.get?_insertAll_of_not_mem _ _ (by rwa [hkeys])]

end Table

namespace HubStore

section Rows

variable {table : Table} {named : List String} {rows : List Row} {row : Row} {column : String}

/-- A row alone has the columns that it mentions. -/
theorem mem_insertColumns_single :
    column ∈ insertColumns named [row] ↔
      column ∈ named ∧ column ≠ flagColumn ∧ column ∈ row.keys := by
  rw [mem_insertColumns]
  simp

/-- A batch has the columns that each of its rows has alone. -/
theorem mem_insertColumns_iff_exists :
    column ∈ insertColumns named rows ↔ ∃ row ∈ rows, column ∈ insertColumns named [row] := by
  simp only [mem_insertColumns_single]
  rw [mem_insertColumns]
  constructor
  · rintro ⟨hnamed, hflag, row, hrow, hcolumn⟩
    exact ⟨row, hrow, hnamed, hflag, hcolumn⟩
  · rintro ⟨row, hrow, hnamed, hflag, hcolumn⟩
    exact ⟨hnamed, hflag, row, hrow, hcolumn⟩

/-- Alone a row has some of the columns of its batch. -/
theorem insertColumns_sublist (hrow : row ∈ rows) :
    (insertColumns named [row]).Sublist (insertColumns named rows) := by
  refine List.monotone_filter_right named fun column hcolumn => ?_
  rw [Bool.and_eq_true] at hcolumn ⊢
  refine hcolumn.imp_right fun hmentions => ?_
  rw [List.any_cons, List.any_nil, Bool.or_false] at hmentions
  exact List.any_eq_true.mpr ⟨row, hrow, hmentions⟩

/-- Of the columns that a row mentions it has the same beside others as alone. -/
theorem mem_insertColumns_iff (hrow : row ∈ rows) (hcolumn : column ∈ row.keys) :
    column ∈ insertColumns named rows ↔ column ∈ insertColumns named [row] := by
  refine ⟨fun hbatch => ?_, fun hsingle => (insertColumns_sublist hrow).subset hsingle⟩
  obtain ⟨hnamed, hflag, -⟩ := mem_insertColumns.mp hbatch
  exact mem_insertColumns_single.mpr ⟨hnamed, hflag, hcolumn⟩

/-- A batch has the columns of one of its rows exactly if this row mentions all that the others do.
-/
theorem insertColumns_eq_iff (hrow : row ∈ rows) :
    insertColumns named rows = insertColumns named [row] ↔
      ∀ other ∈ rows, ∀ column ∈ insertColumns named [other], column ∈ row.keys := by
  constructor
  · intro heq other hother column hcolumn
    have hbatch : column ∈ insertColumns named rows :=
      mem_insertColumns_iff_exists.mpr ⟨other, hother, hcolumn⟩
    rw [heq] at hbatch
    exact (mem_insertColumns_single.mp hbatch).2.2
  · -- The flag is in neither; any other column of the table is in both or in neither.
    intro hall
    refine List.filter_congr fun column hnamed => ?_
    by_cases hflag : column = flagColumn
    · simp [hflag]
    · have hmentions : (∃ other ∈ rows, column ∈ other.keys) ↔ column ∈ row.keys := by
        refine ⟨fun ⟨other, hother, hcolumn⟩ => ?_, fun hcolumn => ⟨row, hrow, hcolumn⟩⟩
        exact hall other hother column (mem_insertColumns_single.mpr ⟨hnamed, hflag, hcolumn⟩)
      rw [Bool.eq_iff_iff]
      simpa [hflag] using hmentions

/-- How a row fares in a batch and alone, for the columns that a table has. -/
structure FaresInBatch (table : Table) (named : List String) (rows : List Row) (row : Row) :
    Prop where
  sublist : (insertColumns named [row]).Sublist (insertColumns named rows)
  eq_iff : insertColumns named rows = insertColumns named [row] ↔
    ∀ other ∈ rows, ∀ column ∈ insertColumns named [other], column ∈ row.keys
  /-- Columns that the row mentions are stored alike. -/
  mentioned : ∀ stored, ∀ column ∈ row.keys,
    (table.upserted (insertColumns named rows) stored row).get? column =
      (table.upserted (insertColumns named [row]) stored row).get? column
  alone : ∀ stored, ∀ column ∉ row.keys,
    (table.upserted (insertColumns named [row]) stored row).get? column = stored.get? column
  /-- Beside other rows it loses what it does not mention, but one of them does. -/
  beside : ∀ stored, ∀ column ∉ row.keys,
    (table.upserted (insertColumns named rows) stored row).get? column =
      if column ∉ table.primaryKey ∧ ∃ other ∈ rows, column ∈ insertColumns named [other]
      then some .null else stored.get? column

/-- What becomes of one row of a batch, whatever the other rows are. -/
theorem faresInBatch (table : Table) (named : List String) (hrow : row ∈ rows) :
    FaresInBatch table named rows row where
  sublist := insertColumns_sublist hrow
  eq_iff := insertColumns_eq_iff hrow
  mentioned stored column hcolumn := by
    simp only [Table.get?_upserted, Table.mem_overwritten, mem_insertColumns_iff hrow hcolumn]
  alone stored column hcolumn := by
    refine (Table.get?_upserted stored row).trans (if_neg fun hwritten => hcolumn ?_)
    exact (mem_insertColumns_single.mp (Table.mem_overwritten.mp hwritten).1).2.2
  beside stored column hcolumn := by
    rw [Table.get?_upserted, Dict.get?_eq_none_iff.mpr hcolumn, Option.getD_none]
    refine if_congr ?_ rfl rfl
    rw [Table.mem_overwritten, mem_insertColumns_iff_exists, and_comm]

end Rows

/-- Every upsert has the columns, in the latest answer before it or else those known already, that
its own rows mention. -/
def UsesLatest (cache : ColumnCache) (sent : List Sent) : Prop :=
  ∀ earlier table columns batch answer later,
    sent = earlier ++ ⟨.upsert table columns batch, answer⟩ :: later →
    ∃ named, (latestColumns? table earlier).or (cache table) = some named ∧
      columns = insertColumns named batch

/-- Later statements go by what earlier ones have learned. -/
theorem UsesLatest.append {cache known : ColumnCache} {sent more : List Sent}
    (h : UsesLatest cache sent) (hmore : UsesLatest known more)
    (hknown : ∀ table, known table = (latestColumns? table sent).or (cache table)) :
    UsesLatest cache (sent ++ more) := by
  intro earlier table columns batch answer later hsplit
  rcases List.append_eq_append_iff.mp hsplit with ⟨between, rfl, hlater⟩ | ⟨between, rfl, hlater⟩
  · rw [latestColumns?_append, Option.or_assoc, ← hknown]
    exact hmore between table columns batch answer later hlater
  · -- The upsert is the first of those that came later, or one of those before them.
    cases between with
    | nil =>
      rw [List.append_nil] at h hknown
      rw [← hknown]
      exact hmore [] table columns batch answer later hlater.symm
    | cons entry between =>
      injection hlater with hentry hbetween
      subst hentry
      exact h earlier table columns batch answer between rfl

theorem usesLatest_nil (cache : ColumnCache) : UsesLatest cache [] := by
  intro earlier table columns batch answer later hsplit
  cases earlier <;> cases hsplit

/-- One statement goes by what the cache holds. -/
theorem usesLatest_single {cache : ColumnCache} {entry : Sent}
    (h : ∀ table columns batch, entry.command = .upsert table columns batch →
      ∃ named, cache table = some named ∧ columns = insertColumns named batch) :
    UsesLatest cache [entry] := by
  intro earlier table columns batch answer later hsplit
  cases earlier with
  | nil =>
    injection hsplit with hentry
    exact h table columns batch (by rw [hentry])
  | cons first more =>
    injection hsplit with _ hmore
    cases more <;> cases hmore

section Saves

variable {ω : Type} {db : Database ω} {maxRetries : Nat} {table : Table} {rows : List Row}
  {columns : List String} {cache known : ColumnCache} {outcome : Except Error Unit}
  {sent : List Sent}

theorem SendsRows.usesLatest (h : SendsRows table rows columns outcome sent)
    (hcache : cache table = some columns) : UsesLatest cache sent := by
  cases h with
  | unshared => exact usesLatest_nil cache
  | upsert =>
    refine usesLatest_single fun other written batch hcommand => ?_
    cases hcommand
    exact ⟨columns, hcache, rfl⟩

/-- Every upsert of a save has columns that were known by then. -/
theorem SaveCourse.usesLatest (h : SaveCourse table rows cache outcome sent known) :
    UsesLatest cache sent := by
  cases h with
  | nothing => exact usesLatest_nil cache
  | unnamed => exact usesLatest_single nofun
  | @named _ _ columns answer _ _ hanswer hsends =>
    have hquery : UsesLatest cache [⟨.columnsOf table, answer⟩] := usesLatest_single nofun
    exact hquery.append (hsends.usesLatest (if_pos rfl)) (remember_eq hanswer)
  | known _ hcache hsends => exact hsends.usesLatest hcache

/-- If columns are left the upsert is sent. -/
theorem SendsRows.eq_upsert (h : SendsRows table rows columns outcome sent)
    (hsome : insertColumns columns rows ≠ []) :
    ∃ answer, sent = [⟨.upsert table (insertColumns columns rows) rows, answer⟩] := by
  cases h with
  | unshared hnone => exact absurd hnone hsome
  | upsert _ answer => exact ⟨answer, rfl⟩

/-- Rows that share columns with their table are sent last. -/
theorem SaveCourse.sends (h : SaveCourse table rows cache outcome sent known) (hrows : rows ≠ [])
    (hnamed : (latestColumns? table sent).or (cache table) = some columns)
    (hsome : insertColumns columns rows ≠ []) :
    ∃ answer, sent.getLast? = some ⟨.upsert table (insertColumns columns rows) rows, answer⟩ := by
  have hknown := (h.known_eq table).trans hnamed
  cases h with
  | nothing hnone => exact absurd hnone hrows
  | unnamed _ hcache => cases hcache.symm.trans hknown
  | @named _ _ named _ _ _ _ hsends =>
    have hsame : named = columns := by simpa [ColumnCache.remember] using hknown
    subst hsame
    obtain ⟨answer, rfl⟩ := hsends.eq_upsert hsome
    exact ⟨answer, rfl⟩
  | known _ hcache hsends =>
    cases hcache.symm.trans hknown
    obtain ⟨answer, rfl⟩ := hsends.eq_upsert hsome
    exact ⟨answer, rfl⟩

/-- What saves leave that begin in a state: what they sent since, and what is known after it. -/
def FollowsLatest (start state : HubState (Beside (List Sent) ω)) : Prop :=
  ∃ sent, state.rest.own = start.rest.own ++ sent ∧ UsesLatest start.own sent ∧
    ∀ table, state.own table = (latestColumns? table sent).or (start.own table)

theorem FollowsLatest.refl (state : HubState (Beside (List Sent) ω)) : FollowsLatest state state :=
  ⟨[], (List.append_nil _).symm, usesLatest_nil _, fun _ => rfl⟩

/-- One more save goes by the columns known before it: the step of the induction over calls. -/
theorem FollowsLatest.save {start state : HubState (Beside (List Sent) ω)}
    (h : FollowsLatest start state) (save : Save) :
    FollowsLatest start
      (runFrom ((HubStore.mk db.recorded maxRetries).writer.perform save) state).2 := by
  obtain ⟨sent, hsent, huses, hknown⟩ := h
  obtain ⟨_, more, cache, rest, hrun, hcourse⟩ :=
    saveBatch_runs db maxRetries save.table save.rows state
  rw [perform_eq, hrun]
  refine ⟨sent ++ more, ?_, huses.append hcourse.usesLatest hknown, fun table => ?_⟩
  · rw [hsent, List.append_assoc]
  · rw [latestColumns?_append, Option.or_assoc, ← hknown]
    exact hcourse.known_eq table

/-- All calls of a save go by the columns known at their time. -/
theorem FollowsLatest.makes {start state after : HubState (Beside (List Sent) ω)}
    {records : List SaveRecord} (h : FollowsLatest start state)
    (hmakes : (HubStore.mk db.recorded maxRetries).writer.Makes state records after) :
    FollowsLatest start after :=
  hmakes.keeps (fun save _ hstate => hstate.save save) h

end Saves

/-- Saves of rows together and one by one. In all that a save with degradation sends, every upsert
has the columns of the table, but for `is_pushed`, that one of its own rows mentions, in the table's
order; its text overwrites them but for the key. Those of a batch are the columns of all its rows,
and of a row alone some of them. So a column that a row does not mention is overwritten exactly in a
batch with a row that does, by null, and never when the row is saved alone. -/
theorem batch_overwrites_what_any_row_mentions {ω : Type} (db : Database ω) (maxRetries : Nat)
    (table : Table) (rows : List Row) (state : HubState (Beside (List Sent) ω)) :
    FollowsLatest state (runFrom ((HubStore.mk db.recorded maxRetries).writer.saveWithDegradation
      table rows maxRetries) state).2 ∧
    (∀ named batch, (insertColumns named batch).Sublist named ∧
      ∀ column, column ∈ insertColumns named batch ↔
        column ∈ named ∧ column ≠ "is_pushed" ∧ ∃ row ∈ batch, column ∈ row.keys) ∧
    (∀ columns, Command.onConflict table columns =
      if (table.overwritten columns).isEmpty then "DO NOTHING"
      else "DO UPDATE SET " ++ ", ".intercalate ((table.overwritten columns).map fun column =>
        Command.quotedColumn column ++ " = EXCLUDED." ++ Command.quotedColumn column)) ∧
    (∀ save : Save, save.rows ≠ [] → ∃ sent,
      (runFrom ((HubStore.mk db.recorded maxRetries).writer.perform save) state).2.rest.own =
        state.rest.own ++ sent ∧
      ∀ named, (latestColumns? save.table sent).or (state.own save.table) = some named →
        insertColumns named save.rows ≠ [] →
        ∃ answer, sent.getLast? =
          some ⟨.upsert save.table (insertColumns named save.rows) save.rows, answer⟩) ∧
    ∀ named, ∀ row ∈ rows, FaresInBatch table named rows row := by
  refine ⟨?_, fun named batch => ⟨List.filter_sublist, fun _ => mem_insertColumns⟩,
    Table.onConflict_eq table, fun save hrows => ?_, fun named row => faresInBatch table named⟩
  · obtain ⟨records, hmakes, -⟩ := (RowWriter.saveWithDegradation_runs
      (HubStore.mk db.recorded maxRetries).writer table rows maxRetries state).reaches
    exact (FollowsLatest.refl state).makes hmakes
  · obtain ⟨outcome, sent, cache, rest, hrun, hcourse⟩ :=
      saveBatch_runs db maxRetries save.table save.rows state
    rw [perform_eq, hrun]
    exact ⟨sent, rfl, fun named => hcourse.sends hrows⟩

/-- A check with a type. -/
def typedCheck : Row := Dict.ofList [("id", .str "a"), ("type", .str "http")]

/-- A check without a type. -/
def untypedCheck : Row := Dict.ofList [("id", .str "b")]

/-- A check that is stored under the key of `untypedCheck`. -/
def storedCheck : Row := Dict.ofList [("id", .str "b"), ("type", .str "dns")]

/-- A hub that knows columns of checks, over a database that answers nothing. -/
def hubWithColumns : HubState ScriptedDatabase :=
  ⟨ColumnCache.empty.remember .checks ["id", "agent_id", "type", "is_pushed"], ⟨[], [], []⟩⟩

/-- A check without a type loses the type that is stored if it is saved beside one with a type, and
keeps it if it is saved alone. -/
theorem type_lost_in_batch :
    (runFrom ((HubStore.new ScriptedDatabase.database).saveBatch .checks [typedCheck, untypedCheck])
      hubWithColumns).2.rest.sent =
        [.upsert .checks ["id", "type"] [typedCheck, untypedCheck]] ∧
    (runFrom ((HubStore.new ScriptedDatabase.database).saveOne .checks untypedCheck)
      hubWithColumns).2.rest.sent = [.upsert .checks ["id"] [untypedCheck]] ∧
    (Table.checks.upserted ["id", "type"] storedCheck untypedCheck).get? "type" = some .null ∧
    (Table.checks.upserted ["id"] storedCheck untypedCheck).get? "type" = some (.str "dns") :=
  ⟨rfl, rfl, rfl, rfl⟩

end HubStore

end AgentSync
