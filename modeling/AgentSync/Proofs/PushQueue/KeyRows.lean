import AgentSync.Proofs.PushQueue.Report
import Mathlib.Data.List.Infix

namespace AgentSync

namespace Dict

variable {β : Type}

/-- Keeps what is at some keys. -/
def restrict (d : Dict β) (keys : List String) : Dict β :=
  ⟨d.entries.filter fun entry => keys.contains entry.1, d.sorted.filter _⟩

/-- A restricted map holds what it held at the keys that are left. -/
theorem get?_restrict (d : Dict β) (keys : List String) (key : String) :
    (d.restrict keys).get? key = if key ∈ keys then d.get? key else none := by
  refine Option.ext fun value => ?_
  rw [get?_eq_some_iff]
  have hentries : (d.restrict keys).entries =
      d.entries.filter fun entry => keys.contains entry.1 := rfl
  rw [hentries, List.mem_filter, ← get?_eq_some_iff]
  by_cases hkey : key ∈ keys
  · simp [hkey]
  · simp [hkey]

end Dict

namespace Table

variable {table : Table} {row other : Row}

/-- A row whose key can be taken apart again: its key columns hold texts that are not empty, and
only the last of them may hold a `:`. -/
structure HasPlainKey (table : Table) (row : Row) : Prop where
  text : ∀ column ∈ table.primaryKey, ∃ text, row.get? column = some (.str text) ∧ text ≠ ""
  free : ∀ column ∈ table.primaryKey.dropLast, ∀ text, row.get? column = some (.str text) →
    ':' ∉ text.toList

/-- Columns that hold texts are read as these texts. -/
theorem exists_parts {columns : List String}
    (htext : ∀ column ∈ columns, ∃ text, row.get? column = some (.str text) ∧ text ≠ "") :
    ∃ parts : List String, parts.length = columns.length ∧ (∀ part ∈ parts, part ≠ "") ∧
      ∀ pair ∈ columns.zip parts, row.get? pair.1 = some (.str pair.2) := by
  induction columns with
  | nil => exact ⟨[], rfl, nofun, nofun⟩
  | cons column rest ih =>
    rw [List.forall_mem_cons] at htext
    obtain ⟨text, hcolumn, hsome⟩ := htext.1
    obtain ⟨parts, hlength, hnonempty, hreads⟩ := ih htext.2
    refine ⟨text :: parts, congrArg (· + 1) hlength, ?_, ?_⟩
    · exact List.forall_mem_cons.mpr ⟨hsome, hnonempty⟩
    · rw [List.zip_cons_cons, List.forall_mem_cons]
      exact ⟨hcolumn, hreads⟩

/-- What two lists of one length pair, but for their last elements. -/
theorem dropLast_zip {α β : Type} {xs : List α} {ys : List β} (hlength : ys.length = xs.length) :
    (xs.zip ys).dropLast = xs.dropLast.zip ys.dropLast := by
  rw [List.dropLast_eq_take, List.dropLast_eq_take, List.dropLast_eq_take, List.length_zip,
    hlength, Nat.min_self]
  exact List.take_zipWith

/-- The key of a row with a plain key has all its parts, and the row has them in its key columns. -/
theorem HasPlainKey.exists_splits (h : table.HasPlainKey row) :
    ∃ parts, table.Splits (":".intercalate parts) parts ∧
      table.key? row = some (":".intercalate parts) ∧
      ∀ pair ∈ table.primaryKey.zip parts, row.get? pair.1 = some (.str pair.2) := by
  obtain ⟨parts, hlength, hnonempty, hreads⟩ := exists_parts h.text
  refine ⟨parts, ⟨hlength, hnonempty, fun part hpart => ?_, rfl⟩, ?_, hreads⟩
  · have hzip : part ∈ ((table.primaryKey.zip parts).dropLast).map Prod.snd := by
      rwa [List.map_dropLast, List.map_snd_zip (Nat.le_of_eq hlength)]
    obtain ⟨⟨column, part⟩, hpair, rfl⟩ := List.mem_map.mp hzip
    have hcolumn : column ∈ table.primaryKey.dropLast := by
      rw [dropLast_zip hlength] at hpair
      exact (List.of_mem_zip hpair).1
    exact h.free column hcolumn part (hreads _ (List.mem_of_mem_dropLast hpair))
  · have hparts : table.keyParts? row = some parts := by
      refine mapM_eq_of_zip _ _ hlength fun pair hpair => ?_
      rw [hreads pair hpair]
      rfl
    rw [key?, hparts, Option.map_some]

/-- The row that is made of values under key columns holds nothing else. -/
theorem ofList_zip_eq_restrict {values : List Json}
    (hlength : values.length = table.primaryKey.length)
    (hreads : ∀ pair ∈ table.primaryKey.zip values, row.get? pair.1 = some pair.2) :
    Dict.ofList (table.primaryKey.zip values) = row.restrict table.primaryKey := by
  have hkeys : (table.primaryKey.zip values).map Prod.fst = table.primaryKey :=
    List.map_fst_zip (Nat.le_of_eq hlength.symm)
  refine Dict.ext_get? fun column => ?_
  change (Dict.empty.insertAll _).get? column = _
  rw [Dict.get?_restrict]
  by_cases hcolumn : column ∈ table.primaryKey
  · obtain ⟨⟨column, value⟩, hpair, rfl⟩ := List.mem_map.mp (hkeys.symm ▸ hcolumn)
    rw [if_pos hcolumn, hreads _ hpair,
      Dict.get?_insertAll_of_mem _ _ (hkeys.symm ▸ table.nodup_primaryKey) hpair]
  · rw [if_neg hcolumn, Dict.get?_insertAll_of_not_mem _ _ (hkeys.symm ▸ hcolumn), Dict.get?_empty]

/-- A row with a plain key is given back by its key as far as its key columns go. -/
theorem HasPlainKey.keyRow?_key? (h : table.HasPlainKey row) :
    ∃ key, table.key? row = some key ∧
      table.keyRow? key = some (row.restrict table.primaryKey) := by
  obtain ⟨parts, hsplits, hkey, hreads⟩ := h.exists_splits
  refine ⟨_, hkey, ?_⟩
  have hlength : (parts.map Json.str).length = table.primaryKey.length := by
    rw [List.length_map, hsplits.length_eq]
  rw [hsplits.keyRow?_eq, ofList_zip_eq_restrict hlength fun pair hpair => ?_]
  rw [List.zip_map_right] at hpair
  obtain ⟨⟨column, part⟩, hpart, rfl⟩ := List.mem_map.mp hpair
  exact hreads _ hpart

-- The last key column may hold the separator.
example : checkStatuses.keyRow? "c1:10:30" =
    some (Dict.ofList [("check_id", .str "c1"), ("time", .str "10:30")]) := by rfl

/-- The key columns alone make the key. -/
theorem HasPlainKey.key?_restrict (h : table.HasPlainKey row) :
    table.key? (row.restrict table.primaryKey) = table.key? row := by
  obtain ⟨key, hkey, hrow⟩ := h.keyRow?_key?
  rw [key?_keyRow? hrow, hkey]

/-- Of rows with plain keys, a key names at most one. -/
theorem HasPlainKey.restrict_eq {key : String} {named : Row} (h : table.HasPlainKey row)
    (hkey : table.key? row = some key) (hnamed : table.keyRow? key = some named) :
    named = row.restrict table.primaryKey := by
  obtain ⟨same, hsame, hrow⟩ := h.keyRow?_key?
  cases hkey.symm.trans hsame
  exact Option.some.inj (hnamed.symm.trans hrow)

/-- Rows with plain keys that share the key share the key columns. -/
theorem HasPlainKey.restrict_inj (h : table.HasPlainKey row) (hother : table.HasPlainKey other)
    (hkey : table.key? row = table.key? other) :
    row.restrict table.primaryKey = other.restrict table.primaryKey := by
  obtain ⟨key, hrow, hnamed⟩ := h.keyRow?_key?
  exact hother.restrict_eq (hkey ▸ hrow) hnamed

end Table

namespace PushQueue

/-- A row of a deletion is what an event's key is read as, and no other row has this key whose own
key can be taken apart. -/
structure IsNamedBy (table : Table) (event : Event) (row : Row) : Prop where
  name_eq : event.name = Work.delete.eventName
  table_eq : event.property? "table" = some table.name
  key_eq : event.property? "id" = table.key? row
  read : (event.property? "id").bind table.keyRow? = some row
  only : ∀ other, table.HasPlainKey other → table.key? other = event.property? "id" →
    row = other.restrict table.primaryKey

/-- An event of a deletion names the row that its key is read as. -/
theorem isNamedBy_of_keyRow? {table : Table} {event : Event} {key : String} {row : Row}
    (hgroup : groupOf event = .ok ⟨.delete, table⟩) (hkey : event.property? "id" = some key)
    (hrow : table.keyRow? key = some row) : IsNamedBy table event row := by
  obtain ⟨hname, htable, -⟩ := groupOf_eq_ok_iff.mp hgroup
  refine ⟨hname, htable, ?_, ?_, fun other hplain hother => ?_⟩
  · rw [hkey, Table.key?_keyRow? hrow]
  · rw [hkey, Option.bind_some, hrow]
  · exact hplain.restrict_eq (hother.trans hkey) hrow

/-- Every row of a deletion is named by one of the batch's events. -/
theorem Settled.isNamedBy {agentName : String} {events : List Event} {failed : List FailedEvent}
    {calls : List AnsweredCall} {bundle : Bundle}
    {answer : Except Error (SideCall.delete bundle).Answer} {table : Table} {row : Row}
    (h : Settled agentName events Group.all failed calls)
    (hcall : ⟨.delete bundle, answer⟩ ∈ calls) (hrow : row ∈ bundle.rows table) :
    ∃ event ∈ events, IsNamedBy table event row := by
  obtain ⟨⟨work, other⟩, hrequest⟩ := h.eq_request hcall rfl
  cases work with
  | upsert => cases hrequest
  | delete =>
    injection hrequest with hbundle
    subst hbundle
    rw [rowBundle_rows] at hrow
    split at hrow
    · next heq =>
      subst heq
      obtain ⟨key, hkey, hread⟩ := List.mem_filterMap.mp hrow
      obtain ⟨event, hevent, hid⟩ := mem_keysOf.mp hkey
      obtain ⟨hmem, hgroup⟩ := mem_members.mp hevent
      exact ⟨event, hmem, isNamedBy_of_keyRow? hgroup hid hread⟩
    · cases hrow

/-- Text keys and the rows that are read back from them name each other: a row that is read back has
the key it was read from, and a row whose key can be taken apart is read back as its key columns, so
that no two such rows share a key without sharing these columns. Whatever the two sides answer,
every row of a batch's deletions is one that an event of the batch names in this way. -/
theorem keys_and_rows_name_each_other :
    (∀ (table : Table) (key : String) (row : Row),
      table.keyRow? key = some row → table.key? row = some key) ∧
    (∀ (table : Table) (row : Row), table.HasPlainKey row →
      (table.key? row).bind table.keyRow? = some (row.restrict table.primaryKey)) ∧
    (∀ (table : Table) (row other : Row), table.HasPlainKey row → table.HasPlainKey other →
      (table.key? row = table.key? other ↔
        row.restrict table.primaryKey = other.restrict table.primaryKey)) ∧
    ∀ {ω : Type} (source : LocalSource ω) (hub : HubApi ω) (scope : Scope) (events : List Event)
      (world : World ω), ∃ failed after,
        (handleBatch source.watched hub.watched scope events).run world.watched =
          (failed, after) ∧
        (handleBatch source hub scope events).run world = (failed, after.unwatched) ∧
        ∀ bundle answer, ⟨.delete bundle, answer⟩ ∈ after.calls →
          ∀ (table : Table), ∀ row ∈ bundle.rows table,
            ∃ event ∈ events, IsNamedBy table event row := by
  refine ⟨fun _ _ _ => Table.key?_keyRow?, fun table row hplain => ?_,
    fun table row other hplain hother => ⟨hplain.restrict_inj hother, fun heq => ?_⟩,
    fun source hub scope events world => ?_⟩
  · obtain ⟨key, hkey, hrow⟩ := hplain.keyRow?_key?
    rw [hkey, Option.bind_some, hrow]
  · rw [← hplain.key?_restrict, heq, hother.key?_restrict]
  · obtain ⟨failed, after, hrun, hbare, hsettled⟩ :=
      handleBatch_settled source hub scope events world
    exact ⟨_, after, hrun, hbare, fun bundle answer hcall table row => hsettled.isNamedBy hcall⟩

end PushQueue

end AgentSync
