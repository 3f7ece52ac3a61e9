import AgentSync.Bundle.Wire
import AgentSync.Proofs.Json.Decode
import AgentSync.Proofs.Table

namespace AgentSync

/-- No table has the name of another field of a bundle. -/
theorem Table.name_ne (table : Table) : table.name ≠ "agent_name" ∧ table.name ≠ "labels" := by
  cases table <;> decide

namespace Bundle

/-- The tables of a bundle are those that have rows, each with all of its rows. -/
theorem mem_tables {bundle : Bundle} {table : Table} {rows : List Row} :
    (table, rows) ∈ bundle.tables ↔ rows = bundle.rows table ∧ rows ≠ [] := by
  simp only [tables, List.mem_filter, List.mem_map, Table.mem_all, true_and, Prod.mk.injEq]
  constructor
  · rintro ⟨⟨other, rfl, rfl⟩, hrows⟩
    exact ⟨rfl, by simpa using hrows⟩
  · rintro ⟨rfl, hrows⟩
    exact ⟨⟨table, rfl, rfl⟩, by simpa using hrows⟩

/-- A bundle has a table exactly if it has rows of it. -/
theorem fst_mem_tables_iff {bundle : Bundle} {table : Table} :
    table ∈ bundle.tables.map Prod.fst ↔ bundle.rows table ≠ [] := by
  rw [List.mem_map]
  constructor
  · rintro ⟨⟨_, rows⟩, hentry, rfl⟩
    obtain ⟨rfl, hrows⟩ := mem_tables.mp hentry
    exact hrows
  · exact fun hrows => ⟨(table, bundle.rows table), mem_tables.mpr ⟨rfl, hrows⟩, rfl⟩

/-- A bundle with rows of one table alone. -/
theorem tables_of_only {bundle : Bundle} {table : Table} (hrows : bundle.rows table ≠ [])
    (honly : ∀ other, other ≠ table → bundle.rows other = []) :
    bundle.tables = [(table, bundle.rows table)] := by
  cases table <;> simp [tables, Table.all, honly, hrows]

/-- No table of a bundle is listed twice. -/
theorem nodup_tables (bundle : Bundle) : (bundle.tables.map Prod.fst).Nodup := by
  have hsub : bundle.tables.Sublist (Table.all.map fun table => (table, bundle.rows table)) :=
    List.filter_sublist
  have hall : Table.all.Nodup := by decide
  refine (hsub.map Prod.fst).nodup ?_
  rwa [List.map_map, show Prod.fst ∘ (fun table => (table, bundle.rows table)) = id from rfl,
    List.map_id]

/-- The rows of all tables are all rows of a bundle. -/
theorem length_tables (bundle : Bundle) :
    (bundle.tables.flatMap Prod.snd).length = bundle.count := by
  have hskip (tables : List (Table × List Row)) :
      (tables.filter (!·.2.isEmpty)).flatMap Prod.snd = tables.flatMap Prod.snd := by
    induction tables with
    | nil => rfl
    | cons entry rest ih =>
      rw [List.filter_cons, List.flatMap_cons]
      split
      · rw [List.flatMap_cons, ih]
      · next hempty => simp_all
  rw [tables, hskip, count, List.flatMap_map]

/-- Rows are given an owner without being added or dropped. -/
theorem count_populateOwner (bundle : Bundle) (owner : Uuid) :
    (bundle.populateOwner owner).count = bundle.count := by
  have hlength (table : Table) :
      ((bundle.populateOwner owner).rows table).length = (bundle.rows table).length := by
    unfold populateOwner
    dsimp only
    split
    · exact List.length_map _
    · rfl
  simp only [count, List.length_flatMap, hlength]

theorem populateOwner_rows_eq_nil {bundle : Bundle} {owner : Uuid} {table : Table} :
    (bundle.populateOwner owner).rows table = [] ↔ bundle.rows table = [] := by
  unfold populateOwner
  dsimp only
  split
  · exact List.map_eq_nil_iff
  · exact Iff.rfl

/-- The keys of the wire form, in the order in which they are put in: the agent's name, the labels
if there are any, and the tables that have rows. -/
theorem fields_keys (bundle : Bundle) : bundle.fields.map Prod.fst = ["agent_name"] ++
    ((if bundle.labels.isEmpty then [] else ["labels"]) ++
      bundle.tables.map fun entry => entry.1.name) := by
  simp only [fields, List.map_append, List.map_cons, List.map_nil, List.append_assoc, List.map_map]
  split <;> rfl

/-- No key of the wire form is put in twice, so none is overwritten. -/
theorem fields_keys_nodup (bundle : Bundle) : (bundle.fields.map Prod.fst).Nodup := by
  have htables : (bundle.tables.map fun entry => entry.1.name).Sublist
      (Table.all.map Table.name) := by
    have hsub : bundle.tables.Sublist (Table.all.map fun table => (table, bundle.rows table)) :=
      List.filter_sublist
    have hnames := hsub.map fun entry => entry.1.name
    rwa [List.map_map] at hnames
  have hlabels : (if bundle.labels.isEmpty then [] else ["labels"]).Sublist ["labels"] := by
    split
    · exact List.nil_sublist _
    · exact .refl _
  have hall : fieldNames.Nodup := by decide
  rw [fields_keys]
  exact ((List.Sublist.refl ["agent_name"]).append (hlabels.append htables)).nodup hall

/-- A table has a field exactly if it has rows. -/
theorem get?_fields_of_table (bundle : Bundle) (table : Table) :
    (Dict.ofList bundle.fields).get? table.name =
      if (bundle.rows table).isEmpty then none
      else some (.arr ((bundle.rows table).map Json.ofRow)) := by
  change (Dict.empty.insertAll bundle.fields).get? table.name = _
  by_cases hrows : bundle.rows table = []
  · have hnot : table.name ∉ bundle.fields.map Prod.fst := by
      rw [fields_keys, List.mem_append, List.mem_append, List.mem_singleton]
      rintro (hname | hlabel | htable)
      · exact table.name_ne.1 hname
      · split at hlabel
        · cases hlabel
        · exact table.name_ne.2 (List.mem_singleton.mp hlabel)
      · obtain ⟨⟨other, rows⟩, hmem, hname⟩ := List.mem_map.mp htable
        obtain ⟨hother, hne⟩ := mem_tables.mp hmem
        obtain rfl := Table.name_injective hname
        rw [hother] at hne
        exact hne hrows
    rw [Dict.get?_insertAll_of_not_mem _ _ hnot, hrows]
    rfl
  · have hmem : (table.name, Json.arr ((bundle.rows table).map Json.ofRow)) ∈ bundle.fields := by
      refine List.mem_append_right _ (List.mem_map.mpr ⟨(table, bundle.rows table), ?_, rfl⟩)
      exact mem_tables.mpr ⟨rfl, hrows⟩
    rw [Dict.get?_insertAll_of_mem _ _ bundle.fields_keys_nodup hmem]
    simp [hrows]

theorem get?_fields_agentName (bundle : Bundle) :
    (Dict.ofList bundle.fields).get? "agent_name" = some (.str bundle.agentName) :=
  Dict.get?_insertAll_of_mem _ Dict.empty bundle.fields_keys_nodup (.head _)

/-- The labels have a field exactly if there are any. -/
theorem get?_fields_labels (bundle : Bundle) :
    (Dict.ofList bundle.fields).get? "labels" =
      if bundle.labels.isEmpty then none else some (Json.ofTexts bundle.labels) := by
  change (Dict.empty.insertAll bundle.fields).get? "labels" = _
  by_cases hlabels : bundle.labels.isEmpty = true
  · have hnot : "labels" ∉ bundle.fields.map Prod.fst := by
      rw [fields_keys, if_pos hlabels, List.nil_append, List.mem_append, List.mem_map]
      rintro (hname | ⟨⟨table, _⟩, _, hname⟩)
      · exact absurd (List.mem_singleton.mp hname) (by decide)
      · exact table.name_ne.2 hname
    rw [Dict.get?_insertAll_of_not_mem _ _ hnot, if_pos hlabels]
    rfl
  · have hmem : ("labels", Json.ofTexts bundle.labels) ∈ bundle.fields := by
      simp [fields, hlabels]
    rw [Dict.get?_insertAll_of_mem _ _ bundle.fields_keys_nodup hmem, if_neg hlabels]

/-- A reading of every table in the order of all tables. -/
theorem mapM_all_iff {f : Table → Option (List Row)} {rows : Table → List Row} :
    (Table.all.mapM f).map rowsOf = some rows ↔ ∀ table, f table = some (rows table) := by
  rw [Option.map_eq_some_iff]
  constructor
  · rintro ⟨columns, hcolumns, rfl⟩ table
    have hplace := congrArg (·[table.position]?) (map_eq_of_mapM hcolumns)
    simp only [List.getElem?_map, Table.getElem?_position, Option.map_some] at hplace
    obtain ⟨column, hcolumn, hread⟩ := Option.map_eq_some_iff.mp hplace.symm
    rw [← hread, rowsOf, hcolumn, Option.getD_some]
  · intro hread
    refine ⟨Table.all.map rows, mapM_eq_some_iff.mpr ?_, funext fun table => ?_⟩
    · rw [List.map_map]
      exact List.map_congr_left fun table _ => hread table
    · rw [rowsOf, List.getElem?_map, Table.getElem?_position, Option.map_some, Option.getD_some]

section

variable {seen : Json → Source} {room inner : Room}

/-- An object is read as a bundle field by field. -/
theorem decoder_view_iff (hroom : room.enter? = some inner) {entries : Dict Json}
    {bundle : Bundle} :
    decoder room (.obj (Json.viewEntries seen entries.entries)) = some bundle ↔
      (Decoder.slotOf seen entries "agent_name").orElse inner Decoder.text "" =
          some bundle.agentName ∧
        (Decoder.slotOf seen entries "labels").orElse inner Decoder.texts default =
          some bundle.labels ∧
        ∀ table, (Decoder.slotOf seen entries table.name).orElse inner
          (Decoder.list Decoder.row) [] = some (bundle.rows table) := by
  have hslots : Decoder.record fieldNames room
      (.obj (Json.viewEntries seen entries.entries)) =
        some (inner, Decoder.slotOf seen entries "agent_name" ::
          Decoder.slotOf seen entries "labels" ::
          Table.all.map fun table => Decoder.slotOf seen entries table.name) := by
    rw [Decoder.record, hroom, Option.bind_eq_bind, Option.bind_some]
    dsimp only
    rw [Decoder.objectSlots_view]
    rfl
  unfold decoder
  rw [hslots, Option.bind_eq_bind, Option.bind_some]
  dsimp only
  rw [List.mapM_map, ← mapM_all_iff, Function.comp_def]
  constructor
  · intro hread
    obtain ⟨agentName, hname, hread⟩ := Option.bind_eq_some_iff.mp hread
    obtain ⟨labels, hlabels, hread⟩ := Option.bind_eq_some_iff.mp hread
    obtain ⟨columns, hcolumns, hread⟩ := Option.bind_eq_some_iff.mp hread
    cases hread
    exact ⟨hname, hlabels, Option.map_eq_some_iff.mpr ⟨columns, hcolumns, rfl⟩⟩
  · rintro ⟨hname, hlabels, hrows⟩
    obtain ⟨columns, hcolumns, hrows⟩ := Option.map_eq_some_iff.mp hrows
    rw [hname, hlabels]
    dsimp only [Option.bind_eq_bind, Option.bind_some]
    rw [hcolumns, Option.bind_some, hrows]
    rfl

variable {items : Room}

/-- Labels are read back. -/
theorem texts_seen_iff (hview : Json.IsView seen) (hinner : inner.enter? = some items)
    {labels read : Dict String} :
    Decoder.texts inner (seen (Json.ofTexts labels)) = some read ↔ read = labels := by
  have htexts : (labels.map Json.str).map (fun column => Decoder.text items (seen column)) =
      labels.map some := by
    refine Dict.ext ?_
    simp only [Dict.map, List.map_map, Function.comp_def, hview.str, Decoder.text]
  rw [Json.ofTexts, hview.obj, Decoder.texts, Decoder.dict_view _ _ hinner, htexts, eq_comm]
  refine ⟨fun hsame => Dict.ext_get? fun key => ?_, fun hsame => by rw [hsame]⟩
  have hkey := congrArg (Dict.get? · key) hsame
  simp only [Dict.get?_map] at hkey
  exact Option.map_injective (fun _ _ => Option.some.inj) hkey

/-- The wire form of a bundle is read as the same agent, the same labels and, for each table, the
same rows, each read by itself. -/
theorem decoder_toJson_iff (hview : Json.IsView seen) (hroom : room.enter? = some inner)
    (hinner : inner.enter? = some items) {bundle received : Bundle} :
    decoder room (seen bundle.toJson) = some received ↔
      received.agentName = bundle.agentName ∧ received.labels = bundle.labels ∧
        ∀ table, (bundle.rows table).map (fun row => Decoder.row items (seen (Json.ofRow row))) =
          (received.rows table).map some := by
  rw [toJson, Json.object, hview.obj, decoder_view_iff hroom]
  refine and_congr ?_ (and_congr ?_ (forall_congr' fun table => ?_))
  · rw [Decoder.slotOf, get?_fields_agentName]
    dsimp only
    rw [hview.str]
    exact Option.some_inj.trans eq_comm
  · rw [Decoder.slotOf, get?_fields_labels]
    by_cases hlabels : bundle.labels.isEmpty = true
    · have hnone : bundle.labels = default := Dict.ext (List.isEmpty_iff.mp hlabels)
      rw [if_pos hlabels, hnone]
      exact Option.some_inj.trans eq_comm
    · rw [if_neg hlabels]
      exact texts_seen_iff hview hinner
  · rw [Decoder.slotOf, get?_fields_of_table]
    by_cases hrows : bundle.rows table = []
    · rw [hrows]
      exact Option.some_inj.trans (eq_comm.trans (List.map_eq_nil_iff.symm.trans eq_comm))
    · rw [if_neg (by simpa using hrows)]
      dsimp only [Decoder.Slot.orElse]
      rw [hview.arr, Decoder.list, hinner, Option.bind_eq_bind, Option.bind_some, List.mapM_map,
        List.mapM_map, mapM_eq_some_iff]
      rfl

end

/-- How the rows of a table are read off the content of a bundle. -/
def readRow (row : Row) : Option Row := Decoder.row (some 125) (Json.ofRow row).content

/-- A bundle that is read back from its text has the rows that were written, each read by
itself. -/
theorem ofText?_rows {bundle received : Bundle} (hread : ofText? bundle.text = some received)
    (table : Table) : (bundle.rows table).map readRow = (received.rows table).map some := by
  unfold ofText? Decoder.ofText? text at hread
  rw [Source.ofText?_text, Option.bind_eq_bind, Option.bind_some] at hread
  exact ((decoder_toJson_iff Json.isView_content rfl rfl).mp hread).2.2 table

/-- A table that was sent with rows arrives with rows, and no other does. -/
theorem rows_eq_nil_of_ofText? {bundle received : Bundle}
    (hread : ofText? bundle.text = some received) {table : Table} :
    received.rows table = [] ↔ bundle.rows table = [] := by
  have hlength := congrArg List.length (ofText?_rows hread table)
  rw [List.length_map, List.length_map] at hlength
  rw [← List.length_eq_zero_iff, ← List.length_eq_zero_iff, hlength]

end Bundle

theorem mapM_congr_left {α β : Type} {f g : α → Option β} (xs : List α)
    (hsame : ∀ x ∈ xs, f x = g x) : xs.mapM f = xs.mapM g := by
  induction xs with
  | nil => rfl
  | cons x xs ih =>
    obtain ⟨hfirst, hrest⟩ := List.forall_mem_cons.mp hsame
    rw [List.mapM_cons, List.mapM_cons, hfirst, ih hrest]

theorem exists_mapM {α β : Type} {f : α → Option β} (xs : List α)
    (hsome : ∀ x ∈ xs, ∃ y, f x = some y) : ∃ ys, xs.mapM f = some ys := by
  induction xs with
  | nil => exact ⟨[], rfl⟩
  | cons x xs ih =>
    obtain ⟨⟨y, hfirst⟩, hrest⟩ := List.forall_mem_cons.mp hsome
    obtain ⟨ys, hys⟩ := ih hrest
    exact ⟨y :: ys, by rw [List.mapM_cons, hfirst, hys]; rfl⟩

namespace Table

/-- The key of a row is that of its key columns. -/
theorem key?_congr {table : Table} {row image : Row}
    (hsame : ∀ column ∈ table.primaryKey, image.get? column = row.get? column) :
    table.key? image = table.key? row := by
  unfold key? keyParts?
  rw [mapM_congr_left table.primaryKey fun column hcolumn => by rw [hsame column hcolumn]]

/-- A row whose key columns are all text. -/
def HasTextKey (table : Table) (row : Row) : Prop :=
  ∀ column ∈ table.primaryKey, ∃ text, row.get? column = some (.str text)

/-- A row whose key columns are texts has a key. -/
theorem HasTextKey.exists_key {table : Table} {row : Row} (htext : table.HasTextKey row) :
    ∃ key, table.key? row = some key := by
  obtain ⟨parts, hparts⟩ := exists_mapM table.primaryKey
    (f := fun column => (row.get? column).bind keyPart?) fun column hcolumn => by
      obtain ⟨text, hvalue⟩ := htext column hcolumn
      exact ⟨text, by rw [hvalue]; rfl⟩
  exact ⟨":".intercalate parts, by rw [key?, keyParts?, hparts, Option.map_some]⟩

/-- A row with a text key keeps it when it is read off the content of a bundle. -/
theorem HasTextKey.key?_readRow {table : Table} {row image : Row} (htext : table.HasTextKey row)
    (hread : Bundle.readRow row = some image) : table.key? image = table.key? row := by
  refine key?_congr fun column hcolumn => ?_
  obtain ⟨text, hvalue⟩ := htext column hcolumn
  rw [Decoder.row_content_text rfl hread hvalue, hvalue]

/-- Rows with the keys of rows that have one have one. -/
theorem exists_key_of_map_eq {table : Table} {rows images : List Row}
    (hsame : images.map table.key? = rows.map table.key?)
    (hkeys : ∀ row ∈ rows, ∃ key, table.key? row = some key) :
    ∀ image ∈ images, ∃ key, table.key? image = some key := by
  intro image himage
  have hkey := List.mem_map_of_mem (f := table.key?) himage
  rw [hsame] at hkey
  obtain ⟨row, hrow, hsamekey⟩ := List.mem_map.mp hkey
  rw [← hsamekey]
  exact hkeys row hrow

/-- The owner of a row is no part of its key. -/
theorem key?_insert_owner {table : Table} (howner : table.hasOwner) (row : Row) (value : Json) :
    table.key? (row.insert Bundle.ownerColumn value) = table.key? row := by
  refine key?_congr fun column hcolumn => ?_
  have hother : Bundle.ownerColumn ≠ column := by
    rintro rfl
    revert howner hcolumn
    cases table <;> decide
  rw [Dict.get?_insert, if_neg hother]

end Table

namespace Bundle

/-- Rows are read with the keys that they were sent with. -/
theorem keys_of_readRow {table : Table} (rows : List Row) :
    ∀ {images : List Row}, (∀ row ∈ rows, table.HasTextKey row) →
      rows.map readRow = images.map some → images.map table.key? = rows.map table.key? := by
  induction rows with
  | nil =>
    intro images _ hread
    rw [List.map_eq_nil_iff.mp hread.symm]
  | cons row rest ih =>
    intro images htext hread
    obtain ⟨hrow, hrest⟩ := List.forall_mem_cons.mp htext
    cases images with
    | nil => cases hread
    | cons image images =>
      obtain ⟨hfirst, hmore⟩ := List.cons.inj hread
      rw [List.map_cons, List.map_cons, hrow.key?_readRow hfirst, ih hrest hmore]

/-- Giving rows an owner leaves their keys. -/
theorem keys_populateOwner (bundle : Bundle) (owner : Uuid) (table : Table) :
    ((bundle.populateOwner owner).rows table).map table.key? =
      (bundle.rows table).map table.key? := by
  unfold populateOwner
  dsimp only
  split
  · next howner =>
    rw [List.map_map]
    exact List.map_congr_left fun row _ => Table.key?_insert_owner howner row _
  · rfl

/-- Rows with text keys have the same keys where a bundle arrives. -/
theorem keys_of_ofText? {bundle received : Bundle} (hread : ofText? bundle.text = some received)
    {table : Table} (htext : ∀ row ∈ bundle.rows table, table.HasTextKey row) (owner : Uuid) :
    ((received.populateOwner owner).rows table).map table.key? =
      (bundle.rows table).map table.key? := by
  rw [keys_populateOwner]
  exact keys_of_readRow (bundle.rows table) htext (ofText?_rows hread table)

end Bundle

end AgentSync
