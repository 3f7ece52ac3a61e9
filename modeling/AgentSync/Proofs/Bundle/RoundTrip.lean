import AgentSync.Proofs.Bundle.Wire
import AgentSync.Proofs.Json.Plain

namespace AgentSync

/-- A row is read back exactly if the values of its columns are. -/
theorem Decoder.row_toSource_iff {row : Row} :
    Decoder.row none (Json.ofRow row).toSource = some row ↔
      ∀ column ∈ row.entries, column.2.ReadsAsItself := by
  rw [Json.ofRow, Json.isView_toSource.obj, Decoder.row, dict_view json Json.toSource rfl]
  constructor
  · intro hread column hcolumn
    have hentries := congrArg Dict.entries hread
    exact congrArg Prod.snd (List.map_inj_left.mp hentries column hcolumn)
  · intro hall
    refine Dict.ext (List.map_congr_left fun column hcolumn => ?_)
    exact congrArg (column.1, ·) (hall column hcolumn)

/-- Every value of a row is what a value of the object is read as that the row is read off. -/
theorem Decoder.mem_of_row_toSource {item : Json} {row : Row}
    (hread : Decoder.row none item.toSource = some row) {column : String × Json}
    (hcolumn : column ∈ row.entries) :
    ∃ entries value, item = .obj entries ∧ (column.1, value) ∈ entries ∧
      value.toSource.toJson? none = some column.2 := by
  cases item with
  | obj entries =>
    rw [Json.isView_toSource.obj] at hread
    obtain ⟨pairs, hpairs, hread⟩ := Option.bind_eq_some_iff.mp hread
    cases hread
    have hpair : (column.1, some column.2) ∈ pairs.map fun pair => (pair.1, some pair.2) :=
      List.mem_map.mpr ⟨column, Dict.mem_of_mem_ofList hcolumn, rfl⟩
    rw [← (mapM_entries json Json.toSource none entries pairs).mp hpairs] at hpair
    obtain ⟨entry, hentry, hvalue⟩ := List.mem_map.mp hpair
    obtain ⟨hkey, hvalue⟩ := Prod.mk.inj hvalue
    exact ⟨entries, entry.2, rfl, hkey ▸ hentry, hvalue⟩
  | _ => cases hread

namespace Bundle

/-- A bundle with columns in whose values no object starts with the key of an embedded text. -/
def IsPlain (bundle : Bundle) : Prop :=
  ∀ table, ∀ row ∈ bundle.rows table, ∀ column ∈ row.entries, column.2.IsPlain

/-- The bundles as which the wire form of one is read: those with the same name and labels whose
rows are what each row is read as. -/
theorem ofJson?_toJson_iff {bundle received : Bundle} :
    ofJson? bundle.toJson = some received ↔
      received.agentName = bundle.agentName ∧ received.labels = bundle.labels ∧
        ∀ table, (bundle.rows table).map (fun row => Decoder.row none (Json.ofRow row).toSource) =
          (received.rows table).map some :=
  decoder_toJson_iff Json.isView_toSource rfl rfl

/-- A bundle is read back exactly if all its columns are. -/
theorem ofJson?_toJson_self_iff (bundle : Bundle) :
    ofJson? bundle.toJson = some bundle ↔ bundle.IsPlain := by
  rw [ofJson?_toJson_iff]
  refine (and_iff_right rfl).trans ((and_iff_right rfl).trans ?_)
  refine forall_congr' fun table => List.map_inj_left.trans (forall₂_congr fun row _ => ?_)
  rw [Decoder.row_toSource_iff]
  exact forall₂_congr fun column _ => column.2.readsAsItself_iff_isPlain

/-- What a bundle is read back as has the same agent, the same labels and as many rows of each
table. -/
theorem ofJson?_toJson_keeps {bundle received : Bundle}
    (hread : ofJson? bundle.toJson = some received) :
    received.agentName = bundle.agentName ∧ received.labels = bundle.labels ∧
      ∀ table, (received.rows table).length = (bundle.rows table).length := by
  obtain ⟨hname, hlabels, hrows⟩ := ofJson?_toJson_iff.mp hread
  refine ⟨hname, hlabels, fun table => ?_⟩
  have hlength := congrArg List.length (hrows table)
  rw [List.length_map, List.length_map] at hlength
  exact hlength.symm

/-- An object in whose rows the values of all columns are plain. -/
def HasPlainRows (entries : Dict Json) : Prop :=
  ∀ (table : Table) (items : List Json) (columns : List (String × Json)),
    entries.get? table.name = some (.arr items) → .obj columns ∈ items →
      ∀ column ∈ columns, column.2.IsPlain

/-- An object is read field by field, each on its own. -/
theorem ofJson?_obj_iff {entries : Dict Json} {bundle : Bundle} :
    ofJson? (.obj entries.entries) = some bundle ↔
      (Decoder.slotOf Json.toSource entries "agent_name").orElse none Decoder.text "" =
          some bundle.agentName ∧
        (Decoder.slotOf Json.toSource entries "labels").orElse none Decoder.texts default =
          some bundle.labels ∧
        ∀ table, (Decoder.slotOf Json.toSource entries table.name).orElse none
          (Decoder.list Decoder.row) [] = some (bundle.rows table) := by
  rw [ofJson?, Decoder.ofJson?, Json.isView_toSource.obj]
  exact decoder_view_iff rfl

/-- Plain values arrive as plain values. -/
theorem HasPlainRows.isPlain {entries : Dict Json} {bundle : Bundle} (hplain : HasPlainRows entries)
    (hread : ofJson? (.obj entries.entries) = some bundle) : bundle.IsPlain := by
  intro table row hrow column hcolumn
  have hslot := (ofJson?_obj_iff.mp hread).2.2 table
  unfold Decoder.slotOf at hslot
  cases hvalue : entries.get? table.name with
  | none =>
    rw [hvalue] at hslot
    rw [← Option.some.inj hslot] at hrow
    exact absurd hrow List.not_mem_nil
  | some value =>
    rw [hvalue] at hslot
    cases value with
    | arr items =>
      have hlist : Decoder.list Decoder.row none (Json.arr items).toSource =
          some (bundle.rows table) := hslot
      rw [Json.isView_toSource.arr, Decoder.list, Room.enter?, Option.bind_eq_bind,
        Option.bind_some, List.mapM_map, mapM_eq_some_iff] at hlist
      have hread : some row ∈ (bundle.rows table).map some := List.mem_map_of_mem hrow
      rw [← hlist] at hread
      obtain ⟨item, hitem, hread⟩ := List.mem_map.mp hread
      obtain ⟨columns, held, rfl, hheld, hcolumn⟩ := Decoder.mem_of_row_toSource hread hcolumn
      have hplain := hplain table items columns hvalue hitem _ hheld
      have hself : Json.ReadsAsItself held := held.readsAsItself_iff_isPlain.mpr hplain
      obtain rfl : held = column.2 := Option.some.inj (hself.symm.trans hcolumn)
      exact hplain
    | _ => cases hslot

/-- An entry of an object that says nothing: an unknown field, no rows of a table or no labels. -/
inductive IsIdle : String → Json → Prop where
  | table (table : Table) : IsIdle table.name (.arr [])
  | labels : IsIdle "labels" (.obj [])
  | unknown {key : String} (value : Json) : key ∉ fieldNames → IsIdle key value

/-- An entry at a new key makes a difference to no field but the one with that key, and none to that
one if it says what the field is without it. -/
theorem orElse_slotOf_insert {α : Type} {decoder : Decoder α} {fallback : α} {entries : Dict Json}
    {key field : String} {value : Json} (hnew : entries.get? key = none)
    (hidle : key = field → decoder none value.toSource = some fallback) :
    (Decoder.slotOf Json.toSource (entries.insert key value) field).orElse none decoder fallback =
      (Decoder.slotOf Json.toSource entries field).orElse none decoder fallback := by
  rw [Decoder.slotOf, Decoder.slotOf, Dict.get?_insert]
  by_cases hkey : key = field
  · rw [if_pos hkey, ← hkey, hnew]
    exact hidle hkey
  · rw [if_neg hkey]

/-- An idle entry may be added without a difference to the bundle that is read. -/
theorem IsIdle.ofJson?_insert {key : String} {value : Json} (hidle : IsIdle key value)
    {entries : Dict Json} (hnew : entries.get? key = none) :
    ofJson? (.obj (entries.insert key value).entries) = ofJson? (.obj entries.entries) := by
  have hunknown {other : String} (hother : key ∉ fieldNames) (hfield : other ∈ fieldNames) :
      key ≠ other := fun hkey => hother (hkey ▸ hfield)
  have hname : key ≠ "agent_name" := by
    cases hidle with
    | table table => exact table.name_ne.1
    | labels => decide
    | unknown _ hother => exact hunknown hother (by decide)
  have hlabels : key = "labels" → Decoder.texts none value.toSource = some default := by
    intro hkey
    cases hidle with
    | table table => exact absurd hkey table.name_ne.2
    | labels => rfl
    | unknown _ hother => exact absurd hkey (hunknown hother (by decide))
  have hrows (table : Table) :
      key = table.name → Decoder.list Decoder.row none value.toSource = some [] := by
    intro hkey
    cases hidle with
    | table => rfl
    | labels => exact absurd hkey.symm table.name_ne.2
    | unknown _ hother =>
      have hfield : table.name ∈ fieldNames :=
        List.mem_append_right _ (List.mem_map_of_mem table.mem_all)
      exact absurd hkey (hunknown hother hfield)
  refine Option.ext fun bundle => ?_
  rw [ofJson?_obj_iff, ofJson?_obj_iff,
    orElse_slotOf_insert hnew fun hkey => absurd hkey hname, orElse_slotOf_insert hnew hlabels]
  refine and_congr_right fun _ => and_congr_right fun _ => forall_congr' fun table => ?_
  rw [orElse_slotOf_insert hnew (hrows table)]

/-- A bundle is read back from its wire form exactly if no object in a value of its columns starts
with the key of an embedded text; whatever it is read back as has its agent, its labels and as many
rows of each table. If it was itself read off an object, it is read back when the rows of the object
are plain, and entries of the object that say nothing make no difference. -/
theorem wire_exact (bundle : Bundle) :
    (ofJson? bundle.toJson = some bundle ↔ bundle.IsPlain) ∧
    (∀ received, ofJson? bundle.toJson = some received →
      received.agentName = bundle.agentName ∧ received.labels = bundle.labels ∧
        ∀ table, (received.rows table).length = (bundle.rows table).length) ∧
    (∀ entries : Dict Json, ofJson? (.obj entries.entries) = some bundle →
      HasPlainRows entries → ofJson? bundle.toJson = some bundle) ∧
    ∀ (entries : Dict Json) (key : String) (value : Json), entries.get? key = none →
      IsIdle key value → (ofJson? (.obj (entries.insert key value).entries) = some bundle ↔
        ofJson? (.obj entries.entries) = some bundle) := by
  refine ⟨ofJson?_toJson_self_iff bundle, fun _ => ofJson?_toJson_keeps, ?_, ?_⟩
  · intro entries hread hplain
    exact (ofJson?_toJson_self_iff bundle).mpr (hplain.isPlain hread)
  · intro entries key value hnew hidle
    rw [hidle.ofJson?_insert hnew]

/-- A bundle with a row one of whose values starts with the key of an embedded text. -/
def embeddingBundle : Bundle :=
  (Bundle.new "agent-a").addRows .checks [Dict.ofList [("id", .str "k"),
    ("spec", Json.object [("a", .ofInt 1), (Source.embeddingKey, .str "1")])]]

/-- A row with an object that starts with the key for raw values is refused, so this bundle never
arrives. -/
theorem embeddingBundle_not_read : ofJson? embeddingBundle.toJson = none := rfl

end Bundle

end AgentSync
