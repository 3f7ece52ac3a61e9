import AgentSync.Proofs.Dict
import Mathlib.Data.List.TakeWhile

namespace AgentSync.Table

/-- Tables are told apart by their names. -/
theorem name_injective {table other : Table} (hname : table.name = other.name) :
    table = other := by
  have hread := ofName?_name table
  rw [hname, ofName?_name] at hread
  exact (Option.some.inj hread).symm

theorem splitFirst_ne_nil (separator : Char) (n : Nat) (cs : List Char) :
    splitFirst separator (n + 1) cs ≠ [] := by
  cases n with
  | zero => simp [splitFirst]
  | succ n =>
    rw [splitFirst]
    split <;> simp

/-- The parts of a text, put together again, are the text. -/
theorem intercalate_splitFirst (separator : Char) (n : Nat) :
    ∀ cs, [separator].intercalate (splitFirst separator (n + 1) cs) = cs := by
  induction n with
  | zero => intro cs; simp [splitFirst, List.intercalate]
  | succ n ih =>
    intro cs
    have hjoin := List.takeWhile_append_dropWhile (p := fun c => decide (c ≠ separator)) (l := cs)
    rw [splitFirst]
    cases hrest : cs.dropWhile (· ≠ separator) with
    | nil =>
      rw [hrest, List.append_nil] at hjoin
      simpa [List.intercalate] using hjoin
    | cons c tail =>
      have hhere : c = separator := by
        have hhead := List.head?_dropWhile_not (p := fun c => decide (c ≠ separator)) cs
        rw [hrest] at hhead
        simpa using hhead
      obtain ⟨piece, pieces, hpieces⟩ :=
        List.exists_cons_of_ne_nil (splitFirst_ne_nil separator n tail)
      have htail := ih tail
      dsimp only
      rw [hpieces] at htail ⊢
      rw [List.intercalate_cons_cons, htail, List.append_assoc, List.singleton_append]
      rw [hrest, hhere] at hjoin
      exact hjoin

theorem mapM_eq_of_zip {α β : Type} {f : α → Option β} (xs : List α) :
    ∀ ys : List β, ys.length = xs.length → (∀ pair ∈ xs.zip ys, f pair.1 = some pair.2) →
      xs.mapM f = some ys := by
  induction xs with
  | nil =>
    intro ys hlength _
    rw [List.length_eq_zero_iff.mp hlength]
    rfl
  | cons x xs ih =>
    intro ys hlength heach
    obtain ⟨y, rest, rfl⟩ := List.exists_cons_of_length_eq_add_one hlength
    rw [List.zip_cons_cons, List.forall_mem_cons] at heach
    rw [List.mapM_cons, heach.1, ih rest (Nat.succ.inj hlength) heach.2]
    rfl

theorem nodup_primaryKey (table : Table) : table.primaryKey.Nodup := by
  cases table <;> decide

/-- The key of the row that is read back from a key is that key. -/
theorem key?_keyRow? {table : Table} {key : String} {row : Row}
    (hrow : table.keyRow? key = some row) : table.key? row = some key := by
  unfold keyRow? at hrow
  dsimp only at hrow
  split at hrow
  · next hparts =>
    obtain ⟨hlength, -⟩ := hparts
    generalize hsplit : splitFirst ':' table.primaryKey.length key.toList = parts at hrow hlength
    have hvalues : (parts.map fun part => Json.str (String.ofList part)) =
        (parts.map String.ofList).map Json.str := by rw [List.map_map]; rfl
    have htexts : (parts.map String.ofList).length = table.primaryKey.length := by
      rw [List.length_map, hlength]
    have hkeys : (table.primaryKey.zip ((parts.map String.ofList).map Json.str)).map Prod.fst =
        table.primaryKey := List.map_fst_zip (by simp [hlength])
    rw [hvalues] at hrow
    cases hrow
    have hread : table.keyParts? (Dict.empty.insertAll
        (table.primaryKey.zip ((parts.map String.ofList).map Json.str))) =
          some (parts.map String.ofList) := by
      refine mapM_eq_of_zip _ _ htexts fun pair hpair => ?_
      have hentry : (pair.1, Json.str pair.2) ∈
          table.primaryKey.zip ((parts.map String.ofList).map Json.str) := by
        rw [List.zip_map_right]
        exact List.mem_map_of_mem hpair
      rw [Dict.get?_insertAll_of_mem _ _ (hkeys.symm ▸ table.nodup_primaryKey) hentry]
      rfl
    change (table.keyParts? (Dict.empty.insertAll _)).map _ = _
    rw [hread, Option.map_some]
    refine congrArg some (String.toList_inj.mp ?_)
    obtain ⟨n, hn⟩ : ∃ n, table.primaryKey.length = n + 1 := by cases table <;> exact ⟨_, rfl⟩
    rw [String.toList_intercalate, List.map_map, ← intercalate_splitFirst ':' n key.toList, ← hn,
      hsplit]
    simp [Function.comp_def]
  · cases hrow

/-- Rows that are read back from keys have these keys, in their order. -/
theorem map_key?_filterMap_keyRow? {table : Table} {keys : List String}
    (hfits : ∀ key ∈ keys, (table.keyRow? key).isSome) :
    (keys.filterMap table.keyRow?).map table.key? = keys.map some := by
  induction keys with
  | nil => rfl
  | cons key rest ih =>
    rw [List.forall_mem_cons] at hfits
    obtain ⟨row, hrow⟩ := Option.isSome_iff_exists.mp hfits.1
    rw [List.filterMap_cons_some hrow, List.map_cons, List.map_cons, key?_keyRow? hrow,
      ih hfits.2]

/-- The parts of a text key: one for each column of the primary key, none of them empty. Only the
last part may hold a `:`. -/
structure Splits (table : Table) (key : String) (parts : List String) : Prop where
  length_eq : parts.length = table.primaryKey.length
  nonempty : ∀ part ∈ parts, part ≠ ""
  free : ∀ part ∈ parts.dropLast, ':' ∉ part.toList
  joined : ":".intercalate parts = key

/-- No part but the last holds the separator. -/
theorem free_splitFirst (separator : Char) (n : Nat) :
    ∀ cs, ∀ part ∈ (splitFirst separator (n + 1) cs).dropLast, separator ∉ part := by
  induction n with
  | zero => intro cs part hpart; simp [splitFirst] at hpart
  | succ n ih =>
    intro cs part hpart
    rw [splitFirst] at hpart
    split at hpart
    · simp at hpart
    · next tail _ =>
      rw [List.dropLast_cons_of_ne_nil (splitFirst_ne_nil separator n tail)] at hpart
      rcases List.mem_cons.mp hpart with rfl | hlater
      · intro hmem
        simpa using List.mem_takeWhile_imp hmem
      · exact ih tail part hlater

/-- Joined parts are found again, if none but the last holds the separator. -/
theorem splitFirst_intercalate (separator : Char) (n : Nat) :
    ∀ parts : List (List Char), parts.length = n + 1 →
      (∀ part ∈ parts.dropLast, separator ∉ part) →
      splitFirst separator (n + 1) ([separator].intercalate parts) = parts := by
  induction n with
  | zero =>
    intro parts hlength _
    obtain ⟨part, rfl⟩ := List.length_eq_one_iff.mp hlength
    simp [splitFirst, List.intercalate]
  | succ n ih =>
    intro parts hlength hfree
    obtain ⟨part, later, rfl⟩ := List.exists_cons_of_length_eq_add_one hlength
    have hlater : later.length = n + 1 := Nat.succ.inj hlength
    have hsome : later ≠ [] := by
      rintro rfl
      cases hlater
    rw [List.dropLast_cons_of_ne_nil hsome, List.forall_mem_cons] at hfree
    obtain ⟨next, more, rfl⟩ := List.exists_cons_of_ne_nil hsome
    have hpart : ∀ c ∈ part, decide (c ≠ separator) = true := by
      intro c hc
      refine decide_eq_true fun heq => hfree.1 (heq ▸ hc)
    rw [List.intercalate_cons_cons, splitFirst, List.append_assoc,
      List.takeWhile_append_of_pos hpart, List.dropWhile_append_of_pos hpart]
    simp [ih (next :: more) hlater hfree.2]

/-- The parts of a text key are found again. -/
theorem Splits.splitFirst_eq {table : Table} {key : String} {parts : List String}
    (h : table.Splits key parts) :
    splitFirst ':' table.primaryKey.length key.toList = parts.map String.toList := by
  obtain ⟨n, hn⟩ : ∃ n, table.primaryKey.length = n + 1 := by cases table <;> exact ⟨_, rfl⟩
  rw [← h.joined, String.toList_intercalate, hn]
  refine splitFirst_intercalate ':' n (parts.map String.toList) ?_ fun cs hcs => ?_
  · rw [List.length_map, h.length_eq, hn]
  · rw [← List.map_dropLast] at hcs
    obtain ⟨part, hpart, rfl⟩ := List.mem_map.mp hcs
    exact h.free part hpart

/-- A row can be read back from exactly those keys that have all their parts. -/
theorem isSome_keyRow?_iff {table : Table} {key : String} :
    (table.keyRow? key).isSome ↔ ∃ parts, table.Splits key parts := by
  obtain ⟨n, hn⟩ : ∃ n, table.primaryKey.length = n + 1 := by cases table <;> exact ⟨_, rfl⟩
  unfold keyRow?
  dsimp only
  rw [Option.isSome_ite, hn]
  constructor
  · rintro ⟨hlength, hall⟩
    refine ⟨(splitFirst ':' (n + 1) key.toList).map String.ofList, ?_, ?_, ?_, ?_⟩
    · rw [List.length_map, hlength, hn]
    · intro part hpart
      obtain ⟨cs, hcs, rfl⟩ := List.mem_map.mp hpart
      simpa using List.all_eq_true.mp hall cs hcs
    · intro part hpart
      rw [← List.map_dropLast] at hpart
      obtain ⟨cs, hcs, rfl⟩ := List.mem_map.mp hpart
      rw [String.toList_ofList]
      exact free_splitFirst ':' n key.toList cs hcs
    · apply String.toList_inj.mp
      rw [String.toList_intercalate, List.map_map]
      simpa [Function.comp_def] using intercalate_splitFirst ':' n key.toList
  · rintro ⟨parts, hparts⟩
    rw [← hn, hparts.splitFirst_eq]
    refine ⟨by rw [List.length_map, hparts.length_eq], ?_⟩
    rw [List.all_map, List.all_eq_true]
    intro part hpart
    simpa using hparts.nonempty part hpart

/-- The row that is read back from a key has the parts of the key in the key columns. -/
theorem Splits.keyRow?_eq {table : Table} {key : String} {parts : List String}
    (h : table.Splits key parts) :
    table.keyRow? key = some (Dict.ofList (table.primaryKey.zip (parts.map Json.str))) := by
  obtain ⟨row, hrow⟩ := Option.isSome_iff_exists.mp (isSome_keyRow?_iff.mpr ⟨parts, h⟩)
  rw [hrow]
  unfold keyRow? at hrow
  rw [h.splitFirst_eq] at hrow
  dsimp only at hrow
  split at hrow
  · rw [← hrow, List.map_map]
    simp [Function.comp_def]
  · cases hrow

end AgentSync.Table
