import AgentSync.Proofs.Degradation.Shelf

namespace AgentSync.Shelf

open AgentSync.Action RowWriter

/-- A save never fails otherwise than over the rows it leaves, and it leaves none with a chain of at
most so many rows as it has cycles. -/
theorem saveWithDegradation_settles {table : Table} {rows : List Row}
    (hkeys : ∀ row ∈ rows, (table.key? row).isSome) (hacyclic : Acyclic table rows)
    (broken saved : List String) (maxRetries : Nat) :
    ∃ refused after,
      runFrom (writer.saveWithDegradation table rows maxRetries) (fresh broken saved) =
        (conflictOver (refused.filterMap table.key?), after) ∧
      refused.Sublist rows ∧ Partway table (fresh broken saved) rows refused after ∧
      Reaches table (fresh broken saved) rows (max maxRetries 1) refused := by
  have hstart : Partway table (fresh broken saved) rows rows (fresh broken saved) :=
    ⟨rfl, rfl, fun _ hkey => hkey, fun _ hkey => .inl hkey, fun _ hrow => .inl hrow⟩
  have hnone : Reaches table (fresh broken saved) rows 0 rows := by
    intro row ancestors _ hlength
    simp at hlength
  have hcourse := saveWithDegradation_runs writer table rows maxRetries (fresh broken saved)
  rcases hrun : runFrom (writer.saveWithDegradation table rows maxRetries) (fresh broken saved)
    with ⟨outcome, after⟩
  rw [hrun] at hcourse
  have hsettled {result : Except Error (List Row)}
      (hcycles : SavesInCycles writer table (max maxRetries 1) rows (fresh broken saved) result
        after) :
      ∃ refused, result = .ok refused ∧ refused.Sublist rows ∧
        Partway table (fresh broken saved) rows refused after ∧
        Reaches table (fresh broken saved) rows (max maxRetries 1) refused := by
    have hdeep := Partway.saveCycles hkeys hacyclic hcycles 0 (.refl _) hstart hnone
    rwa [Nat.zero_add] at hdeep
  cases hcourse with
  | nothing =>
    exact ⟨[], _, rfl, .refl _, hstart, fun _ _ _ _ => List.not_mem_nil⟩
  | saved _ hcycles =>
    obtain ⟨refused, hresult, hdone⟩ := hsettled hcycles
    cases hresult
    exact ⟨[], after, rfl, hdone⟩
  | @left _ refused _ _ _ hcycles hrefused =>
    obtain ⟨others, hresult, hsub, hdone⟩ := hsettled hcycles
    cases hresult
    refine ⟨refused, after, ?_, hsub, hdone⟩
    obtain ⟨row, hrow⟩ := List.exists_mem_of_ne_nil refused hrefused
    obtain ⟨key, hkey⟩ := Option.isSome_iff_exists.mp (hkeys row (hsub.subset hrow))
    have hids : refused.filterMap table.key? ≠ [] :=
      List.ne_nil_of_mem (List.mem_filterMap.mpr ⟨row, hrow, hkey⟩)
    rw [conflictOver, if_neg (by simpa using hids)]
  | failed _ hcycles hother =>
    obtain ⟨_, hresult, _⟩ := hsettled hcycles
    cases hresult

/-- Whether a row has a chain depends on which rows there are, not on their order. -/
theorem isSupported_congr {table : Table} {start : Shelf} {rows others : List Row}
    (hmem : ∀ row, row ∈ others ↔ row ∈ rows) (row : Row) :
    IsSupported table start others row ↔ IsSupported table start rows row :=
  exists_congr fun _ => ⟨.mono fun row => (hmem row).mp, .mono fun row => (hmem row).mpr⟩

section

-- A save that has come to its end and reached chains of any length.
variable {table : Table} {start after : Shelf} {rows refused : List Row} {depth : Nat}
  (hkeys : ∀ row ∈ rows, (table.key? row).isSome) (hacyclic : Acyclic table rows)
  (hpartway : Partway table start rows refused after)
  (hreaches : Reaches table start rows depth refused) (hdepth : rows.length ≤ depth)

include hkeys hacyclic hpartway hreaches hdepth

/-- Exactly the rows without a chain are left. -/
theorem Partway.mem_left_iff {row : Row} (hrow : row ∈ rows) :
    row ∈ refused ↔ ¬IsSupported table start rows row := by
  constructor
  · rintro hrefused ⟨ancestors, hchain⟩
    have hlength := hchain.length_le hkeys hacyclic
    exact hreaches row ancestors hchain (hlength.trans hdepth) hrefused
  · intro hnone
    exact (hpartway.accepted row hrow).resolve_right fun hdone => hnone hdone.1

/-- The keys of the rows without a chain are reported. -/
theorem Partway.mem_ids_iff (hsub : refused.Sublist rows) (key : String) :
    key ∈ refused.filterMap table.key? ↔
      ∃ row ∈ rows, ¬IsSupported table start rows row ∧ table.key? row = some key := by
  rw [List.mem_filterMap]
  constructor
  · rintro ⟨row, hrefused, hkey⟩
    have hrow := hsub.subset hrefused
    have hnone := (mem_left_iff hkeys hacyclic hpartway hreaches hdepth hrow).mp hrefused
    exact ⟨row, hrow, hnone, hkey⟩
  · rintro ⟨row, hrow, hnone, hkey⟩
    have hrefused := (mem_left_iff hkeys hacyclic hpartway hreaches hdepth hrow).mpr hnone
    exact ⟨row, hrefused, hkey⟩

/-- The keys of the rows with a chain are on the shelf, beside those that were there before. -/
theorem Partway.mem_saved_iff (key : String) : key ∈ after.saved ↔ key ∈ start.saved ∨
    ∃ row, IsSupported table start rows row ∧ table.key? row = some key := by
  refine ⟨hpartway.sound key, ?_⟩
  rintro (hbefore | ⟨row, ⟨ancestors, hchain⟩, hkey⟩)
  · exact hpartway.keeps key hbefore
  · have hrow := hchain.mem row List.mem_cons_self
    have hleft : row ∉ refused := fun hrefused =>
      (mem_left_iff hkeys hacyclic hpartway hreaches hdepth hrow).mp hrefused ⟨ancestors, hchain⟩
    exact ((hpartway.accepted row hrow).resolve_left hleft).2 key hkey

end

/-- Rows with distinct keys and without a cycle of parents, over a shelf whose calls they decide.
Every row on a chain with no more rows than there are cycles is saved. With at least a cycle for
every row, the rows with a chain are saved and nothing else, the keys of all others are reported,
and the same rows in another order leave the same keys on the shelf and have the same ones
reported. -/
theorem saveWithDegradation_converges (table : Table) (broken saved : List String)
    (rows : List Row) (maxRetries : Nat) (hkeys : ∀ row ∈ rows, (table.key? row).isSome)
    (hdistinct : (rows.filterMap table.key?).Nodup) (hacyclic : Acyclic table rows) :
    ∃ ids after,
      runFrom (writer.saveWithDegradation table rows maxRetries) (fresh broken saved) =
        (conflictOver ids, after) ∧
      (∀ row ancestors, Chain table (fresh broken saved) rows (row :: ancestors) →
        (row :: ancestors).length ≤ max maxRetries 1 →
        ∀ key ∈ table.key? row, key ∈ after.saved) ∧
      (rows.length ≤ max maxRetries 1 →
        (∀ key, key ∈ after.saved ↔ key ∈ saved ∨
          ∃ row, IsSupported table (fresh broken saved) rows row ∧ table.key? row = some key) ∧
        ids.Sublist (rows.filterMap table.key?) ∧
        (∀ key, key ∈ ids ↔ ∃ row ∈ rows, ¬IsSupported table (fresh broken saved) rows row ∧
          table.key? row = some key) ∧
        ∀ others, others.Perm rows → ∃ otherIds last,
          runFrom (writer.saveWithDegradation table others maxRetries) (fresh broken saved) =
            (conflictOver otherIds, last) ∧
          otherIds.Perm ids ∧ ∀ key, key ∈ last.saved ↔ key ∈ after.saved) := by
  obtain ⟨refused, after, hrun, hsub, hpartway, hreaches⟩ :=
    saveWithDegradation_settles hkeys hacyclic broken saved maxRetries
  refine ⟨refused.filterMap table.key?, after, hrun, ?_, fun hdepth => ?_⟩
  · intro row ancestors hchain hlength
    have hrow := hchain.mem row List.mem_cons_self
    exact ((hpartway.accepted row hrow).resolve_left (hreaches row ancestors hchain hlength)).2
  have hids := Partway.mem_ids_iff hkeys hacyclic hpartway hreaches hdepth hsub
  have hsaved := Partway.mem_saved_iff hkeys hacyclic hpartway hreaches hdepth
  refine ⟨hsaved, hsub.filterMap _, hids, fun others hperm => ?_⟩
  have hmem : ∀ row, row ∈ others ↔ row ∈ rows := fun _ => hperm.mem_iff
  have hkeysOthers : ∀ row ∈ others, (table.key? row).isSome := fun row hrow =>
    hkeys row ((hmem row).mp hrow)
  have hacyclicOthers : Acyclic table others := hacyclic.mono fun row hrow => (hmem row).mp hrow
  obtain ⟨otherRefused, last, hrunOthers, hsubOthers, hpartwayOthers, hreachesOthers⟩ :=
    saveWithDegradation_settles hkeysOthers hacyclicOthers broken saved maxRetries
  have hdepthOthers : others.length ≤ max maxRetries 1 := hperm.length_eq ▸ hdepth
  refine ⟨_, last, hrunOthers, ?_, fun key => ?_⟩
  · have hdistinctOthers : (others.filterMap table.key?).Nodup :=
      (hperm.filterMap table.key?).nodup_iff.mpr hdistinct
    refine (List.perm_ext_iff_of_nodup ((hsubOthers.filterMap _).nodup hdistinctOthers)
      ((hsub.filterMap _).nodup hdistinct)).mpr fun key => ?_
    rw [hids, Partway.mem_ids_iff hkeysOthers hacyclicOthers hpartwayOthers hreachesOthers
      hdepthOthers hsubOthers]
    simp only [isSupported_congr hmem, hmem]
  · rw [hsaved, Partway.mem_saved_iff hkeysOthers hacyclicOthers hpartwayOthers hreachesOthers
      hdepthOthers]
    simp only [isSupported_congr hmem]

/-- A row with a key and perhaps a parent. -/
def linkedRow (key : String) (parent : Option String) : Row :=
  Dict.ofList (("id", .str key) :: (parent.map fun parent => ("parent_id", .str parent)).toList)

/-- Three generations, the youngest first, and among them a row whose parent is nowhere. -/
def lateFamily : List Row :=
  [linkedRow "abc" (some "ab"), linkedRow "ab" (some "a"), linkedRow "zz" (some "z"),
    linkedRow "a" none]

/-- None of the rows is its own ancestor, since each names one with a smaller key. -/
theorem acyclic_lateFamily : Acyclic .components lateFamily := by
  refine acyclic_of_rank String.length ?_
  decide

/-- The three generations make a chain. -/
theorem chain_lateFamily : Chain .components (fresh [] []) lateFamily
    [linkedRow "abc" (some "ab"), linkedRow "ab" (some "a"), linkedRow "a" none] := by
  refine .under (by simp [lateFamily]) (by decide) rfl (by decide) rfl ?_
  refine .under (by simp [lateFamily]) (by decide) rfl (by decide) rfl ?_
  exact .top (by simp [lateFamily]) (by decide) (by decide)

/-- The row whose parent is neither saved nor sent has no chain. -/
theorem stray_unsupported :
    ¬IsSupported .components (fresh [] []) lateFamily (linkedRow "zz" (some "z")) := by
  have hnames : parent? (linkedRow "zz" (some "z")) = some "z" := rfl
  rintro ⟨ancestors, hchain⟩
  cases hchain with
  | top _ _ hsaved => exact absurd (hsaved "z" hnames) List.not_mem_nil
  | under _ _ hparent _ hkey habove =>
    rw [hnames] at hparent
    cases hparent
    have hnone : ∀ row ∈ lateFamily, Table.components.key? row ≠ some "z" := by decide
    exact hnone _ (habove.mem _ List.mem_cons_self) hkey

/-- The youngest is saved although it comes before its ancestors, and the stray row is reported. -/
theorem lateFamily_converges : ∃ ids after,
    runFrom (writer.saveWithDegradation .components lateFamily 4) (fresh [] []) =
      (conflictOver ids, after) ∧ "abc" ∈ after.saved ∧ "zz" ∈ ids := by
  obtain ⟨ids, after, hrun, hshort, hall⟩ := saveWithDegradation_converges .components [] []
    lateFamily 4 (by decide) (by decide) acyclic_lateFamily
  obtain ⟨_, _, hids, _⟩ := hall (by decide)
  refine ⟨ids, after, hrun, ?_, ?_⟩
  · exact hshort _ _ chain_lateFamily (by decide) "abc" rfl
  · exact (hids "zz").mpr ⟨_, by simp [lateFamily], stray_unsupported, rfl⟩

end AgentSync.Shelf
