import AgentSync.Memory.Shelf
import Mathlib.Data.List.Perm.Subperm
import Mathlib.Order.WellFoundedSet

namespace AgentSync.Shelf

/-- Some row has the second key and names the first one as its parent. -/
def IsParent (table : Table) (rows : List Row) (parent key : String) : Prop :=
  ∃ row ∈ rows, table.key? row = some key ∧ parent? row = some parent

/-- No row is its own ancestor. -/
def Acyclic (table : Table) (rows : List Row) : Prop :=
  ∀ key, ¬Relation.TransGen (IsParent table rows) key key

/-- A row and its ancestors, nearest first, up to one that names no parent or whose parent was on
the shelf from the start. All of them are to be saved, and none is broken. -/
inductive Chain (table : Table) (shelf : Shelf) (rows : List Row) : List Row → Prop
  | top {row} (hmem : row ∈ rows) (hwhole : ∀ key ∈ table.key? row, key ∉ shelf.broken)
      (hsaved : ∀ parent ∈ parent? row, parent ∈ shelf.saved) :
      Chain table shelf rows [row]
  | under {row above ancestors parent} (hmem : row ∈ rows)
      (hwhole : ∀ key ∈ table.key? row, key ∉ shelf.broken)
      (hparent : parent? row = some parent) (hlacks : parent ∉ shelf.saved)
      (hkey : table.key? above = some parent)
      (habove : Chain table shelf rows (above :: ancestors)) :
      Chain table shelf rows (row :: above :: ancestors)

/-- A row with a chain of any length. -/
def IsSupported (table : Table) (shelf : Shelf) (rows : List Row) (row : Row) : Prop :=
  ∃ ancestors, Chain table shelf rows (row :: ancestors)

section

variable {table : Table} {start shelf after : Shelf} {rows : List Row} {row : Row}

/-- A chain of parents is one of rows to save. -/
theorem Chain.mem {chain : List Row} (hchain : Chain table start rows chain) :
    ∀ row ∈ chain, row ∈ rows := by
  induction hchain with
  | top hmem _ _ => exact fun row hrow => List.mem_singleton.mp hrow ▸ hmem
  | under hmem _ _ _ _ _ ih => exact List.forall_mem_cons.mpr ⟨hmem, ih⟩

/-- A whole row whose parent, if it names one, was saved before or has a chain has one itself. -/
theorem isSupported_of_parent (hmem : row ∈ rows)
    (hwhole : ∀ key ∈ table.key? row, key ∉ start.broken)
    (hparent : ∀ parent ∈ parent? row, parent ∈ start.saved ∨
      ∃ above, IsSupported table start rows above ∧ table.key? above = some parent) :
    IsSupported table start rows row := by
  by_cases hsaved : ∀ parent ∈ parent? row, parent ∈ start.saved
  · exact ⟨[], .top hmem hwhole hsaved⟩
  · push Not at hsaved
    obtain ⟨parent, hnames, hlacks⟩ := hsaved
    obtain ⟨above, ⟨ancestors, habove⟩, hkey⟩ := (hparent parent hnames).resolve_left hlacks
    exact ⟨above :: ancestors, .under hmem hwhole hnames hlacks hkey habove⟩

/-- Only the rows matter for a chain, not their order. -/
theorem Chain.mono {others chain : List Row} (hsub : ∀ row ∈ rows, row ∈ others)
    (hchain : Chain table start rows chain) : Chain table start others chain := by
  induction hchain with
  | top hmem hwhole hsaved => exact .top (hsub _ hmem) hwhole hsaved
  | under hmem hwhole hparent hlacks hkey _ ih =>
    exact .under (hsub _ hmem) hwhole hparent hlacks hkey ih

theorem IsParent.mono {others : List Row} (hsub : ∀ row ∈ rows, row ∈ others)
    {parent key : String} (hparent : IsParent table rows parent key) :
    IsParent table others parent key := by
  obtain ⟨row, hmem, hkeys⟩ := hparent
  exact ⟨row, hsub row hmem, hkeys⟩

/-- Some of the rows form no cycle if all of them form none. -/
theorem Acyclic.mono {others : List Row} (hsub : ∀ row ∈ others, row ∈ rows)
    (hacyclic : Acyclic table rows) : Acyclic table others := fun key hcycle =>
  hacyclic key (Relation.TransGen.mono (fun _ _ hparent => hparent.mono hsub) key key hcycle)

/-- Rows that all come after their parents in some ranking have no cycle. -/
theorem acyclic_of_rank (rank : String → Nat)
    (hrank : ∀ row ∈ rows, ∀ key ∈ table.key? row, ∀ parent ∈ parent? row,
      rank parent < rank key) : Acyclic table rows := by
  have hless : ∀ ancestor key, Relation.TransGen (IsParent table rows) ancestor key →
      rank ancestor < rank key := by
    intro ancestor key hpath
    induction hpath with
    | single hstep =>
      obtain ⟨row, hrow, hkey, hparent⟩ := hstep
      exact hrank row hrow _ hkey _ hparent
    | tail _ hstep ih =>
      obtain ⟨row, hrow, hkey, hparent⟩ := hstep
      exact ih.trans (hrank row hrow _ hkey _ hparent)
  exact fun key hcycle => Nat.lt_irrefl _ (hless key key hcycle)

/-- Every row above another in a chain is an ancestor of it. -/
theorem Chain.ancestor {chain : List Row} (hchain : Chain table start rows chain) :
    ∀ row ancestors key, chain = row :: ancestors → table.key? row = some key →
      ∀ other ∈ ancestors, ∃ ancestor, table.key? other = some ancestor ∧
        Relation.TransGen (IsParent table rows) ancestor key := by
  induction hchain with
  | top _ _ _ =>
    intro row ancestors key heq _ other hother
    cases heq
    exact absurd hother List.not_mem_nil
  | @under row above ancestors parent hmem _ hparent _ hkey _ ih =>
    intro first rest key heq hfirst other hother
    cases heq
    have hstep : Relation.TransGen (IsParent table rows) parent key :=
      .single ⟨row, hmem, hfirst, hparent⟩
    rcases List.mem_cons.mp hother with rfl | hother
    · exact ⟨parent, hkey, hstep⟩
    · obtain ⟨ancestor, hancestor, hpath⟩ := ih above ancestors parent rfl hkey other hother
      exact ⟨ancestor, hancestor, hpath.trans hstep⟩

/-- No row stands twice in a chain. -/
theorem Chain.nodup {chain : List Row} (hkeys : ∀ row ∈ rows, (table.key? row).isSome)
    (hacyclic : Acyclic table rows) (hchain : Chain table start rows chain) : chain.Nodup := by
  induction hchain with
  | top _ _ _ => exact List.nodup_singleton _
  | under hmem hwhole hparent hlacks hkey habove ih =>
    refine List.nodup_cons.mpr ⟨fun hagain => ?_, ih⟩
    obtain ⟨key, hrow⟩ := Option.isSome_iff_exists.mp (hkeys _ hmem)
    obtain ⟨ancestor, hancestor, hpath⟩ :=
      (Chain.under hmem hwhole hparent hlacks hkey habove).ancestor _ _ key rfl hrow _ hagain
    rw [hrow] at hancestor
    cases hancestor
    exact hacyclic key hpath

/-- A chain has at most as many rows as there are. -/
theorem Chain.length_le {chain : List Row} (hkeys : ∀ row ∈ rows, (table.key? row).isSome)
    (hacyclic : Acyclic table rows) (hchain : Chain table start rows chain) :
    chain.length ≤ rows.length :=
  (List.subperm_of_subset (hchain.nodup hkeys hacyclic) hchain.mem).length_le

/-- Between the keys of rows without a cycle, going from row to parent comes to an end. -/
theorem Acyclic.wellFoundedOn (hacyclic : Acyclic table rows) :
    {key | key ∈ rows.filterMap table.key?}.WellFoundedOn
      (Relation.TransGen (IsParent table rows)) := by
  have : IsStrictOrder String (Relation.TransGen (IsParent table rows)) :=
    { irrefl := hacyclic, trans := fun _ _ _ => Relation.TransGen.trans }
  exact (List.finite_toSet _).wellFoundedOn

/-- Rows without a cycle, all whole and each with its parent saved before, on a chain, or among
them, are on chains themselves. -/
theorem isSupported_of_together (hacyclic : Acyclic table rows)
    (hkeys : ∀ row ∈ rows, (table.key? row).isSome) {batch : List Row}
    (hbatch : ∀ row ∈ batch, row ∈ rows)
    (hwhole : ∀ row ∈ batch, ∀ key ∈ table.key? row, key ∉ start.broken)
    (hparent : ∀ row ∈ batch, ∀ parent ∈ parent? row, parent ∈ start.saved ∨
      (∃ above, IsSupported table start rows above ∧ table.key? above = some parent) ∨
      parent ∈ batch.filterMap table.key?) :
    ∀ row ∈ batch, IsSupported table start rows row := by
  -- The induction goes down the ancestors, which are keys of rows as long as it matters.
  have hall : ∀ key ∈ rows.filterMap table.key?, ∀ row ∈ batch, table.key? row = some key →
      IsSupported table start rows row := by
    intro key hkey
    refine hacyclic.wellFoundedOn.induction (P := fun key => ∀ row ∈ batch,
      table.key? row = some key → IsSupported table start rows row) hkey ?_
    intro key _ ih row hrow hrowKey
    refine isSupported_of_parent (hbatch row hrow) (hwhole row hrow) fun parent hnames => ?_
    rcases hparent row hrow parent hnames with hsaved | hsupported | htogether
    · exact .inl hsaved
    · exact .inr hsupported
    · obtain ⟨above, habove, haboveKey⟩ := List.mem_filterMap.mp htogether
      have hamong : parent ∈ rows.filterMap table.key? :=
        List.mem_filterMap.mpr ⟨above, hbatch above habove, haboveKey⟩
      have hstep : Relation.TransGen (IsParent table rows) parent key :=
        .single ⟨row, hbatch row hrow, hrowKey, hnames⟩
      exact .inr ⟨above, ih parent hamong hstep above habove haboveKey, haboveKey⟩
  intro row hrow
  obtain ⟨key, hkey⟩ := Option.isSome_iff_exists.mp (hkeys row (hbatch row hrow))
  exact hall key (List.mem_filterMap.mpr ⟨row, hbatch row hrow, hkey⟩) row hrow hkey

end

end AgentSync.Shelf
