import AgentSync.Proofs.Degradation.Chain
import AgentSync.Proofs.Degradation.Course

namespace AgentSync

open AgentSync.Action RowWriter

/-- How a save ends that leaves rows with these keys. -/
def conflictOver (ids : List String) : Except Error Unit :=
  if ids.isEmpty then .ok () else .error (.conflict ids)

namespace Shelf

/-- A shelf with some keys on it that has not been called yet. -/
def fresh (broken saved : List String) : Shelf := ⟨[], broken, saved, []⟩

/-- A call over a shelf without a script is decided by its rows. -/
theorem runFrom_save {shelf : Shelf} (hscript : shelf.script = []) (table : Table)
    (rows : List Row) (isBatch : Bool) :
    runFrom (save table rows isBatch) shelf =
      let called := { shelf with calls := shelf.calls ++ [⟨isBatch, rows.map table.key?⟩] }
      if shelf.refuses table rows isBatch then (.error (.conflict []), called)
      else (.ok (), { called with saved := shelf.saved ++ rows.filterMap table.key? }) := by
  have houtcome : shelf.outcome table rows isBatch =
      if shelf.refuses table rows isBatch then .error (.conflict []) else .ok () := by
    rw [outcome, hscript]
  unfold save
  rw [runFrom_bind_of_ok (runFrom_ask _ _)]
  simp only [id_eq, houtcome]
  rw [runFrom_bind_of_ok (runFrom_update _ _), runFrom_ofExcept, hscript]
  split
  · simp [Except.toOption]
  · simp [Except.toOption]

/-- Rows are accepted if none is broken and no parent is missing. -/
theorem refuses_eq_false_iff {shelf : Shelf} {table : Table} {rows : List Row} {isBatch : Bool} :
    shelf.refuses table rows isBatch = false ↔
      (∀ row ∈ rows, ∀ key ∈ table.key? row, key ∉ shelf.broken) ∧
      ∀ row ∈ rows, ∀ parent ∈ parent? row, parent ∈ shelf.saved ∨
        isBatch = true ∧ parent ∈ rows.filterMap table.key? := by
  rw [refuses, Bool.or_eq_false_iff, List.any_eq_false, List.any_eq_false]
  refine and_congr ?_ (forall₂_congr fun row _ => ?_)
  · simp only [List.mem_filterMap, List.contains_iff_mem, Option.mem_def]
    exact ⟨fun h row hrow key hkey => h key ⟨row, hrow, hkey⟩,
      fun h key ⟨row, hrow, hkey⟩ => h row hrow key hkey⟩
  · cases parent? row with
    | none => simp
    | some parent =>
      cases isBatch <;> simp [or_iff_not_imp_left]

section

variable {table : Table} {start shelf after : Shelf} {rows left pending : List Row}

/-- An accepted save puts its keys onto the shelf and changes nothing else. -/
theorem of_accepted {isBatch : Bool} (hscript : shelf.script = [])
    (hsave : runFrom (save table pending isBatch) shelf = (.ok (), after)) :
    shelf.refuses table pending isBatch = false ∧ after.script = [] ∧
      after.broken = shelf.broken ∧
      after.saved = shelf.saved ++ pending.filterMap table.key? := by
  rw [runFrom_save hscript] at hsave
  cases hrefuses : shelf.refuses table pending isBatch with
  | true => simp [hrefuses] at hsave
  | false =>
    simp only [hrefuses, Bool.false_eq_true, ↓reduceIte, Prod.mk.injEq, true_and] at hsave
    subst hsave
    exact ⟨rfl, hscript, rfl, rfl⟩

/-- A refusal without a script is a conflict that leaves everything as it was. -/
theorem of_refused {isBatch : Bool} {error : Error} (hscript : shelf.script = [])
    (hsave : runFrom (save table pending isBatch) shelf = (.error error, after)) :
    error = .conflict [] ∧ shelf.refuses table pending isBatch = true ∧ after.script = [] ∧
      after.broken = shelf.broken ∧ after.saved = shelf.saved := by
  rw [runFrom_save hscript] at hsave
  cases hrefuses : shelf.refuses table pending isBatch with
  | false => simp [hrefuses] at hsave
  | true =>
    simp only [hrefuses, ↓reduceIte, Prod.mk.injEq, Except.error.injEq] at hsave
    obtain ⟨rfl, rfl⟩ := hsave
    exact ⟨rfl, rfl, hscript, rfl, rfl⟩

/-- A shelf with more keys on it refuses no more rows. -/
theorem refuses_of_later {isBatch : Bool} (hbroken : after.broken = shelf.broken)
    (hsaved : ∀ key ∈ shelf.saved, key ∈ after.saved)
    (hrefuses : after.refuses table pending isBatch = true) :
    shelf.refuses table pending isBatch = true := by
  by_contra hnot
  rw [Bool.not_eq_true, refuses_eq_false_iff] at hnot
  have haccepts : after.refuses table pending isBatch = false := by
    refine refuses_eq_false_iff.mpr ⟨hbroken ▸ hnot.1, fun row hrow parent hnames => ?_⟩
    exact (hnot.2 row hrow parent hnames).imp_left (hsaved parent)
  rw [haccepts] at hrefuses
  exact absurd hrefuses Bool.false_ne_true

/-- A shelf in the course of a save: what is on it was there from the start or belongs to a row with
a chain, and the rows that are not `left` have been accepted. -/
structure Partway (table : Table) (start : Shelf) (rows left : List Row) (shelf : Shelf) :
    Prop where
  script : shelf.script = []
  broken : shelf.broken = start.broken
  keeps : ∀ key ∈ start.saved, key ∈ shelf.saved
  sound : ∀ key ∈ shelf.saved, key ∈ start.saved ∨
    ∃ row, IsSupported table start rows row ∧ table.key? row = some key
  accepted : ∀ row ∈ rows, row ∈ left ∨
    IsSupported table start rows row ∧ ∀ key ∈ table.key? row, key ∈ shelf.saved

/-- A refused save leaves the cycles where they were. -/
theorem Partway.of_refused {isBatch : Bool} {error : Error}
    (hpartway : Partway table start rows left shelf)
    (hsave : runFrom (save table pending isBatch) shelf = (.error error, after)) :
    Partway table start rows left after := by
  obtain ⟨_, _, hscript, hbroken, hsaved⟩ := Shelf.of_refused hpartway.script hsave
  constructor
  · exact hscript
  · exact hbroken.trans hpartway.broken
  · exact hsaved ▸ hpartway.keeps
  · exact hsaved ▸ hpartway.sound
  · exact hsaved ▸ hpartway.accepted

/-- Accepted rows with chains are no longer left. -/
theorem Partway.of_accepted {isBatch : Bool} {others : List Row}
    (hpartway : Partway table start rows left shelf)
    (hsave : runFrom (save table pending isBatch) shelf = (.ok (), after))
    (hsupported : ∀ row ∈ pending, IsSupported table start rows row)
    (hleft : ∀ row ∈ left, row ∈ pending ∨ row ∈ others) :
    Partway table start rows others after := by
  obtain ⟨_, hscript, hbroken, hsaved⟩ := Shelf.of_accepted hpartway.script hsave
  constructor
  · exact hscript
  · exact hbroken.trans hpartway.broken
  · intro key hkey
    rw [hsaved]
    exact List.mem_append_left _ (hpartway.keeps key hkey)
  · intro key hkey
    rw [hsaved] at hkey
    rcases List.mem_append.mp hkey with hbefore | hnew
    · exact hpartway.sound key hbefore
    · obtain ⟨row, hrow, hrowKey⟩ := List.mem_filterMap.mp hnew
      exact .inr ⟨row, hsupported row hrow, hrowKey⟩
  · intro row hrow
    rw [hsaved]
    have htaken (hpending : row ∈ pending) : IsSupported table start rows row ∧
        ∀ key ∈ table.key? row, key ∈ shelf.saved ++ pending.filterMap table.key? :=
      ⟨hsupported row hpending, fun key hkey =>
        List.mem_append_right _ (List.mem_filterMap.mpr ⟨row, hpending, hkey⟩)⟩
    rcases hpartway.accepted row hrow with hbefore | ⟨hchain, hkeys⟩
    · exact (hleft row hbefore).symm.imp_right htaken
    · exact .inr ⟨hchain, fun key hkey => List.mem_append_left _ (hkeys key hkey)⟩

/-- A row that is accepted on its own has a chain. -/
theorem Partway.isSupported_of_saveOne {row : Row}
    (hpartway : Partway table start rows left shelf) (hrow : row ∈ rows)
    (hsave : runFrom (save table [row] false) shelf = (.ok (), after)) :
    IsSupported table start rows row := by
  obtain ⟨haccepts, _⟩ := Shelf.of_accepted hpartway.script hsave
  obtain ⟨hwhole, hparents⟩ := refuses_eq_false_iff.mp haccepts
  refine isSupported_of_parent hrow ?_ fun parent hnames => ?_
  · exact hpartway.broken ▸ hwhole row (List.mem_singleton.mpr rfl)
  · have hsaved := hparents row (List.mem_singleton.mpr rfl) parent hnames
    simp only [Bool.false_eq_true, false_and, or_false] at hsaved
    exact hpartway.sound parent hsaved

/-- All rows of an accepted batch have chains: none of them are held up by one another alone. -/
theorem Partway.isSupported_of_saveBatch (hkeys : ∀ row ∈ rows, (table.key? row).isSome)
    (hacyclic : Acyclic table rows) (hpartway : Partway table start rows left shelf)
    (hbatch : ∀ row ∈ pending, row ∈ rows)
    (hsave : runFrom (save table pending true) shelf = (.ok (), after)) :
    ∀ row ∈ pending, IsSupported table start rows row := by
  obtain ⟨haccepts, _⟩ := Shelf.of_accepted hpartway.script hsave
  obtain ⟨hwhole, hparents⟩ := refuses_eq_false_iff.mp haccepts
  refine isSupported_of_together hacyclic hkeys hbatch (hpartway.broken ▸ hwhole) ?_
  intro row hrow parent hnames
  rcases hparents row hrow parent hnames with hsaved | ⟨_, htogether⟩
  · exact (hpartway.sound parent hsaved).imp_right .inl
  · exact .inr (.inr htogether)

/-- Rows saved singly: each is accepted, or it is refused already by the shelf as it was before. -/
theorem Partway.saveSingly {result : Except Error (List Row)}
    (hsingly : SavesSingly writer table pending shelf result after) :
    ∀ passed, (∀ row ∈ pending, row ∈ rows) →
      Partway table start rows (passed ++ pending) shelf →
      ∃ refused, result = .ok refused ∧ refused.Sublist pending ∧
        Partway table start rows (passed ++ refused) after ∧
        ∀ row ∈ refused, shelf.refuses table [row] false = true := by
  induction hsingly with
  | nil => exact fun passed _ hpartway => ⟨[], rfl, .refl _, hpartway, by simp⟩
  | @accepted row rest result shelf middle after hsave _ ih =>
    intro passed hrows hpartway
    obtain ⟨hrow, hrest⟩ := List.forall_mem_cons.mp hrows
    have hchain := hpartway.isSupported_of_saveOne hrow hsave
    have hmiddle : Partway table start rows (passed ++ rest) middle := by
      refine hpartway.of_accepted hsave (by simpa using hchain) fun other hother => ?_
      simp only [List.mem_append, List.mem_cons] at hother ⊢
      tauto
    obtain ⟨refused, hresult, hsub, hafter, hrefuses⟩ := ih passed hrest hmiddle
    obtain ⟨_, _, hbroken, hsaved⟩ := Shelf.of_accepted hpartway.script hsave
    refine ⟨refused, hresult, hsub.cons row, hafter, fun other hother => ?_⟩
    refine refuses_of_later hbroken (fun key hkey => ?_) (hrefuses other hother)
    exact hsaved ▸ List.mem_append_left _ hkey
  | @refused row rest result error shelf middle after hsave _ _ ih =>
    intro passed hrows hpartway
    obtain ⟨_, hrest⟩ := List.forall_mem_cons.mp hrows
    have hmiddle : Partway table start rows (passed ++ [row] ++ rest) middle := by
      rw [List.append_assoc]
      exact hpartway.of_refused hsave
    obtain ⟨refused, hresult, hsub, hafter, hrefuses⟩ := ih (passed ++ [row]) hrest hmiddle
    obtain ⟨_, hrow, _, hbroken, hsaved⟩ := Shelf.of_refused hpartway.script hsave
    refine ⟨row :: refused, by rw [hresult]; rfl, hsub.cons_cons row, ?_, ?_⟩
    · rwa [List.append_assoc] at hafter
    · refine List.forall_mem_cons.mpr ⟨hrow, fun other hother => ?_⟩
      exact refuses_of_later hbroken (fun key hkey => hsaved ▸ hkey) (hrefuses other hother)
  | failed hsave hother =>
    intro passed _ hpartway
    obtain ⟨rfl, _⟩ := Shelf.of_refused hpartway.script hsave
    simp [Error.isConflict] at hother

/-- No row with a chain of at most so many rows is left. -/
def Reaches (table : Table) (start : Shelf) (rows : List Row) (depth : Nat) (left : List Row) :
    Prop :=
  ∀ row ancestors, Chain table start rows (row :: ancestors) → (row :: ancestors).length ≤ depth →
    row ∉ left

/-- What is refused although all rows of some depth were accepted lies deeper than one more. -/
theorem Partway.reaches_succ {depth : Nat} {refused : List Row}
    (hpartway : Partway table start rows left shelf)
    (hreaches : Reaches table start rows depth left)
    (hrefused : ∀ row ∈ refused, shelf.refuses table [row] false = true) :
    Reaches table start rows (depth + 1) refused := by
  intro row ancestors hchain hlength hmem
  have haccepts : shelf.refuses table [row] false = false := by
    refine refuses_eq_false_iff.mpr ?_
    simp only [List.mem_singleton, forall_eq, Bool.false_eq_true, false_and, or_false]
    cases hchain with
    | top _ hwhole hsaved =>
      exact ⟨hpartway.broken ▸ hwhole, fun parent hnames =>
        hpartway.keeps parent (hsaved parent hnames)⟩
    | @under _ above ancestors parent _ hwhole hparent _ hkey habove =>
      refine ⟨hpartway.broken ▸ hwhole, fun other hnames => ?_⟩
      rw [hparent] at hnames
      cases hnames
      have hdone : above ∉ left :=
        hreaches above ancestors habove (Nat.le_of_succ_le_succ hlength)
      have hsaved := (hpartway.accepted above (habove.mem _ List.mem_cons_self)).resolve_left hdone
      exact hsaved.2 parent hkey
  rw [hrefused row hmem] at haccepts
  exact Bool.false_ne_true haccepts.symm

/-- Rows saved in cycles: every cycle reaches one row further down. -/
theorem Partway.saveCycles (hkeys : ∀ row ∈ rows, (table.key? row).isSome)
    (hacyclic : Acyclic table rows) {cycles : Nat} {result : Except Error (List Row)}
    (hcycles : SavesInCycles writer table cycles pending shelf result after) :
    ∀ depth, pending.Sublist rows → Partway table start rows pending shelf →
      Reaches table start rows depth pending →
      ∃ refused, result = .ok refused ∧ refused.Sublist rows ∧
        Partway table start rows refused after ∧
        Reaches table start rows (depth + cycles) refused := by
  induction hcycles with
  | spent => exact fun depth hsub hpartway hreaches => ⟨_, rfl, hsub, hpartway, hreaches⟩
  | accepted hsave =>
    intro depth hsub hpartway _
    have hsupported := hpartway.isSupported_of_saveBatch hkeys hacyclic hsub.subset hsave
    refine ⟨[], rfl, List.nil_sublist _, hpartway.of_accepted hsave hsupported ?_, ?_⟩
    · exact fun row hrow => .inl hrow
    · exact fun row ancestors _ _ => List.not_mem_nil
  | failed hsave hother =>
    intro depth _ hpartway _
    obtain ⟨rfl, _⟩ := Shelf.of_refused hpartway.script hsave
    simp [Error.isConflict] at hother
  | stopped hsave _ hsingly =>
    intro depth hsub hpartway _
    obtain ⟨refused, hresult, _⟩ :=
      Partway.saveSingly hsingly [] hsub.subset (hpartway.of_refused hsave)
    cases hresult
  | cleared hsave _ hsingly =>
    intro depth hsub hpartway _
    obtain ⟨refused, hresult, _, hafter, _⟩ :=
      Partway.saveSingly hsingly [] hsub.subset (hpartway.of_refused hsave)
    cases hresult
    exact ⟨[], rfl, List.nil_sublist _, hafter, fun row ancestors _ _ => List.not_mem_nil⟩
  | @again cycles pending refused _ _ _ _ _ _ hsave _ hsingly _ _ ih =>
    intro depth hsub hpartway hreaches
    have hmiddle := hpartway.of_refused hsave
    obtain ⟨others, hresult, hsubRefused, hlater, hrefuses⟩ :=
      Partway.saveSingly hsingly [] hsub.subset hmiddle
    cases hresult
    have hdeeper := hmiddle.reaches_succ hreaches hrefuses
    obtain ⟨last, hlast⟩ := ih (depth + 1) (hsubRefused.trans hsub) hlater hdeeper
    rw [Nat.add_assoc, Nat.add_comm 1] at hlast
    exact ⟨last, hlast⟩

end

end Shelf

end AgentSync
