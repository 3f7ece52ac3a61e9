import AgentSync.Proofs.Hub.Course

namespace AgentSync

open AgentSync.Action

namespace HubStore

variable {ω : Type} (db : Database ω) (maxRetries : Nat)

/-- Rows that were saved, but for some without a key, by what the database has accepted before and
after. -/
def SavedButKeyless (table : Table) (rows before after : List Row) : Prop :=
  ∃ left : List Row, left.Sublist rows ∧ (∀ row ∈ left, table.key? row = none) ∧
    (after ++ left).Perm (before ++ rows)

/-- Saves that succeed leave none but rows without a key. By induction on the tables, each of which
has to leave no key behind. -/
theorem saveTables_of_ok {tables : List (Table × List Row)}
    (hnodup : (tables.map Prod.fst).Nodup) {saved : Saved} {n : Nat}
    {state after : HubState (Beside (List Sent) ω)}
    (hrun : runFrom ((HubStore.mk db.recorded maxRetries).saveTables tables saved) state =
      (.ok n, after)) :
    saved.refused = [] ∧ n = saved.count + (tables.flatMap Prod.snd).length ∧
      (∀ table rows, (table, rows) ∈ tables → SavedButKeyless table rows
        (acceptedRows table state.rest.own) (acceptedRows table after.rest.own)) ∧
      ∀ table, table ∉ tables.map Prod.fst →
        acceptedRows table after.rest.own = acceptedRows table state.rest.own := by
  obtain ⟨result, _, hturn, hruns⟩ := RowWriter.saveTables_runs
    (HubStore.mk db.recorded maxRetries).writer maxRetries tables saved state
  rw [saveTables_eq] at hrun
  obtain ⟨houtcome, rfl⟩ := Prod.mk.inj (hrun.symm.trans hruns)
  cases result with
  | error error => cases houtcome
  | ok keys =>
    change _ = Saved.result _ at houtcome
    rw [Saved.result] at houtcome
    split at houtcome
    · next hnone =>
      cases houtcome
      obtain ⟨hrefused, rfl⟩ := List.append_eq_nil_iff.mp (List.isEmpty_iff.mp hnone)
      obtain ⟨refused, haccounts, hkeys⟩ := hturn.accounts hnodup [] rfl
      refine ⟨hrefused, rfl, fun table rows hmem => ?_, fun table hnot =>
        (haccounts.other table hnot).2⟩
      have hkeyless := List.flatMap_eq_nil_iff.mp hkeys.symm (table, rows) hmem
      exact ⟨refused table, haccounts.sublist table rows hmem,
        List.filterMap_eq_nil_iff.mp hkeyless, haccounts.perm table rows hmem⟩
    · cases houtcome

/-- The exact meaning of success, for all bundles and all answers of the database: the answer is the
number of rows, and of every table all rows were accepted but for some without a key. -/
theorem insertBundle_of_ok (bundle : Bundle) (cache : ColumnCache) (state : ω) {n : Nat}
    {after : HubState (Beside (List Sent) ω)}
    (hrun : runFrom ((HubStore.mk db.recorded maxRetries).insertBundle bundle)
      ⟨cache, ⟨[], state⟩⟩ = (.ok n, after)) :
    n = bundle.count ∧ ∃ owner, ∀ table, ∃ left : List Row,
      left.Sublist ((bundle.populateOwner owner).rows table) ∧
      (∀ row ∈ left, table.key? row = none) ∧
      (acceptedRows table after.rest.own ++ left).Perm
        ((bundle.populateOwner owner).rows table) := by
  have hregistered (table : Table) := keeps_registerAgent db maxRetries bundle.agentName table
    ⟨[], state⟩
  rcases hregister : runFrom ((HubStore.mk db.recorded maxRetries).registerAgent bundle.agentName)
    ⟨[], state⟩ with ⟨error | owner, middle⟩
  · rw [insertBundle, runFrom_bind, Beside.runFrom_action, hregister] at hrun
    cases hrun
  · rw [insertBundle, runFrom_bind, Beside.runFrom_action, hregister] at hrun
    dsimp only at hrun
    obtain ⟨-, hcount, htables, hothers⟩ :=
      saveTables_of_ok db maxRetries (bundle.populateOwner owner).nodup_tables hrun
    rw [Nat.zero_add, Bundle.length_tables, Bundle.count_populateOwner] at hcount
    refine ⟨hcount, owner, fun table => ?_⟩
    have hbefore : acceptedRows table middle.own = [] := by
      have hkeep := hregistered table
      rw [hregister] at hkeep
      exact hkeep
    -- Tables without rows are not among those that are saved.
    by_cases hrows : (bundle.populateOwner owner).rows table = []
    · have hnone : table ∉ (bundle.populateOwner owner).tables.map Prod.fst := by
        intro hmem
        obtain ⟨⟨_, rows⟩, hentry, rfl⟩ := List.mem_map.mp hmem
        obtain ⟨rfl, hsome⟩ := Bundle.mem_tables.mp hentry
        exact hsome hrows
      refine ⟨[], List.nil_sublist _, by simp, ?_⟩
      have hafter := hothers table hnone
      dsimp only at hafter
      rw [hafter, hbefore, hrows, List.append_nil]
    · have hsaved := htables table _ (Bundle.mem_tables.mpr ⟨rfl, hrows⟩)
      dsimp only at hsaved
      rw [hbefore, SavedButKeyless] at hsaved
      simpa using hsaved

end HubStore

/-- A database that refuses every upsert with a row that has no key. -/
def keyedDatabase : Database Unit where
  send
    | .registerAgent _ => pure (.ok ⟨[.str Uuid.nil.text], 1⟩)
    | .columnsOf _ => pure (.ok ⟨[.str "id", .str "type"], 2⟩)
    | .upsert table _ rows =>
      pure (if rows.all fun row => (table.key? row).isSome then .ok ⟨[], rows.length⟩
        else .error (.reported DatabaseError.foreignKeyViolation ""))
    | _ => pure (.ok ⟨[], 0⟩)

def keyedRow : Row := .ofList [("id", .str "kept")]

def keylessRow : Row := .ofList [("type", .str "http")]

/-- What saving rows over that database comes to. -/
def keyedSave (rows : List Row) : Except Error Nat × HubState (Beside (List Sent) Unit) :=
  runFrom ((HubStore.mk keyedDatabase.recorded 3).insertBundle
    ((Bundle.new "agent-a").addRows .checks rows)) ⟨.empty, ⟨[], ()⟩⟩

/-- The save succeeds with both rows counted, and the row without a key was never accepted. -/
theorem keyedSave_leaves : (keyedSave [keyedRow, keylessRow]).1 = .ok 2 ∧
    ∃ left, left ≠ [] ∧ (∀ row ∈ left, Table.checks.key? row = none) ∧ ∃ owner,
      (acceptedRows .checks (keyedSave [keyedRow, keylessRow]).2.rest.own ++ left).Perm
        ((((Bundle.new "agent-a").addRows .checks [keyedRow, keylessRow]).populateOwner owner).rows
          .checks) := by
  have hrun : (keyedSave [keyedRow, keylessRow]).1 = .ok 2 := by
    have hsome : (keyedSave [keyedRow, keylessRow]).1.toOption = some 2 := by decide +kernel
    cases hresult : (keyedSave [keyedRow, keylessRow]).1 with
    | error error => simp [hresult, Except.toOption] at hsome
    | ok n => simpa [hresult, Except.toOption] using hsome
  have haccepted :
      (acceptedRows .checks (keyedSave [keyedRow, keylessRow]).2.rest.own).length = 1 := by
    decide +kernel
  rcases hsave : keyedSave [keyedRow, keylessRow] with ⟨outcome, after⟩
  rw [hsave] at hrun haccepted
  cases hrun
  unfold keyedSave at hsave
  obtain ⟨-, owner, htables⟩ := HubStore.insertBundle_of_ok keyedDatabase 3
    ((Bundle.new "agent-a").addRows .checks [keyedRow, keylessRow]) .empty () hsave
  obtain ⟨left, -, hkeyless, hperm⟩ := htables .checks
  refine ⟨rfl, left, ?_, hkeyless, owner, hperm⟩
  rintro rfl
  have hlength := hperm.length_eq
  rw [List.append_nil, haccepted] at hlength
  simp [Bundle.populateOwner, Table.hasOwner, Bundle.addRows, Bundle.modify, Bundle.new] at hlength

/-- A row that the database refuses in every cycle is counted as saved. -/
theorem keyless_row_lost : (keyedSave [keylessRow]).1.toOption = some 1 ∧
    acceptedRows .checks (keyedSave [keylessRow]).2.rest.own = [] := by
  decide +kernel

end AgentSync
