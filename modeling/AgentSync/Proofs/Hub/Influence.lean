import AgentSync.Proofs.Hub.Replay

namespace AgentSync

open AgentSync.Action

namespace HubStore

/-- The columns of a table that a store knows from before, or by an answer. -/
def Knows (cache : ColumnCache) (sent : List Sent) (table : Table) (columns : List String) : Prop :=
  cache table = some columns ∨ Reveals sent table columns

/-- The owner that an answer gives. -/
def ownerOf? (answer : Except DatabaseError Answer) : Option Uuid :=
  answer.toOption.bind fun found => found.rows.head?.bind Json.uuid?

/-- The owner of the rows of a bundle, by the answer to the first statement. -/
def Registers (bundle : Bundle) (sent : List Sent) (owner : Uuid) : Prop :=
  ∃ answer, sent.head? = some ⟨.registerAgent bundle.agentName, answer⟩ ∧
    ownerOf? answer = some owner

/-- An upsert that stores rows of a bundle for its owner, under columns that the hub knows. -/
structure StoresFor (cache : ColumnCache) (sent : List Sent) (bundle : Bundle) (owner : Uuid)
    (table : Table) (columns : List String) (rows : List Row) : Prop where
  registers : Registers bundle sent owner
  columns_known : ∃ known, Knows cache sent table known ∧ columns = insertColumns known rows ∧
    (table.hasOwner = true → Bundle.ownerColumn ∈ known → Bundle.ownerColumn ∈ columns)
  flag_unnamed : flagColumn ∉ columns
  rows_stamped : ∀ row ∈ rows, row ∈ (bundle.populateOwner owner).rows table
  owner_bound : table.hasOwner = true → ∀ row ∈ rows,
    row.get? Bundle.ownerColumn = some (.str owner.text)

/-- Rows with the same of the columns that are known and that are saved as they are: neither the
column that is never saved nor, where rows have an owner, the owner's. -/
def Interchangeable (known : Table → List String → Prop) (table : Table) (row other : Row) : Prop :=
  ∀ columns, known table columns → ∀ column ∈ columns, column ≠ flagColumn →
    (table.hasOwner = true → column ≠ Bundle.ownerColumn) →
    (column ∈ row.keys ↔ column ∈ other.keys)

/-- The columns of an upsert are the known ones that any of its rows has, but for the flag. -/
theorem mem_insertColumns {columns : List String} {rows : List Row} {column : String} :
    column ∈ insertColumns columns rows ↔
      column ∈ columns ∧ column ≠ flagColumn ∧ ∃ row ∈ rows, column ∈ row.keys := by
  simp [insertColumns]

section Rows

variable {known : Table → List String → Prop} {bundle other : Bundle}

/-- Rows with the same of the columns that are known, the first one a row of a bundle. -/
def SameOf (known : Table → List String → Prop) (bundle : Bundle) (table : Table)
    (row other : Row) : Prop :=
  row ∈ bundle.rows table ∧ SameColumns known table row other

theorem sameColumns_of_sameOf (known : Table → List String → Prop) (bundle : Bundle) (table : Table)
    (row other : Row) (h : SameOf known bundle table row other) :
    SameColumns known table row other := h.2

/-- Every row of a table with an owner column has the owner that was looked up, whatever it had
before. -/
theorem get?_populateOwner {owner : Uuid} {table : Table} (howner : table.hasOwner = true)
    {row : Row} (hrow : row ∈ (bundle.populateOwner owner).rows table) :
    row.get? Bundle.ownerColumn = some (.str owner.text) := by
  unfold Bundle.populateOwner at hrow
  dsimp only at hrow
  rw [if_pos howner] at hrow
  obtain ⟨original, -, rfl⟩ := List.mem_map.mp hrow
  rw [Dict.get?_insert, if_pos rfl]

/-- Under one owner both rows have the owner's column. -/
theorem sameOf_populateOwner (owner : Uuid)
    (hrows : ∀ table, List.Forall₂ (Interchangeable known table) (bundle.rows table)
      (other.rows table)) (table : Table) :
    List.Forall₂ (SameOf known (bundle.populateOwner owner) table)
      ((bundle.populateOwner owner).rows table) ((other.populateOwner owner).rows table) := by
  refine (List.forall₂_and_left _ _).mpr ⟨fun row hrow => hrow, ?_⟩
  unfold Bundle.populateOwner
  dsimp only
  cases howner : table.hasOwner with
  | true =>
    rw [if_pos rfl, if_pos rfl, List.forall₂_map_left_iff, List.forall₂_map_right_iff]
    refine (hrows table).imp fun row other hsame columns hknown column hcolumn hflag => ?_
    rw [Dict.mem_keys_insert, Dict.mem_keys_insert]
    by_cases howned : column = Bundle.ownerColumn
    · simp [howned]
    · rw [hsame columns hknown column hcolumn hflag fun _ => howned]
  | false =>
    refine (hrows table).imp fun row other hsame columns hknown column hcolumn hflag => ?_
    exact hsame columns hknown column hcolumn hflag (by simp [howner])

/-- Bundles whose rows pair up have their tables in the same places, since a table without rows
pairs with no other. -/
theorem pairedTables_of_rows {pair : Table → Row → Row → Prop}
    (hrows : ∀ table, List.Forall₂ (pair table) (bundle.rows table) (other.rows table)) :
    PairedTables pair bundle.tables other.tables := by
  unfold Bundle.tables
  induction Table.all with
  | nil => exact .nil
  | cons table rest ih =>
    have hempty : (bundle.rows table).isEmpty = (other.rows table).isEmpty := by
      rw [Bool.eq_iff_iff, List.isEmpty_iff_length_eq_zero, List.isEmpty_iff_length_eq_zero,
        (hrows table).length_eq]
    rw [List.map_cons, List.map_cons, List.filter_cons, List.filter_cons]
    dsimp only
    rw [hempty]
    split
    · exact .cons ⟨rfl, hrows table⟩ ih
    · exact ih

end Rows

theorem registerAgent_of_nameless {ω : Type} (store : HubStore ω) {name : String}
    (hname : name = "") :
    store.registerAgent name = throw (.invalidInput "agent name is required") := by
  subst hname
  rfl

/-- A registration sends one statement, and its answer alone decides on the owner. -/
theorem runFrom_registerAgent {ω : Type} (store : HubStore ω) {name : String} (hname : name ≠ "")
    {state after : ω} {answer : Except DatabaseError Answer}
    (hsend : runFrom (store.db.run (.registerAgent name)) state =
      (answer.mapError Error.database, after)) :
    ∃ outcome, runFrom (store.registerAgent name) state = (outcome, after) ∧
      outcome.toOption = ownerOf? answer := by
  have hnamed : name.isEmpty = false := by simpa using hname
  obtain ⟨outcome, hrun, houtcome⟩ := store.db.runFrom_queryOne Json.uuid? hsend
  refine ⟨outcome, ?_, ?_⟩
  · rw [registerAgent, requireName, hnamed]
    exact hrun
  · rw [houtcome]
    cases answer with
    | error error => rfl
    | ok answer => rfl

/-- The statements that are sent while a bundle is saved, with their answers. -/
def sentFor {ω : Type} (db : Database ω) (maxRetries : Nat) (cache : ColumnCache) (state : ω)
    (bundle : Bundle) : List Sent :=
  (runFrom ((HubStore.mk db.recorded maxRetries).insertBundle bundle)
    ⟨cache, ⟨[], state⟩⟩).2.rest.own

/-- How the statements of a bundle begin: there are none without a name, one if it gives no owner,
and otherwise those follow that save the rows of that owner, as they save other rows with the same
of the columns that are known. -/
inductive Begins (maxRetries : Nat) (cache : ColumnCache) (bundle : Bundle) : List Sent → Prop
  | nameless (hname : bundle.agentName = "") : Begins maxRetries cache bundle []
  | unowned {answer : Except DatabaseError Answer} (hname : bundle.agentName ≠ "")
      (howner : ownerOf? answer = none) :
      Begins maxRetries cache bundle [⟨.registerAgent bundle.agentName, answer⟩]
  | owned {answer : Except DatabaseError Answer} {owner : Uuid} {sent : List Sent}
      {known : Table → List String → Prop} (hname : bundle.agentName ≠ "")
      (howner : ownerOf? answer = some owner)
      (hknown : known = Knows cache (⟨.registerAgent bundle.agentName, answer⟩ :: sent))
      (hsaves : ∀ other : Bundle, (∀ table, List.Forall₂ (Interchangeable known table)
        (bundle.rows table) (other.rows table)) →
          ∃ outcome after, Echoes known (SameOf known (bundle.populateOwner owner))
            ((scripted maxRetries).saveTables (other.populateOwner owner).tables ⟨0, []⟩) cache
            sent outcome after) :
      Begins maxRetries cache bundle (⟨.registerAgent bundle.agentName, answer⟩ :: sent)

/-- What is sent for a bundle begins with its registration, and every later statement belongs to its
saves. -/
theorem sentFor_begins {ω : Type} (db : Database ω) (maxRetries : Nat) (cache : ColumnCache)
    (state : ω) (bundle : Bundle) :
    Begins maxRetries cache bundle (sentFor db maxRetries cache state bundle) := by
  unfold sentFor
  by_cases hname : bundle.agentName = ""
  · rw [insertBundle, registerAgent_of_nameless _ hname]
    exact .nameless hname
  · obtain ⟨answer, rest, hsend⟩ := db.runFrom_recorded (.registerAgent bundle.agentName)
      ⟨[], state⟩
    obtain ⟨outcome, hregister, houtcome⟩ :=
      runFrom_registerAgent (HubStore.mk db.recorded maxRetries) hname hsend
    rw [insertBundle, runFrom_bind, Beside.runFrom_action]
    dsimp only
    rw [hregister]
    cases outcome with
    | error error => exact .unowned hname houtcome.symm
    | ok owner =>
      dsimp only
      rcases hrun : runFrom ((HubStore.mk db.recorded maxRetries).saveTables
        (bundle.populateOwner owner).tables ⟨0, []⟩) ⟨cache, ⟨_, rest⟩⟩ with ⟨last, after⟩
      -- What was sent is the same whatever is taken to be known of it.
      have hnever : ∀ table row other, (fun _ _ _ => False : Table → Row → Row → Prop) table row
          other → SameColumns (fun _ _ => True) table row other := fun _ _ _ hpair => hpair.elim
      obtain ⟨sent, hsent, -⟩ := saveTables_replayed hnever hrun
      rw [hsent]
      refine .owned hname houtcome.symm rfl fun other hrows => ?_
      have hpair := sameColumns_of_sameOf
        (Knows cache (⟨.registerAgent bundle.agentName, answer⟩ :: sent))
        (bundle.populateOwner owner)
      obtain ⟨others, hsame, hall⟩ := saveTables_replayed hpair hrun
      obtain rfl : sent = others := List.append_cancel_left (hsent.symm.trans hsame)
      have hlater : ∀ table columns, Reveals sent table columns →
          Knows cache (⟨.registerAgent bundle.agentName, answer⟩ :: sent) table columns := by
        rintro table columns ⟨found, hmem, hread⟩
        exact .inr ⟨found, .tail _ hmem, hread⟩
      obtain ⟨outcome, hechoes⟩ := (hall (fun _ _ => .inl) hlater).2 _ ⟨0, []⟩
        (pairedTables_of_rows (sameOf_populateOwner owner hrows))
      exact ⟨outcome, _, hechoes⟩

section Again

variable {known : Table → List String → Prop} {pair : Table → Row → Row → Prop} {maxRetries : Nat}
  {cache : ColumnCache} {other : Bundle} {answer : Except DatabaseError Answer}
  (hname : other.agentName ≠ "")

include hname

/-- Without an owner the bundle is given up after its registration, so any other is. -/
theorem insertBundle_of_unowned (howner : ownerOf? answer = none)
    (rest : List (Except DatabaseError Answer)) :
    (runFrom ((scripted maxRetries).insertBundle other)
      ⟨cache, .replaying (answer :: rest) []⟩).2.rest =
        .replaying rest [.registerAgent other.agentName] := by
  obtain ⟨outcome, hregister, houtcome⟩ := runFrom_registerAgent (scripted maxRetries) hname
    (ScriptedDatabase.runFrom_replaying rfl answer rest [])
  rw [insertBundle, runFrom_bind, Beside.runFrom_action]
  dsimp only
  rw [hregister]
  cases outcome with
  | error error => rfl
  | ok owner =>
    rw [howner] at houtcome
    cases houtcome

/-- With an owner another bundle is saved by statements that pair up with the first one's. -/
theorem insertBundle_of_owned {owner : Uuid} (howner : ownerOf? answer = some owner)
    {sent : List Sent} {outcome : Except Error Nat} {after : ColumnCache}
    (hechoes : Echoes known pair
      ((scripted maxRetries).saveTables (other.populateOwner owner).tables ⟨0, []⟩) cache sent
      outcome after) :
    ∃ commands, List.Forall₂ (Twin known pair) (sent.map (·.command)) commands ∧
      ∀ rest, (runFrom ((scripted maxRetries).insertBundle other)
        ⟨cache, .replaying (answer :: (sent.map (·.answer) ++ rest)) []⟩).2.rest =
          .replaying rest (.registerAgent other.agentName :: commands) := by
  obtain ⟨commands, htwins, hrun⟩ := hechoes
  refine ⟨commands, htwins, fun rest => ?_⟩
  obtain ⟨found, hregister, hfound⟩ := runFrom_registerAgent (scripted maxRetries) hname
    (ScriptedDatabase.runFrom_replaying rfl answer (sent.map (·.answer) ++ rest) [])
  rw [howner] at hfound
  cases found with
  | error error => cases hfound
  | ok found =>
    cases hfound
    rw [insertBundle, runFrom_bind, Beside.runFrom_action]
    dsimp only
    rw [hregister]
    dsimp only
    rw [hrun]
    rfl

end Again

section Twins

variable {known : Table → List String → Prop} {pair : Table → Row → Row → Prop}

theorem texts_of_twins {commands others : List Command}
    (h : List.Forall₂ (Twin known pair) commands others) :
    others.map (·.text) = commands.map (·.text) := by
  induction h with
  | nil => rfl
  | cons htwin _ ih => rw [List.map_cons, List.map_cons, htwin.text_eq, ih]

theorem exists_twin {commands others : List Command}
    (h : List.Forall₂ (Twin known pair) commands others) {command : Command}
    (hmem : command ∈ commands) : ∃ other, Twin known pair command other := by
  induction h with
  | nil => cases hmem
  | cons htwin _ ih =>
    rcases List.mem_cons.mp hmem with rfl | hlater
    · exact ⟨_, htwin⟩
    · exact ih hlater

end Twins

namespace Begins

variable {maxRetries : Nat} {cache : ColumnCache} {bundle : Bundle} {sent : List Sent}

/-- A bundle is saved as it is saved again. -/
theorem storesFor (h : Begins maxRetries cache bundle sent) {entry : Sent} (hentry : entry ∈ sent)
    {table : Table} {columns : List String} {rows : List Row}
    (hupsert : entry.command = .upsert table columns rows) :
    ∃ owner, StoresFor cache sent bundle owner table columns rows := by
  cases h with
  | nameless => cases hentry
  | unowned =>
    obtain rfl := List.mem_singleton.mp hentry
    cases hupsert
  | @owned answer owner more known hname howner hknown hsaves =>
    rcases List.mem_cons.mp hentry with rfl | hlater
    · cases hupsert
    · obtain ⟨outcome, after, hagain⟩ := hsaves bundle fun table =>
        List.forall₂_same.mpr fun _ _ _ _ _ _ _ _ => Iff.rfl
      obtain ⟨commands, htwins, -⟩ := hagain
      obtain ⟨other, htwin⟩ := exists_twin htwins (List.mem_map_of_mem hlater)
      rw [hupsert] at htwin
      cases htwin with
      | @upsert _ columns _ others hcolumns hsome hrows =>
        have hstamped := ((List.forall₂_and_left _ _).mp hrows).1
        have hbound (howned : table.hasOwner = true) (row : Row) (hrow : row ∈ rows) :
            row.get? Bundle.ownerColumn = some (.str owner.text) :=
          get?_populateOwner howned (hstamped row hrow)
        refine ⟨owner, ⟨answer, rfl, howner⟩, ⟨columns, hknown ▸ hcolumns, rfl, ?_⟩, ?_, hstamped,
          hbound⟩
        · intro howned hmem
          obtain ⟨column, hcolumn⟩ := List.exists_mem_of_ne_nil _ hsome
          obtain ⟨-, -, row, hrow, -⟩ := mem_insertColumns.mp hcolumn
          exact mem_insertColumns.mpr
            ⟨hmem, by decide, row, hrow, Dict.mem_keys_iff.mpr ⟨_, hbound howned row hrow⟩⟩
        · exact fun hflag => (mem_insertColumns.mp hflag).2.1 rfl

/-- Whatever was sent first, another bundle of the same columns gets it sent again as far as texts
go. -/
theorem texts (h : Begins maxRetries cache bundle sent) {other : Bundle}
    (hname : other.agentName = "" ↔ bundle.agentName = "")
    (hrows : ∀ table, List.Forall₂ (Interchangeable (Knows cache sent) table) (bundle.rows table)
      (other.rows table)) (rest : List (Except DatabaseError Answer)) :
    ∃ commands, (runFrom ((scripted maxRetries).insertBundle other)
        ⟨cache, .replaying (sent.map (·.answer) ++ rest) []⟩).2.rest = .replaying rest commands ∧
      commands.map (·.text) = sent.map (·.command.text) := by
  cases h with
  | nameless hnone =>
    refine ⟨[], ?_, rfl⟩
    rw [insertBundle, registerAgent_of_nameless _ (hname.mpr hnone)]
    rfl
  | unowned hsome howner =>
    exact ⟨[.registerAgent other.agentName],
      insertBundle_of_unowned (mt hname.mp hsome) howner rest, rfl⟩
  | owned hsome howner hknown hsaves =>
    obtain ⟨outcome, after, hagain⟩ := hsaves other (hknown ▸ hrows)
    obtain ⟨commands, htwins, hrun⟩ := insertBundle_of_owned (mt hname.mp hsome) howner hagain
    have htexts := texts_of_twins htwins
    rw [List.map_map] at htexts
    refine ⟨.registerAgent other.agentName :: commands, hrun rest, ?_⟩
    rw [List.map_cons, List.map_cons, htexts]
    rfl

end Begins

/-- The reach of a bundle, for all bundles and all answers of the database. Every upsert stores rows
of the bundle as rows of the owner that was looked up. And every other bundle whose rows have, one
by one, the same of the columns that came to be known is saved by statements of the same texts if
they get the same answers. -/
theorem insertBundle_influence {ω : Type} (db : Database ω) (maxRetries : Nat)
    (cache : ColumnCache) (state : ω) (bundle : Bundle) :
    let sent := sentFor db maxRetries cache state bundle
    (∀ entry ∈ sent, ∀ table columns rows, entry.command = .upsert table columns rows →
      ∃ owner, StoresFor cache sent bundle owner table columns rows) ∧
    ∀ other : Bundle, (other.agentName = "" ↔ bundle.agentName = "") →
      (∀ table, List.Forall₂ (Interchangeable (Knows cache sent) table) (bundle.rows table)
        (other.rows table)) →
      ∀ rest, ∃ commands,
        (runFrom ((scripted maxRetries).insertBundle other)
          ⟨cache, .replaying (sent.map (·.answer) ++ rest) []⟩).2.rest =
            .replaying rest commands ∧
        commands.map (·.text) = sent.map (·.command.text) := by
  intro sent
  have hbegins : Begins maxRetries cache bundle sent :=
    sentFor_begins db maxRetries cache state bundle
  exact ⟨fun entry hentry table columns rows hupsert => hbegins.storesFor hentry hupsert,
    fun other hname hrows rest => hbegins.texts hname hrows rest⟩

end HubStore

/-- A database with one agent, which takes one row at a time. -/
def singlesDatabase : Database Unit where
  send
    | .registerAgent _ => pure (.ok ⟨[.str Uuid.nil.text], 1⟩)
    | .columnsOf _ => pure (.ok ⟨[.str "id", .str "agent_id", .str "type", .str "is_pushed"], 4⟩)
    | .upsert _ _ rows =>
      pure (if rows.length ≤ 1 then .ok ⟨[], rows.length⟩
        else .error (.reported DatabaseError.foreignKeyViolation ""))
    | _ => pure (.ok ⟨[], 0⟩)

/-- A bundle of two checks. -/
def checksBundle (first second : List (String × Json)) : Bundle :=
  (Bundle.new "agent-a").addRows .checks [.ofList first, .ofList second]

/-- Rows that claim another owner and are flagged, one with a column that no table has. -/
def forgedBundle : Bundle :=
  checksBundle [("id", .str "a"), ("agent_id", .str "other"), ("is_pushed", .bool true)]
    [("id", .str "b"), ("type", .str "t"), ("x\" = 1; --", .str "y")]

/-- Rows with the same columns that are saved as they are. -/
def honestBundle : Bundle := checksBundle [("id", .str "c")] [("id", .str "d"), ("type", .null)]

/-- Whether a statement is answered with the columns that database has. -/
def namesColumns (entry : Sent) : Bool :=
  match entry.command, entry.answer with
  | .columnsOf _, .ok answer =>
    answer.rows.mapM Json.string? == some ["id", "agent_id", "type", "is_pushed"]
  | _, _ => true

/-- Whether a statement stores checks under two columns. -/
def storesPair (entry : Sent) : Bool :=
  match entry.command with
  | .upsert .checks ["id", "agent_id"] _ => true
  | _ => false

/-- What is sent for the forged rows. -/
def forgedSent : List Sent := HubStore.sentFor singlesDatabase 3 .empty () forgedBundle

theorem forgedSent_stores : forgedSent.any storesPair = true := by decide +kernel

theorem forgedSent_names : forgedSent.all namesColumns = true := by decide +kernel

/-- The only columns that come to be known are those in the one answer that names some. -/
theorem known_of_forgedSent {table : Table} {columns : List String}
    (h : HubStore.Knows .empty forgedSent table columns) :
    columns = ["id", "agent_id", "type", "is_pushed"] := by
  rcases h with hcache | ⟨answer, hentry, hread⟩
  · cases hcache
  · have hnames := List.all_eq_true.mp forgedSent_names _ hentry
    simpa [namesColumns, hread] using hnames

/-- The rows of both bundles are as good as each other, one by one. -/
theorem interchangeable_honest (table : Table) :
    List.Forall₂ (HubStore.Interchangeable (HubStore.Knows .empty forgedSent) table)
      (forgedBundle.rows table) (honestBundle.rows table) := by
  have hsame {row other : Row} (hkeys : ∀ column ∈ ["id", "agent_id", "type", "is_pushed"],
      column ≠ HubStore.flagColumn → column ≠ Bundle.ownerColumn →
        (column ∈ row.keys ↔ column ∈ other.keys)) :
      HubStore.Interchangeable (HubStore.Knows .empty forgedSent) .checks row other := by
    intro columns hcolumns column hmem hflag howner
    rw [known_of_forgedSent hcolumns] at hmem
    exact hkeys column hmem hflag (howner rfl)
  by_cases hchecks : table = .checks
  · subst hchecks
    exact .cons (hsame (by decide)) (.cons (hsame (by decide)) .nil)
  · have hnone (first second : List (String × Json)) :
        (checksBundle first second).rows table = [] := by
      simp [checksBundle, Bundle.addRows, Bundle.modify, Bundle.new, hchecks]
    rw [forgedBundle, honestBundle, hnone, hnone]
    exact .nil

/-- The first row is stored for the owner that was looked up, without its flag, and the statements
have the texts of those that store the other bundle. -/
theorem forgedBundle_influence :
    (∃ entry ∈ forgedSent, ∃ owner rows, entry.command = .upsert .checks ["id", "agent_id"] rows ∧
      HubStore.StoresFor .empty forgedSent forgedBundle owner .checks ["id", "agent_id"] rows) ∧
    ∃ commands,
      (runFrom ((HubStore.scripted 3).insertBundle honestBundle)
        ⟨.empty, .replaying (forgedSent.map (·.answer) ++ []) []⟩).2.rest = .replaying [] commands ∧
      commands.map (·.text) = forgedSent.map (·.command.text) := by
  have hall := HubStore.insertBundle_influence singlesDatabase 3 .empty () forgedBundle
  rw [← forgedSent] at hall
  obtain ⟨hstored, htexts⟩ := hall
  constructor
  · obtain ⟨entry, hentry, hpair⟩ := List.any_eq_true.mp forgedSent_stores
    unfold storesPair at hpair
    split at hpair
    · next rows hupsert =>
      obtain ⟨owner, hstores⟩ := hstored entry hentry .checks _ rows hupsert
      exact ⟨entry, hentry, owner, rows, hupsert, hstores⟩
    · cases hpair
  · exact htexts honestBundle Iff.rfl interchangeable_honest []

end AgentSync
