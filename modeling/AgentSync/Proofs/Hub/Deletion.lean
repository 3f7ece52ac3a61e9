import AgentSync.Proofs.Hub.Records
import AgentSync.Proofs.Hub.Store

namespace AgentSync

open AgentSync.Action

namespace Command

def IsDelete (command : Command) : Prop := ∃ rest, command.text = "DELETE FROM " ++ rest

/-- A deletion with the condition that the owner of a row is the agent with a given identifier. -/
def IsConfinedTo (command : Command) (owner : Uuid) : Prop :=
  (∃ table rest,
      command.text = "DELETE FROM " ++ table ++ " t WHERE t.agent_id = $1 AND " ++ rest) ∧
    command.params.head? = some (.uuid owner)

/-- A statement that starts with another letter deletes nothing. -/
theorem not_isDelete {command : Command} (hfirst : command.text.toList.head? ≠ some 'D') :
    ¬command.IsDelete := by
  rintro ⟨rest, htext⟩
  apply hfirst
  rw [htext, String.toList_append]
  rfl

theorem not_isDelete_begin : ¬begin.IsDelete := not_isDelete (by decide)

theorem not_isDelete_commit : ¬commit.IsDelete := not_isDelete (by decide)

theorem not_isDelete_rollback : ¬rollback.IsDelete := not_isDelete (by decide)

theorem not_isDelete_findAgent (name : String) : ¬(findAgent name).IsDelete :=
  not_isDelete (show "SELECT id FROM agents WHERE name = $1".toList.head? ≠ some 'D' by decide)

end Command

/-- A stored row with the agent it belongs to, by its own column or by the row it refers to. -/
structure StoredRow where
  table : Table
  key : String
  owner : Uuid

/-- The rows that a deletion removes. -/
def Command.Removes : Command → StoredRow → Prop
  | .deleteOwned table owner keys, row => row.table = table ∧ row.owner = owner ∧ row.key ∈ keys
  | .deleteRows table keys, row => row.table = table ∧ row.key ∈ keys
  | _, _ => False

namespace HubStore

section

variable (table : Table) (owner : Uuid) (keys : List String)

/-- In a table with an owner the deletion is confined by its text. -/
theorem text_deleteOwned : (Command.deleteOwned table owner keys).text =
    "DELETE FROM " ++ table.name ++ " t WHERE t.agent_id = $1 AND " ++
      Command.keyExpression table "t" ++ " = ANY($2)" := rfl

/-- In a table without an owner the text names nothing but the keys. -/
theorem text_deleteRows : (Command.deleteRows table keys).text =
    "DELETE FROM " ++ table.name ++ " t WHERE " ++ Command.keyExpression table "t" ++
      " = ANY($1)" := rfl

theorem isDelete_deletion : (deletion table owner keys).IsDelete := by
  unfold deletion Command.IsDelete
  split
  · simp only [text_deleteOwned, String.append_assoc]
    exact ⟨_, rfl⟩
  · simp only [text_deleteRows, String.append_assoc]
    exact ⟨_, rfl⟩

/-- A deletion is confined to its agent exactly in the tables with an owner column. -/
theorem isConfinedTo_deletion_iff :
    (deletion table owner keys).IsConfinedTo owner ↔ table.hasOwner = true := by
  unfold deletion Command.IsConfinedTo
  split
  · next howner =>
    refine iff_of_true ⟨⟨table.name, Command.keyExpression table "t" ++ " = ANY($2)", ?_⟩, rfl⟩
      howner
    rw [text_deleteOwned, String.append_assoc]
  · next howner =>
    refine iff_of_false ?_ howner
    rintro ⟨-, hbound⟩
    cases hbound

/-- There is always another agent whose rows could be lost. -/
theorem exists_other_owner (owner : Uuid) : ∃ other : Uuid, other ≠ owner := by
  by_cases hnil : owner = .nil
  · exact ⟨⟨1⟩, by simp [hnil, Uuid.nil]⟩
  · exact ⟨.nil, fun heq => hnil heq.symm⟩

/-- Only in a table with an owner does a deletion spare the rows of all others. -/
theorem removes_deletion_iff (hkeys : keys ≠ []) :
    (∀ row, (deletion table owner keys).Removes row → row.owner = owner) ↔
      table.hasOwner = true := by
  unfold deletion
  split
  · next howner => exact iff_of_true (fun row hremoves => hremoves.2.1) howner
  · next howner =>
    refine iff_of_false (fun hown => ?_) howner
    obtain ⟨key, rest, rfl⟩ := List.exists_cons_of_ne_nil hkeys
    obtain ⟨other, hother⟩ := exists_other_owner owner
    exact hother (hown ⟨table, key, other⟩ ⟨rfl, by simp⟩)

end

variable {ω α : Type} (db : Database ω)

/-- Statements that delete the rows a bundle names in tables, and the statements around them. -/
structure SendsDeletions {α : Type} (owner : Uuid) (bundle : Bundle) (tables : List Table)
    (outcome : Except Error α) (sent : List Sent) : Prop where
  deletes : ∀ entry ∈ sent, entry.command.IsDelete → ∃ table ∈ tables, bundle.ids table ≠ [] ∧
    entry.command = deletion table owner (bundle.ids table)
  all_deleted : ∀ value, outcome = .ok value → ∀ table ∈ tables, bundle.ids table ≠ [] →
    ∃ entry ∈ sent, entry.command = deletion table owner (bundle.ids table)

namespace SendsDeletions

variable {owner : Uuid} {bundle : Bundle} {tables : List Table} {outcome : Except Error α}
  {sent : List Sent}

/-- What was sent fits every result that is no success of its own. -/
theorem mono {β : Type} {result : Except Error β}
    (h : SendsDeletions owner bundle tables outcome sent)
    (hok : ∀ value, result = .ok value → ∃ other, outcome = .ok other) :
    SendsDeletions owner bundle tables result sent where
  deletes := h.deletes
  all_deleted value hvalue := by
    obtain ⟨other, hother⟩ := hok value hvalue
    exact h.all_deleted other hother

theorem of_error {error : Error} (hsent : ∀ entry ∈ sent, ¬entry.command.IsDelete) :
    SendsDeletions owner bundle tables (.error error : Except Error α) sent where
  deletes entry hmem hdelete := absurd hdelete (hsent entry hmem)
  all_deleted _ hvalue := nomatch hvalue

/-- Other statements before and after make no difference. -/
theorem after (h : SendsDeletions owner bundle tables outcome sent) {entry : Sent}
    (hentry : ¬entry.command.IsDelete) :
    SendsDeletions owner bundle tables outcome (entry :: sent) where
  deletes other hmem hdelete := by
    rcases List.mem_cons.mp hmem with rfl | hmem
    · exact absurd hdelete hentry
    · exact h.deletes other hmem hdelete
  all_deleted value hvalue table htable hids := by
    obtain ⟨other, hmem, hcommand⟩ := h.all_deleted value hvalue table htable hids
    exact ⟨other, .tail _ hmem, hcommand⟩

/-- Statements that end a transaction delete nothing. -/
theorem before (h : SendsDeletions owner bundle tables outcome sent) {ending : List Sent}
    (hending : ∀ entry ∈ ending, ¬entry.command.IsDelete) :
    SendsDeletions owner bundle tables outcome (sent ++ ending) where
  deletes entry hmem hdelete := by
    rcases List.mem_append.mp hmem with hmem | hmem
    · exact h.deletes entry hmem hdelete
    · exact absurd hdelete (hending entry hmem)
  all_deleted value hvalue table htable hids := by
    obtain ⟨entry, hmem, hcommand⟩ := h.all_deleted value hvalue table htable hids
    exact ⟨entry, List.mem_append_left _ hmem, hcommand⟩

/-- A table of which nothing is named is passed over. -/
theorem passed {table : Table} (h : SendsDeletions owner bundle tables outcome sent)
    (hnone : bundle.ids table = []) :
    SendsDeletions owner bundle (table :: tables) outcome sent where
  deletes entry hmem hdelete := by
    obtain ⟨other, hother, hdeletion⟩ := h.deletes entry hmem hdelete
    exact ⟨other, .tail _ hother, hdeletion⟩
  all_deleted value hvalue other hother hids := by
    rcases List.mem_cons.mp hother with rfl | hother
    · exact absurd hnone hids
    · exact h.all_deleted value hvalue other hother hids

/-- A table of which keys are named has its deletion first. -/
theorem cons {table : Table} {answer : Except DatabaseError Answer}
    (h : SendsDeletions owner bundle tables outcome sent) (hids : bundle.ids table ≠ []) :
    SendsDeletions owner bundle (table :: tables) outcome
      (⟨deletion table owner (bundle.ids table), answer⟩ :: sent) where
  deletes entry hmem hdelete := by
    rcases List.mem_cons.mp hmem with rfl | hmem
    · exact ⟨table, .head _, hids, rfl⟩
    · obtain ⟨other, hother, hdeletion⟩ := h.deletes entry hmem hdelete
      exact ⟨other, .tail _ hother, hdeletion⟩
  all_deleted value hvalue other hother hids := by
    rcases List.mem_cons.mp hother with rfl | hother
    · exact ⟨_, .head _, rfl⟩
    · obtain ⟨entry, hmem, hcommand⟩ := h.all_deleted value hvalue other hother hids
      exact ⟨entry, .tail _ hmem, hcommand⟩

end SendsDeletions

variable (maxRetries : Nat) (owner : Uuid) (bundle : Bundle)

/-- The deletions follow the list of tables. By induction on it, a failed statement being the last.
-/
theorem records_deleteTables (tables : List Table) :
    Records ((HubStore.mk db.recorded maxRetries).deleteTables owner bundle tables)
      ((HubStore.mk db maxRetries).deleteTables owner bundle tables)
      (SendsDeletions owner bundle tables) := by
  induction tables with
  | nil => exact .pure ⟨by simp, by simp⟩
  | cons table rest ih =>
    unfold deleteTables
    by_cases hnone : bundle.ids table = []
    · simp only [hnone, List.isEmpty_nil, if_true, pure_bind]
      refine ih.bind (fun error sent h => h.passed hnone) fun others sent h => .pure ?_
      rw [List.append_nil]
      exact (h.passed hnone).mono fun _ _ => ⟨others, rfl⟩
    · have hsome : (bundle.ids table).isEmpty = false := by simpa using hnone
      simp only [hsome, Bool.false_eq_true, if_false, Database.execute, bind_assoc, pure_bind]
      refine records_run_bind db (fun error => ?_) fun answer => ?_
      · have hnothing : SendsDeletions owner bundle rest
            (.error (.database error) : Except Error Nat) [] := ⟨by simp, by simp⟩
        exact hnothing.cons hnone
      · refine ih.bind (fun error sent h => h.cons hnone) fun others sent h => .pure ?_
        rw [List.append_nil]
        exact (h.cons hnone).mono fun _ _ => ⟨others, rfl⟩

/-- Giving a transaction up deletes nothing. -/
theorem records_abandon (error : Error) :
    Records (do db.recorded.abandon; throw error) (do db.abandon; throw error)
      fun (outcome : Except Error α) sent =>
        outcome = .error error ∧ ∀ entry ∈ sent, ¬entry.command.IsDelete := by
  unfold Database.abandon
  simp only [bind_assoc]
  refine (records_run db .rollback).attempt_bind ?_
  rintro _ _ ⟨answer, rfl, -⟩
  exact .throw ⟨rfl, by simpa using Command.not_isDelete_rollback⟩

theorem records_commit :
    Records (db.recorded.finish .commit) (db.finish .commit)
      fun _ sent => ∀ entry ∈ sent, ¬entry.command.IsDelete := by
  have hcommit := Command.not_isDelete_commit
  unfold Database.finish
  refine (records_run db .commit).attempt_bind ?_
  rintro _ _ ⟨failure | answer, rfl, rfl⟩
  · refine (records_abandon db (.database failure)).mono ?_
    rintro _ ending ⟨-, hending⟩
    simpa [hcommit] using hending
  · exact .pure (by simpa using hcommit)

/-- A transaction deletes what its body deletes. -/
theorem records_transaction {tables : List Table} {full : Action (Beside (List Sent) ω) Error α}
    {bare : Action ω Error α} (hbody : Records full bare (SendsDeletions owner bundle tables)) :
    Records (db.recorded.transaction full) (db.transaction bare)
      (SendsDeletions owner bundle tables) := by
  have hbegin := Command.not_isDelete_begin
  unfold Database.transaction
  refine records_run_bind db (fun error => .of_error (by simpa using hbegin)) fun opened => ?_
  refine hbody.attempt_bind ?_
  rintro (error | value) sent hsent
  · refine (records_abandon db error).mono ?_
    rintro _ ending ⟨rfl, hending⟩
    exact (hsent.before hending).after hbegin
  · refine (records_commit db).bind ?_ ?_
    · intro error ending hending
      exact ((hsent.before hending).after hbegin).mono fun _ hvalue => nomatch hvalue
    · intro _ ending hending
      refine .pure ?_
      rw [List.append_nil]
      exact ((hsent.before hending).after hbegin).mono fun _ _ => ⟨value, rfl⟩

/-- The agent that a call works for, by the answer to its first statement. -/
def Resolves (bundle : Bundle) (sent : List Sent) (owner : Uuid) : Prop :=
  ∃ answer, sent.head? = some ⟨.findAgent bundle.agentName, .ok answer⟩ ∧
    answer.rows.head?.bind Json.uuid? = some owner

/-- An agent resolves to one owner only, as its first answer says. -/
theorem Resolves.eq {bundle : Bundle} {sent : List Sent} {owner other : Uuid}
    (h : Resolves bundle sent owner) (hother : Resolves bundle sent other) : owner = other := by
  obtain ⟨answer, hsent, howner⟩ := h
  obtain ⟨_, hsent', hother⟩ := hother
  rw [hsent] at hsent'
  cases hsent'
  rw [howner] at hother
  exact Option.some.inj hother

/-- The lookup sends one statement, and an owner it gives is the one answered. -/
theorem records_findAgent :
    Records ((HubStore.mk db.recorded maxRetries).findAgent bundle.agentName)
      ((HubStore.mk db maxRetries).findAgent bundle.agentName) fun outcome sent =>
        (∃ answer, sent = [⟨.findAgent bundle.agentName, answer⟩]) ∧
        ∀ owner, outcome = .ok owner → Resolves bundle sent owner := by
  unfold findAgent Database.queryFirst?
  simp only [bind_assoc]
  refine records_run_bind db (fun error => ⟨⟨_, rfl⟩, nofun⟩) fun answer => ?_
  cases hrows : answer.rows with
  | nil => exact .throw ⟨⟨_, rfl⟩, nofun⟩
  | cons row rest =>
    cases hid : Json.uuid? row with
    | none =>
      simp only [hid, Database.decode]
      exact .throw ⟨⟨_, rfl⟩, nofun⟩
    | some id =>
      simp only [hid, Database.decode, pure_bind]
      refine .pure ⟨⟨_, rfl⟩, ?_⟩
      rintro _ ⟨⟩
      exact ⟨answer, rfl, by simp [hrows, hid]⟩

/-- What deleting a bundle comes to. -/
structure DeletesBundle (bundle : Bundle) (outcome : Except Error Nat) (sent : List Sent) :
    Prop where
  deletes : ∀ entry ∈ sent, entry.command.IsDelete → ∃ owner table, Resolves bundle sent owner ∧
    bundle.ids table ≠ [] ∧ entry.command = deletion table owner (bundle.ids table)
  all_deleted : ∀ n, outcome = .ok n → ∃ owner, Resolves bundle sent owner ∧
    ∀ table, bundle.ids table ≠ [] →
      ∃ entry ∈ sent, entry.command = deletion table owner (bundle.ids table)

/-- All of a call: the lookup, and the transaction with the deletions if an owner was found. -/
theorem records_deleteBundle :
    Records ((HubStore.mk db.recorded maxRetries).deleteBundle bundle)
      ((HubStore.mk db maxRetries).deleteBundle bundle) (DeletesBundle bundle) := by
  have hfind := Command.not_isDelete_findAgent bundle.agentName
  unfold deleteBundle
  refine (records_findAgent db maxRetries bundle).bind ?_ ?_
  · rintro error _ ⟨⟨answer, rfl⟩, -⟩
    exact ⟨by simpa using fun h => absurd h hfind, nofun⟩
  · rintro owner _ ⟨⟨answer, rfl⟩, hresolves⟩
    have hbody := records_deleteTables db maxRetries owner bundle Table.all.reverse
    refine (records_transaction db owner bundle hbody).mono fun outcome sent hsent => ?_
    have howner : Resolves bundle ([⟨.findAgent bundle.agentName, answer⟩] ++ sent) owner := by
      obtain ⟨found, hhead, hid⟩ := hresolves owner rfl
      exact ⟨found, hhead, hid⟩
    have hall : SendsDeletions owner bundle Table.all.reverse outcome
        ([⟨.findAgent bundle.agentName, answer⟩] ++ sent) := hsent.after hfind
    constructor
    · intro entry hmem hdelete
      obtain ⟨table, -, hids, hcommand⟩ := hall.deletes entry hmem hdelete
      exact ⟨owner, table, howner, hids, hcommand⟩
    · intro n hn
      refine ⟨owner, howner, fun table hids => ?_⟩
      exact hall.all_deleted n hn table (by simpa using table.mem_all) hids

/-- The exact reach of deletions, for all bundles and all answers of the database. Every deletion is
for the keys of one table, and it is confined to the agent that was looked up, or spares the rows of
all others, exactly if the table has an owner column. So a call that succeeds is confined exactly if
the bundle names no rows of other tables. -/
theorem deleteBundle_confined_iff (state : ω) :
    ∃ outcome after,
      runFrom ((HubStore.mk db.recorded maxRetries).deleteBundle bundle) ⟨[], state⟩ =
        (outcome, after) ∧
      runFrom ((HubStore.mk db maxRetries).deleteBundle bundle) state = (outcome, after.rest) ∧
      (∀ entry ∈ after.own, entry.command.IsDelete → ∃ owner table,
        Resolves bundle after.own owner ∧ bundle.ids table ≠ [] ∧
        entry.command = deletion table owner (bundle.ids table) ∧
        (entry.command.IsConfinedTo owner ↔ table.hasOwner = true) ∧
        ((∀ row, entry.command.Removes row → row.owner = owner) ↔ table.hasOwner = true)) ∧
      ∀ n, outcome = .ok n → ∃ owner, Resolves bundle after.own owner ∧
        ((∀ entry ∈ after.own, entry.command.IsDelete → entry.command.IsConfinedTo owner) ↔
          ∀ table, table.hasOwner = false → bundle.ids table = []) := by
  obtain ⟨outcome, sent, after, hrun, hbare, hsent, hdeletes⟩ :=
    records_deleteBundle db maxRetries bundle ⟨[], state⟩
  rw [List.nil_append] at hsent
  subst hsent
  refine ⟨outcome, after, hrun, hbare, ?_, ?_⟩
  · intro entry hmem hdelete
    obtain ⟨owner, table, howner, hids, hcommand⟩ := hdeletes.deletes entry hmem hdelete
    refine ⟨owner, table, howner, hids, hcommand, ?_, ?_⟩
    · rw [hcommand]
      exact isConfinedTo_deletion_iff table owner _
    · rw [hcommand]
      exact removes_deletion_iff table owner _ hids
  · intro n hn
    obtain ⟨owner, howner, hall⟩ := hdeletes.all_deleted n hn
    refine ⟨owner, howner, ?_, ?_⟩
    · intro hconfined table hnone
      by_cases hids : bundle.ids table = []
      · exact hids
      · obtain ⟨entry, hmem, hcommand⟩ := hall table hids
        have hentry := hconfined entry hmem (hcommand ▸ isDelete_deletion table owner _)
        rw [hcommand, isConfinedTo_deletion_iff, hnone] at hentry
        cases hentry
    · intro hnone entry hmem hdelete
      obtain ⟨other, table, hother, hids, hcommand⟩ := hdeletes.deletes entry hmem hdelete
      obtain rfl := hother.eq howner
      rw [hcommand, isConfinedTo_deletion_iff]
      cases howned : table.hasOwner with
      | true => rfl
      | false => exact absurd (hnone table howned) hids

end HubStore

/-- A database that knows one agent, and does what it is told to one row. -/
def agentDatabase : Database Unit where
  send
    | .findAgent _ => pure (.ok ⟨[.str "00000000-0000-0000-0000-000000000001"], 1⟩)
    | _ => pure (.ok ⟨[], 1⟩)

/-- A bundle that names one status of a check. -/
def statusBundle : Bundle :=
  (Bundle.new "agent-a").addRows .checkStatuses
    [.ofList [("check_id", .str "k"), ("time", .str "t")]]

/-- The status of another agent's check is deleted, because no agent is asked for. -/
theorem foreign_status_deleted :
    ∃ after,
      runFrom ((HubStore.mk agentDatabase.recorded 3).deleteBundle statusBundle) ⟨[], ()⟩ =
        (.ok 1, after) ∧
      HubStore.Resolves statusBundle after.own ⟨1⟩ ∧
      ⟨.deleteRows .checkStatuses ["k:t"], .ok ⟨[], 1⟩⟩ ∈ after.own ∧
      (Command.deleteRows .checkStatuses ["k:t"]).IsDelete ∧
      ¬(Command.deleteRows .checkStatuses ["k:t"]).IsConfinedTo ⟨1⟩ ∧
      (Command.deleteRows .checkStatuses ["k:t"]).Removes ⟨.checkStatuses, "k:t", ⟨2⟩⟩ := by
  -- The agent is looked up first: its identifier is read from a text, which the rest would repeat.
  have hfind : runFrom ((HubStore.mk agentDatabase.recorded 3).findAgent statusBundle.agentName)
      ⟨[], ()⟩ = (.ok ⟨1⟩, _) := rfl
  rw [HubStore.deleteBundle, runFrom_bind_of_ok hfind]
  refine ⟨_, rfl, ⟨_, rfl, rfl⟩, ?_, HubStore.isDelete_deletion .checkStatuses ⟨1⟩ _, ?_, rfl,
    by simp⟩
  · exact .tail _ (.tail _ (.head _))
  · rintro ⟨-, hbound⟩
    cases hbound

end AgentSync
