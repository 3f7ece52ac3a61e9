import AgentSync.Proofs.Hub.Deletion
import Mathlib.Algebra.GroupWithZero.Nat

namespace AgentSync

open AgentSync.Action
open AgentSync.HubStore (Records)

namespace Command

/-- Whether a statement opens or ends a transaction. -/
def isBoundary : Command → Bool
  | begin | commit | rollback => true
  | _ => false

/-- A statement that deletes the rows of a table with given keys, and only those of an owner where
the table says whose its rows are. -/
def DeletesFrom (command : Command) (table : Table) (owner : Uuid) (keys : List String) : Prop :=
  if table.hasOwner then
    command.text = "DELETE FROM " ++ table.name ++ " t WHERE t.agent_id = $1 AND " ++
        keyExpression table "t" ++ " = ANY($2)" ∧
      command.params = [.uuid owner, .texts keys]
  else
    command.text = "DELETE FROM " ++ table.name ++ " t WHERE " ++ keyExpression table "t" ++
        " = ANY($1)" ∧
      command.params = [.texts keys]

/-- A statement that takes the flags off the rows of a table with given keys. -/
def Unflags (command : Command) (table : Table) (keys : List String) : Prop :=
  command.text = "UPDATE " ++ table.name ++ " t SET is_pushed = FALSE WHERE " ++
      keyExpression table "t" ++ " = ANY($1)" ∧
    command.params = [.texts keys]

/-- A statement that takes the flags off the rows of the same table that the rows with given keys
name in a column. -/
def UnflagsParents (command : Command) (table : Table) (keys : List String) (parent : String) :
    Prop :=
  command.text = "UPDATE " ++ table.name ++ " p SET is_pushed = FALSE WHERE p.id IN ( SELECT c." ++
      parent ++ " FROM " ++ table.name ++ " c WHERE " ++ keyExpression table "c" ++
      " = ANY($1) AND c." ++ parent ++ " IS NOT NULL )" ∧
    command.params = [.texts keys]

end Command

/-- Statements that are sent in turn, up to the first that fails, and the number of rows that they
touch. -/
inductive Runs : List Command → Except DatabaseError Nat → List Sent → Prop
  | done : Runs [] (.ok 0) []
  | failed (command : Command) (rest : List Command) (error : DatabaseError) :
      Runs (command :: rest) (.error error) [⟨command, .error error⟩]
  | more {command : Command} {rest : List Command} {outcome : Except DatabaseError Nat}
      {sent : List Sent} (answer : Answer) (hrest : Runs rest outcome sent) :
      Runs (command :: rest) (outcome.map (answer.affected + ·)) (⟨command, .ok answer⟩ :: sent)

/-- A transaction of statements: what it comes to, and everything that is sent for it. -/
inductive Transaction (statements : List Command) : Except Error Nat → List Sent → Prop
  | unopened (error : DatabaseError) :
      Transaction statements (.error (.database error)) [⟨.begin, .error error⟩]
  | stopped {error : DatabaseError} {sent : List Sent} (opened : Answer)
      (hruns : Runs statements (.error error) sent) (answer : Except DatabaseError Answer) :
      Transaction statements (.error (.database error))
        (⟨.begin, .ok opened⟩ :: (sent ++ [⟨.rollback, answer⟩]))
  | uncommitted {n : Nat} {sent : List Sent} (opened : Answer)
      (hruns : Runs statements (.ok n) sent) (error : DatabaseError)
      (answer : Except DatabaseError Answer) :
      Transaction statements (.error (.database error))
        (⟨.begin, .ok opened⟩ :: (sent ++ [⟨.commit, .error error⟩, ⟨.rollback, answer⟩]))
  | committed {n : Nat} {sent : List Sent} (opened : Answer) (hruns : Runs statements (.ok n) sent)
      (ended : Answer) :
      Transaction statements (.ok n) (⟨.begin, .ok opened⟩ :: (sent ++ [⟨.commit, .ok ended⟩]))

/-- The statements that are kept for good, and those of the open transaction if there is one. -/
structure Kept where
  commands : List Command
  pending : Option (List Command)

namespace Kept

/-- What a statement and its answer change. A failure loses the open transaction. -/
def step (kept : Kept) : Sent → Kept
  | ⟨.begin, .ok _⟩ => { kept with pending := some [] }
  | ⟨.commit, .ok _⟩ => ⟨kept.commands ++ kept.pending.getD [], none⟩
  | ⟨.rollback, _⟩ => { kept with pending := none }
  | ⟨command, .ok _⟩ =>
    match kept.pending with
    | some made => { kept with pending := some (made ++ [command]) }
    | none => { kept with commands := kept.commands ++ [command] }
  | ⟨_, .error _⟩ => { kept with pending := none }

end Kept

/-- The statements that a database keeps of those that were sent. -/
def keptOf (sent : List Sent) : List Command := (sent.foldl Kept.step ⟨[], none⟩).commands

/-- A statement that did not fail. -/
def Sent.Succeeds (entry : Sent) : Prop := ∃ answer, entry.answer = .ok answer

namespace Kept

variable {kept : Kept} {made : List Command} {command : Command}

/-- In an open transaction a statement that succeeds is made, but not yet kept. -/
theorem step_ok (hown : command.isBoundary = false) (hopen : kept.pending = some made)
    (answer : Answer) :
    kept.step ⟨command, .ok answer⟩ = ⟨kept.commands, some (made ++ [command])⟩ := by
  cases command with
  | begin | commit | rollback => cases hown
  | _ => simp [step, hopen]

/-- A statement that fails forgets what the transaction made. -/
theorem step_error (hown : command.isBoundary = false) (error : DatabaseError) :
    kept.step ⟨command, .error error⟩ = ⟨kept.commands, none⟩ := by
  cases command with
  | begin | commit | rollback => cases hown
  | _ => rfl

end Kept

namespace Runs

variable {statements : List Command} {outcome : Except DatabaseError Nat} {sent : List Sent}

/-- What is sent are the first of the statements. -/
theorem commands_prefix (h : Runs statements outcome sent) :
    sent.map Sent.command <+: statements := by
  induction h with
  | done => exact List.prefix_rfl
  | failed command rest error => exact List.prefix_append [command] rest
  | more answer _ ih => exact List.cons_prefix_cons.mpr ⟨rfl, ih⟩

/-- Without a failure every statement is answered, and the counts are added up. -/
theorem of_ok (h : Runs statements outcome sent) {n : Nat} (hok : outcome = .ok n) :
    ∃ answers : List Answer, answers.length = statements.length ∧
      sent = statements.zipWith (fun command answer => ⟨command, .ok answer⟩) answers ∧
      n = (answers.map Answer.affected).sum := by
  induction h generalizing n with
  | done =>
    cases hok
    exact ⟨[], rfl, rfl, rfl⟩
  | failed => cases hok
  | @more command rest outcome sent answer _ ih =>
    cases outcome with
    | error error => cases hok
    | ok rows =>
      cases hok
      obtain ⟨answers, hlength, rfl, rfl⟩ := ih rfl
      exact ⟨answer :: answers, congrArg (· + 1) hlength, rfl, rfl⟩

/-- A failure is that of the last statement that was sent, the only one that failed. -/
theorem of_error (h : Runs statements outcome sent) {error : DatabaseError}
    (herror : outcome = .error error) :
    ∃ before command, sent = before ++ [⟨command, .error error⟩] ∧
      ∀ entry ∈ before, entry.Succeeds := by
  induction h with
  | done => cases herror
  | failed command rest error =>
    cases herror
    exact ⟨[], command, rfl, by simp⟩
  | @more command rest outcome sent answer _ ih =>
    cases outcome with
    | ok rows => cases herror
    | error failure =>
      cases herror
      obtain ⟨before, last, rfl, hbefore⟩ := ih rfl
      refine ⟨⟨command, .ok answer⟩ :: before, last, rfl, ?_⟩
      exact List.forall_mem_cons.mpr ⟨⟨answer, rfl⟩, hbefore⟩

theorem succeeds (h : Runs statements outcome sent) {n : Nat} (hok : outcome = .ok n) :
    ∀ entry ∈ sent, entry.Succeeds := by
  obtain ⟨answers, -, rfl, -⟩ := h.of_ok hok
  intro entry hmem
  obtain ⟨place, hplace, rfl⟩ := List.mem_iff_getElem.mp hmem
  exact ⟨_, by rw [List.getElem_zipWith]⟩

/-- Inside a transaction the statements are pending, and a failure loses them. -/
theorem foldl_step (h : Runs statements outcome sent)
    (hown : ∀ command ∈ statements, command.isBoundary = false) (commands made : List Command) :
    sent.foldl Kept.step ⟨commands, some made⟩ =
      ⟨commands, outcome.toOption.map fun _ => made ++ statements⟩ := by
  induction h generalizing made with
  | done => rw [List.append_nil]; rfl
  | failed command rest error => exact Kept.step_error (hown _ (.head _)) error
  | @more command rest outcome sent answer _ ih =>
    rw [List.foldl_cons, Kept.step_ok (hown _ (.head _)) rfl,
      ih fun other hmem => hown other (.tail _ hmem), List.append_assoc, List.singleton_append]
    cases outcome with
    | error error => rfl
    | ok rows => rfl

/-- What is kept of an open transaction depends on how it ends. -/
theorem keptOf_begin (h : Runs statements outcome sent)
    (hown : ∀ command ∈ statements, command.isBoundary = false) (opened : Answer)
    (ending : List Sent) :
    keptOf (⟨.begin, .ok opened⟩ :: (sent ++ ending)) =
      (ending.foldl Kept.step ⟨[], outcome.toOption.map fun _ => statements⟩).commands := by
  rw [keptOf, List.foldl_cons, List.foldl_append]
  exact congrArg (fun kept => (ending.foldl Kept.step kept).commands) (h.foldl_step hown [] [])

theorem not_mem_boundary (h : Runs statements outcome sent)
    (hown : ∀ command ∈ statements, command.isBoundary = false) (command : Command)
    (hboundary : command.isBoundary = true) (answer : Except DatabaseError Answer) :
    ⟨command, answer⟩ ∉ sent := by
  intro hmem
  have hcommand := h.commands_prefix.subset (List.mem_map_of_mem hmem)
  rw [hown _ hcommand] at hboundary
  cases hboundary

end Runs

/-- All or nothing, by what is sent for a transaction and what it comes to. -/
structure AllOrNothing (statements : List Command) (outcome : Except Error Nat)
    (sent : List Sent) : Prop where
  one_transaction : ∃ made ending, sent.map Sent.command = .begin :: (made ++ ending) ∧
    made <+: statements ∧ ending ∈ [[], [.rollback], [.commit], [.commit, .rollback]]
  /-- The first failure is the answer. Nothing follows it but a rollback. -/
  of_error : ∀ error, outcome = .error error → ∃ before command failure after,
    sent = before ++ ⟨command, .error failure⟩ :: after ∧ error = .database failure ∧
    (∀ entry ∈ before, entry.Succeeds) ∧
    (after = [] ∨ ∃ answer, after = [⟨.rollback, answer⟩])
  ok_iff : (∃ n, outcome = .ok n) ↔ ∃ answer, ⟨.commit, .ok answer⟩ ∈ sent
  /-- After a success every statement was answered, and the counts are added up. -/
  of_ok : ∀ n, outcome = .ok n → ∃ opened ended, ∃ answers : List Answer,
    answers.length = statements.length ∧
    sent = ⟨.begin, .ok opened⟩ ::
      (statements.zipWith (fun command answer => ⟨command, .ok answer⟩) answers ++
        [⟨.commit, .ok ended⟩]) ∧
    n = (answers.map Answer.affected).sum
  kept : keptOf sent = if outcome.toBool then statements else []

/-- A transaction of statements that do not end it keeps all of them or none. -/
theorem Transaction.allOrNothing {statements : List Command} {outcome : Except Error Nat}
    {sent : List Sent} (h : Transaction statements outcome sent)
    (hown : ∀ command ∈ statements, command.isBoundary = false) :
    AllOrNothing statements outcome sent := by
  cases h with
  | unopened error =>
    constructor
    case one_transaction => exact ⟨[], [], rfl, List.nil_prefix, by simp⟩
    case of_error =>
      rintro _ ⟨⟩
      exact ⟨[], .begin, error, [], rfl, rfl, by simp, .inl rfl⟩
    case ok_iff => simp
    case of_ok => exact nofun
    case kept => rfl
  | @stopped error sent opened hruns answer =>
    have hcommit := hruns.not_mem_boundary hown .commit rfl
    constructor
    case one_transaction =>
      exact ⟨_, [.rollback], by simp, hruns.commands_prefix, by simp⟩
    case of_error =>
      rintro _ ⟨⟩
      obtain ⟨before, command, rfl, hbefore⟩ := hruns.of_error rfl
      refine ⟨⟨.begin, .ok opened⟩ :: before, command, error, [⟨.rollback, answer⟩], by simp, rfl,
        List.forall_mem_cons.mpr ⟨⟨opened, rfl⟩, hbefore⟩, .inr ⟨answer, rfl⟩⟩
    case ok_iff => simp [hcommit]
    case of_ok => exact nofun
    case kept => exact hruns.keptOf_begin hown opened _
  | @uncommitted n sent opened hruns error answer =>
    have hcommit := hruns.not_mem_boundary hown .commit rfl
    constructor
    case one_transaction =>
      exact ⟨_, [.commit, .rollback], by simp, hruns.commands_prefix, by simp⟩
    case of_error =>
      rintro _ ⟨⟩
      refine ⟨⟨.begin, .ok opened⟩ :: sent, .commit, error, [⟨.rollback, answer⟩], by simp, rfl,
        List.forall_mem_cons.mpr ⟨⟨opened, rfl⟩, hruns.succeeds rfl⟩, .inr ⟨answer, rfl⟩⟩
    case ok_iff => simp [hcommit]
    case of_ok => exact nofun
    case kept => exact hruns.keptOf_begin hown opened _
  | @committed n sent opened hruns ended =>
    constructor
    case one_transaction => exact ⟨_, [.commit], by simp, hruns.commands_prefix, by simp⟩
    case of_error => exact nofun
    case ok_iff => exact iff_of_true ⟨n, rfl⟩ ⟨ended, by simp⟩
    case of_ok =>
      rintro _ ⟨⟩
      obtain ⟨answers, hlength, rfl, rfl⟩ := hruns.of_ok rfl
      exact ⟨opened, ended, answers, hlength, rfl, rfl⟩
    case kept => exact hruns.keptOf_begin hown opened _

section

variable {ω : Type} (db : Database ω)

/-- A body that sends statements in turn. -/
abbrev RunsAll (full : Action (Beside (List Sent) ω) Error Nat) (bare : Action ω Error Nat)
    (statements : List Command) : Prop :=
  Records full bare fun outcome sent =>
    ∃ result, outcome = result.mapError Error.database ∧ Runs statements result sent

theorem RunsAll.nil : RunsAll (ω := ω) (return 0) (return 0) [] :=
  .pure ⟨.ok 0, rfl, .done⟩

/-- One more statement in front, whose count is added. -/
theorem RunsAll.cons {full : Action (Beside (List Sent) ω) Error Nat} {bare : Action ω Error Nat}
    {statements : List Command} (h : RunsAll full bare statements) (command : Command) :
    RunsAll (do let rows ← db.recorded.execute command; let others ← full; return rows + others)
      (do let rows ← db.execute command; let others ← bare; return rows + others)
      (command :: statements) := by
  simp only [Database.execute, bind_assoc, pure_bind]
  refine HubStore.records_run_bind db (fun error => ⟨.error error, rfl, .failed _ _ _⟩) ?_
  intro answer
  refine h.bind ?_ ?_
  · rintro error sent ⟨result, houtcome, hruns⟩
    cases result with
    | ok rows => cases houtcome
    | error failure => exact ⟨.error failure, houtcome, .more answer hruns⟩
  · rintro rows sent ⟨result, houtcome, hruns⟩
    cases result with
    | error failure => cases houtcome
    | ok others =>
      cases houtcome
      refine .pure ⟨.ok (answer.affected + rows), rfl, ?_⟩
      rw [List.append_nil]
      exact .more answer hruns

theorem RunsAll.single (command : Command) :
    RunsAll (db.recorded.execute command) (db.execute command) [command] := by
  have hsingle := RunsAll.nil.cons db command
  simp only [pure_bind, Nat.add_zero, bind_pure] at hsingle
  exact hsingle

/-- Giving a transaction up sends one statement, and its answer makes no difference. -/
theorem records_abandoned {α : Type} (error : Error) :
    Records (do db.recorded.abandon; throw error) (do db.abandon; throw error)
      fun (outcome : Except Error α) sent =>
        outcome = .error error ∧ ∃ answer, sent = [⟨.rollback, answer⟩] := by
  unfold Database.abandon
  simp only [bind_assoc]
  refine (HubStore.records_run db .rollback).attempt_bind ?_
  rintro _ _ ⟨answer, rfl, -⟩
  exact .throw ⟨rfl, answer, rfl⟩

/-- A commit that fails is followed by a rollback. -/
theorem records_finished :
    Records (db.recorded.finish .commit) (db.finish .commit) fun outcome sent =>
      (outcome = .ok () ∧ ∃ ended, sent = [⟨.commit, .ok ended⟩]) ∨
      ∃ error answer, outcome = .error (.database error) ∧
        sent = [⟨.commit, .error error⟩, ⟨.rollback, answer⟩] := by
  unfold Database.finish
  refine (HubStore.records_run db .commit).attempt_bind ?_
  rintro _ _ ⟨error | ended, rfl, rfl⟩
  · refine (records_abandoned db (.database error)).mono ?_
    rintro _ _ ⟨rfl, answer, rfl⟩
    exact .inr ⟨error, answer, rfl, rfl⟩
  · exact .pure (.inl ⟨rfl, ended, rfl⟩)

/-- A transaction around a body that sends statements in turn. -/
theorem RunsAll.transaction {full : Action (Beside (List Sent) ω) Error Nat}
    {bare : Action ω Error Nat} {statements : List Command} (h : RunsAll full bare statements) :
    Records (db.recorded.transaction full) (db.transaction bare) (Transaction statements) := by
  unfold Database.transaction
  refine HubStore.records_run_bind db (fun error => .unopened error) fun opened => ?_
  refine h.attempt_bind ?_
  rintro _ sent ⟨error | rows, rfl, hruns⟩
  · refine (records_abandoned db (.database error)).mono ?_
    rintro _ _ ⟨rfl, answer, rfl⟩
    exact .stopped opened hruns answer
  · refine (records_finished db).bind ?_ ?_
    · rintro _ _ (⟨⟨⟩, -⟩ | ⟨error, answer, ⟨⟩, rfl⟩)
      exact .uncommitted opened hruns error answer
    · rintro _ _ (⟨-, ended, rfl⟩ | ⟨_, _, ⟨⟩, -⟩)
      refine .pure ?_
      rw [List.append_nil]
      exact .committed opened hruns ended

end

namespace HubStore

/-- The statements that delete the rows that a bundle names in tables, one for each table in which
it names some. Where a table says whose its rows are, only those of the owner are meant. -/
def deletions (owner : Uuid) (bundle : Bundle) (tables : List Table) : List Command :=
  (tables.filter fun table => bundle.ids table ≠ []).map fun table =>
    if table.hasOwner then .deleteOwned table owner (bundle.ids table)
    else .deleteRows table (bundle.ids table)

/-- No deletion begins or ends a transaction. -/
theorem isBoundary_of_mem_deletions {owner : Uuid} {bundle : Bundle} {tables : List Table}
    {command : Command} (hmem : command ∈ deletions owner bundle tables) :
    command.isBoundary = false := by
  obtain ⟨table, -, rfl⟩ := List.mem_map.mp hmem
  split
  · rfl
  · rfl

/-- The statements as the database is sent them: one `DELETE` for each table, with the keys and, in
a table that says whose its rows are, with the owner. -/
theorem deletions_deleteFrom (owner : Uuid) (bundle : Bundle) (tables : List Table) :
    List.Forall₂ (fun table command => command.DeletesFrom table owner (bundle.ids table))
      (tables.filter fun table => bundle.ids table ≠ []) (deletions owner bundle tables) := by
  refine List.forall₂_map_right_iff.mpr (List.forall₂_same.mpr fun table _ => ?_)
  unfold Command.DeletesFrom
  split
  · exact ⟨text_deleteOwned table owner (bundle.ids table), rfl⟩
  · exact ⟨text_deleteRows table (bundle.ids table), rfl⟩

/-- What looking an agent up comes to, by the answer to the statement. -/
def agentFound (name : String) : Except DatabaseError Answer → Except Error Uuid
  | .error error => .error (.database error)
  | .ok ⟨[], _⟩ => .error (.notFound ("agent " ++ name))
  | .ok ⟨row :: _, _⟩ =>
    match Json.uuid? row with
    | some id => .ok id
    | none => .error (.database .undecodable)

section

variable {ω : Type} (db : Database ω) (maxRetries : Nat)

theorem records_agentFound (name : String) :
    Records ((HubStore.mk db.recorded maxRetries).findAgent name)
      ((HubStore.mk db maxRetries).findAgent name) fun outcome sent =>
        ∃ answer, sent = [⟨.findAgent name, answer⟩] ∧ outcome = agentFound name answer := by
  unfold findAgent Database.queryFirst?
  simp only [bind_assoc]
  refine records_run_bind db (fun error => ⟨_, rfl, rfl⟩) fun answer => ?_
  rcases answer with ⟨_ | ⟨row, rest⟩, affected⟩
  · exact .throw ⟨_, rfl, rfl⟩
  · cases hid : Json.uuid? row with
    | none =>
      simp only [hid, Database.decode]
      exact .throw ⟨_, rfl, by rw [agentFound, hid]⟩
    | some id =>
      simp only [hid, Database.decode, pure_bind]
      exact .pure ⟨_, rfl, by rw [agentFound, hid]⟩

/-- The tables are gone through in turn, and those of which nothing is named are passed over. By
induction on the tables. -/
theorem deleteTables_runsAll (owner : Uuid) (bundle : Bundle) (tables : List Table) :
    RunsAll ((HubStore.mk db.recorded maxRetries).deleteTables owner bundle tables)
      ((HubStore.mk db maxRetries).deleteTables owner bundle tables)
      (deletions owner bundle tables) := by
  induction tables with
  | nil => exact .nil
  | cons table rest ih =>
    unfold deleteTables
    by_cases hnone : bundle.ids table = []
    · have hskip : deletions owner bundle (table :: rest) = deletions owner bundle rest := by
        rw [deletions, List.filter_cons_of_neg (by simpa using hnone), deletions]
      simp only [hnone, List.isEmpty_nil, if_true, pure_bind, Nat.zero_add, bind_pure, hskip]
      exact ih
    · have hsome : (bundle.ids table).isEmpty = false := by simpa using hnone
      have hmore : deletions owner bundle (table :: rest) =
          deletion table owner (bundle.ids table) :: deletions owner bundle rest := by
        rw [deletions, List.filter_cons_of_pos (by simpa using hnone), List.map_cons, deletions,
          deletion]
      simp only [hsome, Bool.false_eq_true, if_false, hmore]
      exact ih.cons db _

/-- Rows are deleted in one transaction for an agent that is found. -/
theorem records_deleteBundle_transaction (bundle : Bundle) :
    Records ((HubStore.mk db.recorded maxRetries).deleteBundle bundle)
      ((HubStore.mk db maxRetries).deleteBundle bundle) fun outcome sent =>
        ∃ answer more, sent = ⟨.findAgent bundle.agentName, answer⟩ :: more ∧
          (∀ error, agentFound bundle.agentName answer = .error error →
            outcome = .error error ∧ more = []) ∧
          ∀ agent, agentFound bundle.agentName answer = .ok agent →
            Transaction (deletions agent bundle Table.all.reverse) outcome more := by
  refine (records_agentFound db maxRetries bundle.agentName).bind ?_ ?_
  · rintro error _ ⟨answer, rfl, hfound⟩
    refine ⟨answer, [], rfl, fun failure hfailure => ?_, fun agent hagent => ?_⟩
    · rw [← hfound] at hfailure
      cases hfailure
      exact ⟨rfl, rfl⟩
    · rw [← hfound] at hagent
      cases hagent
  · rintro agent _ ⟨answer, rfl, hfound⟩
    have hdeletions := deleteTables_runsAll db maxRetries agent bundle Table.all.reverse
    refine (hdeletions.transaction db).mono fun outcome sent htransaction => ?_
    refine ⟨answer, sent, rfl, fun error herror => ?_, fun other hother => ?_⟩
    · rw [← hfound] at herror
      cases herror
    · rw [← hfound] at hother
      cases hother
      exact htransaction

end

end HubStore

namespace RowStore

/-- The statements that flag rows, and the rows they name as parents, for another push. -/
def unflaggings (table : Table) (keys : List String) : List Command :=
  .markUnpushed table keys ::
    table.parentColumn.toList.map fun parent => .markParentsUnpushed table parent keys

theorem isBoundary_of_mem_unflaggings {table : Table} {keys : List String} {command : Command}
    (hmem : command ∈ unflaggings table keys) : command.isBoundary = false := by
  rcases List.mem_cons.mp hmem with rfl | hparents
  · rfl
  · obtain ⟨parent, -, rfl⟩ := List.mem_map.mp hparents
    rfl

theorem text_markUnpushed (table : Table) (keys : List String) :
    (Command.markUnpushed table keys).text =
      "UPDATE " ++ table.name ++ " t SET is_pushed = FALSE WHERE " ++
        Command.keyExpression table "t" ++ " = ANY($1)" := by
  have hset : " t SET is_pushed = " ++ ("FALSE" ++ " WHERE ") =
      " t SET is_pushed = FALSE WHERE " := by decide
  change Command.flagText table "FALSE" = _
  rw [Command.flagText, @String.append_assoc _ "FALSE",
    @String.append_assoc _ " t SET is_pushed = ", hset]

/-- The statements as the database is sent them: one `UPDATE` for the rows, and one for their
parents in a table whose rows name some. -/
theorem unflaggings_unflag (table : Table) (keys : List String) :
    ∃ first parents, unflaggings table keys = first :: parents ∧ first.Unflags table keys ∧
      List.Forall₂ (fun parent command => Command.UnflagsParents command table keys parent)
        table.parentColumn.toList parents :=
  ⟨_, _, rfl, ⟨text_markUnpushed table keys, rfl⟩,
    List.forall₂_map_right_iff.mpr (List.forall₂_same.mpr fun _ _ => ⟨rfl, rfl⟩)⟩

/-- The rows and their parents are flagged in one transaction. -/
theorem records_markUnpushed {ω : Type} (db : Database ω) (owner : Uuid) (table : Table)
    {keys : List String} (hkeys : keys ≠ []) :
    Records ((RowStore.mk db.recorded owner).markUnpushed table keys)
      ((RowStore.mk db owner).markUnpushed table keys)
      (Transaction (unflaggings table keys)) := by
  have hsome : keys.isEmpty = false := by simpa using hkeys
  unfold markUnpushed unflaggings
  rw [hsome, if_neg Bool.false_ne_true, if_neg Bool.false_ne_true]
  cases table.parentColumn with
  | none =>
    simp only [bind_pure]
    exact (RunsAll.single db _).transaction db
  | some parent => exact ((RunsAll.single db _).cons db _).transaction db

end RowStore

/-- Writes of several statements are all or nothing, for every input and all answers of the
database. The rows that a bundle names are deleted for an agent that was found, by one `DELETE` for
each table in which it names some, children before their parents; rows are flagged for another push
by one `UPDATE`, before their parents by another. Without an agent, and without keys, no transaction
is opened. -/
theorem writes_allOrNothing {ω : Type} (db : Database ω) (maxRetries : Nat) (owner : Uuid)
    (state : ω) :
    (∀ bundle : Bundle, ∃ outcome after answer sent,
      runFrom ((HubStore.mk db.recorded maxRetries).deleteBundle bundle) ⟨[], state⟩ =
        (outcome, after) ∧
      runFrom ((HubStore.mk db maxRetries).deleteBundle bundle) state = (outcome, after.rest) ∧
      after.own = ⟨.findAgent bundle.agentName, answer⟩ :: sent ∧
      (∀ error, HubStore.agentFound bundle.agentName answer = .error error →
        outcome = .error error ∧ sent = []) ∧
      ∀ agent, HubStore.agentFound bundle.agentName answer = .ok agent →
        AllOrNothing (HubStore.deletions agent bundle Table.all.reverse) outcome sent ∧
        List.Forall₂ (fun table command => command.DeletesFrom table agent (bundle.ids table))
          (Table.all.reverse.filter fun table => bundle.ids table ≠ [])
          (HubStore.deletions agent bundle Table.all.reverse)) ∧
    ∀ (table : Table) (keys : List String), ∃ outcome after,
      runFrom ((RowStore.mk db.recorded owner).markUnpushed table keys) ⟨[], state⟩ =
        (outcome, after) ∧
      runFrom ((RowStore.mk db owner).markUnpushed table keys) state = (outcome, after.rest) ∧
      (keys = [] → outcome = .ok 0 ∧ after.own = []) ∧
      (keys ≠ [] → AllOrNothing (RowStore.unflaggings table keys) outcome after.own) ∧
      ∃ first parents, RowStore.unflaggings table keys = first :: parents ∧
        first.Unflags table keys ∧
        List.Forall₂ (fun parent command => Command.UnflagsParents command table keys parent)
          table.parentColumn.toList parents := by
  constructor
  · intro bundle
    obtain ⟨outcome, sent, after, hrun, hbare, hsent, answer, more, rfl, herror, hok⟩ :=
      HubStore.records_deleteBundle_transaction db maxRetries bundle ⟨[], state⟩
    refine ⟨outcome, after, answer, more, hrun, hbare, hsent, herror, fun agent hagent => ?_⟩
    exact ⟨(hok agent hagent).allOrNothing fun _ => HubStore.isBoundary_of_mem_deletions,
      HubStore.deletions_deleteFrom agent bundle Table.all.reverse⟩
  · intro table keys
    by_cases hkeys : keys = []
    · subst hkeys
      exact ⟨_, _, rfl, rfl, fun _ => ⟨rfl, rfl⟩, fun hne => absurd rfl hne,
        RowStore.unflaggings_unflag table []⟩
    · obtain ⟨outcome, sent, after, hrun, hbare, hsent, htransaction⟩ :=
        RowStore.records_markUnpushed db owner table hkeys ⟨[], state⟩
      rw [List.nil_append] at hsent
      refine ⟨outcome, after, hrun, hbare, fun hnone => absurd hnone hkeys, fun _ => ?_,
        RowStore.unflaggings_unflag table keys⟩
      rw [hsent]
      exact htransaction.allOrNothing fun _ => RowStore.isBoundary_of_mem_unflaggings

end AgentSync
