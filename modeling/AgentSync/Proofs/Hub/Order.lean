import AgentSync.Proofs.Hub.Influence
import AgentSync.Proofs.Hub.Records
import AgentSync.Proofs.Hub.Success

namespace AgentSync

open AgentSync.Action

namespace HubStore

/-- Statements that end in some failure or in none. One that fails for another reason than a missing
row is the last, and its failure is the one they end in. -/
inductive Aborts (failure : Option Error) : List Sent → Prop
  | nil : Aborts failure []
  | answered {command : Command} {answer : Answer} {sent : List Sent}
      (hrest : Aborts failure sent) : Aborts failure (⟨command, .ok answer⟩ :: sent)
  | refused {command : Command} {error : DatabaseError} {sent : List Sent}
      (hrefused : error.isForeignKeyViolation = true) (hrest : Aborts failure sent) :
      Aborts failure (⟨command, .error error⟩ :: sent)
  | failed {command : Command} {error : DatabaseError}
      (hfailure : failure = some (.database error)) : Aborts failure [⟨command, .error error⟩]

/-- Statements that did not fail may be followed by others. -/
theorem Aborts.append {failure : Option Error} {sent more : List Sent} (h : Aborts none sent)
    (hmore : Aborts failure more) : Aborts failure (sent ++ more) := by
  induction h with
  | nil => exact hmore
  | answered _ ih => exact .answered ih
  | refused hrefused _ ih => exact .refused hrefused ih
  | failed hfailure => cases hfailure

/-- A single statement ends in its own failure. -/
theorem Aborts.single (command : Command) (answer : Except DatabaseError Answer) :
    Aborts (Error.stopping? (answer.mapError Error.database)) [⟨command, answer⟩] := by
  cases answer with
  | ok answer => exact .answered .nil
  | error error =>
    cases hrefused : error.isForeignKeyViolation with
    | true => exact .refused hrefused .nil
    | false => exact .failed (Error.stopping?_of_other hrefused)

/-- An action that does the same when its statements are written down, and stops where one fails. -/
abbrev StopsAtFailure {σ τ α : Type} (log : σ → List Sent) (bare : σ → τ)
    (full : Action σ Error α) (plain : Action τ Error α) : Prop :=
  Logs log bare full plain fun outcome sent => Aborts (Error.stopping? outcome) sent

namespace StopsAtFailure

variable {σ τ α β : Type} {log : σ → List Sent} {bare : σ → τ} {full : Action σ Error α}
  {plain : Action τ Error α}

/-- Where nothing is sent nothing fails that was sent. -/
theorem of_silent (h : LogsOnly log bare (fun _ => False) full plain) :
    StopsAtFailure log bare full plain :=
  h.mono fun _ sent hnone => by
    obtain rfl := List.eq_nil_iff_forall_not_mem.mpr hnone
    exact .nil

theorem bind {next : α → Action σ Error β} {plainNext : α → Action τ Error β}
    (hfirst : StopsAtFailure log bare full plain)
    (hnext : ∀ value, StopsAtFailure log bare (next value) (plainNext value)) :
    StopsAtFailure log bare (full >>= next) (plain >>= plainNext) :=
  Logs.bind hfirst (fun _ _ haborts => haborts) fun value _ haborts =>
    (hnext value).mono fun _ _ hmore => haborts.append hmore

end StopsAtFailure

variable {ω α : Type} (db : Database ω) (maxRetries : Nat)

/-- A statement fails exactly if its call does. -/
theorem stopsAtFailure_run (command : Command) :
    StopsAtFailure Beside.own Beside.rest (db.recorded.run command) (db.run command) :=
  (records_run db command).mono <| by
    rintro _ _ ⟨answer, rfl, rfl⟩
    exact .single command answer

theorem stopsAtFailure_queryAll (command : Command) (read : Json → Option α) :
    StopsAtFailure Beside.own Beside.rest (db.recorded.queryAll command read)
      (db.queryAll command read) := by
  refine (stopsAtFailure_run db command).bind fun answer => .of_silent ?_
  unfold Database.decode
  split
  · exact .pure _
  · exact .throw _

/-- The same of actions that remember columns beside the database. -/
abbrev HubStopsAtFailure (full : Action (HubState (Beside (List Sent) ω)) Error α)
    (plain : Action (HubState ω) Error α) : Prop :=
  StopsAtFailure (fun state : HubState (Beside (List Sent) ω) => state.rest.own)
    (fun state => (⟨state.own, state.rest.rest⟩ : HubState ω)) full plain

theorem stopsAtFailure_columnsOf (table : Table) :
    HubStopsAtFailure ((HubStore.mk db.recorded maxRetries).columnsOf table)
      ((HubStore.mk db maxRetries).columnsOf table) := by
  refine .bind (.of_silent (.ask fun _ => rfl)) fun cache => ?_
  cases cache table with
  | some columns => exact .of_silent (.pure columns)
  | none =>
    refine .bind (hubRecords_action (stopsAtFailure_queryAll db _ _)) fun columns => .of_silent ?_
    dsimp only
    split
    · exact .bind (.throw _) fun _ => .bind (.update (fun _ => rfl) fun _ => rfl) fun _ => .pure _
    · exact .bind (.update (fun _ => rfl) fun _ => rfl) fun _ => .pure _

/-- A failed statement ends the save it belongs to. -/
theorem stopsAtFailure_saveBatch (table : Table) (rows : List Row) :
    HubStopsAtFailure ((HubStore.mk db.recorded maxRetries).saveBatch table rows)
      ((HubStore.mk db maxRetries).saveBatch table rows) := by
  unfold saveBatch
  split
  · exact .of_silent (.pure _)
  · refine .bind (stopsAtFailure_columnsOf db maxRetries table) fun columns => ?_
    have hupsert := stopsAtFailure_run db (.upsert table (insertColumns columns rows) rows)
    have hsend := StopsAtFailure.bind (hubRecords_action hupsert) fun _ =>
      .of_silent (.pure ())
    dsimp only
    split
    · exact .bind (.of_silent (.throw _)) fun _ => hsend
    · exact hsend

/-- One call ends at its first failed statement, and reports it unless it is a conflict. -/
theorem aborts_of_call {save : Save} {answer : Except Error Unit}
    {state after : HubState (Beside (List Sent) ω)}
    (hsave : runFrom ((HubStore.mk db.recorded maxRetries).writer.perform save) state =
      (answer, after)) :
    ∃ sent, after.rest.own = state.rest.own ++ sent ∧ Aborts (Error.stopping? answer) sent := by
  have hbatch : ∃ table rows, (HubStore.mk db.recorded maxRetries).writer.perform save =
      (HubStore.mk db.recorded maxRetries).saveBatch table rows := by
    cases save with
    | batch table rows => exact ⟨table, rows, rfl⟩
    | one table row => exact ⟨table, [row], rfl⟩
  obtain ⟨table, rows, hbatch⟩ := hbatch
  obtain ⟨_, sent, _, hfull, -, hlog, haborts⟩ :=
    stopsAtFailure_saveBatch db maxRetries table rows state
  rw [hbatch, hfull] at hsave
  obtain ⟨rfl, rfl⟩ := Prod.mk.inj hsave
  exact ⟨sent, hlog, haborts⟩

/-- Calls of a store that end in some way send statements that end in the same way. -/
theorem aborts_of_reaches {failure : Option Error} {state after : HubState (Beside (List Sent) ω)}
    (h : (HubStore.mk db.recorded maxRetries).writer.Reaches state failure after) :
    ∃ sent, after.rest.own = state.rest.own ++ sent ∧ Aborts failure sent := by
  obtain ⟨records, hmakes, hends⟩ := h
  induction hmakes generalizing failure with
  | nil =>
    cases hends
    exact ⟨[], (List.append_nil _).symm, .nil⟩
  | cons hsave hrest ih =>
    obtain ⟨sent, hlog, haborts⟩ := aborts_of_call db maxRetries hsave
    cases hends with
    | cons hsettles hends =>
      obtain ⟨more, hlater, hmore⟩ := ih hends
      rw [SaveRecord.settles_iff.mp hsettles] at haborts
      exact ⟨sent ++ more, by rw [hlater, hlog, List.append_assoc], haborts.append hmore⟩
    | stopped hother =>
      cases hrest
      rw [Error.stopping?_of_other hother] at haborts
      exact ⟨sent, hlog, haborts⟩

/-- The failure of a registration is the database's, and that of its statement if this failed. -/
theorem registerAgent_error (store : HubStore ω) {name : String} (hname : name ≠ "")
    {state after : ω} {answer : Except DatabaseError Answer}
    (hsend : runFrom (store.db.run (.registerAgent name)) state =
      (answer.mapError Error.database, after)) {error : Error}
    (hrun : (runFrom (store.registerAgent name) state).1 = .error error) :
    ∃ failure, error = .database failure ∧
      ∀ reported, answer = .error reported → failure = reported := by
  have hnamed : name.isEmpty = false := by simpa using hname
  have hquery : store.registerAgent name = store.db.queryOne (.registerAgent name) Json.uuid? := by
    rw [registerAgent, requireName, hnamed]
    rfl
  rw [hquery] at hrun
  cases answer with
  | error reported =>
    rw [Database.queryOne, Database.queryFirst?, bind_assoc, runFrom_bind_of_error hsend] at hrun
    cases hrun
    exact ⟨reported, rfl, fun _ hreported => Except.error.inj hreported⟩
  | ok answer =>
    obtain ⟨failure, rfl⟩ :=
      Database.failsOnly_queryOne (p := fun error => ∃ failure, error = .database failure)
        (fun failure => ⟨failure, rfl⟩) store.db _ _ state error hrun
    refine ⟨failure, rfl, fun reported hreported => ?_⟩
    cases hreported

/-- The course of saving a bundle, over a database that writes down what it is sent. Without a name
nothing is sent. Without an owner nothing is sent but the registration. With one, the tables that
have rows are saved in turn, each by calls of the store that a failure ends at once. -/
inductive Inserts (db : Database ω) (maxRetries : Nat) (bundle : Bundle) (cache : ColumnCache)
    (state : ω) : Except Error Nat → HubState (Beside (List Sent) ω) → Prop
  | nameless (hname : bundle.agentName = "") :
      Inserts db maxRetries bundle cache state
        (.error (.invalidInput "agent name is required")) ⟨cache, ⟨[], state⟩⟩
  | unowned {answer : Except DatabaseError Answer} {failure : DatabaseError} {rest : ω}
      (hname : bundle.agentName ≠ "") (howner : ownerOf? answer = none)
      (hfailure : ∀ reported, answer = .error reported → failure = reported) :
      Inserts db maxRetries bundle cache state (.error (.database failure))
        ⟨cache, ⟨[⟨.registerAgent bundle.agentName, answer⟩], rest⟩⟩
  | owned {answer : Except DatabaseError Answer} {owner : Uuid} {rest : ω}
      {result : Except Error (List String)} {after : HubState (Beside (List Sent) ω)}
      (hname : bundle.agentName ≠ "") (howner : ownerOf? answer = some owner)
      (hturn : (HubStore.mk db.recorded maxRetries).writer.SavesInTurn maxRetries
        (bundle.populateOwner owner).tables
        ⟨cache, ⟨[⟨.registerAgent bundle.agentName, answer⟩], rest⟩⟩ result after)
      (hreaches : (HubStore.mk db.recorded maxRetries).writer.Reaches
        ⟨cache, ⟨[⟨.registerAgent bundle.agentName, answer⟩], rest⟩⟩
        (Error.stopping? result) after) :
      Inserts db maxRetries bundle cache state
        (result.bind fun keys => Saved.result ⟨bundle.count, keys⟩) after

/-- Every save of a bundle takes one of three courses: it has no name, no owner, or its tables are
saved in turn. -/
theorem insertBundle_inserts (bundle : Bundle) (cache : ColumnCache) (state : ω) :
    Inserts db maxRetries bundle cache state
      (runFrom ((HubStore.mk db.recorded maxRetries).insertBundle bundle)
        ⟨cache, ⟨[], state⟩⟩).1
      (runFrom ((HubStore.mk db.recorded maxRetries).insertBundle bundle)
        ⟨cache, ⟨[], state⟩⟩).2 := by
  by_cases hname : bundle.agentName = ""
  · rw [insertBundle, registerAgent_of_nameless _ hname]
    exact .nameless hname
  · obtain ⟨answer, rest, hsend⟩ := db.runFrom_recorded (.registerAgent bundle.agentName)
      ⟨[], state⟩
    obtain ⟨outcome, hregister, houtcome⟩ :=
      runFrom_registerAgent (HubStore.mk db.recorded maxRetries) hname hsend
    rw [insertBundle, runFrom_bind, Beside.runFrom_action]
    dsimp only
    rw [hregister]
    cases outcome with
    | error error =>
      obtain ⟨failure, rfl, hfailure⟩ := registerAgent_error (HubStore.mk db.recorded maxRetries)
        hname hsend (congrArg Prod.fst hregister)
      exact .unowned hname houtcome.symm hfailure
    | ok owner =>
      obtain ⟨result, after, hturn, hrun⟩ :=
        RowWriter.saveTables_runs (HubStore.mk db.recorded maxRetries).writer maxRetries
          (bundle.populateOwner owner).tables ⟨0, []⟩
          ⟨cache, ⟨[⟨.registerAgent bundle.agentName, answer⟩], rest⟩⟩
      dsimp only [List.nil_append] at hrun ⊢
      rw [saveTables_eq, hrun, Nat.zero_add, Bundle.length_tables, Bundle.count_populateOwner]
      exact .owned hname houtcome.symm hturn hturn.reaches

namespace Inserts

variable {db : Database ω} {maxRetries : Nat} {bundle : Bundle} {cache : ColumnCache} {state : ω}
  {outcome : Except Error Nat} {after : HubState (Beside (List Sent) ω)}

/-- The registration comes before everything else. -/
theorem registers_first (h : Inserts db maxRetries bundle cache state outcome after)
    (hname : bundle.agentName ≠ "") :
    ∃ answer more, after.rest.own = ⟨.registerAgent bundle.agentName, answer⟩ :: more := by
  cases h with
  | nameless hnone => exact absurd hnone hname
  | unowned => exact ⟨_, [], rfl⟩
  | owned _ _ _ hreaches =>
    obtain ⟨sent, hlog, -⟩ := aborts_of_reaches db maxRetries hreaches
    exact ⟨_, sent, hlog⟩

/-- No statement follows one whose failure the save reports. -/
theorem aborts (h : Inserts db maxRetries bundle cache state outcome after) :
    Aborts (Error.stopping? outcome) after.rest.own := by
  cases h with
  | nameless => exact .nil
  | @unowned answer failure rest _ _ hfailure =>
    cases answer with
    | ok answer => exact .answered .nil
    | error reported =>
      rw [hfailure reported rfl]
      exact .single (.registerAgent bundle.agentName) (.error reported)
  | @owned answer owner _ result _ _ howner _ hreaches =>
    obtain ⟨sent, hlog, haborts⟩ := aborts_of_reaches db maxRetries hreaches
    have houtcome : Error.stopping? (result.bind fun keys => Saved.result ⟨bundle.count, keys⟩) =
        Error.stopping? result := by
      rcases result with error | (_ | ⟨key, keys⟩) <;> rfl
    rw [houtcome, hlog]
    cases answer with
    | error reported => cases howner
    | ok answer => exact .answered haborts

/-- A conflict is over the rows that no statement had accepted. -/
theorem refused_of_conflict (h : Inserts db maxRetries bundle cache state outcome after)
    {ids : List String} (hconflict : outcome = .error (.conflict ids)) :
    ∃ owner refused, ids = refusedKeys (bundle.populateOwner owner).tables refused ∧
      ∀ table, (refused table).Sublist ((bundle.populateOwner owner).rows table) ∧
        (acceptedRows table after.rest.own ++ refused table).Perm
          ((bundle.populateOwner owner).rows table) := by
  cases h with
  | nameless | unowned => cases hconflict
  | @owned _ owner _ result _ _ _ hturn _ =>
    cases result with
    | error error =>
      cases hconflict
      exact absurd (hturn.not_isConflict _ rfl) (by simp [Error.isConflict])
    | ok keys =>
      obtain ⟨refused, haccounts, hkeys⟩ :=
        hturn.accounts (bundle.populateOwner owner).nodup_tables keys rfl
      have hids : ids = keys := by
        cases keys with
        | nil => cases hconflict
        | cons key rest => exact (Error.conflict.inj (Except.error.inj hconflict)).symm
      refine ⟨owner, refused, hids.trans hkeys, fun table => ?_⟩
      by_cases hrows : (bundle.populateOwner owner).rows table = []
      · have hnone : table ∉ (bundle.populateOwner owner).tables.map Prod.fst :=
          fun hmem => Bundle.fst_mem_tables_iff.mp hmem hrows
        obtain ⟨hrefused, hafter⟩ := haccounts.other table hnone
        rw [hrefused, hafter, hrows]
        exact ⟨.refl _, .refl _⟩
      · have hmem := Bundle.mem_tables.mpr ⟨rfl, hrows⟩
        exact ⟨haccounts.sublist table _ hmem, haccounts.perm table _ hmem⟩

end Inserts

/-- What saving a bundle comes to, for all answers of the database. A bundle without a name is
refused before anything is sent. With a name its agent is registered first; the tables follow in
their order, and a conflict over one lets the next one follow; no statement follows one that fails
otherwise; and the conflict at the end names the keys of the rows that no statement had accepted, in
the order of the tables and of their rows. -/
theorem insertBundle_inOrder (bundle : Bundle) (cache : ColumnCache) (state : ω) :
    ∃ outcome after,
      runFrom ((HubStore.mk db.recorded maxRetries).insertBundle bundle) ⟨cache, ⟨[], state⟩⟩ =
        (outcome, after) ∧
      Inserts db maxRetries bundle cache state outcome after ∧
      (bundle.agentName ≠ "" →
        ∃ answer more, after.rest.own = ⟨.registerAgent bundle.agentName, answer⟩ :: more) ∧
      Aborts (Error.stopping? outcome) after.rest.own ∧
      ∀ ids, outcome = .error (.conflict ids) →
        ∃ owner refused, ids = refusedKeys (bundle.populateOwner owner).tables refused ∧
          ∀ table, (refused table).Sublist ((bundle.populateOwner owner).rows table) ∧
            (acceptedRows table after.rest.own ++ refused table).Perm
              ((bundle.populateOwner owner).rows table) :=
  have hinserts := insertBundle_inserts db maxRetries bundle cache state
  ⟨_, _, rfl, hinserts, hinserts.registers_first, hinserts.aborts,
    fun _ => hinserts.refused_of_conflict⟩

end HubStore

/-- Saving a row for an agent without a name. -/
def namelessSave : Except Error Nat × HubState (Beside (List Sent) Unit) :=
  runFrom ((HubStore.mk keyedDatabase.recorded 3).insertBundle
    ((Bundle.new "").addRows .checks [keyedRow])) ⟨.empty, ⟨[], ()⟩⟩

theorem namelessSave_sends_nothing : namelessSave.2.rest.own = [] ∧
    namelessSave.1 = .error (.invalidInput "agent name is required") :=
  ⟨rfl, rfl⟩

end AgentSync
