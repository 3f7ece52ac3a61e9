import AgentSync.Memory.Link
import AgentSync.Proofs.Beside
import AgentSync.Proofs.Database
import AgentSync.Proofs.Logs

namespace AgentSync

open AgentSync.Action

namespace Command

/-- The name of the agent that a statement is about. -/
def agent? : Command → Option String
  | registerAgent name | touchAgent name | findAgent name => some name
  | _ => none

/-- A statement that names no agent but a given one. -/
def NamesOnly (name : Option String) (command : Command) : Prop :=
  ∀ agent, command.agent? = some agent → name = some agent

theorem namesOnly_of_none {name : Option String} {command : Command}
    (hnone : command.agent? = none) : command.NamesOnly name := by
  intro agent hagent
  rw [hnone] at hagent
  cases hagent

theorem namesOnly_of_some {name : String} {command : Command}
    (hsome : command.agent? = some name) : command.NamesOnly (some name) :=
  fun _ hagent => hsome.symm.trans hagent

end Command

namespace RowWriter

variable {σ τ κ : Type} {log : σ → List κ} {bare : σ → τ} {p : κ → Prop} {full : RowWriter σ}
  {plain : RowWriter τ} {table : Table}

/-- To find out whether a save is accepted adds nothing to what is written down. -/
theorem logsOnly_accepted {save : Action σ Error Unit} {plainSave : Action τ Error Unit}
    (hsave : LogsOnly log bare p save plainSave) :
    LogsOnly log bare p (accepted save) (accepted plainSave) := by
  refine .bind hsave.attempt fun result => ?_
  cases result with
  | ok => exact .pure _
  | error error =>
    dsimp only
    split
    · exact .pure _
    · exact .throw _

/-- Single saves write down what their calls do. By induction on the rows. -/
theorem logsOnly_saveSingly
    (hone : ∀ row, LogsOnly log bare p (full.saveOne table row) (plain.saveOne table row))
    (rows : List Row) :
    LogsOnly log bare p (full.saveSingly table rows) (plain.saveSingly table rows) := by
  induction rows with
  | nil => exact .pure _
  | cons row rest ih =>
    refine .bind (logsOnly_accepted (hone row)) fun isAccepted => ?_
    split
    · exact ih
    · exact .bind ih fun _ => .pure _

/-- Cycles write down what their calls do. By induction on their number. -/
theorem logsOnly_saveCycles
    (hbatch : ∀ rows, LogsOnly log bare p (full.saveBatch table rows) (plain.saveBatch table rows))
    (hone : ∀ row, LogsOnly log bare p (full.saveOne table row) (plain.saveOne table row))
    (cycles : Nat) (rows : List Row) :
    LogsOnly log bare p (full.saveCycles table cycles rows)
      (plain.saveCycles table cycles rows) := by
  induction cycles generalizing rows with
  | zero => exact .pure _
  | succ cycles ih =>
    refine .bind (logsOnly_accepted (hbatch rows)) fun isAccepted => ?_
    split
    · exact .pure _
    · refine .bind (logsOnly_saveSingly hone rows) fun refused => ?_
      cases refused with
      | nil => exact .pure _
      | cons row more => exact ih (row :: more)

/-- A save writes down what the calls of the writer do. -/
theorem logsOnly_saveWithDegradation
    (hbatch : ∀ rows, LogsOnly log bare p (full.saveBatch table rows) (plain.saveBatch table rows))
    (hone : ∀ row, LogsOnly log bare p (full.saveOne table row) (plain.saveOne table row))
    (rows : List Row) (maxRetries : Nat) :
    LogsOnly log bare p (full.saveWithDegradation table rows maxRetries)
      (plain.saveWithDegradation table rows maxRetries) := by
  unfold saveWithDegradation
  split
  · exact .pure _
  · refine .bind (logsOnly_saveCycles hbatch hone _ rows) fun refused => ?_
    split
    · exact .throw _
    · exact .pure _

end RowWriter

namespace HubStore

/-- What an action does over a database that writes down its statements is what it does without
that, and what is written down fits what it comes to. -/
abbrev Records {ω ε α : Type} (full : Action (Beside (List Sent) ω) ε α) (bare : Action ω ε α)
    (fits : Except ε α → List Sent → Prop) : Prop :=
  Logs Beside.own Beside.rest full bare fits

variable {ω α : Type} (db : Database ω)

/-- A statement is written down with its answer. -/
theorem records_run (command : Command) :
    Records (db.recorded.run command) (db.run command) fun outcome sent =>
      ∃ answer, sent = [⟨command, answer⟩] ∧ outcome = answer.mapError Error.database :=
  fun _ => ⟨_, _, _, db.recorded.runFrom_run _ _, db.runFrom_run _ _, rfl, _, rfl, rfl⟩

/-- What follows a statement sees its answer, unless the statement fails. -/
theorem records_run_bind {command : Command}
    {next : Answer → Action (Beside (List Sent) ω) Error α} {bareNext : Answer → Action ω Error α}
    {fits : Except Error α → List Sent → Prop}
    (herror : ∀ error, fits (.error (.database error)) [⟨command, .error error⟩])
    (hnext : ∀ answer, Records (next answer) (bareNext answer)
      fun outcome more => fits outcome (⟨command, .ok answer⟩ :: more)) :
    Records (db.recorded.run command >>= next) (db.run command >>= bareNext) fits :=
  Logs.note_bind (⟨command, ·⟩) (records_run db command) herror hnext

/-- The same of actions that remember columns beside the database. -/
abbrev HubRecords {ω ε α : Type} (full : Action (HubState (Beside (List Sent) ω)) ε α)
    (bare : Action (HubState ω) ε α) (fits : Except ε α → List Sent → Prop) : Prop :=
  Logs (fun state : HubState (Beside (List Sent) ω) => state.rest.own)
    (fun state => (⟨state.own, state.rest.rest⟩ : HubState ω)) full bare fits

theorem hubRecords_action {full : Action (Beside (List Sent) ω) Error α} {bare : Action ω Error α}
    {fits : Except Error α → List Sent → Prop} (h : Records full bare fits) :
    HubRecords (Beside.action full) (Beside.action bare) fits := by
  rintro ⟨cache, state⟩
  obtain ⟨outcome, sent, after, hfull, hbare, hlog, hfits⟩ := h state
  refine ⟨outcome, sent, ⟨cache, after⟩, ?_, ?_, hlog, hfits⟩
  · rw [Beside.runFrom_action, hfull]
  · rw [Beside.runFrom_action, hbare]

/-- Two actions that come to the same over a database, where one writes down statements that name
no agent but one. -/
abbrev Sends {ω ε α : Type} (name : Option String) (full : Action (Beside (List Sent) ω) ε α)
    (bare : Action ω ε α) : Prop :=
  LogsOnly Beside.own Beside.rest (fun entry : Sent => entry.command.NamesOnly name) full bare

/-- The same of actions that remember columns beside the database. -/
abbrev HubSends {ω ε α : Type} (name : Option String)
    (full : Action (HubState (Beside (List Sent) ω)) ε α) (bare : Action (HubState ω) ε α) : Prop :=
  LogsOnly (fun state : HubState (Beside (List Sent) ω) => state.rest.own)
    (fun state => (⟨state.own, state.rest.rest⟩ : HubState ω))
    (fun entry => entry.command.NamesOnly name) full bare

section Queries

variable {name : Option String} {command : Command}

theorem sends_decode (value : Option α) :
    Sends (ω := ω) name (Database.decode value) (Database.decode value) := by
  cases value with
  | none => exact .throw _
  | some value => exact .pure value

variable (hcommand : command.NamesOnly name)

include hcommand

theorem sends_run : Sends name (db.recorded.run command) (db.run command) :=
  (records_run db command).mono <| by
    rintro _ _ ⟨answer, rfl, -⟩
    simpa using hcommand

theorem sends_execute : Sends name (db.recorded.execute command) (db.execute command) :=
  .bind (sends_run db hcommand) fun _ => .pure _

/-- To read the rows of an answer sends nothing more. -/
theorem sends_queryAll (read : Json → Option α) :
    Sends name (db.recorded.queryAll command read) (db.queryAll command read) :=
  .bind (sends_run db hcommand) fun _ => sends_decode _

theorem sends_queryFirst? (read : Json → Option α) :
    Sends name (db.recorded.queryFirst? command read) (db.queryFirst? command read) := by
  refine .bind (sends_run db hcommand) fun answer => ?_
  cases answer.rows with
  | nil => exact .pure _
  | cons row rest => exact .bind (sends_decode _) fun _ => .pure _

theorem sends_queryOne (read : Json → Option α) :
    Sends name (db.recorded.queryOne command read) (db.queryOne command read) := by
  refine .bind (sends_queryFirst? db hcommand read) fun value => ?_
  cases value with
  | none => exact .throw _
  | some value => exact .pure value

end Queries

theorem sends_action {name : Option String} {full : Action (Beside (List Sent) ω) Error α}
    {bare : Action ω Error α} (h : Sends name full bare) :
    HubSends name (Beside.action full) (Beside.action bare) :=
  hubRecords_action h

/-- A transaction sends what its body does, and statements that name no agent. -/
theorem sends_transaction {name : Option String} {full : Action (Beside (List Sent) ω) Error α}
    {bare : Action ω Error α} (hbody : Sends name full bare) :
    Sends name (db.recorded.transaction full) (db.transaction bare) := by
  have hcontrol (command : Command) (hnone : command.agent? = none) :
      Sends name (db.recorded.run command) (db.run command) :=
    sends_run db (Command.namesOnly_of_none hnone)
  have habandon : Sends (ε := Error) name db.recorded.abandon db.abandon :=
    .bind (hcontrol .rollback rfl).attempt fun _ => .pure _
  refine .bind (hcontrol .begin rfl) fun _ => .bind hbody.attempt fun result => ?_
  cases result with
  | error error => exact .bind habandon fun _ => .throw error
  | ok value =>
    refine .bind (.bind (hcontrol .commit rfl).attempt fun result => ?_) fun _ => .pure value
    cases result with
    | error error => exact .bind habandon fun _ => .throw error
    | ok answer => exact .pure ()

variable (maxRetries : Nat) (name : String)

theorem sends_requireName :
    Sends (ω := ω) (some name) (requireName name) (requireName name) := by
  unfold requireName
  split
  · exact .throw _
  · exact .pure _

/-- A registration names its agent. -/
theorem sends_registerAgent :
    Sends (some name) ((HubStore.mk db.recorded maxRetries).registerAgent name)
      ((HubStore.mk db maxRetries).registerAgent name) :=
  .bind (sends_requireName name) fun _ => sends_queryOne db (Command.namesOnly_of_some rfl) _

theorem sends_touchAgent :
    Sends (some name) ((HubStore.mk db.recorded maxRetries).touchAgent name)
      ((HubStore.mk db maxRetries).touchAgent name) :=
  .bind (sends_requireName name) fun _ => sends_queryOne db (Command.namesOnly_of_some rfl) _

theorem sends_findAgent :
    Sends (some name) ((HubStore.mk db.recorded maxRetries).findAgent name)
      ((HubStore.mk db maxRetries).findAgent name) := by
  refine .bind (sends_queryFirst? db (Command.namesOnly_of_some rfl) _) fun found => ?_
  cases found with
  | none => exact .throw _
  | some id => exact .pure id

/-- A page is read under the name of the agent that it is asked about. -/
theorem sends_pageDigest (request : PageRequest) :
    Sends (some name) ((HubStore.mk db.recorded maxRetries).pageDigest name request)
      ((HubStore.mk db maxRetries).pageDigest name request) :=
  .bind (.ofExcept _) fun _ => .bind (sends_findAgent db maxRetries name) fun _ =>
    .bind (.ofExcept _) fun _ => sends_queryOne db (Command.namesOnly_of_none rfl) _

theorem sends_pageIds (request : PageRequest) :
    Sends (some name) ((HubStore.mk db.recorded maxRetries).pageIds name request)
      ((HubStore.mk db maxRetries).pageIds name request) :=
  .bind (.ofExcept _) fun _ => .bind (sends_findAgent db maxRetries name) fun _ =>
    .bind (.ofExcept _) fun _ => sends_queryAll db (Command.namesOnly_of_none rfl) _

/-- Deletions go by the owner and the keys, and name no agent. -/
theorem sends_deleteTables (owner : Uuid) (bundle : Bundle) (tables : List Table) :
    Sends (some name) ((HubStore.mk db.recorded maxRetries).deleteTables owner bundle tables)
      ((HubStore.mk db maxRetries).deleteTables owner bundle tables) := by
  induction tables with
  | nil => exact .pure 0
  | cons table rest ih =>
    have hdeletion : (deletion table owner (bundle.ids table)).agent? = none := by
      unfold deletion
      split
      · rfl
      · rfl
    unfold deleteTables
    dsimp only
    split
    · exact .bind (.pure 0) fun _ => .bind ih fun _ => .pure _
    · exact .bind (sends_execute db (Command.namesOnly_of_none hdeletion)) fun _ =>
        .bind ih fun _ => .pure _

/-- A deletion names the agent of its bundle. -/
theorem sends_deleteBundle (bundle : Bundle) :
    Sends (some bundle.agentName) ((HubStore.mk db.recorded maxRetries).deleteBundle bundle)
      ((HubStore.mk db maxRetries).deleteBundle bundle) :=
  .bind (sends_findAgent db maxRetries bundle.agentName) fun owner =>
    sends_transaction db (sends_deleteTables db maxRetries _ owner bundle _)

theorem sends_columnsOf (table : Table) :
    HubSends (some name) ((HubStore.mk db.recorded maxRetries).columnsOf table)
      ((HubStore.mk db maxRetries).columnsOf table) := by
  refine .bind (.ask fun _ => rfl) fun cache => ?_
  cases cache table with
  | some columns => exact .pure columns
  | none =>
    refine .bind (sends_action (sends_queryAll db (Command.namesOnly_of_none rfl) _))
      fun columns => ?_
    have hremember : HubSends (ε := Error) (some name)
        (do
          Action.update fun state : HubState (Beside (List Sent) ω) =>
            { state with own := state.own.remember table columns }
          return columns)
        (do
          Action.update fun state : HubState ω =>
            { state with own := state.own.remember table columns }
          return columns) :=
      .bind (.update (fun _ => rfl) fun _ => rfl) fun _ => .pure columns
    dsimp only
    split
    · exact .bind (.throw _) fun _ => hremember
    · exact hremember

/-- Rows are saved under their owner, and no agent is named. -/
theorem sends_saveBatch (table : Table) (rows : List Row) :
    HubSends (some name) ((HubStore.mk db.recorded maxRetries).saveBatch table rows)
      ((HubStore.mk db maxRetries).saveBatch table rows) := by
  unfold saveBatch
  split
  · exact .pure _
  · refine .bind (sends_columnsOf db maxRetries name table) fun columns => ?_
    have hupsert : (Command.upsert table (insertColumns columns rows) rows).NamesOnly (some name) :=
      Command.namesOnly_of_none rfl
    have hsend := LogsOnly.bind (sends_action (sends_run db hupsert)) fun _ => LogsOnly.pure ()
    dsimp only
    split
    · exact .bind (.throw _) fun _ => hsend
    · exact hsend

theorem sends_saveTables (tables : List (Table × List Row)) (saved : Saved) :
    HubSends (some name) ((HubStore.mk db.recorded maxRetries).saveTables tables saved)
      ((HubStore.mk db maxRetries).saveTables tables saved) := by
  induction tables generalizing saved with
  | nil => exact .ofExcept _
  | cons entry rest ih =>
    obtain ⟨table, rows⟩ := entry
    have hsave : HubSends (some name)
        ((HubStore.mk db.recorded maxRetries).writer.saveWithDegradation table rows maxRetries)
        ((HubStore.mk db maxRetries).writer.saveWithDegradation table rows maxRetries) :=
      RowWriter.logsOnly_saveWithDegradation (sends_saveBatch db maxRetries name table)
        (fun row => sends_saveBatch db maxRetries name table [row]) rows maxRetries
    exact .bind hsave.attempt fun result => .bind (.ofExcept _) fun saved => ih saved

/-- A save names the agent of its bundle. -/
theorem sends_insertBundle (bundle : Bundle) :
    HubSends (some bundle.agentName)
      ((HubStore.mk db.recorded maxRetries).insertBundle bundle)
      ((HubStore.mk db maxRetries).insertBundle bundle) :=
  .bind (sends_action (sends_registerAgent db maxRetries bundle.agentName)) fun owner =>
    sends_saveTables db maxRetries _ (bundle.populateOwner owner).tables ⟨0, []⟩

end HubStore

end AgentSync
