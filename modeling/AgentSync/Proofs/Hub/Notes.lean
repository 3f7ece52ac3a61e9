import AgentSync.Proofs.Hub.Course
import AgentSync.Proofs.Hub.Records
import Mathlib.Data.List.Forall2

namespace AgentSync

open AgentSync.Action

/-- A call on a store that saves rows or forgets what is known of tables. -/
inductive StoreCall where
  | insert (bundle : Bundle)
  | save (save : Save)
  | clear

/-- What a call answers. -/
abbrev StoreCall.Answer : StoreCall → Type
  | .insert _ => Nat
  | .save _ => Unit
  | .clear => Unit

/-- A call with how it ended. -/
structure StoreRecord where
  call : StoreCall
  outcome : Except Error call.Answer

/-- Makes calls one after another and answers how each ended. -/
def serve {σ : Type} (perform : (call : StoreCall) → Action σ Error call.Answer) :
    List StoreCall → StateM σ (List StoreRecord)
  | [] => return []
  | call :: rest => do
    let outcome ← (perform call).run
    let others ← serve perform rest
    return ⟨call, outcome⟩ :: others

/-- Calls that write something down come to what they come to without, if each of them does. -/
theorem serve_logs {σ τ κ : Type} {log : σ → List κ} {bare : σ → τ}
    {full : (call : StoreCall) → Action σ Error call.Answer}
    {plain : (call : StoreCall) → Action τ Error call.Answer}
    (fits : StoreRecord → List κ → Prop)
    (h : ∀ call, Logs log bare (full call) (plain call) fun outcome => fits ⟨call, outcome⟩)
    (calls : List StoreCall) :
    ∀ state, ∃ records entries after, (serve full calls).run state = (records, after) ∧
      (serve plain calls).run (bare state) = (records, bare after) ∧
      log after = log state ++ entries.flatten ∧ records.map StoreRecord.call = calls ∧
      List.Forall₂ fits records entries := by
  induction calls with
  | nil => exact fun state => ⟨[], [], state, rfl, rfl, (List.append_nil _).symm, rfl, .nil⟩
  | cons call rest ih =>
    intro state
    obtain ⟨outcome, entries, middle, hfull, hplain, hlog, hfits⟩ := h call state
    obtain ⟨records, more, after, hfulls, hplains, hlogs, hcalls, hall⟩ := ih middle
    refine ⟨⟨call, outcome⟩ :: records, entries :: more, after, ?_, ?_, ?_, ?_, .cons hfits hall⟩
    · rw [serve, run_run_bind, hfull]
      dsimp only
      rw [StateT.run_bind, hfulls]
      rfl
    · rw [serve, run_run_bind, hplain]
      dsimp only
      rw [StateT.run_bind, hplains]
      rfl
    · rw [hlogs, hlog, List.flatten_cons, List.append_assoc]
    · rw [List.map_cons, hcalls]

/-- What every call keeps holds after all of them. -/
theorem serve_keeps {σ : Type} {p : σ → Prop}
    {perform : (call : StoreCall) → Action σ Error call.Answer}
    (h : ∀ call state, p state → p (runFrom (perform call) state).2) (calls : List StoreCall) :
    ∀ state, p state → p ((serve perform calls).run state).2 := by
  induction calls with
  | nil => exact fun _ hstate => hstate
  | cons call rest ih => exact fun state hstate => ih _ (h call state hstate)

/-- Something a store did, with the statements that it sent for it. -/
inductive StoreNote where
  | cleared
  | registered (name : String) (outcome : Except Error Uuid) (sent : List Sent)
  | saved (record : SaveRecord) (sent : List Sent)

namespace StoreNote

def sent : StoreNote → List Sent
  | cleared => []
  | registered _ _ sent => sent
  | saved _ sent => sent

def isCleared : StoreNote → Bool
  | cleared => true
  | _ => false

end StoreNote

/-- The notes of saves, each with the statements that were sent for it. -/
def savedNotes (saves : List (SaveRecord × List Sent)) : List StoreNote :=
  saves.map fun (record, sent) => .saved record sent

/-- What is noted for a call. Columns that are forgotten and a single save leave one note. A bundle
leaves the note of its registration; if that gives an owner, the rows are given to it and the notes
of exactly the saves follow by which the tables that have rows are saved in turn. -/
inductive NotesOf (maxRetries : Nat) : StoreRecord → List StoreNote → Prop
  | clear : NotesOf maxRetries ⟨.clear, .ok ()⟩ [.cleared]
  | save {save : Save} {answer : Except Error Unit} {sent : List Sent} :
      NotesOf maxRetries ⟨.save save, answer⟩ [.saved ⟨save, answer⟩ sent]
  | unowned {bundle : Bundle} {error : Error} {sent : List Sent} :
      NotesOf maxRetries ⟨.insert bundle, .error error⟩
        [.registered bundle.agentName (.error error) sent]
  | owned {bundle : Bundle} {owner : Uuid} {sent : List Sent}
      {saves : List (SaveRecord × List Sent)} {result : Except Error (List String)}
      (hturn : TurnCalls (max maxRetries 1) (bundle.populateOwner owner).tables
        (saves.map Prod.fst) result) :
      NotesOf maxRetries
        ⟨.insert bundle, result.bind fun keys => HubStore.Saved.result ⟨bundle.count, keys⟩⟩
        (.registered bundle.agentName (.ok owner) sent :: savedNotes saves)

namespace HubStore

variable {ω α : Type}

/-- Makes a call. -/
def perform (store : HubStore ω) : (call : StoreCall) → Action (HubState ω) Error call.Answer
  | .insert bundle => store.insertBundle bundle
  | .save save => store.writer.perform save
  | .clear => clearColumnCache

/-- A hub with the statements of its database written down, and with notes of what it did. -/
abbrev NotedState (ω : Type) := Beside (List StoreNote) (HubState (Beside (List Sent) ω))

/-- Runs an action and notes how it ended and what it sent. -/
def noted (note : Except Error α → List Sent → StoreNote)
    (act : Action (HubState (Beside (List Sent) ω)) Error α) : Action (NotedState ω) Error α :=
  ExceptT.mk fun state =>
    let (outcome, after) := runFrom act state.rest
    let sent := after.rest.own.drop state.rest.rest.own.length
    (outcome, ⟨state.own ++ [note outcome sent], after⟩)

/-- What is noted of an act is how it ended and what was sent since it began. -/
theorem runFrom_noted (note : Except Error α → List Sent → StoreNote)
    (act : Action (HubState (Beside (List Sent) ω)) Error α) (state : NotedState ω) :
    runFrom (noted note act) state =
      let (outcome, after) := runFrom act state.rest
      (outcome, ⟨state.own ++
        [note outcome (after.rest.own.drop state.rest.rest.own.length)], after⟩) := rfl

variable (db : Database ω) (maxRetries : Nat)

/-- Makes a save and notes it. -/
def notedSave (save : Save) : Action (NotedState ω) Error Unit :=
  noted (fun answer => .saved ⟨save, answer⟩)
    ((HubStore.mk db.recorded maxRetries).writer.perform save)

/-- The store as something that saves rows and notes its saves. -/
def notedWriter : RowWriter (NotedState ω) where
  saveBatch table rows := notedSave db maxRetries (.batch table rows)
  saveOne table row := notedSave db maxRetries (.one table row)

theorem notedWriter_perform (save : Save) :
    (notedWriter db maxRetries).perform save = notedSave db maxRetries save := by
  cases save with
  | batch table rows => rfl
  | one table row => rfl

/-- Makes a call and notes what is done for it. -/
def performNoted : (call : StoreCall) → Action (NotedState ω) Error call.Answer
  | .insert bundle => do
    let owner ← noted (.registered bundle.agentName)
      (Beside.action ((HubStore.mk db.recorded maxRetries).registerAgent bundle.agentName))
    (notedWriter db maxRetries).saveTables maxRetries (bundle.populateOwner owner).tables ⟨0, []⟩
  | .save save => (notedWriter db maxRetries).perform save
  | .clear => noted (fun _ _ => .cleared) clearColumnCache

/-- A store without notes in which nothing was sent yet, and no columns are known. -/
def NotedState.start (state : ω) : NotedState ω := ⟨[], ⟨.empty, ⟨[], state⟩⟩⟩

/-- The state of the store alone. -/
def NotedState.bare (state : NotedState ω) : HubState ω := ⟨state.rest.own, state.rest.rest.rest⟩

section Notes

variable {db maxRetries}

/-- An action with its notes and the same action over a database that is only recorded come to the
same, and what is noted fits. -/
abbrev Notes (full : Action (NotedState ω) Error α)
    (recorded : Action (HubState (Beside (List Sent) ω)) Error α)
    (fits : Except Error α → List StoreNote → Prop) : Prop :=
  Logs Beside.own Beside.rest full recorded fits

/-- One note is made for one act, and the act goes as it does without. -/
theorem notes_noted (note : Except Error α → List Sent → StoreNote)
    (act : Action (HubState (Beside (List Sent) ω)) Error α) :
    Notes (noted note act) act fun outcome notes => ∃ sent, notes = [note outcome sent] :=
  fun _ => ⟨_, _, _, rfl, rfl, rfl, _, rfl⟩

/-- A save is noted once. -/
theorem notes_save (save : Save) :
    Notes (notedSave db maxRetries save) ((HubStore.mk db.recorded maxRetries).writer.perform save)
      fun answer notes => ∃ sent, notes = [.saved ⟨save, answer⟩ sent] :=
  notes_noted _ _

/-- The calls of the store that notes its saves are its notes. -/
theorem notes_of_makes {records : List SaveRecord} {state after : NotedState ω}
    (h : (notedWriter db maxRetries).Makes state records after) :
    ∃ saves, saves.map Prod.fst = records ∧ after.own = state.own ++ savedNotes saves := by
  induction h with
  | nil => exact ⟨[], rfl, (List.append_nil _).symm⟩
  | @cons save answer _ state middle _ hsave _ ih =>
    obtain ⟨saves, hrecords, hown⟩ := ih
    have hnotes : Notes (notedSave db maxRetries save) _ _ := notes_save save
    obtain ⟨_, _, _, hnoted, -, hnote, sent, rfl⟩ := hnotes state
    rw [notedWriter_perform, hnoted] at hsave
    cases hsave
    refine ⟨(⟨save, answer⟩, sent) :: saves, congrArg (_ :: ·) hrecords, ?_⟩
    rw [hown, hnote, List.append_assoc]
    rfl

variable (db maxRetries)

/-- Noting saves does not change what saving tables in turn comes to. -/
theorem logsOnly_saveTables (tables : List (Table × List Row)) (saved : Saved) :
    LogsOnly Beside.own Beside.rest (fun _ => True)
      ((notedWriter db maxRetries).saveTables maxRetries tables saved)
      ((HubStore.mk db.recorded maxRetries).saveTables tables saved) := by
  have hsave (save : Save) :
      LogsOnly Beside.own Beside.rest (fun _ => True) (notedSave db maxRetries save)
        ((HubStore.mk db.recorded maxRetries).writer.perform save) :=
    (notes_save save).mono fun _ _ _ _ _ => trivial
  rw [saveTables_eq]
  induction tables generalizing saved with
  | nil => exact LogsOnly.ofExcept _
  | cons entry rest ih =>
    have hfirst : LogsOnly Beside.own Beside.rest (fun _ => True)
        ((notedWriter db maxRetries).saveWithDegradation entry.1 entry.2 maxRetries)
        ((HubStore.mk db.recorded maxRetries).writer.saveWithDegradation entry.1 entry.2
          maxRetries) :=
      RowWriter.logsOnly_saveWithDegradation (fun rows => hsave (.batch entry.1 rows))
        (fun row => hsave (.one entry.1 row)) entry.2 maxRetries
    exact LogsOnly.bind hfirst.attempt fun result => LogsOnly.bind (.ofExcept _) fun saved =>
      ih saved

/-- Tables that are saved in turn are noted as exactly the saves of each of them. -/
theorem notes_saveTables (tables : List (Table × List Row)) (saved : Saved) :
    Notes ((notedWriter db maxRetries).saveTables maxRetries tables saved)
      ((HubStore.mk db.recorded maxRetries).saveTables tables saved)
      fun outcome notes => ∃ saves result, notes = savedNotes saves ∧
        TurnCalls (max maxRetries 1) tables (saves.map Prod.fst) result ∧
        outcome = result.bind fun keys => Saved.result
          ⟨saved.count + (tables.flatMap Prod.snd).length, saved.refused ++ keys⟩ := by
  intro state
  obtain ⟨outcome, notes, after, hrun, hplain, hlog, -⟩ :=
    logsOnly_saveTables db maxRetries tables saved state
  obtain ⟨result, _, hturn, hruns⟩ :=
    (notedWriter db maxRetries).saveTables_runs maxRetries tables saved state
  rw [hrun] at hruns
  obtain ⟨houtcome, rfl⟩ := Prod.mk.inj hruns
  obtain ⟨records, hmakes, hcalls⟩ := hturn.calls
  obtain ⟨saves, rfl, hown⟩ := notes_of_makes hmakes
  exact ⟨outcome, notes, after, hrun, hplain, hlog, saves, result,
    List.append_cancel_left (hlog.symm.trans hown), hcalls, houtcome⟩

/-- A call does what it does without notes. -/
theorem notes_perform (call : StoreCall) :
    Notes (performNoted db maxRetries call) ((HubStore.mk db.recorded maxRetries).perform call)
      fun outcome notes => NotesOf maxRetries ⟨call, outcome⟩ notes := by
  cases call with
  | insert bundle =>
    refine (notes_noted _ _).bind ?_ ?_
    · rintro error _ ⟨sent, rfl⟩
      exact .unowned
    · rintro owner _ ⟨sent, rfl⟩
      refine (notes_saveTables db maxRetries _ _).mono ?_
      rintro _ _ ⟨saves, result, rfl, hturn, rfl⟩
      rw [Nat.zero_add, Bundle.length_tables, Bundle.count_populateOwner]
      exact .owned hturn
  | save save =>
    rw [performNoted, notedWriter_perform]
    refine (notes_save save).mono ?_
    rintro answer _ ⟨sent, rfl⟩
    exact .save
  | clear => exact fun state => ⟨.ok (), [.cleared], _, rfl, rfl, rfl, .clear⟩

/-- A call over a recorded database does what it does over the database. -/
theorem hubRecords_perform (call : StoreCall) :
    HubRecords ((HubStore.mk db.recorded maxRetries).perform call)
      ((HubStore.mk db maxRetries).perform call) fun _ _ => True := by
  cases call with
  | insert bundle => exact (sends_insertBundle db maxRetries bundle).mono fun _ _ _ => trivial
  | save save =>
    cases save with
    | batch table rows =>
      exact (sends_saveBatch db maxRetries "" table rows).mono fun _ _ _ => trivial
    | one table row =>
      exact (sends_saveBatch db maxRetries "" table [row]).mono fun _ _ _ => trivial
  | clear => exact fun state => ⟨.ok (), [], _, rfl, rfl, (List.append_nil _).symm, trivial⟩

variable {db maxRetries}

/-- What every save, registration and forgetting keeps, the calls of a store keep. -/
theorem performNoted_keeps {p : NotedState ω → Prop}
    (hsave : ∀ save state, p state → p (runFrom (notedSave db maxRetries save) state).2)
    (hregister : ∀ name state, p state → p (runFrom (noted (.registered name)
      (Beside.action ((HubStore.mk db.recorded maxRetries).registerAgent name))) state).2)
    (hclear : ∀ state, p state →
      p (runFrom (noted (fun _ _ => .cleared) clearColumnCache) state).2)
    (call : StoreCall) (state : NotedState ω) (hstate : p state) :
    p (runFrom (performNoted db maxRetries call) state).2 := by
  cases call with
  | insert bundle =>
    rw [performNoted]
    have howner := hregister bundle.agentName state hstate
    rcases hrun : runFrom (noted (.registered bundle.agentName) (Beside.action
      ((HubStore.mk db.recorded maxRetries).registerAgent bundle.agentName))) state with
      ⟨error | owner, middle⟩
    · rw [hrun] at howner
      rw [runFrom_bind_of_error hrun]
      exact howner
    · rw [hrun] at howner
      rw [runFrom_bind_of_ok hrun]
      obtain ⟨_, _, hturn, hruns⟩ := (notedWriter db maxRetries).saveTables_runs maxRetries
        (bundle.populateOwner owner).tables ⟨0, []⟩ middle
      obtain ⟨records, hmakes, -⟩ := hturn.calls
      rw [hruns]
      refine hmakes.keeps (fun save state hstate => ?_) howner
      rw [notedWriter_perform]
      exact hsave save state hstate
  | save save =>
    rw [performNoted, notedWriter_perform]
    exact hsave save state hstate
  | clear => exact hclear state hstate

end Notes

end HubStore

end AgentSync
