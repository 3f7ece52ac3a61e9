import AgentSync.Memory.Log
import AgentSync.Proofs.Beside
import AgentSync.Proofs.Database
import AgentSync.Proofs.Logs
import AgentSync.Proofs.World

namespace AgentSync

open AgentSync.Action

variable {ω ε α β : Type}

/-- An action that writes down what it does and the same action without a log come to the same, and
what is written down fits what they come to. -/
def Traces (full : Action (Session (Logged ω)) ε α) (bare : Action (Session ω) ε α)
    (fits : Except ε α → List LogEntry → Prop) : Prop :=
  ∀ session, ∃ outcome entries after,
    runFrom full session = (outcome, after) ∧ runFrom bare session.bare = (outcome, after.bare) ∧
    after.log = session.log ++ entries ∧ fits outcome entries

namespace Traces

variable {full : Action (Session (Logged ω)) ε α} {bare : Action (Session ω) ε α}
  {next : α → Action (Session (Logged ω)) ε β} {bareNext : α → Action (Session ω) ε β}
  {firstFits : Except ε α → List LogEntry → Prop} {fits : Except ε β → List LogEntry → Prop}

theorem pure {value : β} (h : fits (.ok value) []) :
    Traces (Pure.pure value : Action (Session (Logged ω)) ε β) (Pure.pure value) fits :=
  Logs.pure h

theorem throw {error : ε} (h : fits (.error error) []) :
    Traces (MonadExcept.throw error : Action (Session (Logged ω)) ε β)
      (MonadExcept.throw error) fits :=
  Logs.throw h

theorem mono {other : Except ε α → List LogEntry → Prop} (h : Traces full bare firstFits)
    (hfits : ∀ outcome entries, firstFits outcome entries → other outcome entries) :
    Traces full bare other :=
  Logs.mono h hfits

/-- The second step is described after the entries of the first. -/
theorem bind (hfirst : Traces full bare firstFits)
    (herror : ∀ error entries, firstFits (.error error) entries → fits (.error error) entries)
    (hnext : ∀ value entries, firstFits (.ok value) entries →
      Traces (next value) (bareNext value) fun outcome more => fits outcome (entries ++ more)) :
    Traces (full >>= next) (bare >>= bareNext) fits :=
  Logs.bind hfirst herror hnext

/-- What follows an attempt sees a failure as an answer. -/
theorem attempt_bind {δ : Type} {next : Except ε α → Action (Session (Logged ω)) δ β}
    {bareNext : Except ε α → Action (Session ω) δ β} {fits : Except δ β → List LogEntry → Prop}
    (hfirst : Traces full bare firstFits)
    (hnext : ∀ result entries, firstFits result entries →
      Traces (next result) (bareNext result) fun outcome more => fits outcome (entries ++ more)) :
    Traces (Action.attempt full >>= next) (Action.attempt bare >>= bareNext) fits :=
  Logs.attempt_bind hfirst hnext

end Traces

/-- Showing an event writes nothing down. -/
theorem traces_record (event : Event) :
    Traces (Session.record event : Action (Session (Logged ω)) ε Unit) (Session.record event)
      fun outcome entries => outcome = .ok () ∧ entries = [] :=
  fun _ => ⟨_, [], _, rfl, rfl, (List.append_nil _).symm, rfl, rfl⟩

/-- In a cancelled scope nothing is done. -/
theorem Session.runFrom_unlessCancelled (scope : Scope) (body : Action (Session ω) Error α)
    (session : Session ω) :
    runFrom (unlessCancelled scope body) session =
      if session.rest.scopes.isCancelled scope then (.error .cancelled, session)
      else runFrom body session := by
  have hguard : runFrom (Beside.action (World.guard scope)) session =
      (if session.rest.scopes.isCancelled scope then .error .cancelled else .ok (), session) := by
    rw [Beside.runFrom_action, World.guard, World.isCancelled, runFrom_bind_of_ok (runFrom_ask _ _)]
    split
    · rfl
    · rfl
  by_cases hcancelled : session.rest.scopes.isCancelled scope = true
  · rw [if_pos hcancelled] at hguard ⊢
    exact runFrom_bind_of_error hguard _
  · rw [if_neg hcancelled] at hguard ⊢
    exact runFrom_bind_of_ok hguard _

/-- A consumer that starts with nothing written down comes to what the same consumer without a log
comes to. -/
theorem Traces.unlessCancelled {full : Action (Session (Logged ω)) Error α}
    {bare : Action (Session ω) Error α} {fits : Except Error α → List LogEntry → Prop}
    (h : Traces full bare fits) (scope : Scope) (session : Session ω) :
    ∃ outcome after,
      runFrom (Session.unlessCancelled scope full) session.logged = (outcome, after) ∧
      runFrom (Session.unlessCancelled scope bare) session = (outcome, after.bare) ∧
      (session.rest.scopes.isCancelled scope = true → after.log = []) ∧
      (session.rest.scopes.isCancelled scope = false → fits outcome after.log) := by
  have hscopes : session.logged.rest.scopes = session.rest.scopes := rfl
  rw [Session.runFrom_unlessCancelled, Session.runFrom_unlessCancelled, hscopes]
  cases session.rest.scopes.isCancelled scope with
  | true => exact ⟨_, _, rfl, rfl, fun _ => rfl, nofun⟩
  | false =>
    obtain ⟨outcome, entries, after, hfull, hbare, hlog, hfits⟩ := h session.logged
    rw [show session.logged.log = [] from rfl, List.nil_append] at hlog
    exact ⟨outcome, after, hfull, hbare, nofun, fun _ => hlog ▸ hfits⟩

/-- A statement that was sent, and what came of it. -/
def Sends (command : Command) (outcome : Except Error Answer) (entries : List LogEntry) : Prop :=
  ∃ answer, entries = [.sent command answer] ∧ outcome = answer.mapError Error.database

theorem traces_run (db : Database ω) (command : Command) :
    Traces ((Session.database db.logged).run command) ((Session.database db).run command)
      (Sends command) :=
  fun _ => ⟨_, _, _, Database.runFrom_run _ _ _, Database.runFrom_run _ _ _, rfl, _, rfl, rfl⟩

/-- What follows a statement sees its answer, unless the statement fails. -/
theorem Traces.run_bind (db : Database ω) {command : Command}
    {next : Answer → Action (Session (Logged ω)) Error α}
    {bareNext : Answer → Action (Session ω) Error α}
    {fits : Except Error α → List LogEntry → Prop}
    (herror : ∀ error, fits (.error (.database error)) [.sent command (.error error)])
    (hnext : ∀ answer, Traces (next answer) (bareNext answer)
      fun outcome more => fits outcome (.sent command (.ok answer) :: more)) :
    Traces ((Session.database db.logged).run command >>= next)
      ((Session.database db).run command >>= bareNext) fits :=
  Logs.note_bind (.sent command) (traces_run db command) herror hnext

/-- The statement that claims events. -/
def Fetcher.command (fetcher : Fetcher) : Command :=
  .claim fetcher.watch fetcher.policy (Word.wrap64 (Fetcher.atLeastOne fetcher.batchSize))

/-- Events that can be read are handed out in order. -/
theorem EventQueue.runFrom_fetch {σ : Type} {queue : EventQueue σ} {fetcher : Fetcher}
    {state after : σ} {answer : Answer} {events : List Event}
    (hsend : runFrom (queue.db.run fetcher.command) state = (.ok answer, after))
    (hrows : answer.rows.mapM Json.event? = some events) :
    runFrom (queue.fetch fetcher) state = (.ok (inOrder events), after) := by
  rw [fetch, claim, Database.queryAll, bind_assoc]
  refine (runFrom_bind_of_ok hsend _).trans ?_
  rw [hrows]
  rfl

/-- What claiming events came to: a failure, or the events that the database answered. -/
inductive Claims (fetcher : Fetcher) : Except Error (List Event) → List LogEntry → Prop
  | refused (error : DatabaseError) :
    Claims fetcher (.error (.database error)) [.sent fetcher.command (.error error)]
  | undecodable {answer : Answer} (hrows : answer.rows.mapM Json.event? = none) :
    Claims fetcher (.error (.database .undecodable)) [.sent fetcher.command (.ok answer)]
  | claimed {answer : Answer} {events : List Event}
    (hrows : answer.rows.mapM Json.event? = some events) :
    Claims fetcher (.ok (EventQueue.inOrder events)) [.sent fetcher.command (.ok answer)]

theorem traces_fetch (db : Database ω) (fetcher : Fetcher) :
    Traces (EventQueue.fetch ⟨Session.database db.logged⟩ fetcher)
      (EventQueue.fetch ⟨Session.database db⟩ fetcher) (Claims fetcher) := by
  unfold EventQueue.fetch EventQueue.claim Database.queryAll
  simp only [bind_assoc]
  refine .run_bind db (fun error => .refused error) fun answer => ?_
  cases hrows : answer.rows.mapM Json.event? with
  | none => exact .throw (.undecodable hrows)
  | some events => exact .pure (.claimed hrows)

/-- What ending a transaction came to. -/
inductive Finishes (command : Command) : Except Error Unit → List LogEntry → Prop
  | done (answer : Answer) : Finishes command (.ok ()) [.sent command (.ok answer)]
  | failed (error : DatabaseError) (answer : Except DatabaseError Answer) :
    Finishes command (.error (.database error))
      [.sent command (.error error), .sent .rollback answer]

/-- Giving a transaction up sends one statement, and its answer makes no difference. -/
theorem traces_abandon {α : Type} (db : Database ω) (error : Error) :
    Traces (do (Session.database db.logged).abandon; throw error)
      (do (Session.database db).abandon; throw error)
      fun (outcome : Except Error α) entries =>
        outcome = .error error ∧ ∃ answer, entries = [.sent .rollback answer] := by
  unfold Database.abandon
  simp only [bind_assoc]
  refine (traces_run db .rollback).attempt_bind ?_
  rintro _ _ ⟨answer, rfl, -⟩
  exact .throw ⟨rfl, answer, rfl⟩

theorem traces_finish (db : Database ω) (command : Command) :
    Traces ((Session.database db.logged).finish command) ((Session.database db).finish command)
      (Finishes command) := by
  unfold Database.finish
  refine (traces_run db command).attempt_bind ?_
  rintro _ _ ⟨error | answer, rfl, rfl⟩
  · refine (traces_abandon db (.database error)).mono ?_
    rintro _ _ ⟨rfl, answer, rfl⟩
    exact .failed error answer
  · exact .pure (.done answer)

/-- What putting events back came to: every event is put back in turn, up to the first failure. -/
inductive Requeues : List Event → Except Error Unit → List LogEntry → Prop
  | done : Requeues [] (.ok ()) []
  | failed (event : Event) (rest : List Event) (error : DatabaseError) :
    Requeues (event :: rest) (.error (.database error)) [.sent (.requeue event) (.error error)]
  | more {event : Event} {rest : List Event} {outcome : Except Error Unit}
    {entries : List LogEntry} (answer : Answer) (hrest : Requeues rest outcome entries) :
    Requeues (event :: rest) outcome (.sent (.requeue event) (.ok answer) :: entries)

/-- Events are put back one by one until a statement fails. By induction on the events. -/
theorem traces_requeue (db : Database ω) (events : List Event) :
    Traces (EventQueue.requeue ⟨Session.database db.logged⟩ events)
      (EventQueue.requeue ⟨Session.database db⟩ events) (Requeues events) := by
  induction events with
  | nil => exact .pure .done
  | cons event rest ih =>
    refine .run_bind db (fun error => .failed event rest error) fun answer => ?_
    exact ih.mono fun _ _ hrest => .more answer hrest

/-- What a transaction came to around a body. -/
inductive Transacts {α : Type} (body : Except Error α → List LogEntry → Prop) :
    Except Error α → List LogEntry → Prop
  | unopened (error : DatabaseError) :
    Transacts body (.error (.database error)) [.sent .begin (.error error)]
  | failed {error : Error} {entries : List LogEntry} (opened : Answer)
    (hbody : body (.error error) entries) (answer : Except DatabaseError Answer) :
    Transacts body (.error error)
      (.sent .begin (.ok opened) :: (entries ++ [.sent .rollback answer]))
  | unended {value : α} {error : Error} {entries ending : List LogEntry} (opened : Answer)
    (hbody : body (.ok value) entries) (hend : Finishes .commit (.error error) ending) :
    Transacts body (.error error) (.sent .begin (.ok opened) :: (entries ++ ending))
  | ended {value : α} {entries ending : List LogEntry} (opened : Answer)
    (hbody : body (.ok value) entries) (hend : Finishes .commit (.ok ()) ending) :
    Transacts body (.ok value) (.sent .begin (.ok opened) :: (entries ++ ending))

/-- What stands in a transaction is noted between its statements. -/
theorem traces_transaction (db : Database ω) {full : Action (Session (Logged ω)) Error α}
    {bare : Action (Session ω) Error α} {body : Except Error α → List LogEntry → Prop}
    (hbody : Traces full bare body) :
    Traces ((Session.database db.logged).transaction full)
      ((Session.database db).transaction bare) (Transacts body) := by
  unfold Database.transaction
  refine .run_bind db (fun error => .unopened error) fun opened => hbody.attempt_bind ?_
  rintro (error | value) entries hbody
  · refine (traces_abandon db error).mono ?_
    rintro _ _ ⟨rfl, answer, rfl⟩
    exact .failed opened hbody answer
  · refine (traces_finish db .commit).bind ?_ ?_
    · intro error ending hend
      exact .unended opened hbody hend
    · intro _ ending hend
      refine .pure ?_
      rw [List.append_nil]
      exact .ended opened hbody hend

end AgentSync
