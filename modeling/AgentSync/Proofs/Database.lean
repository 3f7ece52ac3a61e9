import AgentSync.Proofs.Action
import AgentSync.Store.Database

namespace AgentSync.Database

open AgentSync.Action

variable {ω α : Type}

/-- To send a statement is to let the database answer it, and a failure of it is one of the
database. -/
theorem runFrom_run (db : Database ω) (command : Command) (state : ω) :
    runFrom (db.run command) state =
      (((db.send command).run state).1.mapError Error.database,
        ((db.send command).run state).2) := by
  unfold Database.run runFrom ExceptT.run StateT.run Id.run ExceptT.mk
  simp only [bind, StateT.bind]
  rcases db.send command state with ⟨error | answer, after⟩
  · rfl
  · rfl

/-- A query for one value reads the first row of its statement's answer. -/
theorem runFrom_queryOne (db : Database ω) {command : Command} (read : Json → Option α)
    {state after : ω} {answer : Except Error Answer}
    (hsend : runFrom (db.run command) state = (answer, after)) :
    ∃ outcome, runFrom (db.queryOne command read) state = (outcome, after) ∧
      outcome.toOption = answer.toOption.bind fun found => found.rows.head?.bind read := by
  unfold queryOne queryFirst?
  rw [bind_assoc]
  cases answer with
  | error error => exact ⟨_, runFrom_bind_of_error hsend _, rfl⟩
  | ok answer =>
    rw [runFrom_bind_of_ok hsend]
    rcases answer with ⟨_ | ⟨row, rest⟩, affected⟩
    · exact ⟨_, rfl, rfl⟩
    · have hhead : (Except.ok ⟨row :: rest, affected⟩ : Except Error Answer).toOption.bind
          (fun found => found.rows.head?.bind read) = read row := rfl
      rw [hhead]
      dsimp only
      cases read row with
      | none => exact ⟨_, rfl, rfl⟩
      | some value => exact ⟨_, rfl, rfl⟩

/-- To read an answer leaves the state as it is. -/
theorem keeps_decode {β : Type} (f : ω → β) (value : Option α) :
    Keeps f (decode value : Action ω Error α) := by
  cases value with
  | none => exact .throw _ _
  | some value => exact .pure _ value

end AgentSync.Database
