import AgentSync.Action
import AgentSync.Error
import AgentSync.Event.Wire
import AgentSync.Store.Command

namespace AgentSync

/-- What a database answers to a statement: rows, and the number of rows it touched. A row of a
single column is that column's value. -/
structure Answer where
  rows : List Json
  affected : Nat
  deriving Inhabited

/-- A database that is part of a state, known only by what it answers to statements. -/
structure Database (ω : Type) where
  send : Command → StateM ω (Except DatabaseError Answer)

namespace Database

variable {ω α : Type}

/-- Sends a statement and answers what the database does. -/
def run (db : Database ω) (command : Command) : Action ω Error Answer :=
  ExceptT.mk do
    match ← db.send command with
    | .ok answer => return .ok answer
    | .error error => return .error (.database error)

/-- The database seen from a larger state. -/
def onRest {τ : Type} (db : Database ω) : Database (Beside τ ω) :=
  ⟨fun command => Beside.onRest (db.send command)⟩

/-- A value of an answer, or the failure to read it. -/
def decode (value : Option α) : Action ω Error α :=
  match value with
  | some value => pure value
  | none => throw (.database .undecodable)

/-- Sends a statement and reads every row it answers. -/
def queryAll (db : Database ω) (command : Command) (read : Json → Option α) :
    Action ω Error (List α) := do
  let answer ← db.run command
  decode (answer.rows.mapM read)

/-- Sends a statement and reads the first row it answers, if there is one. -/
def queryFirst? (db : Database ω) (command : Command) (read : Json → Option α) :
    Action ω Error (Option α) := do
  let answer ← db.run command
  match answer.rows with
  | [] => return none
  | row :: _ => return some (← decode (read row))

/-- Sends a statement and reads the first row it answers; there must be one. -/
def queryOne (db : Database ω) (command : Command) (read : Json → Option α) :
    Action ω Error α := do
  match ← db.queryFirst? command read with
  | some value => return value
  | none => throw (.database .rowMissing)

/-- Sends a statement and answers how many rows it touched. -/
def execute (db : Database ω) (command : Command) : Action ω Error Nat := do
  let answer ← db.run command
  return answer.affected

/-- Gives up the open transaction, whatever the database answers. -/
def abandon (db : Database ω) : Action ω Error Unit := do
  let _ ← Action.attempt (db.run .rollback)

/-- Ends the open transaction with a statement. If that fails the transaction is given up. -/
def finish (db : Database ω) (command : Command) : Action ω Error Unit := do
  match ← Action.attempt (db.run command) with
  | .ok _ => return ()
  | .error error =>
    db.abandon
    throw error

/-- Opens a transaction, commits it after `body` and gives it up if `body` fails. -/
def transaction (db : Database ω) (body : Action ω Error α) : Action ω Error α := do
  let _ ← db.run .begin
  match ← Action.attempt body with
  | .ok answer =>
    db.finish .commit
    return answer
  | .error error =>
    db.abandon
    throw error

end Database

namespace Json

/-- An identifier in a column. -/
def uuid? (value : Json) : Option Uuid := value.string?.bind Uuid.ofText?

/-- An event in a row. -/
def event? (value : Json) : Option Event := Event.decoder.ofJson? value

/-- A page digest in a row. -/
def pageDigest? (value : Json) : Option PageDigest := PageDigest.decoder.ofJson? value

end Json

end AgentSync
