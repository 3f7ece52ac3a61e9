import AgentSync.Action
import AgentSync.Error
import AgentSync.Table

namespace AgentSync

/-- Something that saves rows of a table. -/
structure RowWriter (σ : Type) where
  /-- Saves all rows or none. -/
  saveBatch : Table → List Row → Action σ Error Unit
  saveOne : Table → Row → Action σ Error Unit

namespace RowWriter

variable {σ : Type}

/-- Whether a save was accepted. A refusal because of missing rows is not a failure. -/
def accepted (save : Action σ Error Unit) : Action σ Error Bool := do
  match ← Action.attempt save with
  | .ok () => return true
  | .error error => if error.isConflict then return false else throw error

/-- Saves rows one by one and answers those that were refused. -/
def saveSingly (writer : RowWriter σ) (table : Table) : List Row → Action σ Error (List Row)
  | [] => return []
  | row :: rest => do
    if ← accepted (writer.saveOne table row) then writer.saveSingly table rest
    else return row :: (← writer.saveSingly table rest)

/-- Saves rows, some of which may refer to rows that are not there yet, in a number of cycles and
answers those that were refused in the last one. A batch that is refused is saved row by row; the
rows still refused are tried again as a batch, since what they refer to may be there by then. -/
def saveCycles (writer : RowWriter σ) (table : Table) : Nat → List Row → Action σ Error (List Row)
  | 0, pending => return pending
  | cycles + 1, pending => do
    if ← accepted (writer.saveBatch table pending) then return []
    match ← writer.saveSingly table pending with
    | [] => return []
    | refused => writer.saveCycles table cycles refused

/-- Saves rows in at least one cycle. The conflict it may end with names the keys of the rows that
were refused to the last. -/
def saveWithDegradation (writer : RowWriter σ) (table : Table) (rows : List Row)
    (maxRetries : Nat) : Action σ Error Unit := do
  if rows.isEmpty then return
  let refused ← writer.saveCycles table (max maxRetries 1) rows
  if !refused.isEmpty then throw (.conflict (refused.filterMap table.key?))

end RowWriter

end AgentSync
