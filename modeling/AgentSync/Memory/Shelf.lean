import AgentSync.Sync.Degradation

namespace AgentSync

/-- A call to a writer: the keys of the rows it is to save. -/
structure SaveCall where
  isBatch : Bool
  keys : List (Option String)
  deriving DecidableEq, Repr, Inhabited

/-- A writer that keeps the keys of the rows it accepted in memory. The first calls may have given
outcomes. -/
structure Shelf where
  script : List (Except Error Unit)
  broken : List String
  saved : List String
  calls : List SaveCall

namespace Shelf

/-- The row that a row names as its parent. -/
def parent? (row : Row) : Option String := (row.get? "parent_id").bind Json.string?

/-- Whether rows are refused: those with a key from a given set, and those whose parent is neither
there nor in the same batch. -/
def refuses (shelf : Shelf) (table : Table) (rows : List Row) (isBatch : Bool) : Bool :=
  let keys := rows.filterMap table.key?
  keys.any shelf.broken.contains ||
    rows.any fun row => (parent? row).any fun parent =>
      !shelf.saved.contains parent && !(isBatch && keys.contains parent)

/-- The outcome of a call, from the script while it lasts. -/
def outcome (shelf : Shelf) (table : Table) (rows : List Row) (isBatch : Bool) :
    Except Error Unit :=
  match shelf.script with
  | outcome :: _ => outcome
  | [] => if shelf.refuses table rows isBatch then .error (.conflict []) else .ok ()

/-- One call. The keys of accepted rows are kept. -/
def save (table : Table) (rows : List Row) (isBatch : Bool) : Action Shelf Error Unit := do
  let shelf ← Action.ask id
  let outcome := shelf.outcome table rows isBatch
  let accepted := if outcome.toOption.isSome then rows.filterMap table.key? else []
  Action.update fun shelf =>
    { shelf with
      script := shelf.script.drop 1
      saved := shelf.saved ++ accepted
      calls := shelf.calls ++ [⟨isBatch, rows.map table.key?⟩] }
  Action.ofExcept outcome

/-- The shelf as something that saves rows. -/
def writer : RowWriter Shelf where
  saveBatch table rows := save table rows true
  saveOne table row := save table [row] false

end Shelf

end AgentSync
