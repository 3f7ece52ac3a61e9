import AgentSync.Defaults
import AgentSync.Store.Rows
import AgentSync.Sync.Degradation

namespace AgentSync

/-- The columns of tables that were asked for before. -/
abbrev ColumnCache := Table → Option (List String)

namespace ColumnCache

def empty : ColumnCache := fun _ => none

/-- Remembers the columns of a table. -/
def remember (cache : ColumnCache) (table : Table) (columns : List String) : ColumnCache :=
  fun other => if other = table then some columns else cache other

end ColumnCache

/-- The state of a hub: its database and the columns it remembers. -/
abbrev HubState (ω : Type) := Beside ColumnCache ω

/-- Stores the rows of agents in a database, with so many cycles for rows that are refused. -/
structure HubStore (ω : Type) where
  db : Database ω
  maxRetries : Nat

namespace HubStore

variable {ω : Type}

/-- Three cycles. -/
def new (db : Database ω) : HubStore ω := ⟨db, Defaults.conflictMaxRetries⟩

def withMaxRetries (store : HubStore ω) (n : Nat) : HubStore ω := { store with maxRetries := n }

/-- Forgets the columns of all tables. -/
def clearColumnCache : Action (HubState ω) Error Unit :=
  Action.update fun state => { state with own := .empty }

/-- The columns of a table, in the table's order. They are asked for until an answer names some,
which is remembered. -/
def columnsOf (store : HubStore ω) (table : Table) : Action (HubState ω) Error (List String) := do
  match (← Action.ask Beside.own) table with
  | some columns => return columns
  | none =>
    let columns ← Beside.action (store.db.queryAll (.columnsOf table) Json.string?)
    if columns.isEmpty then throw (.internal ("table " ++ table.name ++ " has no columns"))
    Action.update fun state => { state with own := state.own.remember table columns }
    return columns

/-- The column that an agent keeps for itself. -/
def flagColumn : String := "is_pushed"

/-- The columns of a table that some of the rows have, in the table's order. The agent's own
column is never among them. -/
def insertColumns (tableColumns : List String) (rows : List Row) : List String :=
  tableColumns.filter fun column => column ≠ flagColumn && rows.any (·.keys.contains column)

/-- Saves rows in one statement. -/
def saveBatch (store : HubStore ω) (table : Table) (rows : List Row) :
    Action (HubState ω) Error Unit := do
  if rows.isEmpty then return
  let tableColumns ← store.columnsOf table
  let columns := insertColumns tableColumns rows
  if columns.isEmpty then
    throw (.invalidInput ("rows for " ++ table.name ++ " share no columns with the table"))
  let _ ← Beside.action (store.db.run (.upsert table columns rows))

def saveOne (store : HubStore ω) (table : Table) (row : Row) : Action (HubState ω) Error Unit :=
  store.saveBatch table [row]

/-- The store as something that saves rows. -/
def writer (store : HubStore ω) : RowWriter (HubState ω) := ⟨store.saveBatch, store.saveOne⟩

/-- An agent is known by a name that is not empty. -/
def requireName (name : String) : Action ω Error Unit :=
  if name.isEmpty then throw (.invalidInput "agent name is required") else return ()

/-- The identifier of an agent, which is registered if it is new. -/
def registerAgent (store : HubStore ω) (name : String) : Action ω Error Uuid := do
  requireName name
  store.db.queryOne (.registerAgent name) Json.uuid?

/-- The identifier of an agent, which is registered if it is new and noted as seen now. -/
def touchAgent (store : HubStore ω) (name : String) : Action ω Error Uuid := do
  requireName name
  store.db.queryOne (.touchAgent name) Json.uuid?

/-- The identifier of an agent that is registered. -/
def findAgent (store : HubStore ω) (name : String) : Action ω Error Uuid := do
  match ← store.db.queryFirst? (.findAgent name) Json.uuid? with
  | some id => return id
  | none => throw (.notFound ("agent " ++ name))

/-- The rows saved and the keys of those refused so far. -/
structure Saved where
  count : Nat
  refused : List String
  deriving DecidableEq, Repr, Inhabited

namespace Saved

/-- The number of rows saved, or the conflict over those refused. -/
def result (saved : Saved) : Except Error Nat :=
  if saved.refused.isEmpty then .ok saved.count else .error (.conflict saved.refused)

/-- What is saved after a table of `count` rows; only a conflict lets the next table be tried. -/
def afterTable (saved : Saved) (count : Nat) : Except Error Unit → Except Error Saved
  | .ok () => .ok { saved with count := saved.count + count }
  | .error (.conflict ids) =>
    .ok { count := saved.count + (count - ids.length), refused := saved.refused ++ ids }
  | .error error => .error error

end Saved

/-- Saves the rows of tables in turn, each with its own cycles. -/
def saveTables (store : HubStore ω) :
    List (Table × List Row) → Saved → Action (HubState ω) Error Nat
  | [], saved => Action.ofExcept saved.result
  | (table, rows) :: rest, saved => do
    let result ← Action.attempt
      (store.writer.saveWithDegradation table rows store.maxRetries)
    let saved ← Action.ofExcept (saved.afterTable rows.length result)
    store.saveTables rest saved

/-- Saves the rows of a bundle as rows of its agent, a parent before its children. Answers their
number. -/
def insertBundle (store : HubStore ω) (bundle : Bundle) : Action (HubState ω) Error Nat := do
  let owner ← Beside.action (store.registerAgent bundle.agentName)
  store.saveTables (bundle.populateOwner owner).tables ⟨0, []⟩

/-- The statement that deletes the rows of a bundle in one table. -/
def deletion (table : Table) (owner : Uuid) (keys : List String) : Command :=
  if table.hasOwner then .deleteOwned table owner keys else .deleteRows table keys

/-- Deletes the rows of tables in turn and answers their number. -/
def deleteTables (store : HubStore ω) (owner : Uuid) (bundle : Bundle) :
    List Table → Action ω Error Nat
  | [] => return 0
  | table :: rest => do
    let keys := bundle.ids table
    let deleted ←
      if keys.isEmpty then pure 0 else store.db.execute (deletion table owner keys)
    let others ← store.deleteTables owner bundle rest
    return deleted + others

/-- Deletes the rows that a bundle names, children before their parents, all or none. Answers their
number. -/
def deleteBundle (store : HubStore ω) (bundle : Bundle) : Action ω Error Nat := do
  let owner ← store.findAgent bundle.agentName
  store.db.transaction (store.deleteTables owner bundle Table.all.reverse)

/-- The digest of a page of an agent's rows. -/
def pageDigest (store : HubStore ω) (agentName : String) (request : PageRequest) :
    Action ω Error PageDigest := do
  let table ← Action.ofExcept (Table.named request.table)
  let owner ← store.findAgent agentName
  store.db.pageDigest table owner request

/-- The keys of a page of an agent's rows. -/
def pageIds (store : HubStore ω) (agentName : String) (request : PageRequest) :
    Action ω Error (List String) := do
  let table ← Action.ofExcept (Table.named request.table)
  let owner ← store.findAgent agentName
  store.db.pageIds table owner request

end HubStore

end AgentSync
