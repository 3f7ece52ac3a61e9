import AgentSync.Store.Database
import AgentSync.Table.Named

namespace AgentSync

namespace Database

variable {ω : Type}

/-- The digest of a page of one owner's rows. -/
def pageDigest (db : Database ω) (table : Table) (owner : Uuid) (request : PageRequest) :
    Action ω Error PageDigest := do
  Action.ofExcept table.requireReconcilable
  db.queryOne (.pageDigest table owner request.start (max request.size 1)) Json.pageDigest?

/-- The keys of the rows of a page. -/
def pageIds (db : Database ω) (table : Table) (owner : Uuid) (request : PageRequest) :
    Action ω Error (List String) := do
  Action.ofExcept table.requireReconcilable
  db.queryAll (.pageIds table owner request.start (max request.size 1)) Json.string?

end Database

/-- An agent's own rows in its database. Both sides of a sync speak of the same pages of them: the
rows of one owner in the order of their keys, from a key on. -/
structure RowStore (ω : Type) where
  db : Database ω
  owner : Uuid

namespace RowStore

variable {ω : Type}

/-- The rows an agent owns itself carry the nil identifier. -/
def new (db : Database ω) : RowStore ω := ⟨db, .nil⟩

def withOwner (store : RowStore ω) (owner : Uuid) : RowStore ω := { store with owner }

def digest (store : RowStore ω) (request : PageRequest) : Action ω Error PageDigest := do
  let table ← Action.ofExcept (Table.named request.table)
  store.db.pageDigest table store.owner request

/-- The rows of the page that `digest` compares. -/
def rowsInWindow (store : RowStore ω) (request : PageRequest) : Action ω Error (List Row) := do
  let table ← Action.ofExcept (Table.named request.table)
  Action.ofExcept table.requireReconcilable
  store.db.queryAll (.pageRows table store.owner request.start (max request.size 1)) Json.toRow?

/-- The oldest rows that the hub does not have yet. -/
def unpushedRows (store : RowStore ω) (table : Table) (limit : Int) : Action ω Error (List Row) :=
  store.db.queryAll (.unpushedRows table store.owner (max limit 1)) Json.toRow?

def rowsByKeys (store : RowStore ω) (table : Table) (keys : List String) :
    Action ω Error (List Row) :=
  if keys.isEmpty then return [] else store.db.queryAll (.rowsByKeys table keys) Json.toRow?

def countUnpushed (store : RowStore ω) (table : Table) : Action ω Error Int :=
  store.db.queryOne (.countUnpushed table) Json.int?

/-- Notes that the hub has rows. -/
def markPushed (store : RowStore ω) (table : Table) (keys : List String) : Action ω Error Nat :=
  if keys.isEmpty then return 0 else store.db.execute (.markPushed table keys)

/-- Flags rows, and the rows they name as parents, for another push. -/
def markUnpushed (store : RowStore ω) (table : Table) (keys : List String) : Action ω Error Nat :=
  if keys.isEmpty then return 0
  else store.db.transaction do
    let rows ← store.db.execute (.markUnpushed table keys)
    match table.parentColumn with
    | none => return rows
    | some parent =>
      let parents ← store.db.execute (.markParentsUnpushed table parent keys)
      return rows + parents

/-- The key after which rows may have changed within a window of time. -/
def syncAfterCursor (store : RowStore ω) (table : Table) (window : Duration) :
    Action ω Error String := do
  Action.ofExcept table.requireReconcilable
  let cursor ← store.db.queryFirst? (.quietCursor table store.owner window) Json.string?
  return cursor.getD ""

end RowStore

end AgentSync
