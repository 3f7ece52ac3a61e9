import AgentSync.Defaults
import AgentSync.Ring.History
import AgentSync.Sync.Push

namespace AgentSync

/-- Reconciles an agent's rows with the hub, in pages of some size. -/
structure Reconciler (ω : Type) where
  source : LocalSource ω
  hub : HubApi ω
  pageSize : Int

namespace Reconciler

variable {ω : Type}

/-- Pages of five hundred rows. -/
def new (source : LocalSource ω) (hub : HubApi ω) : Reconciler ω :=
  ⟨source, hub, Defaults.reconcilePageSize⟩

/-- Sets the size of a page, at least one row. -/
def withPageSize (reconciler : Reconciler ω) (size : Int) : Reconciler ω :=
  { reconciler with pageSize := max size 1 }

/-- What is pushed of a page whose digests differ: the rows that the hub lacks, or the whole page if
it lacks none. -/
def toPush (table : Table) (rows : List Row) (remoteIds : List String) : List Row :=
  let missing := rows.filter fun row => (table.key? row).any fun key => !remoteIds.contains key
  if missing.isEmpty then rows else missing

/-- Compares a page with the hub's and pushes rows if they differ. Answers the number of rows
pushed. -/
def reconcilePage (reconciler : Reconciler ω) (scope : Scope) (table : Table)
    (request : PageRequest) (digest : PageDigest) : Action (World ω) Error Nat := do
  let remote ← Action.mapFailure HubError.toError (reconciler.hub.status scope request)
  if remote.hash = digest.hash then
    World.count (.pagesSkipped table.name) 1
    return 0
  let remoteIds ← Action.mapFailure HubError.toError (reconciler.hub.pullIds scope request)
  let rows ← reconciler.source.rowsInWindow request
  pushRows reconciler.source reconciler.hub scope table (toPush table rows remoteIds)

/-- The text that reports a page that failed. -/
def pageFailure (table : Table) (start : String) (error : Error) : String :=
  table.name ++ " page after '" ++ start ++ "': " ++ error.message

/-- The rows pushed and the pages that failed so far. -/
structure Progress where
  pushed : Nat
  errors : List String
  deriving DecidableEq, Repr, Inhabited

namespace Progress

def none : Progress := ⟨0, []⟩

/-- The number of rows pushed, or what failed. -/
def result (progress : Progress) : Except Error Nat :=
  if progress.errors.isEmpty then .ok progress.pushed else .error (.reconcile progress.errors)

/-- The progress after one more page; a cancellation is no progress. -/
def afterPage (progress : Progress) (table : Table) (start : String) :
    Except Error Nat → Except Error Progress
  | .ok n => .ok { progress with pushed := progress.pushed + n }
  | .error .cancelled => .error .cancelled
  | .error error =>
    .ok { progress with errors := progress.errors ++ [pageFailure table start error] }

end Progress

/-- Goes over the pages of a table from a key on. Pages with equal digests are passed over. A page
that fails does not keep the next from being processed. The last page is one that is not full or
does not end after its start. -/
def sweepPages (reconciler : Reconciler ω) (scope : Scope) (table : Table) :
    Nat → String → Progress → Bounded (World ω) Error Nat
  | 0, _, _ => Bounded.outOfRounds
  | rounds + 1, cursor, progress => do
    let request := PageRequest.ofTable table cursor reconciler.pageSize
    let digest ← Bounded.ofAction (reconciler.source.digest request)
    if digest.total = 0 then Bounded.ofExcept progress.result
    else
      let page ← Bounded.ofAction
        (Action.attempt (reconciler.reconcilePage scope table request digest))
      let progress ← Bounded.ofExcept (progress.afterPage table cursor page)
      if digest.total < reconciler.pageSize ∨ digest.next ≤ cursor then
        Bounded.ofExcept progress.result
      else reconciler.sweepPages scope table rounds digest.next progress

/-- Sweeps a table from a key on, in a scope of its own. -/
def sweep (reconciler : Reconciler ω) (rounds : Nat) (scope : Scope) (table : Table)
    (start : String) : Bounded (World ω) Error Nat := do
  let inner ← Bounded.ofAction (World.child scope)
  Bounded.ofAction (World.guard inner)
  reconciler.sweepPages inner table rounds start .none

/-- Sweeps a table from its start. Answers the number of rows pushed. -/
def sync (reconciler : Reconciler ω) (rounds : Nat) (scope : Scope) (table : Table) :
    Bounded (World ω) Error Nat :=
  reconciler.sweep rounds scope table ""

/-- Sweeps a table from the row that was changed last among those that have been quiet for some
time. -/
def syncAfter (reconciler : Reconciler ω) (rounds : Nat) (scope : Scope) (table : Table)
    (window : Duration) : Bounded (World ω) Error Nat := do
  let cursor ← Bounded.ofAction (reconciler.source.syncAfterCursor table window)
  reconciler.sweep rounds scope table cursor

/-- What a table that could not be swept without failures contributes to the report. -/
def tableFailures (table : Table) : Error → List String
  | .reconcile errors => errors
  | error => [table.name ++ ": " ++ error.message]

/-- The progress after one more table; a cancellation is no progress. -/
def Progress.afterTable (progress : Progress) (table : Table) :
    Except Error Nat → Except Error Progress
  | .ok n => .ok { progress with pushed := progress.pushed + n }
  | .error .cancelled => .error .cancelled
  | .error error =>
    .ok { progress with errors := progress.errors ++ tableFailures table error }

/-- The record of a sweep over a table, closed at a time. -/
def closeRecord (record : JobRecord) (table : Table) (result : Except Error Nat) (now : Instant) :
    JobRecord :=
  match result with
  | .ok _ => record.incrementSuccess.close now
  | .error error => ((tableFailures table error).foldl JobRecord.addError record).close now

/-- Sweeps tables one after another and records each sweep. Only a cancellation keeps the next
table from being swept. -/
def syncTables (reconciler : Reconciler ω) (rounds : Nat) (scope : Scope) :
    List Table → Progress → Bounded (Beside (Option History) (World ω)) Error Nat
  | [], progress => Bounded.ofExcept progress.result
  | table :: rest, progress => do
    let record ← Bounded.ofAction (Beside.action do
      let id ← World.freshId
      let started ← World.clock
      return JobRecord.start id "reconcile" "table" table.name started)
    let result ← Bounded.attempt (Beside.bounded (reconciler.sync rounds scope table))
    let progress ← Bounded.ofExcept (progress.afterTable table result)
    let ended ← Bounded.ofAction (Beside.action World.clock)
    Bounded.ofAction (Action.update fun state =>
      { state with own := state.own.map (·.add (closeRecord record table result ended)) })
    reconciler.syncTables rounds scope rest progress

/-- Sweeps every table that can be compared, a parent before its children, and records each sweep
in the history if there is one. -/
def syncAll (reconciler : Reconciler ω) (rounds : Nat) (scope : Scope) :
    Bounded (Beside (Option History) (World ω)) Error Nat :=
  reconciler.syncTables rounds scope Table.reconcilable .none

/-- Pushes the rows of a table that the hub does not have, some at a time, until there are none or
the hub refuses some. -/
def pushUnpushed (reconciler : Reconciler ω) (scope : Scope) (table : Table) (batch : Int) :
    Nat → Nat → Bounded (World ω) Error Nat
  | 0, _ => Bounded.outOfRounds
  | rounds + 1, total => do
    let limit := max batch 1
    Bounded.ofAction (World.guard scope)
    let rows ← Bounded.ofAction (reconciler.source.unpushedRows table limit)
    if rows.isEmpty then return total
    match ← Bounded.ofAction
      (Action.attempt (pushRows reconciler.source reconciler.hub scope table rows)) with
    | .ok 0 => return total
    | .ok n =>
      if (rows.length : Int) < limit then return total + n
      else reconciler.pushUnpushed scope table batch rounds (total + n)
    | .error error => if error.isConflict then return total else throw error

/-- Pushes the rows of several tables that the hub does not have. -/
def pushTables (reconciler : Reconciler ω) (rounds : Nat) (scope : Scope) :
    List Table → Bounded (World ω) Error Nat
  | [] => return 0
  | table :: rest => do
    let pushed ← reconciler.pushUnpushed scope table Defaults.pushUnpushedBatchSize rounds 0
    let others ← reconciler.pushTables rounds scope rest
    return pushed + others

/-- Pushes the rows of every table that the hub does not have, a parent before its children. -/
def pushAllUnpushed (reconciler : Reconciler ω) (rounds : Nat) (scope : Scope) :
    Bounded (World ω) Error Nat :=
  reconciler.pushTables rounds scope Table.all

end Reconciler

end AgentSync
