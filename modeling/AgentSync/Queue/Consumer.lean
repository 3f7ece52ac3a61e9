import AgentSync.Ring
import AgentSync.Store.Events
import AgentSync.World

namespace AgentSync

/-- The world of a consumer, beside the ring that shows the events it claimed last. -/
abbrev Session (ω : Type) := Beside (Option (Ring Event)) (World ω)

namespace Session

variable {ω ε α : Type}

/-- The database as seen from a session. -/
def database (db : Database ω) : Database (Session ω) :=
  ⟨fun command => Beside.onRest (World.onInner (db.send command))⟩

/-- Shows an event in the ring, if there is one. -/
def record (event : Event) : Action (Session ω) ε Unit :=
  Action.update fun session =>
    { session with own := session.own.map fun ring => (ring.add event).2 }

/-- Runs an action, unless the scope is cancelled. -/
def unlessCancelled (scope : Scope) (body : Action (Session ω) Error α) :
    Action (Session ω) Error α := do
  Beside.action (World.guard scope)
  body

end Session

/-- Handles one event inside the transaction that claimed it. What it writes is committed or given
up together with the removal of the event. -/
structure SyncHandler (ω : Type) where
  name : String
  handle : Scope → Event → Action (World ω) Error Unit

/-- Handles a batch of claimed events and answers those that failed; the others are done. -/
structure BatchHandler (ω : Type) where
  name : String
  handle : Scope → List Event → StateM (World ω) (List FailedEvent)

/-- Claims one event at a time, inside a transaction, and passes it to every handler. The commit
removes what was handled. -/
structure SyncConsumer (ω : Type) where
  db : Database ω
  fetcher : Fetcher
  handlers : List (SyncHandler ω)

namespace SyncConsumer

variable {ω : Type}

/-- A consumer without handlers. -/
def new (db : Database ω) (watch : List String) : SyncConsumer ω := ⟨db, .new watch, []⟩

def withPolicy (consumer : SyncConsumer ω) (policy : RetryPolicy) : SyncConsumer ω :=
  { consumer with fetcher := consumer.fetcher.withPolicy policy }

/-- Passes an event to handlers in turn, up to the first that fails. -/
def handleAll (scope : Scope) (event : Event) :
    List (SyncHandler ω) → Action (World ω) Error Unit
  | [] => return ()
  | handler :: rest => do
    handler.handle scope event
    handleAll scope event rest

/-- Claims an event and has it handled. If a handler fails the transaction is rolled back and the
failure is counted against the event. -/
def consumeOne (consumer : SyncConsumer ω) (scope : Scope) : Action (Session ω) Error Nat := do
  let db := Session.database consumer.db
  let queue : EventQueue (Session ω) := ⟨db⟩
  let _ ← db.run .begin
  match ← Action.attempt (queue.fetch consumer.fetcher) with
  | .error error =>
    db.abandon
    throw error
  | .ok [] =>
    db.finish .commit
    return 0
  | .ok (event :: _) =>
    Session.record event
    match ← Action.attempt (Beside.action (handleAll scope event consumer.handlers)) with
    | .ok () => db.finish .commit
    | .error error =>
      db.finish .rollback
      queue.recordFailure event.id error.message
    return 1

/-- Consumes an event, if there is one, and answers the number of events consumed. -/
def consume (consumer : SyncConsumer ω) (scope : Scope) : Action (Session ω) Error Nat :=
  Session.unlessCancelled scope (consumer.consumeOne scope)

end SyncConsumer

/-- Claims events in batches, inside a transaction, and passes each batch to one handler. -/
structure BatchConsumer (ω : Type) where
  db : Database ω
  fetcher : Fetcher
  handler : BatchHandler ω

namespace BatchConsumer

variable {ω : Type}

/-- A consumer with batches of the default size. -/
def new (db : Database ω) (watch : List String) (handler : BatchHandler ω) : BatchConsumer ω :=
  ⟨db, (Fetcher.new watch).withBatchSize Defaults.pushQueueBatchSize, handler⟩

def withBatchSize (consumer : BatchConsumer ω) (n : Nat) : BatchConsumer ω :=
  { consumer with fetcher := consumer.fetcher.withBatchSize n }

def withPolicy (consumer : BatchConsumer ω) (policy : RetryPolicy) : BatchConsumer ω :=
  { consumer with fetcher := consumer.fetcher.withPolicy policy }

/-- Failed events as they are put back: the failures of one batch share one time. -/
def retries (failed : List FailedEvent) (now : Instant) : List Event :=
  failed.map fun f => f.event.markFailed f.error now

/-- Shows events in the ring. -/
def recordAll : List Event → Action (Session ω) Error Unit
  | [] => return ()
  | event :: rest => do
    Session.record event
    recordAll rest

/-- Claims a batch, has it handled and puts the failed events back, all in one transaction. -/
def consumeBatch (consumer : BatchConsumer ω) (scope : Scope) : Action (Session ω) Error Nat :=
  let db := Session.database consumer.db
  let queue : EventQueue (Session ω) := ⟨db⟩
  db.transaction do
    let events ← queue.fetch consumer.fetcher
    if events.isEmpty then return 0
    recordAll events
    let failed ← Beside.action (ExceptT.lift (consumer.handler.handle scope events))
    if !failed.isEmpty then
      let now ← Beside.action World.clock
      queue.requeue (retries failed now)
    return events.length

/-- Consumes a batch and answers the number of events claimed. -/
def consume (consumer : BatchConsumer ω) (scope : Scope) : Action (Session ω) Error Nat :=
  Session.unlessCancelled scope (consumer.consumeBatch scope)

end BatchConsumer

end AgentSync
