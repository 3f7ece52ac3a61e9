import AgentSync.Store.Database

namespace AgentSync

/-- Which events are claimed, and how many at once. -/
structure Fetcher where
  watch : List String
  batchSize : Nat
  policy : RetryPolicy

namespace Fetcher

/-- A batch holds at least one event. -/
def atLeastOne (n : Nat) : Nat := if n = 0 then Defaults.eventBatchSize else n

/-- Claims one event at a time under the default policy. -/
def new (watch : List String) : Fetcher := ⟨watch, Defaults.eventBatchSize, default⟩

/-- Sets the size of a batch. -/
def withBatchSize (fetcher : Fetcher) (n : Nat) : Fetcher :=
  { fetcher with batchSize := atLeastOne n }

def withPolicy (fetcher : Fetcher) (policy : RetryPolicy) : Fetcher := { fetcher with policy }

end Fetcher

/-- The event queue in a database. -/
structure EventQueue (ω : Type) where
  db : Database ω

namespace EventQueue

variable {ω : Type}

/-- The order in which claimed events are handed out. -/
def inOrder (events : List Event) : List Event := events.mergeSort Event.claimedBefore

/-- Claims events inside the open transaction. All that the database answers are claimed, even
when they are more than a batch. -/
def claim (queue : EventQueue ω) (watch : List String) (batchSize : Nat) (policy : RetryPolicy) :
    Action ω Error (List Event) := do
  let limit := Word.wrap64 (Fetcher.atLeastOne batchSize)
  let events ← queue.db.queryAll (.claim watch policy limit) Json.event?
  return inOrder events

/-- Claims a batch inside the open transaction. -/
def fetch (queue : EventQueue ω) (fetcher : Fetcher) : Action ω Error (List Event) :=
  queue.claim fetcher.watch fetcher.batchSize fetcher.policy

/-- Puts events back inside the open transaction. -/
def requeue (queue : EventQueue ω) : List Event → Action ω Error Unit
  | [] => return ()
  | event :: rest => do
    let _ ← queue.db.run (.requeue event)
    queue.requeue rest

def enqueue (queue : EventQueue ω) (event : Event) : Action ω Error Uuid := do
  let _ ← queue.db.run (.enqueue event)
  return event.id

/-- Counts a failed attempt of an event that is in the queue. -/
def recordFailure (queue : EventQueue ω) (id : Uuid) (error : String) : Action ω Error Unit := do
  let _ ← queue.db.run (.recordFailure id error)

def get? (queue : EventQueue ω) (id : Uuid) : Action ω Error (Option Event) :=
  queue.db.queryFirst? (.findEvent id) Json.event?

def pendingCount (queue : EventQueue ω) (names : List String) : Action ω Error Int :=
  queue.db.queryOne (.countPending names) Json.int?

/-- The events that are never claimed again. -/
def exhausted (queue : EventQueue ω) (policy : RetryPolicy) (limit : Int) :
    Action ω Error (List Event) :=
  queue.db.queryAll (.exhausted policy.maxAttempts limit) Json.event?

end EventQueue

end AgentSync
