import AgentSync.Queue.Drain

namespace AgentSync

/-- How many workers there are and how long they wait. -/
structure ConsumerSettings where
  numConsumers : Nat
  notifyTimeout : Duration
  deriving DecidableEq, Repr

namespace ConsumerSettings

/-- One worker, which waits a minute. -/
instance : Inhabited ConsumerSettings :=
  ⟨⟨Defaults.numConsumers, .ofSeconds Defaults.notifyTimeoutSeconds⟩⟩

/-- Sets the number of workers, at least one. -/
def withNumConsumers (settings : ConsumerSettings) (n : Nat) : ConsumerSettings :=
  { settings with numConsumers := max n 1 }

def withNotifyTimeout (settings : ConsumerSettings) (timeout : Duration) : ConsumerSettings :=
  { settings with notifyTimeout := timeout }

end ConsumerSettings

/-- How a worker stands. -/
inductive WorkerState where
  /-- About to drain the queue. -/
  | ready
  /-- Pausing after a failure. -/
  | pausing (time : Instant)
  /-- Waiting to be notified; of several workers the one with the lowest turn is. -/
  | waiting (turn : Nat) (deadline : Instant)
  | stopped
  deriving DecidableEq, Repr, Inhabited

namespace WorkerState

/-- Whether a worker would run at a time. -/
def isDue (now : Instant) : WorkerState → Bool
  | ready => true
  | pausing time => decide (time ≤ now)
  | waiting _ deadline => decide (deadline ≤ now)
  | stopped => false

/-- The time at which a worker runs by itself. -/
def wakeTime? : WorkerState → Option Instant
  | pausing time => some time
  | waiting _ deadline => some deadline
  | _ => none

/-- The turn of a waiting worker. -/
def turn? : WorkerState → Option Nat
  | waiting turn _ => some turn
  | _ => none

end WorkerState

/-- A pool of workers of one consumer. A worker with nothing left to do waits to be notified, and
looks again by itself after some time. A notification that finds no worker waiting is kept for the
next that would wait. -/
structure Workers where
  scope : Scope
  timeout : Duration
  workers : List WorkerState
  notified : Bool
  nextTurn : Nat
  deriving Inhabited

namespace Workers

/-- Workers that have not run yet. -/
def start (settings : ConsumerSettings) (scope : Scope) : Workers where
  scope
  timeout := settings.notifyTimeout
  workers := List.replicate settings.numConsumers .ready
  notified := false
  nextTurn := 0

/-- The least number of a list. -/
def least? : List Nat → Option Nat
  | [] => none
  | n :: rest => some (rest.foldl min n)

/-- Wakes the worker that has waited longest, or keeps the notification. -/
def notifyOne (pool : Workers) : Workers :=
  match least? (pool.workers.filterMap WorkerState.turn?) with
  | none => { pool with notified := true }
  | some turn =>
    { pool with workers := pool.workers.map fun worker =>
        if worker.turn? = some turn then .ready else worker }

def setWorker (pool : Workers) (index : Nat) (worker : WorkerState) : Workers :=
  { pool with workers := pool.workers.set index worker }

/-- A worker that found nothing left stops if the work is cancelled, drains again if a notification
was kept, and waits otherwise. -/
def settle (pool : Workers) (index : Nat) (isCancelled : Bool) (now : Instant) : Workers :=
  if isCancelled then pool.setWorker index .stopped
  else if pool.notified then { pool.setWorker index .ready with notified := false }
  else
    { pool.setWorker index (.waiting pool.nextTurn (now.advance pool.timeout)) with
      nextTurn := pool.nextTurn + 1 }

variable {ω : Type}

/-- Calls the consumer for one worker until it is finished or must pause. Each call is one round. -/
def runWorker (consume : Action (World ω) Error Nat) (index : Nat) :
    Nat → Workers → World ω → Option (Workers × World ω)
  | 0, _, _ => none
  | rounds + 1, pool, world =>
    let isCancelled (world : World ω) : Bool := world.scopes.isCancelled pool.scope
    match (Consumer.step ⟨isCancelled, consume⟩).run world with
    | (.consumed _, world) => runWorker consume index rounds pool world
    | (.finished, world) => some (pool.settle index (isCancelled world) world.now, world)
    | (.failed _, world) =>
      if isCancelled world then some (pool.setWorker index .stopped, world)
      else some (pool.setWorker index (.pausing (world.now.advance errorDelay)), world)

/-- Lets workers run one after another until none is due. Each of their turns is one round. -/
def runDue (consume : Action (World ω) Error Nat) (calls : Nat) :
    Nat → Workers → World ω → Option (Workers × World ω)
  | 0, _, _ => none
  | rounds + 1, pool, world =>
    match pool.workers.findIdx? (·.isDue world.now) with
    | none => some (pool, world)
    | some index => do
      let (pool, world) ← runWorker consume index calls pool world
      runDue consume calls rounds pool world

/-- The earlier of two times. -/
def earlier (a b : Instant) : Instant := if b < a then b else a

/-- The time at which a worker of the pool runs by itself next. -/
def nextWake? (pool : Workers) : Option Instant :=
  match pool.workers.filterMap WorkerState.wakeTime? with
  | [] => none
  | time :: rest => some (rest.foldl earlier time)

/-- Lets workers run and time pass up to `time`. What falls due just then is left for later. -/
def runUntil (consume : Action (World ω) Error Nat) (calls : Nat) (time : Instant) :
    Nat → Workers → World ω → Option (Workers × World ω)
  | 0, _, _ => none
  | rounds + 1, pool, world => do
    let (pool, world) ← runDue consume calls calls pool world
    match pool.nextWake? with
    | some wake =>
      if wake < time then runUntil consume calls time rounds pool { world with now := wake }
      else return (pool, { world with now := time })
    | none => return (pool, { world with now := time })

/-- Lets workers run for some time. `rounds` bounds the calls, turns and times that are tried. -/
def sleep (pool : Workers) (consume : Action (World ω) Error Nat) (length : Duration)
    (rounds : Nat) (world : World ω) : Option (Workers × World ω) :=
  if length.nanos = 0 then some (pool, world)
  else runUntil consume rounds (world.now.advance length) rounds pool world

/-- Cancels the workers' scope and waits for them to stop. A worker that looks at the scope before
it calls the consumer makes no further call. -/
def shutdown (pool : Workers) (world : World ω) : Workers × World ω :=
  ({ pool with workers := pool.workers.map fun _ => .stopped },
    { world with scopes := world.scopes.cancel pool.scope })

end Workers

end AgentSync
