import AgentSync.Queue.Consumer

namespace AgentSync

/-- Something a consumer did: a statement it sent with what the database answered, or what its
handlers were given with what came of it. -/
inductive LogEntry where
  | sent (command : Command) (answer : Except DatabaseError Answer)
  /-- A handler, known by its place among the others, was given an event. -/
  | handled (index : Nat) (event : Event) (outcome : Except Error Unit)
  | handledBatch (events : List Event) (failed : List FailedEvent)

/-- A state beside what was written down. -/
abbrev Logged (ω : Type) := Beside (List LogEntry) ω

variable {ω : Type}

/-- The database with its statements and answers written down. -/
def Database.logged (db : Database ω) : Database (Logged ω) where
  send command := fun state =>
    let (answer, rest) := (db.send command).run state.rest
    (answer, ⟨state.own ++ [.sent command answer], rest⟩)

namespace World

/-- The world without what was written down. -/
def bare (world : World (Logged ω)) : World ω := { world with inner := world.inner.rest }

/-- A computation that writes down what it answers. -/
def logging {α : Type} (note : α → LogEntry) (computation : StateM (World ω) α) :
    StateM (World (Logged ω)) α := fun world =>
  let (answer, after) := computation.run world.bare
  (answer, { after with inner := ⟨world.inner.own ++ [note answer], after.inner⟩ })

end World

namespace Session

/-- What was written down in a session. -/
def log (session : Session (Logged ω)) : List LogEntry := session.rest.inner.own

/-- The session without what was written down. -/
def bare (session : Session (Logged ω)) : Session ω := ⟨session.own, session.rest.bare⟩

/-- A session in which nothing was written down yet. -/
def logged (session : Session ω) : Session (Logged ω) :=
  ⟨session.own, { session.rest with inner := ⟨[], session.rest.inner⟩ }⟩

end Session

/-- The handler at a place, with its calls written down. -/
def SyncHandler.logged (handler : SyncHandler ω) (index : Nat) : SyncHandler (Logged ω) where
  name := handler.name
  handle scope event :=
    ExceptT.mk (World.logging (.handled index event) (handler.handle scope event).run)

/-- The handler with its calls written down. -/
def BatchHandler.logged (handler : BatchHandler ω) : BatchHandler (Logged ω) where
  name := handler.name
  handle scope events := World.logging (.handledBatch events) (handler.handle scope events)

/-- The consumer with what it does written down. -/
def SyncConsumer.logged (consumer : SyncConsumer ω) : SyncConsumer (Logged ω) where
  db := consumer.db.logged
  fetcher := consumer.fetcher
  handlers := consumer.handlers.mapIdx fun index handler => handler.logged index

/-- The consumer with what it does written down. -/
def BatchConsumer.logged (consumer : BatchConsumer ω) : BatchConsumer (Logged ω) where
  db := consumer.db.logged
  fetcher := consumer.fetcher
  handler := consumer.handler.logged

end AgentSync
