import AgentSync.Http.Client
import AgentSync.Hub.Server

namespace AgentSync

/-- A statement with the answer it got. -/
structure Sent where
  command : Command
  answer : Except DatabaseError Answer

namespace Sent

/-- The rows of a table that a statement saved. -/
def accepted (table : Table) : Sent → List Row
  | ⟨.upsert other _ rows, .ok _⟩ => if other = table then rows else []
  | _ => []

end Sent

/-- The rows of a table that statements saved, one after another. -/
def acceptedRows (table : Table) (sent : List Sent) : List Row := sent.flatMap (Sent.accepted table)

/-- The database with its statements and answers written down beside it. -/
def Database.recorded {ω : Type} (db : Database ω) : Database (Beside (List Sent) ω) where
  send command := fun state =>
    let (answer, rest) := (db.send command).run state.rest
    (answer, ⟨state.own ++ [⟨command, answer⟩], rest⟩)

/-- A call that changes the flags of an agent's rows. -/
inductive FlagCall where
  | pushed (table : Table) (keys : List String)
  | unpushed (table : Table) (keys : List String)
  deriving DecidableEq, Repr, Inhabited

/-- An agent and a hub with a network between them that delivers requests and responses as they are.
The calls that change flags, the requests with their responses and the statements of the hub's
database with their answers are written down. -/
structure Link (α ω : Type) where
  agent : α
  flags : List FlagCall
  exchanges : List (Request × Response)
  hub : HubState (Beside (List Sent) ω)

namespace Link

variable {α ω : Type}

/-- The rows of a table that the hub's database has accepted. -/
def accepted (link : Link α ω) (table : Table) : List Row :=
  acceptedRows table link.hub.rest.own

/-- Puts an agent beside a hub. Nothing was written down yet. -/
def join (agent : World α) (hub : HubState ω) : World (Link α ω) :=
  { now := agent.now
    serial := agent.serial
    scopes := agent.scopes
    metrics := agent.metrics
    inner := ⟨agent.inner, [], [], ⟨hub.own, ⟨[], hub.rest⟩⟩⟩ }

/-- Runs an action on the agent alone. -/
def onAgent {ε β : Type} (action : Action (World α) ε β) : Action (World (Link α ω)) ε β :=
  ExceptT.mk fun world =>
    let (answer, after) := action.run.run
      ⟨world.now, world.serial, world.scopes, world.metrics, world.inner.agent⟩
    (answer, ⟨after.now, after.serial, after.scopes, after.metrics,
      { world.inner with agent := after.inner }⟩)

/-- Writes a call down. -/
def note {ε : Type} (call : FlagCall) : Action (World (Link α ω)) ε Unit :=
  World.inside (Action.update fun link => { link with flags := link.flags ++ [call] })

/-- The agent's rows. -/
def source (source : LocalSource α) : LocalSource (Link α ω) where
  digest request := onAgent (source.digest request)
  rowsInWindow request := onAgent (source.rowsInWindow request)
  rowsByKeys table keys := onAgent (source.rowsByKeys table keys)
  unpushedRows table limit := onAgent (source.unpushedRows table limit)
  markPushed table keys := do
    note (.pushed table keys)
    onAgent (source.markPushed table keys)
  markUnpushed table keys := do
    note (.unpushed table keys)
    onAgent (source.markUnpushed table keys)
  syncAfterCursor table window := onAgent (source.syncAfterCursor table window)

/-- The server of the hub over its database. -/
def server (db : Database ω) (maxRetries : Nat) : HubServer (Beside (List Sent) ω) :=
  ⟨⟨db.recorded, maxRetries⟩⟩

/-- The network between the two. -/
def transport (server : HubServer (Beside (List Sent) ω)) : Transport (Link α ω) where
  send _ request := World.inside (ExceptT.mk fun link =>
    let (response, hub) := (server.handle request).run link.hub
    (.ok response, { link with hub, exchanges := link.exchanges ++ [(request, response)] }))

/-- The agent's client of the hub. -/
def client (settings : HubSettings) (base : Url) (db : Database ω) (maxRetries : Nat) :
    HubClient (Link α ω) :=
  ⟨settings, base, transport (server db maxRetries)⟩

end Link

end AgentSync
