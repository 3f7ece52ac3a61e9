import AgentSync.Queue.Consumer
import AgentSync.Sync.Push
import AgentSync.Table.Named

namespace AgentSync.PushQueue

/-- What is to be done with the row an event names: one that was created or changed is pushed as it
is now, of a deleted one only the key is sent. -/
inductive Work where
  | upsert
  | delete
  deriving DecidableEq, Repr, Inhabited

namespace Work

/-- The name of the events that ask for the work. -/
def eventName : Work → String
  | upsert => "push_queue.create"
  | delete => "push_queue.delete"

/-- All work, in the order in which it is done. -/
def all : List Work := [upsert, delete]

def ofEventName? (name : String) : Option Work := all.find? (·.eventName == name)

end Work

/-- The names of the events that are handled. -/
def eventNames : List String := Work.all.map Work.eventName

/-- The name under which the handler is known. -/
def handlerName : String := "push_queue"

/-- Work on the rows of one table, done in one request. -/
structure Group where
  work : Work
  table : Table
  deriving DecidableEq, Repr, Inhabited

/-- All groups, in the order in which their work is done. -/
def Group.all : List Group := Work.all.flatMap fun work => Table.all.map fun table => ⟨work, table⟩

/-- The table an event names, or the text that says why there is none. -/
def tableOf (event : Event) : Except String Table :=
  match event.property? "table" with
  | none => .error "missing table property"
  | some name => (Table.named name).mapError Error.message

/-- Whether a key names a row well enough for the work. A row to be deleted is known by its key
alone, so the key must have all parts. -/
def keyFits (work : Work) (table : Table) (key : String) : Bool :=
  match work with
  | .upsert => true
  | .delete => (table.keyRow? key).isSome

/-- The group an event belongs to, or the text that says why there is none. -/
def groupOf (event : Event) : Except String Group :=
  match Work.ofEventName? event.name with
  | none => .error ("unexpected event " ++ event.name)
  | some work =>
    match tableOf event with
    | .error reason => .error reason
    | .ok table =>
      if (event.property? "id").any (keyFits work table) then .ok ⟨work, table⟩
      else .error "missing or malformed id property"

/-- The event as failed, if it belongs to no group. -/
def refused? (event : Event) : Option FailedEvent :=
  match groupOf event with
  | .ok _ => none
  | .error reason => some ⟨event, reason⟩

/-- The events of one group, in their order. -/
def members (events : List Event) (group : Group) : List Event :=
  events.filter fun event => (groupOf event).toOption == some group

/-- The keys that events name, each once, in increasing order. -/
def keysOf (events : List Event) : List String :=
  (Dict.ofList (events.filterMap fun event => (event.property? "id").map (·, ()))).keys

variable {ω : Type}

/-- Pushes the rows with given keys as they are now. Rows that the hub refuses for now are flagged
for another push, which is no failure. -/
def upsert (source : LocalSource ω) (hub : HubApi ω) (scope : Scope) (table : Table)
    (keys : List String) : Action (World ω) Error Unit := do
  let rows ← source.rowsByKeys table keys
  match ← Action.attempt (pushRows source hub scope table rows) with
  | .ok _ => return ()
  | .error error => if error.isConflict then return () else throw error

/-- Sends the keys of deleted rows. -/
def delete (hub : HubApi ω) (scope : Scope) (table : Table) (keys : List String) :
    Action (World ω) Error Unit :=
  let bundle := (Bundle.new hub.agentName).addRows table (keys.filterMap table.keyRow?)
  Action.mapFailure HubError.toError (hub.delete scope bundle)

/-- Does the work of a group and answers its events as failed if the work failed. -/
def handleGroup (source : LocalSource ω) (hub : HubApi ω) (scope : Scope) (group : Group)
    (events : List Event) : StateM (World ω) (List FailedEvent) := do
  let keys := keysOf events
  let work :=
    match group.work with
    | .upsert => upsert source hub scope group.table keys
    | .delete => delete hub scope group.table keys
  match ← work.run with
  | .ok () => return []
  | .error error => return events.map (⟨·, error.message⟩)

/-- Does the work of groups in turn, passing over those without events. -/
def handleGroups (source : LocalSource ω) (hub : HubApi ω) (scope : Scope) (events : List Event) :
    List Group → StateM (World ω) (List FailedEvent)
  | [] => return []
  | group :: rest => do
    let chosen := members events group
    let failed ← if chosen.isEmpty then pure [] else handleGroup source hub scope group chosen
    let others ← handleGroups source hub scope events rest
    return failed ++ others

/-- Handles a batch of events and answers those that failed: first those that belong to no group,
then those of groups whose work failed. -/
def handleBatch (source : LocalSource ω) (hub : HubApi ω) (scope : Scope) (events : List Event) :
    StateM (World ω) (List FailedEvent) := do
  let failed ← handleGroups source hub scope events Group.all
  return events.filterMap refused? ++ failed

/-- The handler of batches of events about rows. -/
def handler (source : LocalSource ω) (hub : HubApi ω) : BatchHandler ω where
  name := handlerName
  handle := handleBatch source hub

end AgentSync.PushQueue
