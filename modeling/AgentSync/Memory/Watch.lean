import AgentSync.Memory.Sides
import AgentSync.Sync.Reconciler

namespace AgentSync

/-- What a call answers. -/
abbrev SideCall.Answer : SideCall → Type
  | digest _ | status _ => PageDigest
  | rowsInWindow _ | rowsByKeys _ _ | unpushedRows _ _ => List Row
  | markPushed _ _ | markUnpushed _ _ => Nat
  | syncAfterCursor _ _ => String
  | push _ | delete _ => Unit
  | pullIds _ => List String

namespace SideCall

/-- The page whose digest the agent's side is asked for. -/
def digestRequest? : SideCall → Option PageRequest
  | digest request => some request
  | _ => none

/-- The page whose digest the hub is asked for. -/
def statusRequest? : SideCall → Option PageRequest
  | status request => some request
  | _ => none

end SideCall

/-- A call to one of the two sides with what it came to. -/
structure AnsweredCall where
  call : SideCall
  answer : Except Error call.Answer

/-- Whether the call failed because it was cancelled. -/
def AnsweredCall.isCancelled (answered : AnsweredCall) : Bool :=
  match answered.answer with
  | .error .cancelled => true
  | _ => false

/-- A state beside the calls that were made. -/
abbrev Watched (ω : Type) := Beside (List AnsweredCall) ω

variable {ω ε : Type}

namespace World

/-- The calls that were made. -/
def calls (world : World (Watched ω)) : List AnsweredCall := world.inner.own

/-- The world without the calls. -/
def unwatched (world : World (Watched ω)) : World ω := { world with inner := world.inner.rest }

/-- A world in which no call was made yet. -/
def watched (world : World ω) : World (Watched ω) := { world with inner := ⟨[], world.inner⟩ }

/-- Makes a call and writes down what it came to. -/
def watching (call : SideCall) (toError : ε → Error) (action : Action (World ω) ε call.Answer) :
    Action (World (Watched ω)) ε call.Answer :=
  ExceptT.mk fun world =>
    let (outcome, after) := action.run.run world.unwatched
    let answered : AnsweredCall := ⟨call, outcome.mapError toError⟩
    (outcome, { after with inner := ⟨world.calls ++ [answered], after.inner⟩ })

end World

/-- The agent's side with its calls written down. -/
def LocalSource.watched (source : LocalSource ω) : LocalSource (Watched ω) where
  digest request := World.watching (.digest request) id (source.digest request)
  rowsInWindow request := World.watching (.rowsInWindow request) id (source.rowsInWindow request)
  rowsByKeys table keys :=
    World.watching (.rowsByKeys table keys) id (source.rowsByKeys table keys)
  unpushedRows table limit :=
    World.watching (.unpushedRows table limit) id (source.unpushedRows table limit)
  markPushed table keys :=
    World.watching (.markPushed table keys) id (source.markPushed table keys)
  markUnpushed table keys :=
    World.watching (.markUnpushed table keys) id (source.markUnpushed table keys)
  syncAfterCursor table window :=
    World.watching (.syncAfterCursor table window) id (source.syncAfterCursor table window)

/-- The hub's side with its calls written down. -/
def HubApi.watched (hub : HubApi ω) : HubApi (Watched ω) where
  agentName := hub.agentName
  push scope bundle := World.watching (.push bundle) HubError.toError (hub.push scope bundle)
  delete scope bundle := World.watching (.delete bundle) HubError.toError (hub.delete scope bundle)
  status scope request :=
    World.watching (.status request) HubError.toError (hub.status scope request)
  pullIds scope request :=
    World.watching (.pullIds request) HubError.toError (hub.pullIds scope request)

/-- The reconciler with its calls written down. -/
def Reconciler.watched (reconciler : Reconciler ω) : Reconciler (Watched ω) :=
  ⟨reconciler.source.watched, reconciler.hub.watched, reconciler.pageSize⟩

@[simp] theorem Reconciler.watched_pageSize (reconciler : Reconciler ω) :
    reconciler.watched.pageSize = reconciler.pageSize := rfl

end AgentSync
