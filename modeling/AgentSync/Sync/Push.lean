import AgentSync.Bundle
import AgentSync.Page
import AgentSync.World

namespace AgentSync

/-- The agent's own rows, as a sync needs them. -/
structure LocalSource (ω : Type) where
  digest : PageRequest → Action (World ω) Error PageDigest
  rowsInWindow : PageRequest → Action (World ω) Error (List Row)
  rowsByKeys : Table → List String → Action (World ω) Error (List Row)
  unpushedRows : Table → Int → Action (World ω) Error (List Row)
  markPushed : Table → List String → Action (World ω) Error Nat
  /-- Flags rows, and their parents, for another push. -/
  markUnpushed : Table → List String → Action (World ω) Error Nat
  syncAfterCursor : Table → Duration → Action (World ω) Error String

/-- The hub, as a sync needs it. -/
structure HubApi (ω : Type) where
  agentName : String
  push : Scope → Bundle → Action (World ω) HubError Unit
  delete : Scope → Bundle → Action (World ω) HubError Unit
  status : Scope → PageRequest → Action (World ω) HubError PageDigest
  pullIds : Scope → PageRequest → Action (World ω) HubError (List String)

variable {ω : Type}

/-- Pushes rows of one table and flags them by the outcome. Of rows that the hub refused in part,
the refused ones are flagged for another push, the others as pushed, and the conflict is
reported. -/
def pushRows (source : LocalSource ω) (hub : HubApi ω) (scope : Scope) (table : Table)
    (rows : List Row) : Action (World ω) Error Nat := do
  if rows.isEmpty then return 0
  let bundle := (Bundle.new hub.agentName).addRows table rows
  let ids := bundle.ids table
  match ← Action.attempt (hub.push scope bundle) with
  | .ok () =>
    let _ ← source.markPushed table ids
    World.count (.rowsPushed table.name) ids.length
    return ids.length
  | .error (.missingParents refused) =>
    let _ ← source.markUnpushed table refused
    let saved := ids.filter fun id => !refused.contains id
    let _ ← source.markPushed table saved
    World.count (.rowsPushed table.name) saved.length
    throw (.conflict refused)
  | .error error => throw error.toError

end AgentSync
