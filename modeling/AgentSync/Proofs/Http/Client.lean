import AgentSync.Http.Client
import AgentSync.Proofs.World

namespace AgentSync.HubClient

open AgentSync.Action

/-- A call does what its body does, unless its scope is cancelled. It counts how it ended. -/
theorem runFrom_call {ω α : Type} (client : HubClient ω) (scope : Scope) (method : String)
    (body : Action (World ω) HubError α) (world : World ω) :
    ∃ metrics, runFrom (client.call scope method body) world =
      if world.scopes.isCancelled scope then (.error .cancelled, { world with metrics })
      else ((runFrom body world).1, { (runFrom body world).2 with metrics }) := by
  have hstart : runFrom (World.isCancelled scope : Action (World ω) HubError Bool) world =
      (.ok (world.scopes.isCancelled scope), world) := rfl
  rw [call, runFrom_bind, runFrom_attempt, runFrom_bind_of_ok hstart]
  cases world.scopes.isCancelled scope with
  | true => exact ⟨_, rfl⟩
  | false => exact ⟨_, rfl⟩

/-- A response without success is a failure. -/
theorem runFrom_sendChecked {ω : Type} (client : HubClient ω) {scope : Scope} {request : Request}
    {world after : World ω} {response : Response}
    (hsend : runFrom (client.transport.send scope request) world = (.ok response, after)) :
    runFrom (client.sendChecked scope request) world =
      (if response.isSuccess then .ok response
        else .error (.ofResponse response.status response.body), after) := by
  rw [sendChecked, runFrom_bind_of_ok hsend]
  split
  · rfl
  · rfl

/-- A bundle whose scope is cancelled is not sent. -/
theorem runFrom_sendBundle_of_cancelled {ω : Type} (client : HubClient ω) {scope : Scope}
    (label : String) (method : Method) {bundle : Bundle} (hbundle : bundle.isEmpty = false)
    {world : World ω} (hcancelled : world.scopes.isCancelled scope = true) :
    ∃ metrics, runFrom (client.sendBundle scope label method bundle) world =
      (.error .cancelled, { world with metrics }) := by
  rw [sendBundle, hbundle, if_neg Bool.false_ne_true]
  obtain ⟨metrics, hcall⟩ := client.runFrom_call scope label _ world
  rw [if_pos hcancelled] at hcall
  exact ⟨metrics, hcall⟩

/-- A bundle with rows is sent in one request, and the response decides how that ends. -/
theorem runFrom_sendBundle {ω : Type} (client : HubClient ω) {scope : Scope} (label : String)
    {method : Method} {bundle : Bundle} (hbundle : bundle.isEmpty = false) {world after : World ω}
    (hlive : world.scopes.isCancelled scope = false) {response : Response}
    (hsend : runFrom (client.transport.send scope (client.bundleRequest method bundle)) world =
      (.ok response, after)) :
    ∃ metrics, runFrom (client.sendBundle scope label method bundle) world =
      (if response.isSuccess then .ok ()
        else .error (.ofResponse response.status response.body), { after with metrics }) := by
  rw [sendBundle, hbundle, if_neg Bool.false_ne_true]
  obtain ⟨metrics, hcall⟩ := client.runFrom_call scope label (do
    let _ ← client.sendChecked scope (client.bundleRequest method bundle)) world
  refine ⟨metrics, hcall.trans ?_⟩
  rw [hlive, if_neg Bool.false_ne_true, runFrom_bind, client.runFrom_sendChecked hsend]
  cases response.isSuccess with
  | true => rfl
  | false => rfl

end AgentSync.HubClient
