import AgentSync.Bundle.Wire
import AgentSync.Http.Message
import AgentSync.Http.Url
import AgentSync.Settings.Hub
import AgentSync.Sync.Push

namespace AgentSync

/-- A way to send requests. A request that gets no response, or is cancelled before it does,
fails. -/
structure Transport (ω : Type) where
  send : Scope → Request → Action (World ω) HubError Response

/-- A client of the hub at a URL. -/
structure HubClient (ω : Type) where
  settings : HubSettings
  base : Url
  transport : Transport ω

namespace HubClient

variable {ω α : Type}

/-- The URL that settings name. It must be one whose path can be extended. -/
def baseOf (settings : HubSettings) : Except Error Url :=
  match Url.ofText? settings.host with
  | .error reason =>
    .error (.config ("invalid upstream host " ++ settings.host ++ ": " ++ reason.message))
  | .ok url =>
    if url.isOpaque then
      .error (.config ("upstream host " ++ settings.host ++ " cannot be used as a base URL"))
    else .ok url

/-- A client for the hub that settings name. -/
def new (settings : HubSettings) (transport : Transport ω) : Except Error (HubClient ω) := do
  let base ← baseOf settings
  return { settings, base, transport }

/-- The URL of a resource of the hub. -/
def endpoint (client : HubClient ω) (segments : List String) : Url := client.base.append segments

/-- A request for a resource, with fields in its query and a body that may be empty. -/
def request (client : HubClient ω) (method : Method) (segments : List String)
    (fields : List (String × String)) (contentType : Option String) (body : String) : Request :=
  let url := (client.endpoint segments).withFields fields
  { method
    path := url.pathText
    query := url.queryText
    authorization := client.settings.username.map (basicAuthorization · client.settings.password)
    contentType
    body }

/-- A bundle with the agent's name and labels where it has none of its own. -/
def stamp (client : HubClient ω) (bundle : Bundle) : Bundle :=
  { bundle with
    agentName := if bundle.agentName.isEmpty then client.settings.agentName else bundle.agentName
    labels := if bundle.labels.isEmpty then client.settings.labels else bundle.labels }

/-- Sends a request; a response without success is a failure. -/
def sendChecked (client : HubClient ω) (scope : Scope) (request : Request) :
    Action (World ω) HubError Response := do
  let response ← client.transport.send scope request
  if response.isSuccess then return response
  else throw (HubError.ofResponse response.status response.body)

/-- The name under which a request that came to an end is counted. -/
def outcomeName : Except HubError α → String
  | .ok _ => "success"
  | .error error => error.outcome

/-- Runs a call unless it is cancelled, and counts how it ended. -/
def call (client : HubClient ω) (scope : Scope) (method : String)
    (body : Action (World ω) HubError α) : Action (World ω) HubError α := do
  let result ← Action.attempt do
    if ← World.isCancelled scope then throw .cancelled
    body
  let agent := client.settings.agentName
  World.count (.requests agent method (outcomeName result)) 1
  World.count (.requestDurations agent method (outcomeName result)) 1
  Action.ofExcept result

/-- The fields that name the agent in a query. -/
def agentFields (client : HubClient ω) : List (String × String) :=
  [("agent_name", client.settings.agentName)]

/-- The fields of a query about a page. -/
def pageFields (request : PageRequest) : List (String × String) :=
  [("table", request.table), ("from", request.start), ("size", toString request.size)]

/-- The request that carries a bundle. -/
def bundleRequest (client : HubClient ω) (method : Method) (bundle : Bundle) : Request :=
  client.request method ["upstream", "push"] client.agentFields (some jsonType)
    (client.stamp bundle).text

/-- Sends a bundle; one without rows is not sent. -/
def sendBundle (client : HubClient ω) (scope : Scope) (label : String) (method : Method)
    (bundle : Bundle) : Action (World ω) HubError Unit := do
  if bundle.isEmpty then return
  client.call scope label do
    let _ ← client.sendChecked scope (client.bundleRequest method bundle)

/-- Has the rows of a bundle saved. -/
def push (client : HubClient ω) (scope : Scope) (bundle : Bundle) :
    Action (World ω) HubError Unit :=
  client.sendBundle scope "push" .post bundle

/-- Has the rows that a bundle names deleted. -/
def delete (client : HubClient ω) (scope : Scope) (bundle : Bundle) :
    Action (World ω) HubError Unit :=
  client.sendBundle scope "delete" .delete bundle

/-- The request that registers the agent and marks it as alive. -/
def pingRequest (client : HubClient ω) : Request :=
  client.request .get ["upstream", "ping"] client.agentFields none ""

/-- Registers the agent and marks it as alive. -/
def ping (client : HubClient ω) (scope : Scope) : Action (World ω) HubError Unit :=
  client.call scope "ping" do
    let _ ← client.sendChecked scope client.pingRequest

/-- The request for what a resource says about a page of the agent's rows. -/
def pageRequest (client : HubClient ω) (resource : String) (page : PageRequest) : Request :=
  client.request .get ["upstream", resource, client.settings.agentName] (pageFields page) none ""

/-- Asks about a page and reads the answer. -/
def askPage (client : HubClient ω) (scope : Scope) (label resource : String)
    (page : PageRequest) (decoder : Decoder α) : Action (World ω) HubError α :=
  client.call scope label do
    let response ← client.sendChecked scope (client.pageRequest resource page)
    match decoder.ofText? response.body with
    | some value => return value
    | none => throw (.undecodable "response of another form")

/-- The hub's digest of a page of the agent's rows. -/
def status (client : HubClient ω) (scope : Scope) (page : PageRequest) :
    Action (World ω) HubError PageDigest :=
  client.askPage scope "status" "status" page PageDigest.decoder

/-- The keys that the hub has in a page of the agent's rows. -/
def pullIds (client : HubClient ω) (scope : Scope) (page : PageRequest) :
    Action (World ω) HubError (List String) :=
  client.askPage scope "pull" "pull" page (Decoder.list Decoder.text)

/-- Sends the content of an artifact. -/
def pushArtifact (client : HubClient ω) (scope : Scope) (id : Uuid) (content : String) :
    Action (World ω) HubError Unit :=
  client.call scope "push_artifacts" do
    let _ ← client.sendChecked scope
      (client.request .post ["artifacts", "upload", id.text] client.agentFields none content)

/-- The client as the hub that a sync needs. -/
def api (client : HubClient ω) : HubApi ω where
  agentName := client.settings.agentName
  push := client.push
  delete := client.delete
  status := client.status
  pullIds := client.pullIds

end HubClient

end AgentSync
