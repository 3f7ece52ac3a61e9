import AgentSync.Bundle.Wire
import AgentSync.Http.Form
import AgentSync.Http.Message
import AgentSync.Hub.Store
import AgentSync.Text.Blank
import AgentSync.Text.Integer

namespace AgentSync

/-- What an agent can ask of the hub. -/
inductive Resource where
  | health
  | push
  | ping
  /-- The digest of a page of the named agent's rows; the name is still escaped. -/
  | status (agent : List Char)
  /-- The keys of a page of the named agent's rows; the name is still escaped. -/
  | pull (agent : List Char)
  deriving DecidableEq, Repr, Inhabited

namespace Resource

/-- The resource at a path. -/
def ofPath? (path : String) : Option Resource :=
  let cs := path.toList
  let named (start : String) : Option (List Char) :=
    let name := cs.drop start.length
    if start.toList.isPrefixOf cs && !name.isEmpty && !name.contains '/' then some name else none
  if path = "/health" then some health
  else if path = "/upstream/push" then some push
  else if path = "/upstream/ping" then some ping
  else
    match named "/upstream/status/" with
    | some name => some (status name)
    | none => (named "/upstream/pull/").map pull

/-- The methods a resource has. -/
def methods : Resource → List String
  | push => ["POST", "DELETE"]
  | _ => ["GET", "HEAD"]

end Resource

/-- The server of a hub. -/
structure HubServer (ω : Type) where
  store : HubStore ω

namespace HubServer

variable {ω : Type}

/-- The values of a field among those of a query. -/
def values (name : String) (fields : List (String × String)) : List String :=
  (fields.filter (·.1 == name)).map (·.2)

/-- The value of a field that a query gives at most once. -/
def atMostOne (name : String) (fields : List (String × String)) :
    Except ApiError (Option String) :=
  match values name fields with
  | [] => .ok none
  | [value] => .ok (some value)
  | _ => .error (.badRequest "Failed to deserialize query string: duplicate field")

/-- The fields of a request's query. -/
def fieldsOf (request : Request) : List (String × String) := Form.decode (request.query.getD "")

/-- The agent's name in a query; empty if it gives none. -/
def agentNameOf (request : Request) : Except ApiError String := do
  return (← atMostOne "agent_name" (fieldsOf request)).getD ""

/-- The page that a query asks about. -/
def pageOf (request : Request) : Except ApiError PageRequest := do
  let fields := fieldsOf request
  let table ← atMostOne "table" fields
  let start ← atMostOne "from" fields
  let size ← atMostOne "size" fields
  match table, size.bind (Text.signed? 64) with
  | some table, some size => return { table, start := start.getD "", size }
  | _, _ => throw (.badRequest "Failed to deserialize query string: missing or malformed field")

/-- Whether a media type is one of JSON. -/
def isJsonType (contentType : String) : Bool :=
  let name := Text.trim (contentType.toList.takeWhile (· ≠ ';'))
  let name := String.ofList (name.map Char.toLower)
  name == jsonType || (name.startsWith "application/" && name.endsWith "+json")

/-- The bundle in a request's body. -/
def bundleOf (request : Request) : Except ApiError Bundle :=
  if !request.contentType.any isJsonType then
    .error (.badRequest "Expected request with `Content-Type: application/json`")
  else
    match Source.ofText? request.body with
    | none => .error (.badRequest "Failed to parse the request body as JSON: malformed text")
    | some _ =>
      match Bundle.ofText? request.body with
      | some bundle => .ok bundle
      | none =>
        .error (.badRequest
          "Failed to deserialize the JSON body into the target type: unexpected content")

/-- The bundle of a request, for the agent that its query names or else its body. -/
def agentBundleOf (request : Request) : Except ApiError Bundle := do
  let name ← agentNameOf request
  let bundle ← bundleOf request
  let agentName := if name.isEmpty then bundle.agentName else name
  if agentName.isEmpty then throw (.badRequest "agent_name is required")
  return { bundle with agentName }

/-- The agent's name in a path. -/
def agentOfPath (name : List Char) : Except ApiError String :=
  match Percent.decode? name with
  | some name => .ok (String.ofList name)
  | none => .error (.badRequest "Invalid UTF-8 in `agent_name`")

/-- An action of the store whose failures are reported. -/
def reported {α : Type} (action : Action (HubState ω) Error α) : Action (HubState ω) ApiError α :=
  Action.mapFailure ApiError.ofError action

/-- An answer about an agent; of an agent that is not registered there is nothing. -/
def orNothing {α : Type} (nothing : α) (action : Action (HubState ω) Error α) :
    Action (HubState ω) ApiError α := do
  match ← Action.attempt action with
  | .ok value => return value
  | .error (.notFound _) => return nothing
  | .error error => throw (.ofError error)

/-- Saves the rows of a bundle. -/
def push (server : HubServer ω) (request : Request) : Action (HubState ω) ApiError Response := do
  let bundle ← Action.ofExcept (agentBundleOf request)
  let saved ← reported (server.store.insertBundle bundle)
  return .json 200 (Json.object [("saved", Json.ofNat saved)])

/-- Deletes the rows that a bundle names. -/
def delete (server : HubServer ω) (request : Request) :
    Action (HubState ω) ApiError Response := do
  let bundle ← Action.ofExcept (agentBundleOf request)
  let deleted ← reported (Beside.action (server.store.deleteBundle bundle))
  return .json 200 (Json.object [("deleted", Json.ofNat deleted)])

/-- Registers the agent and notes that it was seen. -/
def ping (server : HubServer ω) (request : Request) : Action (HubState ω) ApiError Response := do
  let name ← Action.ofExcept (agentNameOf request)
  let id ← reported (Beside.action (server.store.touchAgent name))
  return .json 200 (Json.object [("agent_id", .str id.text)])

/-- The digest of a page of an agent's rows. -/
def status (server : HubServer ω) (agent : List Char) (request : Request) :
    Action (HubState ω) ApiError Response := do
  let name ← Action.ofExcept (agentOfPath agent)
  let page ← Action.ofExcept (pageOf request)
  let digest ← orNothing ⟨"", "", 0⟩ (Beside.action (server.store.pageDigest name page))
  return .json 200 digest.toJson

/-- The keys of a page of an agent's rows. -/
def pull (server : HubServer ω) (agent : List Char) (request : Request) :
    Action (HubState ω) ApiError Response := do
  let name ← Action.ofExcept (agentOfPath agent)
  let page ← Action.ofExcept (pageOf request)
  let ids ← orNothing [] (Beside.action (server.store.pageIds name page))
  return .json 200 (Json.ofStrings ids)

/-- The version of the service. -/
def version : String := "2026.10.0"

/-- Whether the service and its database are well. -/
def health (server : HubServer ω) : Action (HubState ω) ApiError Response := do
  let answer ← Action.attempt (Beside.action (server.store.db.run .ping))
  let isWell := answer.toOption.isSome
  return .json (if isWell then 200 else 503) (Json.object [
    ("status", .str (if isWell then "healthy" else "degraded")),
    ("database", .bool isWell),
    ("version", .str version)])

/-- Answers a request with the method that the resource has for it. -/
def serve (server : HubServer ω) (resource : Resource) (request : Request) :
    Action (HubState ω) ApiError Response :=
  match resource with
  | .health => server.health
  | .push => if request.method = .delete then server.delete request else server.push request
  | .ping => server.ping request
  | .status agent => server.status agent request
  | .pull agent => server.pull agent request

/-- The response to a request with a longer body than the server reads. -/
def tooLong : Response :=
  ⟨413, some "text/plain; charset=utf-8", none, "length limit exceeded"⟩

/-- A response as the request gets it, without a body if it asked for none. -/
def forRequest (request : Request) (response : Response) : Response :=
  if request.method.name = "HEAD" then { response with body := "" } else response

/-- Answers a request. -/
def handle (server : HubServer ω) (request : Request) : StateM (HubState ω) Response := do
  if Defaults.maxBodyBytes < request.body.utf8ByteSize then return forRequest request tooLong
  match Resource.ofPath? request.path with
  | none => return ⟨404, none, none, ""⟩
  | some resource =>
    if !resource.methods.contains request.method.name then
      return ⟨405, none, some (",".intercalate resource.methods), ""⟩
    let result ← (server.serve resource request).run
    let response :=
      match result with
      | .ok response => response
      | .error error => error.response
    return forRequest request response

end HubServer

end AgentSync
