import AgentSync.Error
import AgentSync.Json.Decode
import AgentSync.Json.Writer
import AgentSync.Page
import AgentSync.Text.Base64

namespace AgentSync

inductive Method where
  | get
  | post
  | delete
  | other (name : String)
  deriving DecidableEq, Repr, Inhabited

namespace Method

def name : Method → String
  | get => "GET"
  | post => "POST"
  | delete => "DELETE"
  | other name => name

/-- The method a name stands for. -/
def ofName (name : String) : Method :=
  if name = "GET" then get
  else if name = "POST" then post
  else if name = "DELETE" then delete
  else other name

end Method

/-- A request as it is sent; path and query are escaped. -/
structure Request where
  method : Method
  path : String
  query : Option String
  authorization : Option String
  contentType : Option String
  body : String
  deriving DecidableEq, Repr, Inhabited

/-- The media type of JSON bodies. -/
def jsonType : String := "application/json"

/-- The credentials of a user as a header gives them. -/
def basicAuthorization (user : String) (password : Option String) : String :=
  let credentials := user ++ ":" ++ password.getD ""
  "Basic " ++ String.ofList (Base64.encode (Utf8.encode credentials.toList))

/-- What the hub answers to a request. -/
structure Response where
  status : Nat
  contentType : Option String
  /-- The methods a resource has, where the request used another. -/
  allow : Option String
  body : String
  deriving DecidableEq, Repr, Inhabited

namespace Response

/-- A response with a JSON body. -/
def json (status : Nat) (body : Json) : Response := ⟨status, some jsonType, none, body.text⟩

def isSuccess (response : Response) : Bool := 200 ≤ response.status && response.status < 300

end Response

/-- What the hub reports to an agent. -/
inductive ApiError where
  | badRequest (message : String)
  | notFound (message : String)
  | conflict (ids : List String)
  | unavailable (message : String)
  | internal (message : String)
  deriving DecidableEq, Repr, Inhabited

namespace ApiError

/-- The report of a failed operation. -/
def ofError : Error → ApiError
  | .conflict ids => conflict ids
  | .notFound message => notFound message
  | .invalidInput message | .serialization message => badRequest message
  | .cancelled => unavailable "request cancelled"
  | error => internal error.message

def status : ApiError → Nat
  | badRequest _ => 400
  | notFound _ => 404
  | conflict _ => 422
  | unavailable _ => 503
  | internal _ => 500

def code : ApiError → String
  | badRequest _ => "bad_request"
  | notFound _ => "not_found"
  | conflict _ => "conflict"
  | unavailable _ => "unavailable"
  | internal _ => "internal"

def message : ApiError → String
  | badRequest message | notFound message | unavailable message | internal message => message
  | conflict ids => Error.conflictMessage ids

/-- What a program reads of the report: the keys of a conflict. -/
def data : ApiError → Json
  | conflict ids => (ConflictBody.mk ids).toJson
  | _ => .null

/-- The body of the response that carries the report. -/
def body (error : ApiError) : Json :=
  Json.object [("error", .str error.code), ("message", .str error.message), ("data", error.data)]

def response (error : ApiError) : Response := .json error.status error.body

end ApiError

namespace HubError

/-- Reads what a response says about its data; anything may be missing. -/
def dataDecoder : Decoder (Option Json) := fun room source => do
  let (inner, slots) ← Decoder.record ["data"] room source
  match slots with
  | [data] => data.orElse inner (Decoder.nullable Decoder.json) none
  | _ => none

/-- The failure that a response without success reports. It is a conflict only if the body names
keys. -/
def ofResponse (status : Nat) (body : String) : HubError :=
  let conflict := do
    let data ← dataDecoder.ofText? body
    ConflictBody.decoder.ofJson? (← data)
  match conflict with
  | some ⟨id :: rest⟩ => .missingParents (id :: rest)
  | _ => .status status body

end HubError

end AgentSync
