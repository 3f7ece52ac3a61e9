namespace AgentSync

/-- A failure of the database or of the connection to it. -/
inductive DatabaseError where
  /-- The server refused a statement. -/
  | reported (code message : String)
  /-- A statement that answers one row answered none. -/
  | rowMissing
  /-- A value of an answer does not have the type of its column. -/
  | undecodable
  /-- No connection became free in time. -/
  | poolTimedOut
  | poolClosed
  /-- The server did not keep to the protocol. -/
  | protocol (message : String)
  /-- The schema could not be brought up to date. -/
  | migration (message : String)
  deriving DecidableEq, Repr, Inhabited

namespace DatabaseError

/-- The code with which a server reports a row that refers to a missing one. -/
def foreignKeyViolation : String := "23503"

def message : DatabaseError → String
  | reported _ message => "error returned from database: " ++ message
  | rowMissing => "no rows returned by a query that expected to return at least one row"
  | undecodable => "error occurred while decoding a column"
  | poolTimedOut => "pool timed out while waiting for an open connection"
  | poolClosed => "attempted to acquire a connection on a closed pool"
  | protocol message => "encountered unexpected or invalid data: " ++ message
  | migration message => message

def isForeignKeyViolation : DatabaseError → Bool
  | reported code _ => code == foreignKeyViolation
  | _ => false

end DatabaseError

/-- A failure of an operation. -/
inductive Error where
  | database (error : DatabaseError)
  /-- Rows still refer to missing ones; the keys of those rows. -/
  | conflict (ids : List String)
  | notFound (message : String)
  | serialization (message : String)
  | config (message : String)
  | invalidInput (message : String)
  /-- A request did not get an answer. -/
  | request (message : String)
  /-- The hub answered with an error. -/
  | hub (message : String)
  /-- Parts of a reconciliation failed; one text for each. -/
  | reconcile (errors : List String)
  | cancelled
  | internal (message : String)
  deriving DecidableEq, Repr, Inhabited

namespace Error

/-- The text that reports a conflict over some rows. -/
def conflictMessage (ids : List String) : String :=
  "Foreign key conflict on " ++ toString ids.length ++ " row(s)"

def message : Error → String
  | database error => "Database error: " ++ error.message
  | conflict ids => conflictMessage ids
  | notFound message => "Not found: " ++ message
  | serialization message => "Serialization error: " ++ message
  | config message => "Configuration error: " ++ message
  | invalidInput message => "Invalid input: " ++ message
  | request message => "Request error: " ++ message
  | hub message => "Upstream error: " ++ message
  | reconcile errors => "Reconciliation failed: " ++ "; ".intercalate errors
  | cancelled => "Operation cancelled"
  | internal message => "Internal error: " ++ message

def isForeignKeyViolation : Error → Bool
  | database error => error.isForeignKeyViolation
  | _ => false

/-- Whether rows were refused because they refer to missing ones, as reported by the database or as
already gathered. -/
def isConflict : Error → Bool
  | conflict _ => true
  | error => error.isForeignKeyViolation

end Error

/-- A failure of a request to the hub. -/
inductive HubError where
  /-- No answer came. -/
  | transport (timedOut : Bool) (message : String)
  | status (code : Nat) (body : String)
  /-- The hub refused rows that refer to missing ones; the keys of those rows. -/
  | missingParents (ids : List String)
  | undecodable (message : String)
  | cancelled
  deriving DecidableEq, Repr, Inhabited

namespace HubError

def message : HubError → String
  | transport _ message => "HTTP request failed: " ++ message
  | status code body => "Upstream returned " ++ toString code ++ ": " ++ body
  | missingParents ids => Error.conflictMessage ids
  | undecodable message => "Failed to decode upstream response: " ++ message
  | cancelled => "Request cancelled"

/-- The name under which requests that failed this way are counted. -/
def outcome : HubError → String
  | transport true _ => "timeout"
  | transport false _ => "transport_error"
  | status _ _ => "status_error"
  | missingParents _ => "conflict"
  | undecodable _ => "decode_error"
  | cancelled => "cancelled"

/-- The failure of the operation that made the request. -/
def toError : HubError → Error
  | transport _ message => .request message
  | status code body => .hub ("status " ++ toString code ++ ": " ++ body)
  | missingParents ids => .conflict ids
  | undecodable message => .serialization message
  | cancelled => .cancelled

end HubError

end AgentSync
