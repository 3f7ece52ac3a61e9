import AgentSync.Defaults
import AgentSync.Error
import AgentSync.Labels
import AgentSync.Settings.Variables

namespace AgentSync

/-- Where the hub is and how the agent presents itself. -/
structure HubSettings where
  host : String
  username : Option String
  password : Option String
  agentName : String
  labels : Dict String
  timeout : Duration
  deriving Inhabited

namespace HubSettings

def defaultTimeout : Duration := .ofSeconds Defaults.hubTimeoutSeconds

/-- Settings without credentials and labels. -/
def new (host agentName : String) : HubSettings :=
  ⟨host, none, none, agentName, default, defaultTimeout⟩

/-- A variable that must be set to more than blanks. -/
def required (vars : Variables) (name : String) : Except Error String :=
  match vars.get? name with
  | none => .error (.config (name ++ " is not set"))
  | some value => if Text.blank value then .error (.config (name ++ " is not set")) else .ok value

/-- The settings that the environment gives. -/
def ofVariables (vars : Variables) : Except Error HubSettings := do
  let host ← required vars "UPSTREAM_HOST"
  let agentName ← required vars "AGENT_NAME"
  return {
    host
    username := vars.get? "UPSTREAM_USER"
    password := vars.get? "UPSTREAM_PASSWORD"
    agentName
    labels := ((vars.get? "UPSTREAM_LABELS").map Labels.parse).getD default
    timeout := vars.seconds "UPSTREAM_TIMEOUT_SECS" defaultTimeout }

def withBasicAuth (settings : HubSettings) (username password : String) : HubSettings :=
  { settings with username := some username, password := some password }

def withLabels (settings : HubSettings) (labels : Dict String) : HubSettings :=
  { settings with labels }

def withTimeout (settings : HubSettings) (timeout : Duration) : HubSettings :=
  { settings with timeout }

end HubSettings

end AgentSync
