import AgentSync.Dict
import AgentSync.Text.Integer
import AgentSync.Time.Duration

namespace AgentSync

/-- The variables that are set. -/
abbrev Variables := Dict String

namespace Variables

variable (vars : Variables)

/-- An unsigned 32-bit integer of a variable, or a default. -/
def word32 (name : String) (fallback : Nat) : Nat :=
  ((vars.get? name).bind (Text.unsigned? 32)).getD fallback

/-- An unsigned 64-bit integer of a variable, if it holds one. -/
def word64? (name : String) : Option Nat := (vars.get? name).bind (Text.unsigned? 64)

/-- A signed 32-bit integer of a variable, or a default. -/
def int32 (name : String) (fallback : Int) : Int :=
  ((vars.get? name).bind (Text.signed? 32)).getD fallback

/-- A number of seconds in a variable, or a default. -/
def seconds (name : String) (fallback : Duration) : Duration :=
  ((word64? vars name).map Duration.ofSeconds).getD fallback

end Variables

end AgentSync
