import AgentSync.Dict
import AgentSync.Time.Instant
import AgentSync.Uuid
import AgentSync.Word

namespace AgentSync

/-- A pending unit of work. What its properties mean is agreed between those that enqueue it and
those that handle it. -/
structure Event where
  id : Uuid
  /-- The queue the event belongs to. -/
  name : String
  properties : Dict String
  priority : Int
  /-- Seconds after creation before the event can be claimed. -/
  delay : Int
  /-- How often handling the event has failed. -/
  attempts : Int
  lastAttempt : Option Instant
  error : Option String
  createdAt : Instant
  deriving Inhabited

namespace Event

/-- An event that nobody has tried to handle yet. -/
def new (id : Uuid) (name : String) (properties : Dict String) (createdAt : Instant) : Event where
  id
  name
  properties
  priority := 0
  delay := 0
  attempts := 0
  lastAttempt := none
  error := none
  createdAt

/-- Sets the priority; the highest is claimed first. -/
def withPriority (event : Event) (priority : Int) : Event := { event with priority }

/-- Sets the delay in seconds. -/
def withDelay (event : Event) (delay : Int) : Event := { event with delay }

def property? (event : Event) (key : String) : Option String := event.properties.get? key

/-- Records a failed attempt. -/
def markFailed (event : Event) (error : String) (now : Instant) : Event :=
  { event with
    attempts := Word.wrap32 (event.attempts + 1)
    error := some error
    lastAttempt := some now }

/-- Whether one event is claimed no later than another: by priority, then by age. -/
def claimedBefore (a b : Event) : Bool :=
  decide (b.priority < a.priority) ||
    decide (a.priority = b.priority) && decide (a.createdAt ≤ b.createdAt)

end Event

/-- An event that could not be handled, with the reason. -/
structure FailedEvent where
  event : Event
  error : String
  deriving Inhabited

end AgentSync
