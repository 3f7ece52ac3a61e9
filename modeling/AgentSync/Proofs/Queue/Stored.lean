import AgentSync.Memory.Log
import Mathlib.Data.List.Perm.Subperm

namespace AgentSync

/-- Stored events, and the events as an open transaction sees them. -/
structure EventTable where
  committed : List Event
  inside : Option (List Event)

/-- An entry of a log that shows that an event was put back. -/
def PutsBack (event : Event) (entry : LogEntry) : Prop :=
  ∃ answer, entry = .sent (.requeue event) (.ok answer)

namespace EventTable

/-- Takes events out, by their identifiers. -/
def remove (claimed stored : List Event) : List Event :=
  stored.filter fun event => !(claimed.map Event.id).contains event.id

/-- Adds an event. If there is one with the same identifier, only its failure is taken over. -/
def putBack (stored : List Event) (event : Event) : List Event :=
  if (stored.map Event.id).contains event.id then
    stored.map fun other =>
      if other.id = event.id then
        { other with
          attempts := event.attempts
          lastAttempt := event.lastAttempt
          error := event.error }
      else other
  else stored ++ [event]

/-- What an entry of a log does to the table. A transaction works on a copy, which takes the table's
place with the commit, and is forgotten with a rollback or a statement that fails. -/
def step (table : EventTable) : LogEntry → EventTable
  | .sent .begin (.ok _) => { table with inside := some table.committed }
  | .sent (.claim _ _ _) (.ok answer) =>
    { table with inside := table.inside.map (remove (answer.rows.filterMap Json.event?)) }
  | .sent (.requeue event) (.ok _) =>
    { table with inside := table.inside.map (putBack · event) }
  | .sent .commit (.ok _) => ⟨table.inside.getD table.committed, none⟩
  | .sent .rollback _ => { table with inside := none }
  | .sent _ (.error _) => { table with inside := none }
  | _ => table

end EventTable

end AgentSync
