import AgentSync.Defaults
import AgentSync.Store.Database

namespace AgentSync

/-- Which channel is listened to for notifications, so that workers need not wait for their timeout,
and the longest pause between attempts to connect. -/
structure Listener where
  channel : String
  maxPause : Duration
  deriving Inhabited

namespace Listener

/-- Listens to the channel of the event queue; pauses grow to a minute. -/
def default : Listener where
  channel := Defaults.eventNotifyChannel
  maxPause := .ofSeconds Defaults.listenerMaxReconnectSeconds

/-- The pause after the first failed attempt. -/
def firstPause : Duration := .ofSeconds 1

/-- What happens to a listener. -/
inductive Happening where
  /-- An attempt to connect succeeds. -/
  | connected
  /-- An attempt to connect fails. -/
  | refused
  /-- A notification arrives. -/
  | received
  /-- The connection breaks and is made again beneath the stream of notifications, which goes on. -/
  | renewed
  /-- The stream of notifications fails. -/
  | lost
  /-- The work is cancelled. -/
  | cancelled
  deriving DecidableEq, Repr, Inhabited

/-- What a listener does. -/
inductive Deed where
  /-- Wakes a worker. -/
  | wake
  /-- Waits before the next attempt to connect. -/
  | pause (length : Duration)
  deriving DecidableEq, Repr, Inhabited

/-- How a listener stands. -/
inductive State where
  /-- Not connected; the pause that follows if the next attempt fails. -/
  | apart (next : Duration)
  | listening
  /-- It does nothing any more. -/
  | stopped
  deriving DecidableEq, Repr, Inhabited

def start : State := .apart firstPause

/-- How a listener stands after a pause. The pause doubles with every failed attempt, and one too
long to be doubled is its end. -/
def afterPause (listener : Listener) (length : Duration) : State :=
  match length.twice? with
  | some longer => .apart (longer.min listener.maxPause)
  | none => .stopped

/-- One thing that happens. Every connection it makes wakes a worker, for what was enqueued while
there was none was missed. What cannot happen changes nothing. -/
def step (listener : Listener) : State → Happening → State × List Deed
  | .stopped, _ => (.stopped, [])
  | _, .cancelled => (.stopped, [])
  | .apart _, .connected => (.listening, [.wake])
  | .apart next, .refused => (listener.afterPause next, [.pause next])
  | .listening, .received => (.listening, [.wake])
  | .listening, .lost => (.apart firstPause, [])
  | state, _ => (state, [])

/-- Several things in turn, with all that the listener does. -/
def run (listener : Listener) : State → List Happening → State × List Deed
  | state, [] => (state, [])
  | state, event :: rest =>
    let (state, first) := listener.step state event
    let (state, others) := listener.run state rest
    (state, first ++ others)

/-- An attempt to connect. -/
def connect {ω : Type} (listener : Listener) (db : Database ω) : Action ω Error Unit := do
  let _ ← db.run (.listen listener.channel)

end Listener

end AgentSync
