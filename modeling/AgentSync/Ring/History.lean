import AgentSync.Job
import AgentSync.Ring

namespace AgentSync

/-- What tells the rings of a history apart. -/
structure RingKey where
  agentId : Uuid
  name : String
  resourceId : String
  deriving DecidableEq, Repr, Inhabited

namespace RingKey

def ofRecord (record : JobRecord) : RingKey := ⟨record.agentId, record.name, record.resourceId⟩

/-- By the bytes of the agent's id, then by name, then by resource. -/
instance : LT RingKey :=
  ⟨fun a b => a.agentId.value < b.agentId.value ∨ a.agentId = b.agentId ∧
    (a.name < b.name ∨ a.name = b.name ∧ a.resourceId < b.resourceId)⟩

instance (a b : RingKey) : Decidable (a < b) :=
  inferInstanceAs (Decidable (a.agentId.value < b.agentId.value ∨ a.agentId = b.agentId ∧
    (a.name < b.name ∨ a.name = b.name ∧ a.resourceId < b.resourceId)))

end RingKey

/-- The history of runs: one ring of records for each agent, name and resource, in the order of
these keys. All of them offer what they overwrite to one channel. -/
structure History where
  capacity : Nat
  rings : List (RingKey × Ring JobRecord)
  evicted : Option (Channel JobRecord)
  deriving Inhabited

namespace History

/-- A history whose rings hold `capacity` records each. -/
def new (capacity : Nat) (evicted : Option (Channel JobRecord)) : History :=
  ⟨capacity, [], evicted⟩

/-- Adds a record to the ring of its key, a new one if there is none, and tells what that ring
overwrote. -/
def addTo (capacity : Nat) (record : JobRecord) :
    List (RingKey × Ring JobRecord) → Option JobRecord × List (RingKey × Ring JobRecord)
  | [] =>
    let (previous, ring) := (Ring.new capacity).add record
    (previous, [(RingKey.ofRecord record, ring)])
  | (key, ring) :: rest =>
    if RingKey.ofRecord record < key then
      let (previous, fresh) := (Ring.new capacity).add record
      (previous, (RingKey.ofRecord record, fresh) :: (key, ring) :: rest)
    else if RingKey.ofRecord record = key then
      let (previous, ring) := ring.add record
      (previous, (key, ring) :: rest)
    else
      let (previous, rest) := addTo capacity record rest
      (previous, (key, ring) :: rest)

/-- Adds a record and offers the one it overwrites to the channel. -/
def add (history : History) (record : JobRecord) : History :=
  let (previous, rings) := addTo history.capacity record history.rings
  { history with
    rings
    evicted := history.evicted.map fun channel => previous.elim channel channel.offer }

/-- The records of one ring, in the order of its slots. -/
def get (history : History) (key : RingKey) : List JobRecord :=
  ((history.rings.find? (·.1 = key)).map (·.2.toList)).getD []

def keys (history : History) : List RingKey := history.rings.map (·.1)

/-- Takes everything that waits in the channel. -/
def drain (history : History) : List JobRecord × History :=
  match history.evicted with
  | none => ([], history)
  | some channel =>
    let (records, rest) := channel.drain
    (records, { history with evicted := some rest })

/-- The receiver of the channel goes away. -/
def close (history : History) : History :=
  { history with evicted := history.evicted.map Channel.close }

end History

end AgentSync
