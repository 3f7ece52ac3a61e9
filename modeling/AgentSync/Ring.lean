namespace AgentSync

/-- The last few values added, in slots that are filled in turn: a fixed number of slots and the
slot that is filled next. -/
structure Ring (α : Type) where
  slots : List (Option α)
  cursor : Nat
  cursor_lt : slots ≠ [] → cursor < slots.length

namespace Ring

variable {α : Type}

/-- A ring of `capacity` empty slots. -/
def new (capacity : Nat) : Ring α where
  slots := List.replicate capacity none
  cursor := 0
  cursor_lt h := by
    cases capacity with
    | zero => simp at h
    | succ n => simp

instance : Inhabited (Ring α) := ⟨new 0⟩

def capacity (ring : Ring α) : Nat := ring.slots.length

/-- The values held, in the order of the slots. -/
def toList (ring : Ring α) : List α := ring.slots.filterMap id

/-- The number of slots in use. -/
def size (ring : Ring α) : Nat := ring.slots.countP Option.isSome

def isEmpty (ring : Ring α) : Bool := ring.size == 0

/-- Fills the slot at the cursor and tells what it held. A ring without slots stays as it is. -/
def add (ring : Ring α) (value : α) : Option α × Ring α :=
  if h : ring.slots = [] then (none, ring)
  else
    ((ring.slots[ring.cursor]?).join,
      { slots := ring.slots.set ring.cursor (some value)
        cursor := (ring.cursor + 1) % ring.slots.length
        cursor_lt := fun _ => by
          rw [List.length_set]
          exact Nat.mod_lt _ (List.length_pos_iff.2 h) })

end Ring

/-- A queue of limited length between a sender that never waits and a receiver. -/
structure Channel (α : Type) where
  room : Nat
  waiting : List α
  isOpen : Bool
  deriving Inhabited

namespace Channel

variable {α : Type}

def new (room : Nat) : Channel α := ⟨room, [], true⟩

/-- Delivers a value if the receiver is there and the queue has room; drops it otherwise. -/
def offer (channel : Channel α) (value : α) : Channel α :=
  if channel.isOpen ∧ channel.waiting.length < channel.room then
    { channel with waiting := channel.waiting ++ [value] }
  else channel

/-- Takes everything that waits. -/
def drain (channel : Channel α) : List α × Channel α :=
  (channel.waiting, { channel with waiting := [] })

/-- The receiver goes away, with everything that waits. -/
def close (channel : Channel α) : Channel α := { channel with waiting := [], isOpen := false }

end Channel

/-- A ring and the channel its overwritten values are offered to, if there is one. -/
structure ForwardingRing (α : Type) where
  ring : Ring α
  evicted : Option (Channel α)
  deriving Inhabited

namespace ForwardingRing

variable {α : Type}

/-- Adds a value and offers the one it overwrites to the channel. -/
def add (r : ForwardingRing α) (value : α) : ForwardingRing α :=
  let (previous, ring) := r.ring.add value
  { ring, evicted := r.evicted.map fun channel => previous.elim channel channel.offer }

/-- Takes everything that waits in the channel. -/
def drain (r : ForwardingRing α) : List α × ForwardingRing α :=
  match r.evicted with
  | none => ([], r)
  | some channel =>
    let (values, rest) := channel.drain
    (values, { r with evicted := some rest })

/-- The receiver of the channel goes away. -/
def close (r : ForwardingRing α) : ForwardingRing α :=
  { r with evicted := r.evicted.map Channel.close }

end ForwardingRing

end AgentSync
