import AgentSync.Hub.Store

namespace AgentSync

/-- A change of the schema. -/
structure Migration where
  version : Nat
  description : String
  deriving DecidableEq, Repr, Inhabited

namespace Migration

/-- All changes, in the order in which they are made. -/
def all : List Migration := [⟨20261001000000, "event queue"⟩, ⟨20261001000100, "sync tables"⟩]

/-- A change that a database remembers. -/
structure Made where
  version : Nat
  description : String
  /-- Whether the change was made to its end. -/
  isComplete : Bool
  /-- Whether the script that made it is the one of today. -/
  isCurrent : Bool
  deriving DecidableEq, Repr, Inhabited

/-- Why a change cannot be made or relied on. -/
def halfMade (version : Nat) : DatabaseError :=
  .migration ("migration " ++ toString version ++ " is partially applied")

def unknown (version : Nat) : DatabaseError :=
  .migration ("migration " ++ toString version ++
    " was previously applied but is missing in the resolved migrations")

def modified (version : Nat) : DatabaseError :=
  .migration ("migration " ++ toString version ++
    " was previously applied but has been modified")

/-- Checks what a database remembers: no change is half made, each is known, and each was made by
the script of today. -/
def check (made : List Made) : Except DatabaseError Unit := do
  if let some change := made.find? (!·.isComplete) then throw (halfMade change.version)
  let isKnown (change : Made) : Bool := all.any (·.version == change.version)
  if let some change := made.find? (!isKnown ·) then throw (unknown change.version)
  if let some change := made.find? (!·.isCurrent) then throw (modified change.version)

/-- The changes that are still to be made. -/
def pending (made : List Made) : List Migration :=
  all.filter fun change => !made.any (·.version == change.version)

variable {ω : Type}

/-- Makes changes in turn. -/
def makeAll (make : Migration → Action ω Error Unit) : List Migration → Action ω Error Unit
  | [] => return ()
  | change :: rest => do
    make change
    makeAll make rest

/-- Brings the schema up to date; the columns that were remembered are forgotten. -/
def run (make : Migration → Action ω Error Unit) (made : List Made) :
    Action (HubState ω) Error Unit := do
  Action.mapFailure Error.database (Action.ofExcept (check made))
  Beside.action (makeAll make (pending made))
  HubStore.clearColumnCache

end Migration

end AgentSync
