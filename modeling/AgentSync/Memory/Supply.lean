import AgentSync.World

namespace AgentSync

/-- What a call to the consumer does. -/
structure SupplyCall where
  /-- Whether it cancels its scope first. -/
  cancels : Bool
  result : Except Error Nat

/-- What an error handler answers. -/
inductive Verdict where
  | goOn
  | stop
  /-- Cancels the scope and goes on. -/
  | cancel
  deriving DecidableEq, Repr, Inhabited

/-- A consumer of events that are only counted: the calls with given results, then the number of
events that are left, and what was seen. -/
structure Supply where
  script : List SupplyCall
  remaining : Nat
  verdicts : List Verdict
  calls : Nat
  errors : List Error

namespace Supply

/-- Consumes an event. With the script used up there is one event at a time until none is left. -/
def consume (scope : Scope) : Action (World Supply) Error Nat := do
  let supply ← Action.ask World.inner
  match supply.script with
  | call :: rest =>
    Action.update fun world =>
      { world with inner := { supply with script := rest, calls := supply.calls + 1 } }
    if call.cancels then World.cancel scope
    Action.ofExcept call.result
  | [] =>
    let remaining := supply.remaining - 1
    Action.update fun world =>
      { world with inner := { supply with remaining, calls := supply.calls + 1 } }
    return supply.remaining - remaining

/-- Writes an error down and answers as the script says; with the script used up the work is not
to go on. -/
def onError (scope : Scope) (error : Error) : StateM (World Supply) Bool := do
  let world ← get
  let supply := world.inner
  let verdict := (supply.verdicts.head?).getD .stop
  let inner :=
    { supply with verdicts := supply.verdicts.drop 1, errors := supply.errors ++ [error] }
  let scopes := if verdict = .cancel then world.scopes.cancel scope else world.scopes
  set { world with inner, scopes }
  return verdict ≠ .stop

end Supply

end AgentSync
