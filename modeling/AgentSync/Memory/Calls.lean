import AgentSync.Queue.Drain

namespace AgentSync

/-- A call in a drain. -/
inductive DrainCall where
  | consumed (result : Except Error Nat)
  | asked (error : Error) (goesOn : Bool)

/-- A state beside the calls of a drain that were written down: what the consumer answered, and what
the error handler was asked. -/
abbrev Called (σ : Type) := Beside (List DrainCall) σ

variable {σ : Type}

/-- The consumer with its calls written down. -/
def Consumer.noting (consumer : Consumer σ) : Consumer (Called σ) where
  isCancelled state := consumer.isCancelled state.rest
  consume := ExceptT.mk fun state =>
    let (result, rest) := consumer.consume.run.run state.rest
    (result, ⟨state.own ++ [.consumed result], rest⟩)

/-- The error handler with what it is asked written down. -/
def notingErrors (onError : Error → StateM σ Bool) (error : Error) : StateM (Called σ) Bool :=
  fun state =>
    let (goesOn, rest) := (onError error).run state.rest
    (goesOn, ⟨state.own ++ [.asked error goesOn], rest⟩)

end AgentSync
