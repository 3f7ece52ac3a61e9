import AgentSync.Proofs.Action
import AgentSync.World

namespace AgentSync

open AgentSync.Action

namespace World

@[simp] theorem runFrom_inside {ω ε α : Type} (action : Action ω ε α) (world : World ω) :
    runFrom (inside action) world =
      ((runFrom action world.inner).1, { world with inner := (runFrom action world.inner).2 }) :=
  rfl

@[simp] theorem runFrom_count {ω ε : Type} (metric : Metric) (amount : Nat) (world : World ω) :
    runFrom (count metric amount : Action (World ω) ε Unit) world =
      (.ok (), { world with metrics := world.metrics.add metric amount }) := rfl

@[simp] theorem runFrom_child {ω ε : Type} (parent : Scope) (world : World ω) :
    runFrom (child parent : Action (World ω) ε Scope) world =
      (.ok (world.scopes.child parent).1,
        { world with scopes := (world.scopes.child parent).2 }) := rfl

theorem runFrom_guard {ω : Type} {scope : Scope} {world : World ω}
    (hlive : world.scopes.isCancelled scope = false) :
    runFrom (guard scope) world = (.ok (), world) := by
  unfold guard isCancelled
  rw [runFrom_bind_of_ok (runFrom_ask _ _), hlive]
  rfl

theorem runFrom_guard_of_cancelled {ω : Type} {scope : Scope} {world : World ω}
    (hcancelled : world.scopes.isCancelled scope = true) :
    runFrom (guard scope) world = (.error .cancelled, world) := by
  unfold guard isCancelled
  rw [runFrom_bind_of_ok (runFrom_ask _ _), hcancelled]
  rfl

end World

namespace Scopes

/-- Nothing that was cancelled so far is or can become a part of a scope's line: every cancelled
number was given out before and lies outside it. -/
def IsLive (scopes : Scopes) (scope : Scope) : Prop :=
  ∀ number ∈ scopes.cancelled, number ∉ scope.line ∧ number < scopes.count

theorem IsLive.not_cancelled {scopes : Scopes} {scope : Scope} (hlive : scopes.IsLive scope) :
    scopes.isCancelled scope = false := by
  rw [isCancelled, List.any_eq_false]
  intro number hmem hcancelled
  exact (hlive number (List.contains_iff_mem.mp hcancelled)).1 hmem

/-- A scope made from a live one is live. -/
theorem IsLive.child {scopes : Scopes} {parent : Scope} (hlive : scopes.IsLive parent) :
    (scopes.child parent).2.IsLive (scopes.child parent).1 := by
  intro number hmem
  obtain ⟨hline, hcount⟩ := hlive number hmem
  refine ⟨?_, Nat.lt_succ_of_lt hcount⟩
  intro hchild
  rcases List.mem_cons.mp hchild with rfl | hparent
  · exact Nat.lt_irrefl _ hcount
  · exact hline hparent

/-- Making a scope leaves the others live. -/
theorem IsLive.after_child {scopes : Scopes} {scope : Scope} (hlive : scopes.IsLive scope)
    (parent : Scope) : (scopes.child parent).2.IsLive scope := by
  intro number hmem
  obtain ⟨hline, hcount⟩ := hlive number hmem
  exact ⟨hline, Nat.lt_succ_of_lt hcount⟩

end Scopes

end AgentSync
