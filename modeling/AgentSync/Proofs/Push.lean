import AgentSync.Proofs.World
import AgentSync.Sync.Push

namespace AgentSync

open AgentSync.Action

/-- The bundle in which rows of one table are pushed. -/
def rowBundle (agentName : String) (table : Table) (rows : List Row) : Bundle :=
  (Bundle.new agentName).addRows table rows

theorem rowBundle_rows (agentName : String) (table other : Table) (rows : List Row) :
    (rowBundle agentName table rows).rows other = if other = table then rows else [] := by
  unfold rowBundle Bundle.addRows Bundle.modify Bundle.new
  by_cases hother : other = table
  · simp [hother]
  · simp [hother]

theorem rowBundle_ids (agentName : String) (table : Table) (rows : List Row) :
    (rowBundle agentName table rows).ids table = rows.filterMap table.key? := by
  rw [Bundle.ids, rowBundle_rows, if_pos rfl]

/-- What is left of a push once the hub has answered: flagging the rows. -/
def flagPushed {ω : Type} (source : LocalSource ω) (table : Table) (keys : List String) :
    Except HubError Unit → Action (World ω) Error Nat
  | .ok () => do
    let _ ← source.markPushed table keys
    World.count (.rowsPushed table.name) keys.length
    return keys.length
  | .error (.missingParents refused) => do
    let _ ← source.markUnpushed table refused
    let saved := keys.filter fun id => !refused.contains id
    let _ ← source.markPushed table saved
    World.count (.rowsPushed table.name) saved.length
    throw (.conflict refused)
  | .error error => throw error.toError

/-- The hub is asked first, and the flags are set whatever it answers. -/
theorem pushRows_eq {ω : Type} (source : LocalSource ω) (hub : HubApi ω) (scope : Scope)
    (table : Table) {rows : List Row} (hrows : rows ≠ []) :
    pushRows source hub scope table rows =
      attempt (hub.push scope (rowBundle hub.agentName table rows)) >>=
        flagPushed source table (rows.filterMap table.key?) := by
  have hnonempty : rows.isEmpty = false := by simpa using hrows
  rw [← rowBundle_ids hub.agentName, pushRows, hnonempty, if_neg Bool.false_ne_true]
  refine bind_congr fun answer => ?_
  rcases answer with error | ⟨⟩
  · cases error <;> rfl
  · rfl

/-- A push of rows is one call to the hub, and the flags are set by its answer alone. -/
theorem runFrom_pushRows {ω : Type} (source : LocalSource ω) (hub : HubApi ω) (scope : Scope)
    (table : Table) {rows : List Row} (hrows : rows ≠ []) {world after : World ω}
    {answer : Except HubError Unit}
    (hpush : runFrom (hub.push scope (rowBundle hub.agentName table rows)) world =
      (answer, after)) :
    runFrom (pushRows source hub scope table rows) world =
      runFrom (flagPushed source table (rows.filterMap table.key?) answer) after := by
  have hattempt := runFrom_attempt (δ := Error)
    (hub.push scope (rowBundle hub.agentName table rows)) world
  rw [hpush] at hattempt
  rw [pushRows_eq source hub scope table hrows, runFrom_bind_of_ok hattempt]

end AgentSync
