import AgentSync.Proofs.PushQueue.Effect
import AgentSync.Proofs.Sweep.Spell

namespace AgentSync.PushQueue

/-- Handles events one by one, each in a batch of its own. -/
def handleSingly {ω : Type} (source : LocalSource ω) (hub : HubApi ω) (scope : Scope) :
    List Event → StateM (World ω) (List FailedEvent)
  | [] => return []
  | event :: rest => do
    let failed ← handleBatch source hub scope [event]
    let others ← handleSingly source hub scope rest
    return failed ++ others

/-- Of a row that the agent does not have, only deletions leave a trace. -/
theorem foldl_leaves_none (before : Option Row) (works : List Work) :
    works.foldl (Work.leaves none) before = if .delete ∈ works then none else before := by
  induction works generalizing before with
  | nil => rfl
  | cons work rest ih =>
    rw [List.foldl_cons, ih]
    cases work <;> simp [Work.leaves]

/-- Of a row that the agent has, the last work decides. -/
theorem foldl_leaves_some (row : Row) (before : Option Row) (works : List Work) :
    works.foldl (Work.leaves (some row)) before =
      works.getLast?.elim before (Work.leaves (some row) before) := by
  rcases List.eq_nil_or_concat works with rfl | ⟨earlier, work, rfl⟩
  · rfl
  · rw [List.concat_eq_append, List.foldl_append, List.getLast?_concat]
    cases work <;> rfl

/-- A batch upserts a row before it deletes it, in whatever order its events came. -/
theorem filter_all (works : List Work) :
    Work.all.filter (· ∈ works) =
      (if .upsert ∈ works then [.upsert] else []) ++ if .delete ∈ works then [.delete] else [] := by
  by_cases hupsert : Work.upsert ∈ works <;> by_cases hdelete : Work.delete ∈ works <;>
    simp [Work.all, hupsert, hdelete]

/-- Work done in the order of the kinds leaves what it leaves in its own order, unless a row that
the agent has is deleted and later pushed again. -/
theorem leaves_filter_all_iff (held before : Option Row) (works : List Work) :
    (Work.all.filter (· ∈ works)).foldl (Work.leaves held) before =
        works.foldl (Work.leaves held) before ↔
      (held.isSome → .delete ∈ works → works.getLast? = some .delete) := by
  cases held with
  | none => simp [foldl_leaves_none, filter_all]
  | some row =>
    -- Only the last work counts, on both sides.
    rw [foldl_leaves_some row before works, filter_all]
    rcases hlast : works.getLast? with _ | _ | _
    · rw [List.getLast?_eq_none_iff.mp hlast]
      simp
    · have hupsert : Work.upsert ∈ works := List.mem_of_getLast? hlast
      by_cases hdelete : Work.delete ∈ works <;> simp [hupsert, hdelete, Work.leaves]
    · have hdelete : Work.delete ∈ works := List.mem_of_getLast? hlast
      simp [hdelete, Work.leaves, List.foldl_append]

section

variable (hash : List (String × String) → String) (agentName : String) (scope : Scope)

/-- One by one, events do the work they ask for in their order. -/
theorem handleSingly_runs (events : List Event) (world : World Replica) :
    ∃ after, (handleSingly (Replica.source hash) (Replica.hub hash agentName) scope events).run
        world = (events.filterMap refused?, after) ∧
      Done world (fun table key => worksOn table key events) after := by
  induction events generalizing world with
  | nil => exact ⟨world, rfl, rfl, fun _ _ => rfl⟩
  | cons event rest ih =>
    obtain ⟨between, hfirst, hwork⟩ := handleBatch_runs hash agentName scope [event] world
    obtain ⟨after, hrest, hdone⟩ := ih between
    refine ⟨after, ?_, ?_⟩
    · rw [handleSingly, StateT.run_bind, hfirst]
      change (List.filterMap refused? [event] ++ ((handleSingly _ _ scope rest).run between).1,
        ((handleSingly _ _ scope rest).run between).2) = _
      rw [hrest, ← List.filterMap_append, List.singleton_append]
    · have hsingle (table : Table) (key : String) :
          Work.all.filter (· ∈ worksOn table key [event]) = worksOn table key [event] := by
        rcases hwork : workOn? table key event with _ | _ | _ <;> simp [worksOn, hwork, Work.all]
      have hworks (table : Table) (key : String) : worksOn table key (event :: rest) =
          worksOn table key [event] ++ worksOn table key rest := by
        rw [worksOn, worksOn, worksOn, ← List.filterMap_append, List.singleton_append]
      simpa only [hsingle, hworks] using hwork.trans hdone

/-- The exact difference between events handled together and one by one, on a hub that takes
everything: the hub ends up with the same rows exactly when of every row that the agent has and that
is to be deleted, the deletion is what is asked for last. -/
theorem handleBatch_eq_handleSingly_iff (events : List Event) (world : World Replica) :
    ((handleBatch (Replica.source hash) (Replica.hub hash agentName) scope events).run
        world).2.inner.hubRows =
      ((handleSingly (Replica.source hash) (Replica.hub hash agentName) scope events).run
        world).2.inner.hubRows ↔
    ∀ table, ∀ key ∈ (world.inner.held table).keys, .delete ∈ worksOn table key events →
      (worksOn table key events).getLast? = some .delete := by
  obtain ⟨together, htogether, hbatch⟩ := handleBatch_runs hash agentName scope events world
  obtain ⟨singly, hsingly, hone⟩ := handleSingly_runs hash agentName scope events world
  rw [htogether, hsingly]
  have hkeys (table : Table) (key : String) :
      key ∈ (world.inner.held table).keys ↔ ((world.inner.held table).get? key).isSome := by
    rw [Dict.mem_keys_iff, Option.isSome_iff_exists]
  have hrows : together.inner.hubRows = singly.inner.hubRows ↔ ∀ table key,
      (together.inner.hubRows table).get? key = (singly.inner.hubRows table).get? key :=
    ⟨fun h _ _ => by rw [h], fun h => funext fun table => Dict.ext_get? fun key => h table key⟩
  simp only [hrows, hbatch.hubRows, hone.hubRows, leaves_filter_all_iff, hkeys]

end

def rowEvent (work : Work) (table : Table) (key : String) : Event :=
  .new default work.eventName (.ofList [("id", key), ("table", table.name)]) default

/-- A row `a` on both sides. -/
def sharedReplica : Replica :=
  .ofTimes (.ofList [("a", "t1")]) (.ofList [("a", "t1")]) (by decide)

/-- A row that was deleted and made again is gone from the hub after one batch, with no event
failed, and there after two. -/
theorem recreated_row_lost :
    ∃ together singly,
      (handleBatch (Replica.source spell) (Replica.hub spell "agent-a") Scopes.none.root.1
        [rowEvent .delete .checks "a", rowEvent .upsert .checks "a"]).run sharedReplica.world =
          ([], together) ∧
      (handleSingly (Replica.source spell) (Replica.hub spell "agent-a") Scopes.none.root.1
        [rowEvent .delete .checks "a", rowEvent .upsert .checks "a"]).run sharedReplica.world =
          ([], singly) ∧
      (together.inner.held .checks).get? "a" = some (versionRow "a" "t1") ∧
      (together.inner.hubRows .checks).get? "a" = none ∧
      (singly.inner.hubRows .checks).get? "a" = some (versionRow "a" "t1") :=
  ⟨_, _, rfl, rfl, rfl, rfl, rfl⟩

end AgentSync.PushQueue
