import AgentSync.Proofs.PushQueue.Groups
import AgentSync.Proofs.Sweep.Step
import AgentSync.Proofs.Table
import Mathlib.Data.List.Basic

namespace AgentSync.PushQueue

open AgentSync.Action

/-- What the hub holds of a row after some work, by what the agent holds of it and what the hub held
before. A row that the agent does not have any more is not pushed. -/
def Work.leaves (held : Option Row) (before : Option Row) : Work → Option Row
  | .upsert => held.or before
  | .delete => none

/-- The rows found under keys, with these keys. -/
def found (held : Dict Row) (keys : List String) : List (String × Row) :=
  keys.filterMap fun key => (held.get? key).map (key, ·)

/-- The rows that are found come in the order of the keys. -/
theorem keys_found (held : Dict Row) (keys : List String) :
    ((found held keys).map Prod.fst).Sublist keys := by
  have hkeys : (found held keys).map Prod.fst = keys.filter fun key => (held.get? key).isSome := by
    unfold found
    induction keys with
    | nil => rfl
    | cons key rest ih => cases hkey : held.get? key <;> simp [hkey, ih]
  rw [hkeys]
  exact List.filter_sublist

/-- Found rows that are put on a hub are held there; others stay as they were. -/
theorem get?_insertAll_found (held before : Dict Row) {keys : List String} (hnodup : keys.Nodup)
    (key : String) :
    (before.insertAll (found held keys)).get? key =
      if key ∈ keys then (held.get? key).or (before.get? key) else before.get? key := by
  have hmem {row : Row} : (key, row) ∈ found held keys ↔ key ∈ keys ∧ held.get? key = some row := by
    simp [found]
  cases hrow : held.get? key with
  | none =>
    have hother : key ∉ (found held keys).map Prod.fst := by
      intro hin
      obtain ⟨⟨_, row⟩, hentry, rfl⟩ := List.mem_map.mp hin
      rw [(hmem.mp hentry).2] at hrow
      cases hrow
    rw [Dict.get?_insertAll_of_not_mem _ _ hother, Option.none_or, ite_self]
  | some row =>
    by_cases hkey : key ∈ keys
    · rw [if_pos hkey, Option.some_or]
      exact Dict.get?_insertAll_of_mem _ _ (hnodup.sublist (keys_found held keys))
        (hmem.mpr ⟨hkey, hrow⟩)
    · have hother : key ∉ (found held keys).map Prod.fst :=
        fun hin => hkey ((keys_found held keys).subset hin)
      rw [if_neg hkey, Dict.get?_insertAll_of_not_mem _ _ hother]

/-- What a step of the queue does to the two sides: the agent's rows stay, and on each of the hub's
rows some work is done. -/
structure Done (before : World Replica) (work : Table → String → List Work)
    (after : World Replica) : Prop where
  localRows : after.inner.localRows = before.inner.localRows
  hubRows : ∀ table key, (after.inner.hubRows table).get? key =
    (work table key).foldl (Work.leaves ((before.inner.held table).get? key))
      ((before.inner.hubRows table).get? key)

/-- Work is done after other work, row by row. -/
theorem Done.trans {before between after : World Replica}
    {first second : Table → String → List Work}
    (hfirst : Done before first between) (hsecond : Done between second after) :
    Done before (fun table key => first table key ++ second table key) after where
  localRows := hsecond.localRows.trans hfirst.localRows
  hubRows table key := by
    have hheld : between.inner.held = before.inner.held := by
      unfold Replica.held
      rw [hfirst.localRows]
    rw [hsecond.hubRows, hfirst.hubRows, hheld, List.foldl_append]

/-- The same work on the rows of one table with given keys. -/
def workAt (work : Work) (table : Table) (keys : List String) (other : Table) (key : String) :
    List Work :=
  if other = table ∧ key ∈ keys then [work] else []

variable (hash : List (String × String) → String) (agentName : String) (scope : Scope)

/-- An upsert leaves on the hub the agent's rows of its keys, and nothing new where the agent has
none. -/
theorem upsert_runs (table : Table) {keys : List String} (hnodup : keys.Nodup)
    (world : World Replica) :
    ∃ after, runFrom (upsert (Replica.source hash) (Replica.hub hash agentName) scope table keys)
        world = (.ok (), after) ∧
      Done world (workAt .upsert table keys) after := by
  let held := world.inner.held table
  have hlook : runFrom ((Replica.source hash).rowsByKeys table keys) world =
      (.ok ((found held keys).map (·.2)), world) := by
    unfold Replica.source
    rw [Replica.runFrom_look, found, List.map_filterMap]
    simp [held, Function.comp_def]
  have hfiled : ∀ entry ∈ found held keys, table.key? entry.2 = some entry.1 := by
    intro entry hmem
    obtain ⟨key, -, hfound⟩ := List.mem_filterMap.mp hmem
    obtain ⟨row, hrow, rfl⟩ := Option.map_eq_some_iff.mp hfound
    exact ((world.inner.localRows table).filed _ (Dict.get?_eq_some_iff.mp hrow)).1
  have hpushed : ∃ count after, runFrom (pushRows (Replica.source hash)
      (Replica.hub hash agentName) scope table ((found held keys).map (·.2))) world =
        (.ok count, after) ∧
      after.inner.hubRows table = (world.inner.hubRows table).insertAll (found held keys) ∧
      (∀ other, other ≠ table → after.inner.hubRows other = world.inner.hubRows other) ∧
      after.inner.localRows = world.inner.localRows := by
    by_cases hnone : found held keys = []
    · rw [hnone]
      exact ⟨0, world, rfl, rfl, fun _ _ => rfl, rfl⟩
    · obtain ⟨after, hrun, hhub, hothers, hlocal, -, -⟩ :=
        runFrom_pushRows_filed hash agentName scope table hnone hfiled world
      exact ⟨_, after, hrun, hhub, hothers, hlocal⟩
  obtain ⟨count, after, hrun, hhub, hothers, hlocal⟩ := hpushed
  refine ⟨after, ?_, hlocal, fun other key => ?_⟩
  · rw [upsert, runFrom_bind_of_ok hlook, runFrom_bind, runFrom_attempt, hrun]
    rfl
  · by_cases hother : other = table
    · subst hother
      rw [hhub, get?_insertAll_found _ _ hnodup, workAt]
      by_cases hkey : key ∈ keys <;> simp [hkey, Work.leaves, held]
    · rw [hothers other hother, workAt, if_neg (fun h => hother h.1)]
      rfl

/-- A deletion takes the rows of its keys off the hub. -/
theorem delete_runs (table : Table) {keys : List String}
    (hfits : ∀ key ∈ keys, keyFits .delete table key = true) (world : World Replica) :
    ∃ after, runFrom (delete (Replica.hub hash agentName) scope table keys) world =
        (.ok (), after) ∧
      Done world (workAt .delete table keys) after := by
  have hids : (keys.filterMap table.keyRow?).filterMap table.key? = keys := by
    have hkeys := congrArg (List.filterMap id) (Table.map_key?_filterMap_keyRow? hfits)
    rwa [List.filterMap_map, List.filterMap_map, Function.id_comp, Function.id_comp,
      List.filterMap_some] at hkeys
  let bundle := rowBundle agentName table (keys.filterMap table.keyRow?)
  have hbundle (other : Table) : bundle.ids other = if other = table then keys else [] := by
    rw [Bundle.ids, rowBundle_rows]
    by_cases hother : other = table
    · rw [if_pos hother, if_pos hother, hother, hids]
    · rw [if_neg hother, if_neg hother, List.filterMap_nil]
  refine ⟨_, rfl, rfl, fun other key => ?_⟩
  change ((world.inner.hubRows other).eraseAll (bundle.ids other)).get? key = _
  rw [Dict.get?_eraseAll, hbundle, workAt]
  by_cases hother : other = table
  · by_cases hkey : key ∈ keys <;> simp [hother, hkey, Work.leaves]
  · simp [hother]

/-- A group's work is done on the rows that its events name. -/
theorem perform_runs (events : List Event) (group : Group) (world : World Replica) :
    ∃ after, runFrom (group.perform (Replica.source hash) (Replica.hub hash agentName) scope
        (keysOf (members events group))) world = (.ok (), after) ∧
      Done world (workAt group.work group.table (keysOf (members events group))) after := by
  obtain ⟨work, table⟩ := group
  cases work with
  | upsert => exact upsert_runs hash agentName scope table (nodup_keysOf _) world
  | delete =>
    exact delete_runs hash agentName scope table (fun key hkey => keyFits_of_mem_keysOf hkey) world

/-- The groups of a batch do their work in turn, and no event of theirs fails. -/
theorem handleGroups_runs (events : List Event) (groups : List Group) (world : World Replica) :
    ∃ after, (handleGroups (Replica.source hash) (Replica.hub hash agentName) scope events
        groups).run world = ([], after) ∧
      Done world (fun table key => groups.flatMap fun group =>
        workAt group.work group.table (keysOf (members events group)) table key) after := by
  induction groups generalizing world with
  | nil => exact ⟨world, rfl, rfl, fun _ _ => rfl⟩
  | cons group rest ih =>
    rw [run_handleGroups_cons]
    dsimp only
    by_cases hnone : members events group = []
    -- A group without events is passed over, and has no keys either.
    · rw [if_pos (List.isEmpty_iff.mpr hnone)]
      obtain ⟨after, hrun, hdone⟩ := ih world
      refine ⟨after, by rw [hrun]; rfl, ?_⟩
      have hkeys : keysOf (members events group) = [] := by rw [hnone]; rfl
      simpa [hkeys, workAt] using hdone
    · rw [if_neg (mt List.isEmpty_iff.mp hnone), run_handleGroup]
      obtain ⟨between, hfirst, hwork⟩ := perform_runs hash agentName scope events group world
      obtain ⟨after, hrest, hdone⟩ := ih between
      rw [hfirst]
      exact ⟨after, by rw [hrest]; rfl, by simpa only [List.flatMap_cons] using hwork.trans hdone⟩

/-- A row meets one kind of work at most once, in the group of its table. -/
theorem flatMap_workAt (events : List Event) (work : Work) (table : Table) (key : String) :
    (Table.all.flatMap fun other =>
      workAt work other (keysOf (members events ⟨work, other⟩)) table key) =
      if work ∈ worksOn table key events then [work] else [] := by
  have hkeys : key ∈ keysOf (members events ⟨work, table⟩) ↔ work ∈ worksOn table key events :=
    mem_keysOf_members
  cases table <;> simp [Table.all, workAt, hkeys]

/-- A batch does each kind of work that its events ask for on a row once. -/
theorem handleBatch_runs (events : List Event) (world : World Replica) :
    ∃ after, (handleBatch (Replica.source hash) (Replica.hub hash agentName) scope events).run
        world = (events.filterMap refused?, after) ∧
      Done world (fun table key => Work.all.filter (· ∈ worksOn table key events)) after := by
  obtain ⟨after, hrun, hdone⟩ :=
    handleGroups_runs hash agentName scope events Group.all world
  refine ⟨after, ?_, ?_⟩
  · rw [handleBatch, StateT.run_bind, hrun]
    exact congrArg (·, after) (List.append_nil _)
  · have hworks (table : Table) (key : String) :
        (Group.all.flatMap fun group =>
          workAt group.work group.table (keysOf (members events group)) table key) =
        Work.all.filter (· ∈ worksOn table key events) := by
      rw [Group.all, List.flatMap_assoc]
      simp only [List.flatMap_map, flatMap_workAt]
      simp [Work.all, List.filter_cons]
      split <;> simp
    simpa only [hworks] using hdone

end AgentSync.PushQueue
