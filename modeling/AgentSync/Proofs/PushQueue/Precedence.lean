import AgentSync.Proofs.PushQueue.Order
import AgentSync.Proofs.PushQueue.Report

namespace AgentSync.PushQueue

/-- The tables with rows that a call hands over for a kind of work. -/
def handedOver : Work → SideCall → List Table
  | .upsert, .push bundle | .delete, .delete bundle => bundle.tables.map Prod.fst
  | _, _ => []

def tablesIn (work : Work) (calls : List AnsweredCall) : List Table :=
  calls.flatMap (handedOver work ·.call)

def ParentsFirst (tables : List Table) : Prop :=
  tables.Pairwise fun earlier later => earlier.position ≤ later.position

def ChildrenFirst (tables : List Table) : Prop :=
  tables.Pairwise fun earlier later => later.position ≤ earlier.position

/-- The list of all tables follows their positions, parents before children. -/
theorem pairwise_position_all :
    Table.all.Pairwise fun earlier later => earlier.position < later.position := by decide

/-- Some of all tables in the order of the list have the parents first. -/
theorem parentsFirst_of_sublist {tables : List Table} (hsub : tables.Sublist Table.all) :
    ParentsFirst tables :=
  (pairwise_position_all.sublist hsub).imp Nat.le_of_lt

/-- Tables with the parents first have the children first only when there is nothing to order. -/
theorem childrenFirst_iff_of_sublist {tables : List Table} (hsub : tables.Sublist Table.all) :
    ChildrenFirst tables ↔ ∀ table ∈ tables, ∀ other ∈ tables, table = other := by
  have hsorted := pairwise_position_all.sublist hsub
  cases tables with
  | nil => simp [ChildrenFirst]
  | cons first rest =>
    cases rest with
    | nil => simp [ChildrenFirst]
    | cons second rest =>
      have hlt : first.position < second.position := List.rel_of_pairwise_cons hsorted (by simp)
      constructor
      · intro hreversed
        have hle : second.position ≤ first.position := List.rel_of_pairwise_cons hreversed (by simp)
        omega
      · intro hsame
        have heq : first = second := hsame first (by simp) second (by simp)
        rw [heq] at hlt
        omega

theorem eq_of_onlyTable? {bundle : Bundle} {table : Table}
    (honly : onlyTable? bundle = some table) :
    bundle.tables.map Prod.fst = [table] := by
  unfold onlyTable? at honly
  split at honly
  · next htables => simp_all
  · cases honly

theorem handedOver_of_group {call : SideCall} {group : Group}
    (hgroup : groupOfCall? call = some group) (work : Work) :
    handedOver work call =
      if work = group.work then (if isTransfer call then [group.table] else []) else [] := by
  cases call with
  | push bundle =>
    obtain ⟨table, honly, rfl⟩ := Option.map_eq_some_iff.mp hgroup
    cases work <;> simp [handedOver, isTransfer, eq_of_onlyTable? honly]
  | delete bundle =>
    obtain ⟨table, honly, rfl⟩ := Option.map_eq_some_iff.mp hgroup
    cases work <;> simp [handedOver, isTransfer, eq_of_onlyTable? honly]
  | _ => simp [handedOver, isTransfer]

/-- Calls of one group hand over its table, as often as they hand over anything. -/
theorem tablesIn_of_group {calls : List AnsweredCall} {group : Group}
    (hgroup : ∀ answered ∈ calls, groupOfCall? answered.call = some group) (work : Work) :
    tablesIn work calls = if work = group.work
      then List.replicate (calls.countP (isTransfer ·.call)) group.table else [] := by
  induction calls with
  | nil => simp [tablesIn]
  | cons first rest ih =>
    obtain ⟨hfirst, hrest⟩ := List.forall_mem_cons.mp hgroup
    have hcons : tablesIn work (first :: rest) =
        handedOver work first.call ++ tablesIn work rest := by simp [tablesIn]
    rw [hcons, handedOver_of_group hfirst, ih hrest, List.countP_cons]
    by_cases hwork : work = group.work
    · by_cases htransfer : isTransfer first.call = true
      · simp [hwork, htransfer, List.replicate_succ]
      · simp [hwork, htransfer]
    · simp [hwork]

theorem groupOfCall?_of_mem_callsOf {group : Group} {calls : List AnsweredCall}
    {answered : AnsweredCall} (hmem : answered ∈ callsOf group calls) :
    groupOfCall? answered.call = some group :=
  beq_iff_eq.mp (List.mem_filter.mp hmem).2

namespace Settled

variable {agentName : String} {events : List Event} {failed : List FailedEvent}
  {calls : List AnsweredCall}

/-- Either work goes through the tables in the order of all groups, once each. -/
theorem tablesIn_eq (h : Settled agentName events Group.all failed calls) (work : Work) :
    tablesIn work calls = Table.all.flatMap fun table =>
      List.replicate ((callsOf ⟨work, table⟩ calls).countP (isTransfer ·.call)) table := by
  have hgroup (group : Group) : tablesIn work (callsOf group calls) = _ :=
    tablesIn_of_group (fun _ => groupOfCall?_of_mem_callsOf) work
  have hgroups : tablesIn work calls =
      Group.all.flatMap fun group => tablesIn work (callsOf group calls) := by
    conv_lhs => rw [h.calls_eq]
    exact List.flatMap_assoc
  rw [hgroups]
  simp only [hgroup]
  cases work <;> simp [Group.all, Work.all, List.flatMap_map]

theorem tablesIn_sublist (h : Settled agentName events Group.all failed calls) (work : Work) :
    (tablesIn work calls).Sublist Table.all := by
  have honce : ∀ table ∈ Table.all,
      (List.replicate ((callsOf ⟨work, table⟩ calls).countP (isTransfer ·.call)) table).Sublist
        [table] := by
    intro table _
    exact (List.replicate_sublist_replicate table).mpr (h.reports.transfers ⟨work, table⟩)
  have hsub := List.Sublist.flatMap_right Table.all honce
  rw [← h.tablesIn_eq] at hsub
  simpa using hsub

/-- The rows of a table are deleted exactly if an event asks for it. -/
theorem mem_deleted_iff (h : Settled agentName events Group.all failed calls) {table : Table} :
    table ∈ tablesIn .delete calls ↔
      ∃ event ∈ events, AsksFor event ⟨.delete, table⟩ ∧ ¬Unusable event := by
  have hmembers : (∃ event ∈ events, AsksFor event ⟨.delete, table⟩ ∧ ¬Unusable event) ↔
      members events ⟨.delete, table⟩ ≠ [] := by
    simp [List.eq_nil_iff_forall_not_mem, mem_members, groupOf_eq_ok_iff_asksFor]
  have hcount : table ∈ tablesIn .delete calls ↔
      (callsOf ⟨.delete, table⟩ calls).countP (isTransfer ·.call) ≠ 0 := by
    rw [h.tablesIn_eq, List.mem_flatMap]
    constructor
    · rintro ⟨other, -, hmem⟩
      obtain ⟨hne, rfl⟩ := List.mem_replicate.mp hmem
      exact hne
    · exact fun hne => ⟨table, table.mem_all, List.mem_replicate.mpr ⟨hne, rfl⟩⟩
  rw [hmembers, hcount]
  constructor
  · intro hne hnone
    simp [h.passed _ (.inr hnone)] at hne
  · intro hsome
    obtain ⟨_, hserves⟩ := h.served _ (Group.mem_all _) hsome
    obtain ⟨answer, later, hcalls, -⟩ := hserves.request
    rw [hcalls, List.countP_cons]
    simp [Group.request, isTransfer]

end Settled

/-- The exact order of what a batch hands over, for all events and whatever the two sides answer.
Pushes go through the tables with the parents first, and so do deletions; these have the children
first exactly if the batch deletes rows of at most one table. -/
theorem handleBatch_deletes_childrenFirst_iff {ω : Type} (source : LocalSource ω) (hub : HubApi ω)
    (scope : Scope) (events : List Event) (world : World ω) :
    ∃ failed after,
      (handleBatch source.watched hub.watched scope events).run world.watched = (failed, after) ∧
      (handleBatch source hub scope events).run world = (failed, after.unwatched) ∧
      ParentsFirst (tablesIn .upsert after.calls) ∧
      ParentsFirst (tablesIn .delete after.calls) ∧
      (∀ table, table ∈ tablesIn .delete after.calls ↔
        ∃ event ∈ events, AsksFor event ⟨.delete, table⟩ ∧ ¬Unusable event) ∧
      (ChildrenFirst (tablesIn .delete after.calls) ↔
        ∀ event ∈ events, ∀ other ∈ events, ¬Unusable event → ¬Unusable other →
          ∀ table otherTable, AsksFor event ⟨.delete, table⟩ →
            AsksFor other ⟨.delete, otherTable⟩ → table = otherTable) := by
  obtain ⟨failed, after, hrun, hbare, hsettled⟩ :=
    handleBatch_settled source hub scope events world
  have hdeleted := hsettled.tablesIn_sublist .delete
  refine ⟨_, after, hrun, hbare, parentsFirst_of_sublist (hsettled.tablesIn_sublist .upsert),
    parentsFirst_of_sublist hdeleted, fun _ => hsettled.mem_deleted_iff, ?_⟩
  rw [childrenFirst_iff_of_sublist hdeleted]
  simp only [hsettled.mem_deleted_iff]
  constructor
  · intro hsame event hmem other hother husable hotherUsable table otherTable hasks hotherAsks
    exact hsame table ⟨event, hmem, hasks, husable⟩ otherTable
      ⟨other, hother, hotherAsks, hotherUsable⟩
  · rintro hsame table ⟨event, hmem, hasks, husable⟩ otherTable
      ⟨other, hother, hotherAsks, hotherUsable⟩
    exact hsame event hmem other hother husable hotherUsable table otherTable hasks hotherAsks

/-- A canary and a check that refers to it are on the hub, and no longer with the agent. -/
def familyReplica : Replica :=
  { sharedReplica with
    hubRows := fun
      | .canaries => .ofList [("c", .ofList [("id", .str "c")])]
      | .checks => .ofList [("k", .ofList [("id", .str "k"), ("canary_id", .str "c")])]
      | _ => .empty }

/-- The canary and its check are deleted in one batch, the canary first. -/
theorem parent_deleted_first :
    ∃ after,
      (handleBatch (Replica.source spell).watched (Replica.hub spell "agent-a").watched
        Scopes.none.root.1 [rowEvent .delete .checks "k", rowEvent .delete .canaries "c"]).run
          familyReplica.world.watched = ([], after) ∧
      tablesIn .delete after.calls = [.canaries, .checks] ∧
      ¬ChildrenFirst (tablesIn .delete after.calls) := by
  refine ⟨_, rfl, rfl, ?_⟩
  change ¬ChildrenFirst [.canaries, .checks]
  simp [ChildrenFirst, Table.position]

end AgentSync.PushQueue
