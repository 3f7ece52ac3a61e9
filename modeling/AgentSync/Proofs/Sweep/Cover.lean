import AgentSync.Proofs.Sweep.Effect
import AgentSync.Proofs.Sweep.Spell

namespace AgentSync

/-- A page as a sweep comes to it. -/
structure PageVisit where
  /-- The key after which the page starts. -/
  cursor : String
  /-- The rows that the hub holds as the page is compared. -/
  hubRows : Dict Row
  /-- The rows of the agent that are pushed. -/
  pushed : List (String × Row)

/-- The calls to the hub over a page. -/
def PageVisit.calls (visit : PageVisit) (agentName : String) (table : Table) (size : Int) :
    List SideCall :=
  pageCalls agentName table (.ofTable table visit.cursor size) visit.pushed

/-- Pages one after another: the hub holds for each what the pages before it have left. -/
inductive Visits : Dict Row → List PageVisit → Dict Row → Prop
  | nil {hubRows} : Visits hubRows [] hubRows
  | cons {hubRows visit visits after} (hheld : visit.hubRows = hubRows)
      (hrest : Visits (hubRows.insertAll visit.pushed) visits after) :
      Visits hubRows (visit :: visits) after

section

variable {agentName : String} {table : Table} {size : Int} {cursor : String}
  {before after : World Replica} {pushed : List (String × Row)}

/-- A sweep is a list of visits, and the calls of each follow from what it pushes. -/
theorem Swept.visits (hswept : Swept agentName table size cursor before pushed after) :
    ∃ visits : List PageVisit, pushed = visits.flatMap PageVisit.pushed ∧
      Visits (before.inner.hubRows table) visits (after.inner.hubRows table) ∧
      after.inner.calls = before.inner.calls ++
        visits.flatMap (·.calls agentName table size) ∧
      ∀ visit ∈ visits, visit.pushed = pagePush
        (pageAfter (before.inner.held table) visit.cursor size)
        (pageAfter visit.hubRows visit.cursor size) := by
  induction hswept with
  | done _ => exact ⟨[], rfl, .nil, (List.append_nil _).symm, by simp⟩
  | @last cursor world pushed after _ hstep =>
    refine ⟨[⟨cursor, world.inner.hubRows table, pushed⟩], by simp, .cons rfl ?_, ?_, ?_⟩
    · rw [← hstep.hubRows]
      exact .nil
    · simpa [PageVisit.calls] using hstep.calls
    · simpa using hstep.pushes
  | @more cursor world pushed mid _ _ others after _ hstep _ ih =>
    obtain ⟨visits, hothers, hcourse, hcalls, hpushes⟩ := ih
    refine ⟨⟨cursor, world.inner.hubRows table, pushed⟩ :: visits, by simp [hothers],
      .cons rfl ?_, ?_, ?_⟩
    · rw [← hstep.hubRows]
      exact hcourse
    · rw [hcalls, hstep.calls, List.append_assoc]
      rfl
    · rw [hstep.held] at hpushes
      exact List.forall_mem_cons.mpr ⟨hstep.pushes, hpushes⟩

/-- A sweep leaves the other tables alone. -/
theorem Swept.others (hswept : Swept agentName table size cursor before pushed after)
    {other : Table} (hother : other ≠ table) :
    after.inner.hubRows other = before.inner.hubRows other :=
  hswept.keeps fun _ _ _ _ hstep => hstep.others other hother

/-- A sweep leaves the agent's rows as they are. -/
theorem Swept.localRows (hswept : Swept agentName table size cursor before pushed after) :
    after.inner.localRows = before.inner.localRows :=
  hswept.keeps fun _ _ _ _ hstep => hstep.localRows

/-- A row that is not the agent's is left alone. -/
theorem Adopts.get?_of_not_mem {hubBefore held hubAfter : Dict Row}
    (hadopts : Adopts hubBefore held hubAfter) {key : String} (hforeign : key ∉ held.keys) :
    hubAfter.get? key = hubBefore.get? key := by
  rcases hadopts key with hsame | ⟨row, hheld, _⟩
  · exact hsame
  · exact absurd (Dict.mem_keys_iff.mpr ⟨row, hheld⟩) hforeign

end

/-- A sweep in a scope that is cancelled does nothing. -/
theorem sweep_of_cancelled {ω : Type} (reconciler : Reconciler ω) (rounds : Nat) (scope : Scope)
    (table : Table) (start : String) {world : World ω}
    (hcancelled : (world.sweeping scope).scopes.isCancelled (world.scopes.child scope).1 = true) :
    Bounded.runFrom (reconciler.sweep rounds scope table start) world =
      some (.error .cancelled, world.sweeping scope) := by
  have hguard : Bounded.runFrom (Bounded.ofAction (World.guard (world.scopes.child scope).1))
      (world.sweeping scope) = some (.error .cancelled, world.sweeping scope) := by
    rw [Bounded.runFrom_ofAction, World.runFrom_guard_of_cancelled hcancelled]
  unfold Reconciler.sweep
  rw [Bounded.runFrom_bind_of_ok (world.runFrom_child_scope scope),
    Bounded.runFrom_bind_of_error hguard]

/-- A sweep ends unless it runs out of rounds, and it answers unless its scope is cancelled. Then
every row of the agent after the start is on the hub, and rows that the agent does not hold and
other tables are as they were. The calls are those of the visited pages, one page after another:
each pushes rows of its own page as the agent holds them, and none if the digests of the two sides
agree, in which case nothing is pulled either. -/
theorem sweep_leaves_none_missing (hash : List (String × String) → String) (agentName : String)
    (size : Int) (rounds : Nat) (scope : Scope) (table : Table) (start : String)
    (world : World Replica) (hinj : Function.Injective hash)
    (hrounds : (pending (world.inner.held table) start).length < rounds) :
    ∃ outcome after,
      Bounded.runFrom ((Replica.reconciler hash agentName size).sweep rounds scope table start)
        world = some (outcome, after) ∧
      (world.scopes.IsLive scope → ∃ count, outcome = .ok count) ∧
      ∀ count, outcome = .ok count →
        (∀ key ∈ (world.inner.held table).keys, start < key →
          key ∈ (after.inner.hubRows table).keys) ∧
        (∀ key, key ∉ (world.inner.held table).keys →
          (after.inner.hubRows table).get? key = (world.inner.hubRows table).get? key) ∧
        (∀ other, other ≠ table → after.inner.hubRows other = world.inner.hubRows other) ∧
        after.inner.localRows = world.inner.localRows ∧
        ∃ visits : List PageVisit,
          Visits (world.inner.hubRows table) visits (after.inner.hubRows table) ∧
          after.inner.calls = world.inner.calls ++
            visits.flatMap (·.calls agentName table (max size 1)) ∧
          count = (visits.flatMap PageVisit.pushed).length ∧
          ∀ visit ∈ visits,
            visit.pushed.Sublist
              (pageAfter (world.inner.held table) visit.cursor (max size 1)) ∧
            ((digestBy hash
                (pageAfter (world.inner.held table) visit.cursor (max size 1))).hash =
              (digestBy hash (pageAfter visit.hubRows visit.cursor (max size 1))).hash →
              visit.calls agentName table (max size 1) =
                [.status (.ofTable table visit.cursor (max size 1))]) := by
  cases hcancelled : (world.sweeping scope).scopes.isCancelled (world.scopes.child scope).1 with
  | true =>
    refine ⟨_, _, sweep_of_cancelled _ rounds scope table start hcancelled, fun hlive => ?_, ?_⟩
    · have hopen := hlive.child.not_cancelled
      rw [World.sweeping, hopen] at hcancelled
      exact absurd hcancelled Bool.false_ne_true
    · intro count hanswer
      cases hanswer
  | false =>
    obtain ⟨pushed, after, hrun, hswept⟩ :=
      sweep_runs hinj agentName size table hcancelled hrounds
    obtain ⟨visits, hpushed, hcourse, hcalls, hpushes⟩ := hswept.visits
    refine ⟨_, after, hrun, fun _ => ⟨_, rfl⟩, fun count hcount => ?_⟩
    cases hcount
    refine ⟨?_, fun key => hswept.adopts.get?_of_not_mem, fun other => hswept.others,
      hswept.localRows, visits, hcourse, hcalls, hpushed ▸ rfl, fun visit hvisit => ⟨?_, ?_⟩⟩
    · intro key hkey hlt
      obtain ⟨row, hheld⟩ := Dict.mem_keys_iff.mp hkey
      have hmem : (key, row) ∈ pending ((world.sweeping scope).inner.held table) start :=
        mem_pending.mpr ⟨hheld, hlt⟩
      exact hswept.covers hmem
    · rw [hpushes visit hvisit]
      exact pagePush_sublist _ _
    · intro hdigests
      have hnone : visit.pushed = [] := (hpushes visit hvisit).trans (if_pos (hinj hdigests))
      rw [PageVisit.calls, hnone]
      rfl

/-- Three rows, and a hub on which the first two are stale, the third is missing, and a row `aa`
stands between the first two. -/
def crowdedReplica : Replica :=
  .ofTimes (.ofList [("a", "t2"), ("b", "t2"), ("c", "t1")])
    (.ofList [("a", "t1"), ("aa", "t1"), ("b", "t1")]) (by decide)

/-- From `a` on the hub's page is `aa` and `b`, so `c` counts as missing and is pushed alone. -/
theorem crowded_leaves_none_missing : ∃ count after,
    Bounded.runFrom
      ((Replica.reconciler spell "agent-a" 2).sweep 3 Scopes.none.root.1 .checks "a")
      crowdedReplica.world = some (.ok count, after) ∧
    "b" ∈ (after.inner.hubRows .checks).keys ∧ "c" ∈ (after.inner.hubRows .checks).keys ∧
    (after.inner.hubRows .checks).get? "aa" = some (versionRow "aa" "t1") := by
  obtain ⟨outcome, after, hrun, hanswers, hfacts⟩ :=
    sweep_leaves_none_missing spell "agent-a" 2 3 Scopes.none.root.1 .checks "a"
      crowdedReplica.world spell_injective (by decide)
  obtain ⟨count, rfl⟩ := hanswers crowdedReplica.isLive_world
  obtain ⟨hcovers, hforeign, _⟩ := hfacts count rfl
  refine ⟨count, after, hrun, ?_, ?_, ?_⟩
  · exact hcovers "b" (by decide) (by decide)
  · exact hcovers "c" (by decide) (by decide)
  · rw [hforeign "aa" (by decide)]
    rfl

end AgentSync
