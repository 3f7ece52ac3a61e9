import AgentSync.Proofs.Sweep.Effect
import AgentSync.Proofs.Sweep.Spell

namespace AgentSync

section

variable {agentName : String} {table : Table} {size : Int} {cursor : String}
  {before after : World Replica} {pushed : List (String × Row)}

/-- Between sides with the same keys a page has no missing row, so all of it agrees afterwards. -/
theorem PageStep.agrees (hstep : PageStep agentName table size cursor before pushed after)
    (hkeys : (before.inner.hubRows table).keys = (before.inner.held table).keys)
    {entry : String × Row} (hmem : entry ∈ pageAfter (before.inner.held table) cursor size) :
    ((after.inner.hubRows table).get? entry.1).map changeTime = some (changeTime entry.2) := by
  let page := pageAfter (before.inner.held table) cursor size
  let hubPage := pageAfter (before.inner.hubRows table) cursor size
  have hpushes : pushed = pagePush page hubPage := hstep.pushes
  by_cases hsame : versions page = versions hubPage
  · have hnone : pushed = [] := hpushes.trans (if_pos hsame)
    obtain ⟨row, hshown, htime⟩ := exists_mem_of_versions hsame hmem
    have hnot : entry.1 ∉ pushed.map Prod.fst := by simp [hnone]
    have hafter := hstep.get?_of_not_mem hnot
    rw [hafter, (mem_of_mem_pageAfter hshown).1, Option.map_some, htime]
  · have hpageKeys : page.map Prod.fst = hubPage.map Prod.fst := by
      rw [keys_pageAfter, keys_pageAfter, hkeys]
    have hmissing : (missingFrom page hubPage).isEmpty := by
      rw [List.isEmpty_iff, List.eq_nil_iff_forall_not_mem]
      intro other hother
      obtain ⟨hpage, hnot⟩ := mem_missingFrom.mp hother
      exact hnot (hpageKeys ▸ List.mem_map_of_mem hpage)
    have hall : pushed = page := by rw [hpushes, pagePush, if_neg hsame, if_pos hmissing]
    have hpushed : (entry.1, entry.2) ∈ pushed := hall ▸ hmem
    rw [hstep.get?_of_mem hpushed, Option.map_some]

/-- A hub with the agent's keys has them still after adopting rows of the agent. -/
theorem Adopts.keys_eq {hubBefore held hubAfter : Dict Row}
    (hadopts : Adopts hubBefore held hubAfter) (hkeys : hubBefore.keys = held.keys) :
    hubAfter.keys = held.keys := by
  refine Dict.keys_ext fun key => ⟨fun hmem => ?_, fun hmem => ?_⟩
  · rcases hadopts.mem_keys hmem with hhad | hheld
    · exact hkeys ▸ hhad
    · exact hheld
  · exact hadopts.keeps (hkeys ▸ hmem)

/-- A row on which both sides agree keeps its time of change. -/
theorem Swept.agrees_of_agrees (hswept : Swept agentName table size cursor before pushed after)
    {key : String} {row : Row} (hheld : (before.inner.held table).get? key = some row)
    (hagrees : ((before.inner.hubRows table).get? key).map changeTime = some (changeTime row)) :
    ((after.inner.hubRows table).get? key).map changeTime = some (changeTime row) := by
  rcases hswept.adopts key with hsame | ⟨other, hother, hafter⟩
  · rw [hsame, hagrees]
  · rw [hheld] at hother
    cases hother
    rw [hafter, Option.map_some]

/-- After a sweep between sides with the same keys, every row that it passed agrees. -/
theorem Swept.agrees (hswept : Swept agentName table size cursor before pushed after)
    (hkeys : (before.inner.hubRows table).keys = (before.inner.held table).keys)
    {entry : String × Row} (hmem : entry ∈ pending (before.inner.held table) cursor) :
    ((after.inner.hubRows table).get? entry.1).map changeTime = some (changeTime entry.2) := by
  induction hswept with
  | done hnone => simp [hnone] at hmem
  | last hall hstep => exact hstep.agrees hkeys (hall ▸ hmem)
  | more hlast hstep hrest ih =>
    have hmidKeys := hstep.adopts.keys_eq hkeys
    rw [← hstep.held] at hmidKeys
    rw [pending_eq_append hlast] at hmem
    rcases List.mem_append.mp hmem with hpage | hlater
    · have hheld := (mem_of_mem_pageAfter hpage).1
      rw [← hstep.held] at hheld
      exact hrest.agrees_of_agrees hheld (hstep.agrees hkeys hpage)
    · rw [← hstep.held] at hlater
      exact ih hmidKeys hlater

/-- Between sides that agree, a page is passed over. -/
theorem PageStep.settled (hstep : PageStep agentName table size cursor before pushed after)
    (hagree : (before.inner.hubRows table).map changeTime =
      (before.inner.held table).map changeTime) :
    pushed = [] ∧ after.inner.hubRows = before.inner.hubRows ∧
      after.inner.calls =
        before.inner.calls ++ [.status (.ofTable table cursor size)] := by
  have hsame : versions (pageAfter (before.inner.held table) cursor size) =
      versions (pageAfter (before.inner.hubRows table) cursor size) := by
    rw [versions_pageAfter, versions_pageAfter, hagree]
  have hnone : pushed = [] := hstep.pushes.trans (if_pos hsame)
  refine ⟨hnone, ?_, ?_⟩
  · funext other
    by_cases hother : other = table
    · rw [hother, hstep.hubRows, hnone]
      rfl
    · exact hstep.others other hother
  · rw [hstep.calls, hnone]
    rfl

/-- Between sides that agree, a sweep only asks for digests. -/
theorem Swept.settled (hswept : Swept agentName table size cursor before pushed after)
    (hagree : (before.inner.hubRows table).map changeTime =
      (before.inner.held table).map changeTime) :
    pushed = [] ∧ after.inner.hubRows = before.inner.hubRows ∧
      ∃ requests : List PageRequest,
        after.inner.calls = before.inner.calls ++ requests.map SideCall.status := by
  induction hswept with
  | done _ => exact ⟨rfl, rfl, [], (List.append_nil _).symm⟩
  | last _ hstep =>
    obtain ⟨hnone, hhub, hcalls⟩ := hstep.settled hagree
    exact ⟨hnone, hhub, [_], hcalls⟩
  | @more cursor _ _ _ _ _ _ _ _ hstep _ ih =>
    obtain ⟨hnone, hhub, hcalls⟩ := hstep.settled hagree
    have hmid := hagree
    rw [← hhub, ← hstep.held] at hmid
    obtain ⟨hnoneRest, hhubRest, requests, hcallsRest⟩ := ih hmid
    refine ⟨by rw [hnone, hnoneRest]; rfl, hhubRest.trans hhub,
      .ofTable table cursor size :: requests, ?_⟩
    rw [hcallsRest, hcalls, List.append_assoc]
    rfl

end

/-- Syncs a table a number of times. Answers what each sync answered. -/
def Reconciler.syncTimes {ω : Type} (reconciler : Reconciler ω) (rounds : Nat) (scope : Scope)
    (table : Table) : Nat → Bounded (World ω) Error (List Nat)
  | 0 => return []
  | times + 1 => do
    let pushed ← reconciler.sync rounds scope table
    let others ← reconciler.syncTimes rounds scope table times
    return pushed :: others

/-- Between sides that agree, no sync pushes or changes anything. -/
theorem syncTimes_of_settled {hash : List (String × String) → String}
    (hinj : Function.Injective hash) (agentName : String) (size : Int) {rounds : Nat}
    {scope : Scope} (table : Table) (times : Nat) :
    ∀ {world : World Replica}, world.scopes.IsLive scope →
      (world.inner.held table).entries.length < rounds →
      (world.inner.hubRows table).map changeTime = (world.inner.held table).map changeTime →
      ∃ after, Bounded.runFrom ((Replica.reconciler hash agentName size).syncTimes rounds scope
          table times) world = some (.ok (List.replicate times 0), after) ∧
        after.inner.hubRows = world.inner.hubRows ∧
        ∃ requests : List PageRequest,
          after.inner.calls = world.inner.calls ++ requests.map .status := by
  induction times with
  | zero =>
    intro world _ _ _
    exact ⟨world, rfl, rfl, [], (List.append_nil _).symm⟩
  | succ times ih =>
    intro world hlive hrounds hagree
    obtain ⟨pushed, mid, hrun, hswept⟩ := sync_runs hinj agentName size table hlive hrounds
    obtain ⟨hnone, hhub, requests, hcalls⟩ := hswept.settled hagree
    have hmidLive : mid.scopes.IsLive scope := hswept.scopes ▸ hlive.after_child scope
    have hmidHeld : mid.inner.held table = world.inner.held table := hswept.held
    have hmidAgree : (mid.inner.hubRows table).map changeTime =
        (mid.inner.held table).map changeTime := by
      rw [hhub, hmidHeld]
      exact hagree
    obtain ⟨after, hlater, hafterHub, others, hafterCalls⟩ :=
      ih hmidLive (hmidHeld ▸ hrounds) hmidAgree
    refine ⟨after, ?_, hafterHub.trans hhub, requests ++ others, ?_⟩
    · unfold Reconciler.syncTimes
      rw [Bounded.runFrom_bind_of_ok hrun, Bounded.runFrom_bind_of_ok hlater, hnone]
      rfl
    · rw [hafterCalls, hcalls, List.map_append, List.append_assoc]
      rfl

/-- If the hub has no key that the agent lacks, two syncs in a row leave it with exactly the
agent's keys and their times of change. Every later sync answers that it pushed nothing, leaves the
hub as it is, and only asks it for digests. -/
theorem sync_twice_converges (hash : List (String × String) → String) (agentName : String)
    (size : Int) (rounds : Nat) (scope : Scope) (table : Table) (world : World Replica)
    (hinj : Function.Injective hash) (hlive : world.scopes.IsLive scope)
    (hrounds : (world.inner.held table).entries.length < rounds)
    (hsubset : ∀ key ∈ (world.inner.hubRows table).keys, key ∈ (world.inner.held table).keys) :
    ∃ first mid second settled,
      Bounded.runFrom ((Replica.reconciler hash agentName size).sync rounds scope table) world =
        some (.ok first, mid) ∧
      Bounded.runFrom ((Replica.reconciler hash agentName size).sync rounds scope table) mid =
        some (.ok second, settled) ∧
      (settled.inner.hubRows table).map changeTime = (world.inner.held table).map changeTime ∧
      ∀ times, ∃ after,
        Bounded.runFrom ((Replica.reconciler hash agentName size).syncTimes rounds scope table
          times) settled = some (.ok (List.replicate times 0), after) ∧
        after.inner.hubRows = settled.inner.hubRows ∧
        ∃ requests : List PageRequest,
          after.inner.calls = settled.inner.calls ++ requests.map .status := by
  obtain ⟨pushed, mid, hrun, hswept⟩ := sync_runs hinj agentName size table hlive hrounds
  have hmidLive : mid.scopes.IsLive scope := hswept.scopes ▸ hlive.after_child scope
  have hmidHeld : mid.inner.held table = world.inner.held table := hswept.held
  -- The first sync leaves no key missing.
  have hmidKeys : (mid.inner.hubRows table).keys = (mid.inner.held table).keys := by
    refine Dict.keys_ext fun key => ⟨fun hmem => ?_, fun hmem => ?_⟩
    · rw [hmidHeld]
      exact (hswept.adopts.mem_keys hmem).elim (hsubset key) id
    · rw [hmidHeld] at hmem
      obtain ⟨entry, hentry, rfl⟩ := List.mem_map.mp hmem
      refine hswept.covers ?_
      rw [Replica.pending_empty]
      exact hentry
  obtain ⟨others, settled, hrunNext, hsweptNext⟩ :=
    sync_runs hinj agentName size table hmidLive (hmidHeld ▸ hrounds)
  have hsettledLive : settled.scopes.IsLive scope := hsweptNext.scopes ▸ hmidLive.after_child scope
  have hsettledHeld : settled.inner.held table = mid.inner.held table := hsweptNext.held
  have hsettledKeys : (settled.inner.hubRows table).keys = (mid.inner.held table).keys :=
    hsweptNext.adopts.keys_eq hmidKeys
  -- The second sync finds the keys equal and brings the times of change.
  have hagree : (settled.inner.hubRows table).map changeTime =
      (settled.inner.held table).map changeTime := by
    rw [hsettledHeld]
    refine Dict.map_eq_map_of_keys changeTime hsettledKeys fun entry hentry => ?_
    refine hsweptNext.agrees hmidKeys ?_
    rw [Replica.pending_empty]
    exact hentry
  refine ⟨pushed.length, mid, others.length, settled, hrun, hrunNext, ?_, fun times => ?_⟩
  · rw [hagree, hsettledHeld, hmidHeld]
  · exact syncTimes_of_settled hinj agentName size table times hsettledLive
      (hsettledHeld ▸ hmidHeld ▸ hrounds) hagree

/-- Three rows of which the hub has one, with an older time of change. -/
def behindReplica : Replica :=
  .ofTimes (.ofList [("a", "t2"), ("b", "t1"), ("c", "t1")]) (.ofList [("a", "t1")]) (by decide)

/-- In pages of two rows the stale row `a` shares its page with the missing row `b`. -/
theorem behind_converges : ∃ first mid second settled,
    Bounded.runFrom ((Replica.reconciler spell "agent-a" 2).sync 4 Scopes.none.root.1 .checks)
      behindReplica.world = some (.ok first, mid) ∧
    Bounded.runFrom ((Replica.reconciler spell "agent-a" 2).sync 4 Scopes.none.root.1 .checks)
      mid = some (.ok second, settled) ∧
    ((settled.inner.hubRows .checks).map changeTime).entries =
      [("a", "t2"), ("b", "t1"), ("c", "t1")] := by
  obtain ⟨first, mid, second, settled, hfirst, hsecond, hagree, _⟩ :=
    sync_twice_converges spell "agent-a" 2 4 Scopes.none.root.1 .checks behindReplica.world
      spell_injective behindReplica.isLive_world (by decide) (by decide)
  refine ⟨first, mid, second, settled, hfirst, hsecond, ?_⟩
  rw [hagree]
  decide

end AgentSync
