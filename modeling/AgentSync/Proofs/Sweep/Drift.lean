import AgentSync.Proofs.Sweep.Effect
import AgentSync.Proofs.Sweep.Spell

namespace AgentSync

/-- A row has the agent's time of change on the hub. -/
def IsFresh (hubRows : Dict Row) (entry : String × Row) : Prop :=
  ∃ row, hubRows.get? entry.1 = some row ∧ changeTime row = changeTime entry.2

/-- The keys after which a sweep over all rows has a page. -/
inductive StartsPage (rows : Dict Row) (size : Int) : String → Prop
  | first : StartsPage rows size ""
  | next {cursor key row} (hstarts : StartsPage rows size cursor)
      (hlast : (pageAfter rows cursor size).getLast? = some (key, row)) :
      StartsPage rows size key

/-- The page after a key has a row that the hub's page does not show, and a row that the hub's page
shows with another time of change. -/
def IsMixed (rows hubRows : Dict Row) (size : Int) (cursor : String) : Prop :=
  (∃ entry ∈ pageAfter rows cursor size,
    entry.1 ∉ (pageAfter hubRows cursor size).map Prod.fst) ∧
  ∃ entry ∈ pageAfter rows cursor size, ∃ row,
    (entry.1, row) ∈ pageAfter hubRows cursor size ∧ changeTime row ≠ changeTime entry.2

/-- A map that adopts rows and ends up as it began did not change on the way. -/
theorem Adopts.eq_of_eq {before held mid after : Dict Row} (hfirst : Adopts before held mid)
    (hsecond : Adopts mid held after) (hsame : after = before) : mid = before := by
  refine Dict.ext_get? fun key => ?_
  rcases hfirst key with hkept | ⟨row, hheld, hadopted⟩
  · exact hkept
  · rcases hsecond key with hkept | ⟨other, hother, hafter⟩
    · rw [← hkept, hsame]
    · rw [hheld] at hother
      cases hother
      rw [hadopted, ← hafter, hsame]

section

variable {agentName : String} {table : Table} {size : Int} {cursor : String}
  {before after : World Replica} {pushed : List (String × Row)}

/-- A page that is not mixed has fresh rows only, if its push changes nothing. -/
theorem PageStep.isFresh (hstep : PageStep agentName table size cursor before pushed after)
    (hsame : after.inner.hubRows table = before.inner.hubRows table)
    (hmixed : ¬IsMixed (before.inner.held table) (before.inner.hubRows table) size cursor)
    {entry : String × Row} (hmem : entry ∈ pageAfter (before.inner.held table) cursor size) :
    IsFresh (before.inner.hubRows table) entry := by
  let page := pageAfter (before.inner.held table) cursor size
  let hubPage := pageAfter (before.inner.hubRows table) cursor size
  by_cases hversions : versions page = versions hubPage
  · obtain ⟨row, hshown, htime⟩ := exists_mem_of_versions hversions hmem
    exact ⟨row, (mem_of_mem_pageAfter hshown).1, htime⟩
  by_cases hpushed : entry ∈ pushed
  · have hhub := hstep.get?_of_mem hpushed
    rw [hsame] at hhub
    exact ⟨entry.2, hhub, rfl⟩
  -- A row that is not pushed is shown by the hub, and some other row of the page is not.
  have hshown : entry.1 ∈ hubPage.map Prod.fst :=
    Classical.byContradiction fun hmissing =>
      hpushed (hstep.pushes ▸ mem_pagePush_of_not_mem hmem hmissing)
  have hmissing : missingFrom page hubPage ≠ [] := by
    intro hnone
    refine hpushed ?_
    rw [hstep.pushes, pagePush, if_neg hversions, if_pos (List.isEmpty_iff.mpr hnone)]
    exact hmem
  obtain ⟨other, hother⟩ := List.exists_mem_of_ne_nil _ hmissing
  obtain ⟨⟨key, row⟩, hrow, hkey⟩ := List.mem_map.mp hshown
  dsimp only at hkey
  subst hkey
  refine ⟨row, (mem_of_mem_pageAfter hrow).1, Classical.byContradiction fun hstale => ?_⟩
  exact hmixed ⟨⟨other, mem_missingFrom.mp hother⟩, entry, hmem, row, hrow, hstale⟩

/-- If no page is mixed, a sweep that changes nothing passes fresh rows only. -/
theorem Swept.isFresh (hswept : Swept agentName table size cursor before pushed after)
    (hstarts : StartsPage (before.inner.held table) size cursor)
    (hsame : after.inner.hubRows table = before.inner.hubRows table)
    (hmixed : ¬∃ start, StartsPage (before.inner.held table) size start ∧
      IsMixed (before.inner.held table) (before.inner.hubRows table) size start)
    {entry : String × Row} (hmem : entry ∈ pending (before.inner.held table) cursor) :
    IsFresh (before.inner.hubRows table) entry := by
  induction hswept with
  | done hnone => simp [hnone] at hmem
  | last hall hstep =>
    exact hstep.isFresh hsame (fun hpage => hmixed ⟨_, hstarts, hpage⟩) (hall ▸ hmem)
  | more hlast hstep hrest ih =>
    have hadopts := hrest.adopts
    rw [hstep.held] at hadopts
    have hmid := hstep.adopts.eq_of_eq hadopts hsame
    rw [pending_eq_append hlast] at hmem
    rcases List.mem_append.mp hmem with hpage | hlater
    · exact hstep.isFresh hmid (fun hpage => hmixed ⟨_, hstarts, hpage⟩) hpage
    · rw [hstep.held, hmid] at ih
      exact ih (.next hstarts hlast) hsame hmixed hlater

end

/-- The exact drift of a sync that leaves the hub's rows as they are: every row of the agent is held
there with its time of change exactly when no page of the sync is mixed. -/
theorem sync_unchanged_iff_not_mixed (hash : List (String × String) → String)
    (agentName : String) (size : Int) (rounds : Nat) (scope : Scope) (table : Table)
    (world : World Replica) (hinj : Function.Injective hash) (hlive : world.scopes.IsLive scope)
    (hrounds : (world.inner.held table).entries.length < rounds) :
    ∃ pushed after,
      Bounded.runFrom ((Replica.reconciler hash agentName size).sync rounds scope table) world =
        some (.ok pushed, after) ∧
      (after.inner.hubRows table = world.inner.hubRows table →
        ((∀ entry ∈ (world.inner.held table).entries,
          IsFresh (world.inner.hubRows table) entry) ↔
        ¬∃ cursor, StartsPage (world.inner.held table) (max size 1) cursor ∧
          IsMixed (world.inner.held table) (world.inner.hubRows table) (max size 1) cursor)) := by
  obtain ⟨pushed, after, hrun, hswept⟩ := sync_runs hinj agentName size table hlive hrounds
  refine ⟨pushed.length, after, hrun, fun hsame => ⟨?_, ?_⟩⟩
  · rintro hfresh ⟨cursor, _, _, entry, hmem, row, hrow, hstale⟩
    have hheld := Dict.get?_eq_some_iff.mp (mem_of_mem_pageAfter hmem).1
    obtain ⟨other, hother, htime⟩ := hfresh entry hheld
    rw [(mem_of_mem_pageAfter hrow).1] at hother
    cases hother
    exact hstale htime
  · intro hmixed entry hmem
    refine hswept.isFresh .first hsame hmixed ?_
    rw [Replica.pending_empty]
    exact hmem

/-- Rows `a` and `b`, and a hub on which `a` is stale and a row `aa` stands between the two. -/
def shiftedReplica : Replica :=
  .ofTimes (.ofList [("a", "t2"), ("b", "t1")]) (.ofList [("a", "t1"), ("aa", "t1"), ("b", "t1")])
    (by decide)

/-- In pages of two rows the hub's page ends before `b`, which is pushed as if it were missing. -/
theorem sync_shifted : ∃ after,
    Bounded.runFrom ((Replica.reconciler spell "agent-a" 2).sync 3 Scopes.none.root.1 .checks)
      shiftedReplica.world = some (.ok 1, after) ∧
    after.inner.hubRows .checks = shiftedReplica.hubRows .checks :=
  ⟨_, rfl, Dict.ext rfl⟩

theorem shifted_stale : ("a", versionRow "a" "t2") ∈ (shiftedReplica.held .checks).entries ∧
    ¬IsFresh (shiftedReplica.hubRows .checks) ("a", versionRow "a" "t2") := by
  refine ⟨.head _, ?_⟩
  rintro ⟨row, hrow, htime⟩
  have hhub : (shiftedReplica.hubRows .checks).get? "a" = some (versionRow "a" "t1") := rfl
  rw [hhub] at hrow
  cases hrow
  rw [changeTime_versionRow, changeTime_versionRow] at htime
  exact absurd htime (by decide)

/-- A sync can succeed, change nothing, and leave a row stale: its page pushes only what the hub's
page does not show, and the hub's page is filled by a row of which the agent knows nothing. -/
theorem unchanged_sync_leaves_stale : Function.Injective spell ∧
    shiftedReplica.world.scopes.IsLive Scopes.none.root.1 ∧ ∃ after,
      Bounded.runFrom ((Replica.reconciler spell "agent-a" 2).sync 3 Scopes.none.root.1 .checks)
        shiftedReplica.world = some (.ok 1, after) ∧
      after.inner.hubRows .checks = shiftedReplica.hubRows .checks ∧
      ∃ entry ∈ (shiftedReplica.held .checks).entries,
        ¬IsFresh (after.inner.hubRows .checks) entry := by
  obtain ⟨after, hrun, hsame⟩ := sync_shifted
  obtain ⟨hheld, hstale⟩ := shifted_stale
  refine ⟨spell_injective, shiftedReplica.isLive_world, after, hrun, hsame, _, hheld, ?_⟩
  rw [hsame]
  exact hstale

theorem shifted_has_mixed_page : ∃ cursor,
    StartsPage (shiftedReplica.held .checks) 2 cursor ∧
      IsMixed (shiftedReplica.held .checks) (shiftedReplica.hubRows .checks) 2 cursor := by
  obtain ⟨after, hrun, hsame⟩ := sync_shifted
  obtain ⟨pushed, other, hother, hexact⟩ :=
    sync_unchanged_iff_not_mixed spell "agent-a" 2 3 Scopes.none.root.1 .checks
      shiftedReplica.world spell_injective shiftedReplica.isLive_world (by decide)
  rw [hrun] at hother
  cases hother
  obtain ⟨hheld, hstale⟩ := shifted_stale
  refine Classical.byContradiction fun hnone => ?_
  exact hstale ((hexact hsame).mpr hnone _ hheld)

end AgentSync
