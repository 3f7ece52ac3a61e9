import AgentSync.Proofs.Sweep.Effect
import AgentSync.Proofs.Sweep.Spell
import AgentSync.Time.Rfc3339

namespace AgentSync

/-- The time at which a row was changed, if it shows one. -/
def changedAt? (row : Row) : Option Instant := Instant.ofText? (changeTime row)

/-- A row was changed before the window that ends now. -/
def IsQuiet (now : Instant) (window : Duration) (row : Row) : Prop :=
  ∃ changed, changedAt? row = some changed ∧ changed.advance window < now

/-- A row was changed within the window that ends now. -/
def IsRecent (now : Instant) (window : Duration) (row : Row) : Prop :=
  ∃ changed, changedAt? row = some changed ∧ now ≤ changed.advance window

/-- The key of a quiet row that was changed last, or the empty one if no row is quiet. Of rows
changed at the same time it may be any. -/
inductive QuietCursor (rows : Dict Row) (now : Instant) (window : Duration) : String → Prop
  | start (hnone : ∀ entry ∈ rows.entries, ¬IsQuiet now window entry.2) :
      QuietCursor rows now window ""
  | after (entry : String × Row) {changed} (hmem : entry ∈ rows.entries)
      (hchanged : changedAt? entry.2 = some changed) (hquiet : changed.advance window < now)
      (hlast : ∀ other ∈ rows.entries, IsQuiet now window other.2 →
        ∃ earlier, changedAt? other.2 = some earlier ∧ earlier ≤ changed) :
      QuietCursor rows now window entry.1

/-- A row is quiet or recent, not both. -/
theorem IsQuiet.not_isRecent {now : Instant} {window : Duration} {row : Row}
    (hquiet : IsQuiet now window row) : ¬IsRecent now window row := by
  obtain ⟨changed, hchanged, hbefore⟩ := hquiet
  rintro ⟨other, hother, hwithin⟩
  obtain rfl : changed = other := Option.some.inj (hchanged.symm.trans hother)
  rcases hbefore with hsecond | ⟨hsecond, hnano⟩
  · rcases hwithin with hwithin | ⟨hwithin, _⟩
    · omega
    · omega
  · rcases hwithin with hwithin | ⟨_, hwithin⟩
    · omega
    · omega

/-- The row at the cursor is not recent. -/
theorem QuietCursor.ne {rows : Dict Row} {now : Instant} {window : Duration} {cursor : String}
    (hcursor : QuietCursor rows now window cursor) (hkeys : "" ∉ rows.keys)
    {entry : String × Row} (hmem : entry ∈ rows.entries) (hrecent : IsRecent now window entry.2) :
    entry.1 ≠ cursor := by
  cases hcursor with
  | start _ =>
    intro hempty
    exact hkeys (hempty ▸ List.mem_map_of_mem hmem)
  | @after last changed hlastMem hchanged hquiet _ =>
    intro hkey
    have hheld := Dict.get?_eq_some_iff.mpr hmem
    have hother := Dict.get?_eq_some_iff.mpr hlastMem
    rw [hkey, hother] at hheld
    have hrow : last.2 = entry.2 := Option.some.inj hheld
    have hlastQuiet : IsQuiet now window last.2 := ⟨changed, hchanged, hquiet⟩
    exact hlastQuiet.not_isRecent (hrow ▸ hrecent)

theorem Replica.empty_not_mem_held (replica : Replica) (table : Table) :
    "" ∉ (replica.held table).keys := by
  intro hempty
  obtain ⟨entry, hmem, hkey⟩ := List.mem_map.mp hempty
  exact ((replica.localRows table).filed entry hmem).2 hkey

section

variable {agentName : String} {table : Table} {size : Int} {cursor : String}
  {before after : World Replica} {pushed : List (String × Row)}

/-- A page leaves the keys before its start alone. -/
theorem PageStep.get?_of_le (hstep : PageStep agentName table size cursor before pushed after)
    {key : String} (hle : key ≤ cursor) :
    (after.inner.hubRows table).get? key = (before.inner.hubRows table).get? key := by
  refine hstep.get?_of_not_mem fun hpushed => ?_
  obtain ⟨entry, hmem, rfl⟩ := List.mem_map.mp hpushed
  rw [hstep.pushes] at hmem
  have hafter := (mem_of_mem_pageAfter ((pagePush_sublist _ _).subset hmem)).2
  exact absurd hafter (String.not_lt.mpr hle)

/-- A sweep leaves the keys before its start alone. -/
theorem Swept.get?_of_le (hswept : Swept agentName table size cursor before pushed after)
    {key : String} (hle : key ≤ cursor) :
    (after.inner.hubRows table).get? key = (before.inner.hubRows table).get? key := by
  induction hswept with
  | done _ => rfl
  | last _ hstep => exact hstep.get?_of_le hle
  | more hlast hstep _ ih =>
    have hnext := Std.le_of_lt (lt_of_getLast?_pageAfter hlast)
    rw [ih (String.le_trans hle hnext), hstep.get?_of_le hle]

end

/-- A sweep over recent changes is a sweep from the cursor that the agent's side answers. -/
theorem runFrom_syncAfter (hash : List (String × String) → String) (agentName : String)
    (size : Int) (rounds : Nat) (scope : Scope) (table : Table) (window : Duration)
    (world : World Replica) :
    Bounded.runFrom
        ((Replica.reconciler hash agentName size).syncAfter rounds scope table window) world =
      Bounded.runFrom ((Replica.reconciler hash agentName size).sweep rounds scope table
        (world.inner.cursor table window)) world := by
  have hcursor : Bounded.runFrom (Bounded.ofAction
      ((Replica.reconciler hash agentName size).source.syncAfterCursor table window)) world =
        some (.ok (world.inner.cursor table window), world) := rfl
  unfold Reconciler.syncAfter
  rw [Bounded.runFrom_bind_of_ok hcursor]

/-- The exact reach of a sweep over recent changes: it leaves every recent row on the hub exactly
when no recent row with a key before the cursor was missing there. -/
theorem syncAfter_covers_recent_iff (hash : List (String × String) → String) (agentName : String)
    (size : Int) (rounds : Nat) (scope : Scope) (table : Table) (window : Duration)
    (world : World Replica) (hinj : Function.Injective hash) (hlive : world.scopes.IsLive scope)
    (hrounds : (world.inner.held table).entries.length < rounds)
    (hcursor : QuietCursor (world.inner.held table) world.now window
      (world.inner.cursor table window)) :
    ∃ pushed after,
      Bounded.runFrom
        ((Replica.reconciler hash agentName size).syncAfter rounds scope table window) world =
          some (.ok pushed, after) ∧
      ((∀ entry ∈ (world.inner.held table).entries, IsRecent world.now window entry.2 →
          entry.1 ∈ (after.inner.hubRows table).keys) ↔
        ¬∃ entry ∈ (world.inner.held table).entries, IsRecent world.now window entry.2 ∧
          entry.1 < world.inner.cursor table window ∧
          entry.1 ∉ (world.inner.hubRows table).keys) := by
  let cursor := world.inner.cursor table window
  have hfewer : (pending (world.inner.held table) cursor).length < rounds :=
    Nat.lt_of_le_of_lt (List.length_filter_le _ _) hrounds
  obtain ⟨pushed, after, hrun, hswept⟩ := sweep_runs hinj agentName size table
    hlive.child.not_cancelled hfewer
  refine ⟨pushed.length, after, (runFrom_syncAfter ..).trans hrun, ⟨?_, ?_⟩⟩
  · rintro hcovers ⟨entry, hmem, hrecent, hbefore, hmissing⟩
    have hkept := hswept.get?_of_le (Std.le_of_lt hbefore)
    obtain ⟨row, hhub⟩ := Dict.mem_keys_iff.mp (hcovers entry hmem hrecent)
    exact hmissing (Dict.mem_keys_iff.mpr ⟨row, hkept.symm.trans hhub⟩)
  · intro hnone entry hmem hrecent
    by_cases hhub : entry.1 ∈ (world.inner.hubRows table).keys
    · exact hswept.adopts.keeps hhub
    -- A missing recent row is not the one at the cursor, so it lies after it.
    have hle : cursor ≤ entry.1 := String.not_lt.mp fun hbefore =>
      hnone ⟨entry, hmem, hrecent, hbefore, hhub⟩
    have hne := hcursor.ne (world.inner.empty_not_mem_held table) hmem hrecent
    have hpending : entry ∈ pending (world.inner.held table) cursor :=
      mem_pending.mpr ⟨Dict.get?_eq_some_iff.mpr hmem, Std.lt_of_le_of_ne hle hne.symm⟩
    exact hswept.covers hpending

/-- A row `a` that was changed half an hour ago and is missing on the hub, and a row `b` that has
been quiet for hours. -/
def editedReplica : Replica :=
  { Replica.ofTimes (.ofList [("a", "2026-10-01T12:00:00Z"), ("b", "2026-10-01T06:00:00Z")])
      (.ofList [("b", "2026-10-01T06:00:00Z")]) (by decide) with
    cursor := fun _ _ => "b" }

/-- The two sides at half past twelve. -/
def editedWorld : World Replica := { editedReplica.world with now := ⟨1790857800, 0⟩ }

theorem entries_editedReplica : (editedReplica.held .checks).entries =
    [("a", versionRow "a" "2026-10-01T12:00:00Z"), ("b", versionRow "b" "2026-10-01T06:00:00Z")] :=
  rfl

theorem changedAt?_edited :
    changedAt? (versionRow "a" "2026-10-01T12:00:00Z") = some ⟨1790856000, 0⟩ ∧
      changedAt? (versionRow "b" "2026-10-01T06:00:00Z") = some ⟨1790834400, 0⟩ := by
  simp only [changedAt?, changeTime_versionRow]
  decide

/-- Of an hour's window `a` lies inside. -/
theorem isRecent_edited : ("a", versionRow "a" "2026-10-01T12:00:00Z") ∈
      (editedReplica.held .checks).entries ∧
    IsRecent editedWorld.now (.ofSeconds 3600) (versionRow "a" "2026-10-01T12:00:00Z") :=
  ⟨.head _, _, changedAt?_edited.1, by decide⟩

/-- The quiet row is the one with the greater key, so the sweep starts behind the recent one. -/
theorem quietCursor_edited : QuietCursor (editedReplica.held .checks) editedWorld.now
    (.ofSeconds 3600) (editedWorld.inner.cursor .checks (.ofSeconds 3600)) := by
  obtain ⟨_, hrecent⟩ := isRecent_edited
  refine .after ("b", versionRow "b" "2026-10-01T06:00:00Z") (.tail _ (.head _))
    changedAt?_edited.2 (by decide) fun other hmem hquiet => ?_
  rw [entries_editedReplica, List.mem_cons, List.mem_singleton] at hmem
  rcases hmem with rfl | rfl
  · exact absurd hrecent hquiet.not_isRecent
  · exact ⟨_, changedAt?_edited.2, by decide⟩

/-- Nothing lies behind `b`, so the sweep ends with its first page and `a` stays missing. -/
theorem syncAfter_edited : ∃ after,
    Bounded.runFrom ((Replica.reconciler spell "agent-a" 2).syncAfter 3 Scopes.none.root.1 .checks
      (.ofSeconds 3600)) editedWorld = some (.ok 0, after) ∧
    "a" ∉ (after.inner.hubRows .checks).keys :=
  ⟨_, rfl, by decide⟩

/-- A sweep over the changes of the last hour can succeed and leave a row that was changed half an
hour ago missing on the hub. The start is chosen by the time of change, but from there the sweep
follows the keys. -/
theorem recent_row_passed_over : Function.Injective spell ∧
    editedWorld.scopes.IsLive Scopes.none.root.1 ∧
    QuietCursor (editedReplica.held .checks) editedWorld.now (.ofSeconds 3600)
      (editedWorld.inner.cursor .checks (.ofSeconds 3600)) ∧ ∃ after,
      Bounded.runFrom ((Replica.reconciler spell "agent-a" 2).syncAfter 3 Scopes.none.root.1
        .checks (.ofSeconds 3600)) editedWorld = some (.ok 0, after) ∧
      ∃ entry ∈ (editedReplica.held .checks).entries,
        IsRecent editedWorld.now (.ofSeconds 3600) entry.2 ∧
        entry.1 ∉ (after.inner.hubRows .checks).keys := by
  obtain ⟨after, hrun, hmissing⟩ := syncAfter_edited
  obtain ⟨hmem, hrecent⟩ := isRecent_edited
  exact ⟨spell_injective, editedReplica.isLive_world, quietCursor_edited, after, hrun, _, hmem,
    hrecent, hmissing⟩

theorem edited_missing_before_cursor : ∃ entry ∈ (editedReplica.held .checks).entries,
    IsRecent editedWorld.now (.ofSeconds 3600) entry.2 ∧
      entry.1 < editedWorld.inner.cursor .checks (.ofSeconds 3600) ∧
      entry.1 ∉ (editedReplica.hubRows .checks).keys := by
  obtain ⟨after, hrun, hmissing⟩ := syncAfter_edited
  obtain ⟨hmem, hrecent⟩ := isRecent_edited
  obtain ⟨pushed, other, hother, hexact⟩ :=
    syncAfter_covers_recent_iff spell "agent-a" 2 3 Scopes.none.root.1 .checks (.ofSeconds 3600)
      editedWorld spell_injective editedReplica.isLive_world (by decide) quietCursor_edited
  rw [hrun] at hother
  cases hother
  refine Classical.byContradiction fun hnone => ?_
  exact hmissing (hexact.mpr hnone _ hmem hrecent)

end AgentSync
