import AgentSync.Proofs.Push
import AgentSync.Proofs.Sweep.Spell
import AgentSync.Proofs.Writers.Drift

namespace AgentSync

open AgentSync.Action

namespace Contended

section

variable {table : Table} {key : String}

/-- The notes tell of a row that was read under a key, of the flag that was set for it afterwards,
and of what came in between; nothing was written to the key since. -/
def Acknowledges (table : Table) (key : String) (row : Row) (between notes : List Note) : Prop :=
  ∃ earlier rows keys later,
    notes = earlier ++ .read table rows :: between ++ .flagged table keys true :: later ∧
    row ∈ rows ∧ table.key? row = some key ∧ key ∈ keys ∧ writesTo table key later = []

/-- A row is not flagged as pushed, or its flag goes back to a version that was read: the hub has
that version, and what is held came in between. -/
def IsAccounted (table : Table) (key : String) (state : Contended) : Prop :=
  ¬state.IsPushed table key ∨ ∃ row between,
    Acknowledges table key row between state.notes ∧
    (state.hubRows table).get? key = some row ∧
    state.row? table key = some ((writesTo table key between).getLastD row)

/-- What writers do is accounted for. -/
theorem Drifts.isAccounted {passed : List Note} {before after : Contended}
    (hdrifts : Drifts table key passed before after) (hbefore : IsAccounted table key before) :
    IsAccounted table key after := by
  by_cases hpushed : after.IsPushed table key
  · obtain ⟨hnone, hflag⟩ := hdrifts.pushed hpushed
    obtain ⟨row, between, hacknowledges, hhub, hrow⟩ := hbefore.resolve_left (not_not_intro hflag)
    obtain ⟨earlier, rows, keys, later, hnotes, hread, hkey, hmarked, hlater⟩ := hacknowledges
    refine .inr ⟨row, between, ⟨earlier, rows, keys, later ++ passed, ?_, hread, hkey, hmarked, ?_⟩,
      hdrifts.hub.trans hhub, ?_⟩
    · rw [hdrifts.notes, hnotes, List.append_assoc]
      rfl
    · rw [writesTo_append, hlater, hnone]
      rfl
    · rw [hdrifts.row, hnone, hrow]
      rfl
  · exact .inl hpushed

/-- An action that sets no flag for the row keeps the account of it. -/
theorem Drifting.isAccounted {α : Type} {action : Action Contended Error α}
    (haction : Drifting table key action) {state : Contended}
    (hstate : IsAccounted table key state) : IsAccounted table key (runFrom action state).2 := by
  obtain ⟨value, passed, after, hrun, hdrifts⟩ := haction state
  rw [hrun]
  exact hdrifts.isAccounted hstate

/-- A row that is saved is the hub's afterwards. -/
theorem get?_take {state : Contended} {agentName : String} {rows : List Row}
    {verdict : PushVerdict} {row : Row} (hrow : row ∈ rows) (hkey : table.key? row = some key)
    (honly : ∀ other ∈ rows, table.key? other = some key → other = row)
    (hsaves : verdict.saves key = true) :
    ((state.take (rowBundle agentName table rows) verdict).hubRows table).get? key = some row := by
  unfold take
  dsimp only
  rw [rowBundle_rows, if_pos rfl]
  refine Dict.get?_insertAll_of_forall _ _ (fun other hother => ?_) (.inl ?_)
  · obtain ⟨held, hheld, hentry⟩ := List.mem_filterMap.mp (List.mem_filter.mp hother).1
    obtain ⟨held_key, hheldKey, heq⟩ := Option.map_eq_some_iff.mp hentry
    cases heq
    exact honly _ hheld hheldKey
  · refine List.mem_map.mpr ⟨(key, row), List.mem_filter.mpr ⟨?_, hsaves⟩, rfl⟩
    exact List.mem_filterMap.mpr ⟨row, hrow, by rw [hkey]; rfl⟩

/-- The hub does not touch rows that it does not save. -/
theorem drifts_take {state : Contended} {agentName : String} {other : Table} {rows : List Row}
    {verdict : PushVerdict}
    (hnot : table = other → key ∈ rows.filterMap other.key? → verdict.saves key = false) :
    Drifts table key [] state (state.take (rowBundle agentName other rows) verdict) where
  notes := (List.append_nil _).symm
  hub := by
    unfold take
    dsimp only
    refine Dict.get?_insertAll_of_not_mem _ _ fun hmem => ?_
    obtain ⟨⟨saved, row⟩, hentry, rfl⟩ := List.mem_map.mp hmem
    obtain ⟨hentry, hsaves⟩ := List.mem_filter.mp hentry
    obtain ⟨held, hheld, hkeyed⟩ := List.mem_filterMap.mp hentry
    obtain ⟨saved, hkey, heq⟩ := Option.map_eq_some_iff.mp hkeyed
    cases heq
    rw [rowBundle_rows] at hheld
    split at hheld
    · next htable =>
      subst htable
      rw [hnot rfl (List.mem_filterMap.mpr ⟨_, hheld, hkey⟩)] at hsaves
      exact Bool.false_ne_true hsaves
    · cases hheld
  row := rfl
  pushed hpushed := ⟨rfl, hpushed⟩

/-- A row that was read under a key is the hub's, and what is held came in since it was read. -/
def IsDelivered (table : Table) (key : String) (row : Row) (state : Contended) : Prop :=
  ∃ earlier rows between, state.notes = earlier ++ .read table rows :: between ∧
    row ∈ rows ∧ table.key? row = some key ∧
    (state.hubRows table).get? key = some row ∧
    state.row? table key = some ((writesTo table key between).getLastD row)

/-- What was delivered stays so while others write. -/
theorem Drifts.isDelivered {passed : List Note} {before after : Contended} {row : Row}
    (hdrifts : Drifts table key passed before after)
    (hbefore : IsDelivered table key row before) : IsDelivered table key row after := by
  obtain ⟨earlier, rows, between, hnotes, hread, hkey, hhub, hrow⟩ := hbefore
  refine ⟨earlier, rows, between ++ passed, ?_, hread, hkey, hdrifts.hub.trans hhub, ?_⟩
  · rw [hdrifts.notes, hnotes, List.append_assoc]
    rfl
  · rw [hdrifts.row, hrow, writesTo_append, List.getLastD_eq_getLast?, List.getLastD_eq_getLast?,
      List.getLast?_append]
    cases (writesTo table key passed).getLast? with
    | none => rfl
    | some last => rfl

/-- The flag that is set for a delivered row goes back to the version that was read. -/
theorem IsDelivered.setFlags {state : Contended} {row : Row} {keys : List String}
    (hstate : IsDelivered table key row state) (hmarked : key ∈ keys) :
    IsAccounted table key (state.setFlags table keys true).2 := by
  obtain ⟨earlier, rows, between, hnotes, hread, hkey, hhub, hrow⟩ := hstate
  refine .inr ⟨row, between, ⟨earlier, rows, keys, [], ?_, hread, hkey, hmarked, rfl⟩, hhub, ?_⟩
  · unfold Contended.setFlags
    rw [hnotes]
  · unfold row? at hrow ⊢
    unfold Contended.setFlags
    rw [Stock.get?_flag, if_pos ⟨rfl, hmarked⟩, Option.map_map]
    exact hrow

/-- Marking rows as pushed, whichever they are, is accounted for if those among them that are in
question were delivered. -/
theorem isAccounted_markPushed (picks : Picks) (owner : Uuid) {other : Table}
    {keys : List String} {state : Contended}
    (hmarked : table = other → key ∈ keys → ∃ row, IsDelivered table key row state)
    (hothers : ¬(table = other ∧ key ∈ keys) → IsAccounted table key state) :
    IsAccounted table key
      (runFrom ((⟨db picks, owner⟩ : RowStore Contended).markPushed other keys) state).2 := by
  by_cases hhit : table = other ∧ key ∈ keys
  · obtain ⟨rfl, hmem⟩ := hhit
    obtain ⟨row, hdelivered⟩ := hmarked rfl hmem
    have hnonempty : keys.isEmpty = false := by
      rw [List.isEmpty_eq_false_iff]
      exact List.ne_nil_of_mem hmem
    have hrun : (runFrom ((⟨db picks, owner⟩ : RowStore Contended).markPushed table keys) state).2 =
        (state.land.setFlags table keys true).2 := by
      unfold RowStore.markPushed Database.execute
      rw [hnonempty, if_neg Bool.false_ne_true,
        runFrom_bind_of_ok (runFrom_db picks (.markPushed table keys) state)]
      rfl
    rw [hrun]
    exact ((drifts_land state).isDelivered hdelivered).setFlags hmem
  · refine (drifting_markPushed picks owner fun htable hmem => hhit ⟨htable, hmem⟩).isAccounted ?_
    exact hothers hhit

/-- The state right after some rows of a table, none of them flagged, were read. -/
structure HasRead (table : Table) (rows : List Row) (state : Contended) : Prop where
  noted : ∃ earlier, state.notes = earlier ++ [.read table rows]
  held : ∀ row ∈ rows, ∀ key, table.key? row = some key →
    state.stock.get? table key = some ⟨row, false⟩

/-- A row that was read as unpushed is not flagged by then. -/
theorem HasRead.not_isPushed {rows : List Row} {state : Contended}
    (hread : HasRead table rows state) (hmem : key ∈ rows.filterMap table.key?) :
    ¬state.IsPushed table key := by
  obtain ⟨row, hrow, hkey⟩ := List.mem_filterMap.mp hmem
  rintro ⟨other, hother⟩
  rw [hread.held row hrow key hkey] at hother
  cases hother

/-- A row that was read and that the hub saves is delivered. -/
theorem HasRead.isDelivered {rows : List Row} {state : Contended}
    (hread : HasRead table rows state) (agentName : String) {verdict : PushVerdict}
    (hmem : key ∈ rows.filterMap table.key?) (hsaves : verdict.saves key = true) :
    ∃ row, IsDelivered table key row
      (state.take (rowBundle agentName table rows) verdict) := by
  obtain ⟨row, hrow, hkey⟩ := List.mem_filterMap.mp hmem
  obtain ⟨earlier, hnotes⟩ := hread.noted
  have hheld := hread.held row hrow key hkey
  have honly : ∀ other ∈ rows, table.key? other = some key → other = row := by
    intro other hother hotherKey
    have hsame := hread.held other hother key hotherKey
    rw [hheld] at hsame
    cases hsame
    rfl
  refine ⟨row, earlier, rows, [], hnotes, hrow, hkey, get?_take hrow hkey honly hsaves, ?_⟩
  change (state.stock.get? table key).map Stored.row = some row
  rw [hheld]
  rfl

/-- What the hub does to rows is accounted for as long as no flag is set. -/
theorem HasRead.isAccounted_take {other : Table} {rows : List Row} {state : Contended}
    (hread : HasRead other rows state) (agentName : String) {verdict : PushVerdict}
    (hstate : IsAccounted table key state)  :
    IsAccounted table key (state.take (rowBundle agentName other rows) verdict) := by
  by_cases hmem : table = other ∧ key ∈ rows.filterMap other.key?
  · obtain ⟨rfl, hmem⟩ := hmem
    exact .inl (hread.not_isPushed hmem)
  · refine (drifts_take fun htable hkey => ?_).isAccounted hstate
    exact absurd ⟨htable, hkey⟩ hmem

theorem keeps_count_bind {ε α : Type} (metric : Metric) (amount : Nat)
    {next : Action (World Contended) ε α} (hnext : Keeps World.inner next) :
    Keeps World.inner (World.count metric amount >>= fun _ => next) :=
  .bind (fun _ => rfl) fun _ => hnext

/-- One step: rows that were read are pushed and flagged, and all flags are accounted for again. -/
theorem isAccounted_pushRows (picks : Picks) (owner : Uuid) (others : HubApi Contended)
    (scope : Scope) {other : Table} {rows : List Row} {world : World Contended}
    (hread : HasRead other rows world.inner) (hworld : IsAccounted table key world.inner) :
    IsAccounted table key (runFrom (pushRows (source picks owner) (hub others) scope other rows)
      world).2.inner := by
  by_cases hrows : rows = []
  · subst hrows
    exact hworld
  let verdict := world.inner.verdicts.headD .saved
  let bundle := rowBundle others.agentName other rows
  let taken : World Contended := { world with inner := world.inner.take bundle verdict }
  have hpush : runFrom ((hub others).push scope bundle) world = (verdict.answer, taken) := rfl
  have htaken : IsAccounted table key taken.inner := hread.isAccounted_take _ hworld
  rw [runFrom_pushRows _ _ scope other hrows hpush]
  cases hverdict : verdict with
  | saved =>
    rw [PushVerdict.answer, flagPushed,
      Keeps.after_bind _ fun _ => keeps_count_bind _ _ (.pure _ _)]
    refine isAccounted_markPushed picks owner (fun htable hmem => ?_) fun _ => htaken
    subst htable
    exact hread.isDelivered _ hmem (by rw [hverdict]; rfl)
  | refused refused =>
    have hdrifting : Drifting table key _ := drifting_markUnpushed picks owner other refused
    obtain ⟨value, passed, after, hrun, hdrifts⟩ := hdrifting taken.inner
    have hflags : runFrom ((source picks owner).markUnpushed other refused) taken =
        (.ok value, { taken with inner := after }) := by
      unfold source RowStore.source
      rw [World.runFrom_inside, hrun]
    rw [PushVerdict.answer, flagPushed, runFrom_bind_of_ok hflags,
      Keeps.after_bind _ fun _ => keeps_count_bind _ _ (.throw _ _)]
    refine isAccounted_markPushed picks owner (fun htable hmem => ?_) fun _ =>
      hdrifts.isAccounted htaken
    subst htable
    obtain ⟨hmem, hkept⟩ := List.mem_filter.mp hmem
    have hsaves : verdict.saves key = true := by rw [hverdict]; exact hkept
    obtain ⟨row, hdelivered⟩ := hread.isDelivered _ hmem hsaves
    exact ⟨row, hdrifts.isDelivered hdelivered⟩
  | failed error hother saved =>
    cases error with
    | missingParents keys => exact absurd rfl (hother keys)
    | _ => exact htaken

/-- Rows are read back as they are held. -/
theorem mapM_ofRow (rows : List Row) : (rows.map Json.ofRow).mapM Json.toRow? = some rows := by
  induction rows with
  | nil => rfl
  | cons row rest ih =>
    have hrow : Json.toRow? (Json.ofRow row) = some row :=
      congrArg some (Dict.ext (Dict.entries_ofList row.sorted))
    rw [List.map_cons, List.mapM_cons, hrow, ih]
    rfl

/-- A request for rows that the hub does not have is answered by those that the database picks. -/
theorem runFrom_unpushedRows (picks : Picks) (owner : Uuid) (other : Table) (limit : Int)
    (world : World Contended) :
    let rows := (picks.choose world.inner.land.stock other owner (max limit 1)).map (·.2.row)
    runFrom ((source picks owner).unpushedRows other limit) world =
      (.ok rows, { world with inner := (world.inner.land.readRows other rows).2 }) := by
  intro rows
  have hquery : runFrom ((⟨db picks, owner⟩ : RowStore Contended).unpushedRows other limit)
      world.inner = (.ok rows, (world.inner.land.readRows other rows).2) := by
    unfold RowStore.unpushedRows Database.queryAll
    rw [runFrom_bind_of_ok (runFrom_db picks _ _)]
    change runFrom (Database.decode ((rows.map Json.ofRow).mapM Json.toRow?)) _ = _
    rw [mapM_ofRow]
    rfl
  unfold source RowStore.source
  rw [World.runFrom_inside, hquery]

/-- Rows that the hub does not have are read as they are held. -/
theorem unpushedRows_reads (table : Table) (key : String) (picks : Picks) (owner : Uuid)
    (other : Table) (limit : Int) (world : World Contended) :
    ∃ rows passed after,
      runFrom ((source picks owner).unpushedRows other limit) world =
        (.ok rows, { world with inner := after }) ∧
      HasRead other rows after ∧ Drifts table key passed world.inner after := by
  refine ⟨_, _, _, runFrom_unpushedRows picks owner other limit world, ⟨⟨_, rfl⟩, ?_⟩,
    (drifts_land world.inner).trans (drifts_readRows _ other _)⟩
  · intro row hrow key hkey
    obtain ⟨⟨filed, stored⟩, hentry, rfl⟩ := List.mem_map.mp hrow
    obtain ⟨hheld, hflag⟩ := picks.unpushed _ other owner _ _ hentry
    have hfiled := world.inner.land.stock.filed other _ hheld
    rw [hkey] at hfiled
    cases hfiled
    cases stored
    cases hflag
    exact Dict.get?_eq_some_iff.mpr hheld

@[simp] theorem reconciler_source (picks : Picks) (owner : Uuid) (others : HubApi Contended)
    (size : Int) : (reconciler picks owner others size).source = source picks owner := rfl

@[simp] theorem reconciler_hub (picks : Picks) (owner : Uuid) (others : HubApi Contended)
    (size : Int) : (reconciler picks owner others size).hub = hub others := rfl

/-- The loop: whatever lands on the way, all flags stay accounted for. -/
theorem isAccounted_pushUnpushed (picks : Picks) (owner : Uuid) (others : HubApi Contended)
    (size : Int) (scope : Scope) (other : Table) (batch : Int) (rounds : Nat) :
    ∀ (total : Nat) {world after : World Contended} {result : Except Error Nat},
      Bounded.runFrom ((reconciler picks owner others size).pushUnpushed scope other batch rounds
        total) world = some (result, after) →
      IsAccounted table key world.inner → IsAccounted table key after.inner := by
  induction rounds with
  | zero => intro total world after result hrun; cases hrun
  | succ rounds ih =>
    intro total world after result hrun hworld
    unfold Reconciler.pushUnpushed at hrun
    dsimp only at hrun
    rw [reconciler_source, reconciler_hub] at hrun
    by_cases hcancelled : world.scopes.isCancelled scope = true
    · have hguard := Bounded.runFrom_ofAction (World.guard scope) world
      rw [World.runFrom_guard_of_cancelled hcancelled] at hguard
      rw [Bounded.runFrom_bind_of_error hguard] at hrun
      cases hrun
      exact hworld
    have hguard := Bounded.runFrom_ofAction (World.guard scope) world
    rw [World.runFrom_guard (Bool.eq_false_iff.mpr hcancelled)] at hguard
    rw [Bounded.runFrom_bind_of_ok hguard] at hrun
    obtain ⟨rows, passed, reading, hreads, hread, hdrifts⟩ :=
      unpushedRows_reads table key picks owner other (max batch 1) world
    have hrows := Bounded.runFrom_ofAction ((source picks owner).unpushedRows other (max batch 1))
      world
    rw [hreads] at hrows
    rw [Bounded.runFrom_bind_of_ok hrows] at hrun
    have hreading := hdrifts.isAccounted hworld
    split at hrun
    · cases hrun
      exact hreading
    let holding : World Contended := { world with inner := reading }
    have hpushed : IsAccounted table key (runFrom (pushRows (source picks owner) (hub others) scope
        other rows) holding).2.inner :=
      isAccounted_pushRows picks owner others scope hread hreading
    have hattempt := Bounded.runFrom_ofAction (attempt (δ := Error)
      (pushRows (source picks owner) (hub others) scope other rows)) holding
    rw [runFrom_attempt] at hattempt
    rw [Bounded.runFrom_bind_of_ok hattempt] at hrun
    split at hrun
    · cases hrun
      exact hpushed
    · split at hrun
      · cases hrun
        exact hpushed
      · exact ih _ hrun hpushed
    · split at hrun
      · cases hrun
        exact hpushed
      · cases hrun
        exact hpushed

/-- The exact meaning of a flag that is set while others write and whatever the hub answers: the hub
has the version that was read, and the agent holds the last one that landed between the reading and
the flag, if any did. The two are one version exactly if that last one is what had been read. -/
theorem pushUnpushed_acknowledges_iff (picks : Picks) (owner : Uuid) (others : HubApi Contended)
    (size : Int) (scope : Scope) (other : Table) (batch : Int) (rounds total : Nat)
    (world : World Contended) (stock : Stock) (hubRows : Table → Dict Row)
    (due : List (List Write)) (verdicts : List PushVerdict) {after : World Contended}
    {result : Except Error Nat} {before now : Row}
    (hrun : Bounded.runFrom ((reconciler picks owner others size).pushUnpushed scope other batch
      rounds total) { world with inner := start stock hubRows due verdicts } =
        some (result, after))
    (hbefore : stock.get? table key = some ⟨before, false⟩)
    (hafter : after.inner.stock.get? table key = some ⟨now, true⟩) :
    ∃ row between, Acknowledges table key row between after.inner.notes ∧
      (after.inner.hubRows table).get? key = some row ∧
      now = (writesTo table key between).getLastD row ∧
      ((after.inner.hubRows table).get? key = some now ↔
        ∀ last ∈ (writesTo table key between).getLast?, last = row) := by
  have hstart : IsAccounted table key (start stock hubRows due verdicts) := by
    refine .inl ?_
    rintro ⟨row, hrow⟩
    rw [start, hbefore] at hrow
    cases hrow
  have haccounted := isAccounted_pushUnpushed picks owner others size scope other batch rounds total
    hrun hstart
  obtain ⟨row, between, hacknowledges, hhub, hrow⟩ :=
    haccounted.resolve_left (not_not_intro ⟨now, hafter⟩)
  have hnow : now = (writesTo table key between).getLastD row := by
    unfold row? at hrow
    rw [hafter] at hrow
    exact Option.some.inj hrow
  refine ⟨row, between, hacknowledges, hhub, hnow, ?_⟩
  rw [hhub, hnow, Option.some_inj, List.getLastD_eq_getLast?]
  cases (writesTo table key between).getLast? with
  | none => simp
  | some last => simp [eq_comm]

end

/-- Rows that are not flagged are read in the order of their keys. -/
def inKeyOrder : Picks where
  choose stock table _ limit :=
    ((stock.rows table).entries.filter fun entry => !entry.2.isPushed).take limit.toNat
  unpushed stock table owner limit entry hmem := by
    obtain ⟨hheld, hflag⟩ := List.mem_filter.mp (List.mem_of_mem_take hmem)
    exact ⟨hheld, by simpa using hflag⟩

/-- A hub of which nothing but pushes is asked. -/
def pushesOnly : HubApi Contended where
  agentName := "agent-a"
  push _ _ := throw .cancelled
  delete _ _ := throw .cancelled
  status _ _ := throw .cancelled
  pullIds _ _ := throw .cancelled

/-- No rows at all. -/
def noStock : Stock := ⟨fun _ => .empty, fun _ _ hmem => nomatch hmem⟩

/-- A version of the check `a`. -/
def writeOfA (time : String) : Write :=
  ⟨.checks, "a", versionRow "a" time, key?_versionRow "a" time⟩

/-- An agent with a first version of `a`. A second one lands after the first was read. -/
def overwritten : Contended :=
  start (noStock.put (writeOfA "t1")) (fun _ => .empty) [[], [writeOfA "t2"]] [.saved]

/-- A world in which these rows are pushed. -/
def overwrittenWorld : World Contended := ⟨default, 0, Scopes.none.root.2, default, overwritten⟩

/-- The row is replaced after it was read, and flagged all the same. -/
theorem overwritten_runs : ∃ after,
    Bounded.runFrom ((reconciler inKeyOrder default pushesOnly 500).pushUnpushed
      Scopes.none.root.1 .checks 10 2 0) overwrittenWorld = some (.ok 1, after) ∧
    after.inner.stock.get? .checks "a" = some ⟨versionRow "a" "t2", true⟩ ∧
    (after.inner.hubRows .checks).get? "a" = some (versionRow "a" "t1") :=
  ⟨_, rfl, rfl, rfl⟩

theorem versionRow_ne : versionRow "a" "t1" ≠ versionRow "a" "t2" := by
  intro heq
  have htime := changeTime_versionRow "a" "t1"
  rw [heq, changeTime_versionRow] at htime
  exact absurd htime (by decide)

/-- The second version is flagged as pushed, and the hub has the first. -/
theorem overwritten_flagged :
    overwritten.stock.get? .checks "a" = some ⟨versionRow "a" "t1", false⟩ ∧ ∃ after,
      Bounded.runFrom ((reconciler inKeyOrder default pushesOnly 500).pushUnpushed
        Scopes.none.root.1 .checks 10 2 0) overwrittenWorld = some (.ok 1, after) ∧
      after.inner.stock.get? .checks "a" = some ⟨versionRow "a" "t2", true⟩ ∧
      (after.inner.hubRows .checks).get? "a" ≠ some (versionRow "a" "t2") := by
  obtain ⟨after, hrun, hafter, hhub⟩ := overwritten_runs
  refine ⟨rfl, after, hrun, hafter, ?_⟩
  rw [hhub]
  exact fun heq => versionRow_ne (Option.some.inj heq)

/-- The flag goes back to the first version, and the second was written in between. -/
theorem overwritten_written_between : ∃ after between,
    Bounded.runFrom ((reconciler inKeyOrder default pushesOnly 500).pushUnpushed
      Scopes.none.root.1 .checks 10 2 0) overwrittenWorld = some (.ok 1, after) ∧
    overwritten.stock.get? .checks "a" = some ⟨versionRow "a" "t1", false⟩ ∧
    after.inner.stock.get? .checks "a" = some ⟨versionRow "a" "t2", true⟩ ∧
    Acknowledges .checks "a" (versionRow "a" "t1") between after.inner.notes ∧
    (writesTo .checks "a" between).getLast? = some (versionRow "a" "t2") := by
  obtain ⟨after, hrun, hafter, hhub⟩ := overwritten_runs
  obtain ⟨row, between, hacknowledges, hrow, hnow, -⟩ :=
    pushUnpushed_acknowledges_iff inKeyOrder default pushesOnly 500 Scopes.none.root.1 .checks 10 2
      0 overwrittenWorld (noStock.put (writeOfA "t1")) (fun _ => .empty) [[], [writeOfA "t2"]]
      [.saved] hrun rfl hafter
  rw [hhub] at hrow
  cases hrow
  refine ⟨after, between, hrun, rfl, hafter, hacknowledges, ?_⟩
  rw [List.getLastD_eq_getLast?] at hnow
  cases hlast : (writesTo .checks "a" between).getLast? with
  | none =>
    rw [hlast] at hnow
    exact absurd hnow.symm versionRow_ne
  | some last =>
    rw [hlast] at hnow
    rw [hnow]
    rfl

end Contended

end AgentSync
