import AgentSync.Proofs.Push
import AgentSync.Proofs.Sweep.Page

namespace AgentSync

open AgentSync.Action

/-- The rows of a page whose keys are not on a page of the hub. -/
def missingFrom (page hubPage : List (String × Row)) : List (String × Row) :=
  page.filter fun entry => !(hubPage.map (·.1)).contains entry.1

/-- A row is missing if the hub's page does not show its key. -/
theorem mem_missingFrom {page hubPage : List (String × Row)} {entry : String × Row} :
    entry ∈ missingFrom page hubPage ↔ entry ∈ page ∧ entry.1 ∉ hubPage.map Prod.fst := by
  rw [missingFrom, List.mem_filter, Bool.not_eq_true', ← Bool.not_eq_true, List.contains_iff_mem]

/-- The rows of a page that are pushed, given the hub's page of the same request. -/
def pagePush (page hubPage : List (String × Row)) : List (String × Row) :=
  if versions page = versions hubPage then []
  else if (missingFrom page hubPage).isEmpty then page
  else missingFrom page hubPage

/-- A page pushes some of its rows, in their order. -/
theorem pagePush_sublist (page hubPage : List (String × Row)) :
    (pagePush page hubPage).Sublist page := by
  unfold pagePush
  split
  · exact List.nil_sublist _
  · split
    · exact .refl _
    · exact List.filter_sublist

/-- A page with other versions than the hub's is never passed over. -/
theorem pagePush_ne_nil {page hubPage : List (String × Row)} (hpage : page ≠ [])
    (hother : versions page ≠ versions hubPage) : pagePush page hubPage ≠ [] := by
  rw [pagePush, if_neg hother]
  split
  · exact hpage
  · next hmissing => exact fun hnil => hmissing (List.isEmpty_iff.mpr hnil)

/-- What is pushed of rows that are filed under their keys. -/
theorem toPush_eq_pagePush {table : Table} {page hubPage : List (String × Row)}
    (hfiled : ∀ entry ∈ page, table.key? entry.2 = some entry.1)
    (hother : versions page ≠ versions hubPage) :
    Reconciler.toPush table (page.map (·.2)) (hubPage.map (·.1)) =
      (pagePush page hubPage).map (·.2) := by
  have hmissing : (page.map (·.2)).filter (fun row =>
        (table.key? row).any fun key => !(hubPage.map (·.1)).contains key) =
      (missingFrom page hubPage).map (·.2) := by
    rw [List.filter_map]
    refine congrArg (List.map _) (List.filter_congr fun entry hmem => ?_)
    rw [Function.comp_apply, hfiled entry hmem, Option.any_some]
  simp only [Reconciler.toPush, hmissing, pagePush, if_neg hother, List.isEmpty_map]
  split
  · rfl
  · rfl

/-- Rows that are filed under their keys are keyed by them. -/
theorem keyed_map_snd {table : Table} (entries : List (String × Row))
    (hfiled : ∀ entry ∈ entries, table.key? entry.2 = some entry.1) :
    table.keyed (entries.map (·.2)) = entries := by
  induction entries with
  | nil => rfl
  | cons entry rest ih =>
    obtain ⟨hentry, hrest⟩ := List.forall_mem_cons.mp hfiled
    have hkeyed := ih hrest
    unfold Table.keyed at hkeyed ⊢
    rw [List.map_cons, List.filterMap_cons, hentry, hkeyed]
    rfl

theorem keys_keyed (table : Table) (rows : List Row) :
    (table.keyed rows).map Prod.fst = rows.filterMap table.key? := by
  simp only [Table.keyed, List.map_filterMap, Option.map_map, Function.comp_def, Option.map_id']

/-- The calls to the hub over a page. -/
def pageCalls (agentName : String) (table : Table) (request : PageRequest)
    (pushed : List (String × Row)) : List SideCall :=
  .status request ::
    if pushed.isEmpty then []
    else [.pullIds request, .push (rowBundle agentName table (pushed.map (·.2)))]

/-- What the page after a key does: `pushed` of its rows are put on the hub, and nothing else
changes there. -/
structure PageStep (agentName : String) (table : Table) (size : Int) (cursor : String)
    (before : World Replica) (pushed : List (String × Row)) (after : World Replica) : Prop where
  pushes : pushed = pagePush (pageAfter (before.inner.held table) cursor size)
    (pageAfter (before.inner.hubRows table) cursor size)
  hubRows : after.inner.hubRows table = (before.inner.hubRows table).insertAll pushed
  others : ∀ other, other ≠ table → after.inner.hubRows other = before.inner.hubRows other
  localRows : after.inner.localRows = before.inner.localRows
  calls : after.inner.calls = before.inner.calls ++
    pageCalls agentName table (.ofTable table cursor size) pushed
  scopes : after.scopes = before.scopes

namespace Replica

@[simp] theorem runFrom_look {ε α : Type} (f : Replica → α) (world : World Replica) :
    runFrom (look f : Action (World Replica) ε α) world = (.ok (f world.inner), world) := rfl

@[simp] theorem runFrom_change {ε : Type} (f : Replica → Replica) (world : World Replica) :
    runFrom (change f : Action (World Replica) ε Unit) world =
      (.ok (), { world with inner := f world.inner }) := rfl

theorem runFrom_push (hash : List (String × String) → String) (agentName : String) (scope : Scope)
    (bundle : Bundle) (world : World Replica) :
    runFrom ((hub hash agentName).push scope bundle) world =
      (.ok (), { world with inner := (world.inner.take bundle).called (.push bundle) }) := rfl

theorem runFrom_status (hash : List (String × String) → String) (agentName : String)
    (scope : Scope) (request : PageRequest) (world : World Replica) :
    runFrom ((hub hash agentName).status scope request) world =
      (.ok (digestBy hash (page world.inner.hubRows request)),
        { world with inner := world.inner.called (.status request) }) := by
  unfold hub
  rw [runFrom_bind_of_ok (runFrom_change _ _), runFrom_look]
  rfl

theorem runFrom_pullIds (hash : List (String × String) → String) (agentName : String)
    (scope : Scope) (request : PageRequest) (world : World Replica) :
    runFrom ((hub hash agentName).pullIds scope request) world =
      (.ok ((page world.inner.hubRows request).map (·.1)),
        { world with inner := world.inner.called (.pullIds request) }) := by
  unfold hub
  rw [runFrom_bind_of_ok (runFrom_change _ _), runFrom_look]
  rfl

theorem runFrom_markPushed (hash : List (String × String) → String) (table : Table)
    (keys : List String) (world : World Replica) :
    runFrom ((source hash).markPushed table keys) world =
      (.ok keys.length, { world with
        inner := world.inner.flag table fun flagged => flagged.filter (!keys.contains ·) }) := by
  unfold source
  rw [runFrom_bind_of_ok (runFrom_change _ _)]
  rfl

/-- The two sides cut a page in the same way. -/
theorem page_ofTable (rows : Table → Dict Row) (table : Table) (cursor : String) (size : Int) :
    page rows (.ofTable table cursor size) = pageAfter (rows table) cursor size := by
  simp only [page, PageRequest.ofTable, Table.ofName?_name]

end Replica

/-- Rows that are filed under their keys are pushed in one call; afterwards the hub has each under
its key. -/
theorem runFrom_pushRows_filed (hash : List (String × String) → String) (agentName : String)
    (scope : Scope) (table : Table) {entries : List (String × Row)} (hentries : entries ≠ [])
    (hfiled : ∀ entry ∈ entries, table.key? entry.2 = some entry.1) (world : World Replica) :
    ∃ after, runFrom (pushRows (Replica.source hash) (Replica.hub hash agentName) scope table
        (entries.map (·.2))) world = (.ok entries.length, after) ∧
      after.inner.hubRows table = (world.inner.hubRows table).insertAll entries ∧
      (∀ other, other ≠ table → after.inner.hubRows other = world.inner.hubRows other) ∧
      after.inner.localRows = world.inner.localRows ∧
      after.inner.calls = world.inner.calls ++
        [.push (rowBundle agentName table (entries.map (·.2)))] ∧
      after.scopes = world.scopes := by
  have hkeyed := keyed_map_snd entries hfiled
  have hkeys : (entries.map (·.2)).filterMap table.key? = entries.map Prod.fst := by
    rw [← keys_keyed, hkeyed]
  have hrun := runFrom_pushRows (Replica.source hash) (Replica.hub hash agentName) scope table
    (by simpa using hentries : entries.map (·.2) ≠ [])
    (Replica.runFrom_push hash agentName scope _ world)
  rw [flagPushed, runFrom_bind_of_ok (Replica.runFrom_markPushed _ _ _ _),
    runFrom_bind_of_ok (World.runFrom_count _ _ _), runFrom_pure, hkeys, List.length_map] at hrun
  refine ⟨_, hrun, ?_, ?_, rfl, rfl, rfl⟩
  · change (world.inner.hubRows table).insertAll (table.keyed _) = _
    rw [rowBundle_rows, if_pos rfl, hkeyed]
  · intro other hother
    change (world.inner.hubRows other).insertAll (other.keyed _) = _
    rw [rowBundle_rows, if_neg hother]
    rfl

/-- The rows of a page stand under their own keys. -/
theorem Replica.filed_pageAfter (replica : Replica) (table : Table) (cursor : String)
    (size : Int) : ∀ entry ∈ pageAfter (replica.held table) cursor size,
      table.key? entry.2 = some entry.1 := by
  intro entry hmem
  have hheld := Dict.get?_eq_some_iff.mp (mem_of_mem_pageAfter hmem).1
  exact ((replica.localRows table).filed entry hheld).1

/-- Under a hash that tells versions apart, a page is passed over exactly when the hub's page shows
the same versions, and otherwise its share is pushed. -/
theorem reconcilePage_runs {hash : List (String × String) → String}
    (hinj : Function.Injective hash) (agentName : String) (scope : Scope) (table : Table)
    (size : Int) (cursor : String) (world : World Replica)
    (hpage : pageAfter (world.inner.held table) cursor size ≠ []) :
    ∃ pushed after,
      runFrom (Reconciler.reconcilePage
        ⟨Replica.source hash, Replica.hub hash agentName, size⟩ scope table
        (.ofTable table cursor size)
        (digestBy hash (pageAfter (world.inner.held table) cursor size))) world =
          (.ok pushed.length, after) ∧
      PageStep agentName table size cursor world pushed after := by
  let request := PageRequest.ofTable table cursor size
  let page := pageAfter (world.inner.held table) cursor size
  let hubPage := pageAfter (world.inner.hubRows table) cursor size
  let asked : World Replica := { world with inner := world.inner.called (.status request) }
  have hstatus : runFrom (mapFailure HubError.toError
      ((Replica.hub hash agentName).status scope request)) world =
        (.ok (digestBy hash hubPage), asked) := by
    rw [runFrom_mapFailure, Replica.runFrom_status, Replica.page_ofTable]
    rfl
  unfold Reconciler.reconcilePage
  rw [runFrom_bind_of_ok hstatus]
  by_cases hsame : versions page = versions hubPage
  · have hhash : (digestBy hash hubPage).hash = (digestBy hash page).hash :=
      congrArg hash hsame.symm
    have hnone : pagePush page hubPage = [] := if_pos hsame
    rw [if_pos hhash, runFrom_bind_of_ok (World.runFrom_count _ _ _), runFrom_pure]
    refine ⟨[], _, rfl, hnone.symm, rfl, fun _ _ => rfl, rfl, rfl, rfl⟩
  · have hhash : (digestBy hash hubPage).hash ≠ (digestBy hash page).hash :=
      fun heq => hsame (hinj heq.symm)
    have hsome : pagePush page hubPage ≠ [] := pagePush_ne_nil hpage hsame
    let pulled : World Replica := { asked with inner := asked.inner.called (.pullIds request) }
    have hpull : runFrom (mapFailure HubError.toError
        ((Replica.hub hash agentName).pullIds scope request)) asked =
          (.ok (hubPage.map (·.1)), pulled) := by
      rw [runFrom_mapFailure, Replica.runFrom_pullIds, Replica.page_ofTable]
      rfl
    have hwindow : runFrom ((Replica.source hash).rowsInWindow request) pulled =
        (.ok (page.map (·.2)), pulled) := by
      unfold Replica.source
      rw [Replica.runFrom_look, Replica.page_ofTable]
      rfl
    have hfiled := world.inner.filed_pageAfter table cursor size
    have hshare : ∀ entry ∈ pagePush page hubPage, table.key? entry.2 = some entry.1 :=
      fun entry hmem => hfiled entry ((pagePush_sublist page hubPage).subset hmem)
    rw [if_neg hhash, runFrom_bind_of_ok hpull, runFrom_bind_of_ok hwindow,
      toPush_eq_pagePush hfiled hsame]
    obtain ⟨after, hrun, hhub, hothers, hlocal, hcalls, hscopes⟩ :=
      runFrom_pushRows_filed hash agentName scope table hsome hshare pulled
    refine ⟨_, after, hrun, rfl, hhub, hothers, hlocal, ?_, hscopes⟩
    have hshown : (pagePush page hubPage).isEmpty = false := by simpa using hsome
    rw [hcalls, pageCalls, hshown]
    simp [pulled, asked, request, Replica.called]

end AgentSync
