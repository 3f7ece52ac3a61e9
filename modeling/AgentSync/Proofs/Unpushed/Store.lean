import AgentSync.Proofs.Unpushed.Drain
import AgentSync.Proofs.Writers.Account

namespace AgentSync

open AgentSync.Action

/-- The keys that rows with some keys name as those of their parents. -/
def parentsOf (stored : Dict Row) (table : Table) (keys : List String) : List String :=
  match table.parentColumn with
  | none => []
  | some column => stored.entries.filterMap fun entry =>
      if keys.contains entry.1 then (entry.2.get? column).bind Table.keyPart? else none

theorem parentsOf_nil (stored : Dict Row) (table : Table) : parentsOf stored table [] = [] := by
  unfold parentsOf
  split
  · rfl
  · simp

namespace Stock

/-- The keys of the rows that are not flagged as pushed. -/
def unpushed (stock : Stock) (table : Table) : Finset String :=
  (((stock.rows table).entries.filter fun entry => !entry.2.isPushed).map Prod.fst).toFinset

/-- The flagged keys are those of stored rows that are not marked as pushed. -/
theorem mem_unpushed {stock : Stock} {table : Table} {key : String} :
    key ∈ stock.unpushed table ↔ ∃ row, stock.get? table key = some ⟨row, false⟩ := by
  rw [unpushed, List.mem_toFinset, List.mem_map]
  unfold get?
  constructor
  · rintro ⟨⟨held, row, isPushed⟩, hmem, rfl⟩
    obtain ⟨hentry, hflag⟩ := List.mem_filter.mp hmem
    have hunpushed : isPushed = false := by simpa using hflag
    subst hunpushed
    exact ⟨row, Dict.get?_eq_some_iff.mpr hentry⟩
  · rintro ⟨row, hrow⟩
    exact ⟨_, List.mem_filter.mpr ⟨Dict.get?_eq_some_iff.mp hrow, rfl⟩, rfl⟩

end Stock

namespace Contended

variable {table : Table} {stored : Dict Row} {flags : Finset String} {state : Contended}

/-- No writes are due, the rows of a table are some, and these keys are flagged for a push. -/
structure Flagged (table : Table) (stored : Dict Row) (state : Contended)
    (flags : Finset String) : Prop where
  quiet : ∀ writes ∈ state.due, writes = []
  rows : (state.stock.rows table).map Stored.row = stored
  mem_iff : ∀ key, key ∈ flags ↔ ∃ row, state.stock.get? table key = some ⟨row, false⟩

namespace Flagged

theorem land (h : Flagged table stored state flags) : Flagged table stored state.land flags := by
  have hnone : state.due.headD [] = [] := by
    cases hdue : state.due with
    | nil => rfl
    | cons writes rest => exact h.quiet writes (by simp [hdue])
  have hstock : state.land.stock = state.stock := by
    unfold Contended.land
    rw [hnone]
    rfl
  constructor
  · exact fun writes hmem => h.quiet writes (List.mem_of_mem_tail hmem)
  · rw [hstock]
    exact h.rows
  · rw [hstock]
    exact h.mem_iff

/-- Setting flags leaves the rows. -/
theorem setFlags (h : Flagged table stored state flags) (keys : List String) {isPushed : Bool}
    {left : Finset String}
    (hleft : ∀ key, key ∈ left ↔
      if key ∈ keys then isPushed = false ∧ key ∈ stored.keys else key ∈ flags) :
    Flagged table stored (state.setFlags table keys isPushed).2 left where
  quiet := h.quiet
  rows := by
    rw [← h.rows]
    refine Dict.ext_get? fun key => ?_
    have hflag := state.stock.get?_flag table keys isPushed table key
    unfold Stock.get? at hflag
    unfold Contended.setFlags
    rw [Dict.get?_map, Dict.get?_map, hflag]
    split
    · rw [Option.map_map]; rfl
    · rfl
  mem_iff key := by
    have hkeys : key ∈ stored.keys ↔ ∃ held, state.stock.get? table key = some held := by
      rw [← h.rows, Dict.mem_keys_iff, Dict.get?_map]
      simp [Stock.get?]
    unfold Contended.setFlags
    rw [hleft, Stock.get?_flag]
    by_cases hkey : key ∈ keys
    · rw [if_pos hkey, if_pos ⟨rfl, hkey⟩, hkeys]
      constructor
      · rintro ⟨rfl, held, hheld⟩
        exact ⟨held.row, by rw [hheld]; rfl⟩
      · rintro ⟨row, hrow⟩
        obtain ⟨held, hheld, hflag⟩ := Option.map_eq_some_iff.mp hrow
        exact ⟨congrArg Stored.isPushed hflag, held, hheld⟩
    · rw [if_neg hkey, if_neg fun hhit => hkey hhit.2]
      exact h.mem_iff key

/-- Marking rows as pushed takes their keys off the flags. -/
theorem markPushed (h : Flagged table stored state flags) (keys : List String) :
    Flagged table stored (state.setFlags table keys true).2 (flags \ keys.toFinset) := by
  refine h.setFlags keys fun key => ?_
  rw [Finset.mem_sdiff, List.mem_toFinset]
  split
  · simp [*]
  · simp [*]

/-- Marking rows as unpushed flags those that are stored. -/
theorem markUnpushed (h : Flagged table stored state flags) (keys : List String) :
    Flagged table stored (state.setFlags table keys false).2
      (flags ∪ keys.toFinset.filter (· ∈ stored.keys)) := by
  refine h.setFlags keys fun key => ?_
  have hstored : key ∈ flags → key ∈ stored.keys := by
    intro hkey
    obtain ⟨row, hrow⟩ := (h.mem_iff key).mp hkey
    rw [← h.rows, Dict.mem_keys_iff]
    exact ⟨row, by rw [Dict.get?_map]; exact congrArg (Option.map Stored.row) hrow⟩
  rw [Finset.mem_union, Finset.mem_filter, List.mem_toFinset]
  by_cases hkey : key ∈ keys
  · rw [if_pos hkey]
    exact ⟨fun hmem => ⟨rfl, hmem.elim hstored And.right⟩, fun hmem => .inr ⟨hkey, hmem.2⟩⟩
  · rw [if_neg hkey]
    exact or_iff_left fun hmem => hkey hmem.1

end Flagged

/-- From every state with some property an action answers and leaves one with another. -/
def Turns {α : Type} (p q : Contended → Prop) (action : Action Contended Error α) : Prop :=
  ∀ state, p state → ∃ value after, runFrom action state = (.ok value, after) ∧ q after

namespace Turns

variable {α β : Type} {p q r : Contended → Prop}

theorem pure (value : α) : Turns p p (Pure.pure value) := fun state hstate =>
  ⟨value, state, rfl, hstate⟩

theorem bind {action : Action Contended Error α} {next : α → Action Contended Error β}
    (hfirst : Turns p q action) (hnext : ∀ value, Turns q r (next value)) :
    Turns p r (action >>= next) := by
  intro state hstate
  obtain ⟨value, mid, hrun, hmid⟩ := hfirst state hstate
  obtain ⟨answer, after, hrest, hafter⟩ := hnext value mid hmid
  refine ⟨answer, after, ?_, hafter⟩
  rw [runFrom_bind_of_ok hrun, hrest]

/-- An action that always answers is attempted with success. -/
theorem attempt_bind {action : Action Contended Error α}
    {next : Except Error α → Action Contended Error β} (hfirst : Turns p q action)
    (hnext : ∀ value, Turns q r (next (.ok value))) : Turns p r (attempt action >>= next) := by
  intro state hstate
  obtain ⟨value, mid, hrun, hmid⟩ := hfirst state hstate
  have hattempt := runFrom_attempt (δ := Error) action state
  rw [hrun] at hattempt
  obtain ⟨answer, after, hrest, hafter⟩ := hnext value mid hmid
  refine ⟨answer, after, ?_, hafter⟩
  rw [runFrom_bind_of_ok hattempt, hrest]

end Turns

section

variable (picks : Picks)

/-- A statement changes the flags by what it does once no write is due before it. -/
theorem turns_run (command : Command) {left : Finset String}
    (hrespond : ∀ state, Flagged table stored state flags →
      Flagged table stored (state.respond picks command).2 left) :
    Turns (Flagged table stored · flags) (Flagged table stored · left)
      ((db picks).run command) := fun state hstate =>
  ⟨_, _, runFrom_db picks command state, hrespond _ hstate.land⟩

theorem turns_execute (command : Command) {left : Finset String}
    (hrespond : ∀ state, Flagged table stored state flags →
      Flagged table stored (state.respond picks command).2 left) :
    Turns (Flagged table stored · flags) (Flagged table stored · left)
      ((db picks).execute command) :=
  (turns_run picks command hrespond).bind fun _ => .pure _

/-- A transaction takes the flags where its body does, since its other statements touch no row. -/
theorem turns_transaction {α : Type} {body : Action Contended Error α} {left : Finset String}
    (hbody : Turns (Flagged table stored · flags) (Flagged table stored · left) body) :
    Turns (Flagged table stored · flags) (Flagged table stored · left)
      ((db picks).transaction body) := by
  have hbegin := turns_run picks .begin
    fun state (hstate : Flagged table stored state flags) => hstate
  have hcommit := turns_run picks .commit
    fun state (hstate : Flagged table stored state left) => hstate
  refine hbegin.bind fun _ => hbody.attempt_bind fun value => ?_
  exact .bind (hcommit.attempt_bind fun _ => .pure ()) fun _ => .pure value

theorem turns_markPushed (owner : Uuid) (keys : List String) :
    Turns (Flagged table stored · flags) (Flagged table stored · (flags \ keys.toFinset))
      ((⟨db picks, owner⟩ : RowStore Contended).markPushed table keys) := by
  unfold RowStore.markPushed
  by_cases hkeys : keys = []
  · subst hkeys
    simp only [List.toFinset_nil, Finset.sdiff_empty]
    exact .pure 0
  · have hsome : keys.isEmpty = false := by simpa using hkeys
    rw [hsome, if_neg Bool.false_ne_true]
    exact turns_execute picks (.markPushed table keys) fun _ hstate => hstate.markPushed keys

/-- The parents are those that the stored rows name. -/
theorem Flagged.parents_eq (h : Flagged table stored state flags) {column : String}
    (hcolumn : table.parentColumn = some column) (keys : List String) :
    state.stock.parents table column keys = parentsOf stored table keys := by
  rw [parentsOf, hcolumn, ← h.rows]
  unfold Stock.parents Dict.map
  dsimp only
  rw [List.filterMap_map]
  rfl

/-- Rows are flagged together with their parents. -/
theorem turns_markUnpushed (owner : Uuid) (keys : List String) :
    Turns (Flagged table stored · flags)
      (Flagged table stored ·
        (flags ∪ (keys ++ parentsOf stored table keys).toFinset.filter (· ∈ stored.keys)))
      ((⟨db picks, owner⟩ : RowStore Contended).markUnpushed table keys) := by
  unfold RowStore.markUnpushed
  by_cases hkeys : keys = []
  · subst hkeys
    have hflags : flags ∪ ([] ++ parentsOf stored table []).toFinset.filter (· ∈ stored.keys) =
        flags := by
      rw [parentsOf_nil]
      simp
    rw [hflags]
    exact .pure 0
  have hsome : keys.isEmpty = false := by simpa using hkeys
  rw [hsome, if_neg Bool.false_ne_true]
  have hrows := turns_execute picks (.markUnpushed table keys)
    fun state (hstate : Flagged table stored state flags) => hstate.markUnpushed keys
  refine turns_transaction picks (hrows.bind fun rows => ?_)
  cases hcolumn : table.parentColumn with
  | none =>
    have hnone : parentsOf stored table keys = [] := by rw [parentsOf, hcolumn]
    rw [hnone, List.append_nil]
    exact .pure rows
  | some column =>
    rw [List.toFinset_append, Finset.filter_union, ← Finset.union_assoc]
    refine .bind ?_ fun parents => .pure (rows + parents)
    refine turns_execute picks (.markParentsUnpushed table column keys) fun state hstate => ?_
    rw [← hstate.parents_eq hcolumn keys]
    exact hstate.markUnpushed _

end

/-- The flagged rows, as many as there are up to a limit, in the order of their keys. -/
theorem Flagged.isBatch (h : Flagged table stored state flags) (owner : Uuid) (limit : Int) :
    IsBatch stored flags limit.toNat
      ((inKeyOrder.choose state.stock table owner limit).map fun entry =>
        (entry.1, entry.2.row)) := by
  let unpushed := (state.stock.rows table).entries.filter fun entry => !entry.2.isPushed
  have hchoose : inKeyOrder.choose state.stock table owner limit = unpushed.take limit.toNat := rfl
  have hkeys : (unpushed.map Prod.fst).toFinset = flags := by
    ext key
    exact Stock.mem_unpushed.trans (h.mem_iff key).symm
  have hnodup : (unpushed.map Prod.fst).Nodup :=
    (List.filter_sublist.map Prod.fst).nodup (state.stock.rows table).nodup_keys
  have hfst : ((unpushed.take limit.toNat).map fun entry => (entry.1, entry.2.row)).map Prod.fst =
      (unpushed.map Prod.fst).take limit.toNat := by
    rw [List.map_map, List.map_take]
    rfl
  rw [hchoose]
  constructor
  · intro entry hmem
    obtain ⟨held, hheld, rfl⟩ := List.mem_map.mp hmem
    rw [← h.rows]
    exact List.mem_map_of_mem (List.mem_filter.mp (List.mem_of_mem_take hheld)).1
  · intro key hkey
    rw [hfst] at hkey
    rw [← hkeys]
    exact List.mem_toFinset.mpr (List.mem_of_mem_take hkey)
  · rw [hfst]
    exact (List.take_sublist _ _).nodup hnodup
  · rw [List.length_map, List.length_take, ← hkeys, List.toFinset_card_of_nodup hnodup,
      List.length_map]

/-- A database to which nobody writes keeps the flags of a table as a set of keys. -/
theorem keepsFlags_source (owner : Uuid)
    (hfiled : ∀ entry ∈ stored.entries, table.key? entry.2 = some entry.1) :
    (source inKeyOrder owner).KeepsFlags table stored (parentsOf stored table)
      (Flagged table stored) where
  filed := hfiled
  unpushedRows := by
    intro world flags hshows limit hlimit
    have hmax : max limit 1 = limit := by omega
    have hread := runFrom_unpushedRows inKeyOrder owner table limit world
    rw [hmax] at hread
    have hrows : ((inKeyOrder.choose world.inner.land.stock table owner limit).map fun entry =>
        (entry.1, entry.2.row)).map Prod.snd =
          (inKeyOrder.choose world.inner.land.stock table owner limit).map (·.2.row) := by
      rw [List.map_map]
      rfl
    rw [← hrows] at hread
    refine ⟨_, _, hread, hshows.land.isBatch owner limit, ?_⟩
    exact ⟨hshows.land.quiet, hshows.land.rows, hshows.land.mem_iff⟩
  markPushed := by
    intro world flags hshows keys
    obtain ⟨count, after, hrun, hafter⟩ :=
      turns_markPushed inKeyOrder owner keys world.inner hshows
    refine ⟨count, { world with inner := after }, ?_, hafter⟩
    unfold source RowStore.source
    rw [World.runFrom_inside, hrun]
  markUnpushed := by
    intro world flags hshows keys
    obtain ⟨count, after, hrun, hafter⟩ :=
      turns_markUnpushed inKeyOrder owner keys world.inner hshows
    refine ⟨count, { world with inner := after }, ?_, hafter⟩
    unfold source RowStore.source
    rw [World.runFrom_inside, hrun]

/-- Whatever the hub does with a push, the agent's flags stay. -/
theorem leavesFlags_hub (others : HubApi Contended) :
    (hub others).LeavesFlags (Flagged table stored) :=
  fun _ _ _ _ hshows => ⟨hshows.quiet, hshows.rows, hshows.mem_iff⟩

/-- Rows to which nobody writes. -/
theorem flagged_start (stock : Stock) (hubRows : Table → Dict Row) (verdicts : List PushVerdict)
    (table : Table) :
    Flagged table ((stock.rows table).map Stored.row) (start stock hubRows [] verdicts)
      (stock.unpushed table) :=
  ⟨fun _ hmem => (List.not_mem_nil hmem).elim, rfl, fun _ => Stock.mem_unpushed⟩

theorem filed_rows (stock : Stock) (table : Table) :
    ∀ entry ∈ ((stock.rows table).map Stored.row).entries, table.key? entry.2 = some entry.1 := by
  intro entry hmem
  obtain ⟨held, hheld, rfl⟩ := List.mem_map.mp hmem
  exact stock.filed table held hheld

/-- A version of a check. -/
def writeOf (key time : String) : Write :=
  ⟨.checks, key, versionRow key time, key?_versionRow key time⟩

/-- The checks `a`, `b` and `c`, none of which the hub has. -/
def threeChecks : Stock :=
  [writeOf "a" "t1", writeOf "b" "t1", writeOf "c" "t1"].foldl Stock.put noStock

/-- A world in which the hub takes the first push and refuses `c` in the second. -/
def threeWorld : World Contended :=
  ⟨default, 0, Scopes.none.root.2, default,
    start threeChecks (fun _ => .empty) [] [.saved, .refused ["c"]]⟩

/-- Two rows are pushed, and `c` stays flagged. -/
theorem threeChecks_drain : ∃ (pushes : List Push) (left : Finset String), ∃ after,
    Bounded.runFrom ((reconciler inKeyOrder default pushesOnly 500).watched.pushUnpushed
      Scopes.none.root.1 .checks 2 2 0) threeWorld.watched = some (.ok 2, after) ∧
    pushes.map Push.answer = [.ok (), .error (.conflict ["c"])] ∧
    Flagged .checks ((threeChecks.rows .checks).map Stored.row) after.inner.rest left ∧
    "c" ∈ left := by
  obtain ⟨outcome, after, pushes, left, hrun, -, hcalls, hleft, hdrained⟩ :=
    pushUnpushed_drains (reconciler inKeyOrder default pushesOnly 500) .checks
      ((threeChecks.rows .checks).map Stored.row)
      (parentsOf ((threeChecks.rows .checks).map Stored.row) .checks)
      (Flagged .checks ((threeChecks.rows .checks).map Stored.row)) Scopes.none.root.1 2 2
      threeWorld (threeChecks.unpushed .checks)
      (keepsFlags_source _ (filed_rows threeChecks .checks)) (leavesFlags_hub pushesOnly)
      (flagged_start threeChecks _ _ .checks) (by decide)
  have hknown : Bounded.runFrom ((reconciler inKeyOrder default pushesOnly 500).watched.pushUnpushed
      Scopes.none.root.1 .checks 2 2 0) threeWorld.watched = some (.ok 2, _) := rfl
  rw [hknown] at hrun
  cases hrun
  have hanswers := congrArg (List.map Prod.snd) hcalls
  rw [List.map_map] at hanswers
  have hpushes : pushes.map Push.answer = [.ok (), .error (.conflict ["c"])] := hanswers.symm
  refine ⟨pushes, left, _, hknown, hpushes, hleft, ?_⟩
  obtain ⟨first, rest, rfl, -, hrest⟩ := List.map_eq_cons_iff.mp hpushes
  obtain ⟨second, last, rfl, hsecond, -⟩ := List.map_eq_cons_iff.mp hrest
  obtain ⟨-, -, hflagged, -⟩ := hdrained.refused [first] second last ["c"] rfl hsecond
  exact hflagged "c" (.head _) (by decide)

end Contended

end AgentSync
