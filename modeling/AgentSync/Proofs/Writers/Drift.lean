import AgentSync.Memory.Writers
import AgentSync.Proofs.Database
import AgentSync.Proofs.Dict

namespace AgentSync

open AgentSync.Action

theorem Dict.get?_adjust {β : Type} (d : Dict β) (keys : List String) (f : β → β)
    (key : String) :
    (d.adjust keys f).get? key = if key ∈ keys then (d.get? key).map f else d.get? key := by
  obtain ⟨entries, hsorted⟩ := d
  unfold get? adjust
  induction entries with
  | nil => simp
  | cons entry rest ih =>
    have hrest := ih (List.pairwise_cons.mp hsorted).2
    by_cases hkey : entry.1 = key
    · subst hkey
      by_cases hmem : entry.1 ∈ keys
      · simp [hmem]
      · simp [hmem]
    · simpa [List.find?_cons, hkey] using hrest

namespace Stock

/-- A write replaces one row, and unflags it. -/
theorem get?_put (stock : Stock) (write : Write) (table : Table) (key : String) :
    (stock.put write).get? table key =
      if write.table = table ∧ write.key = key then some ⟨write.row, false⟩
      else stock.get? table key := by
  unfold get? put
  by_cases htable : table = write.table
  · subst htable
    simp [Dict.get?_insert]
  · simp [htable, Ne.symm htable]

/-- Flags are set by key, whatever version is stored. -/
theorem get?_flag (stock : Stock) (table : Table) (keys : List String) (isPushed : Bool)
    (other : Table) (key : String) :
    (stock.flag table keys isPushed).get? other key =
      if other = table ∧ key ∈ keys then
        (stock.get? other key).map fun stored => { stored with isPushed }
      else stock.get? other key := by
  unfold get? flag
  by_cases htable : other = table
  · simp [htable, Dict.get?_adjust]
  · simp [htable]

end Stock

/-- The rows that were written under a key, the first one first. -/
def writesTo (table : Table) (key : String) (notes : List Note) : List Row :=
  notes.filterMap fun
    | .wrote write => if write.table = table ∧ write.key = key then some write.row else none
    | _ => none

theorem writesTo_append (table : Table) (key : String) (notes more : List Note) :
    writesTo table key (notes ++ more) = writesTo table key notes ++ writesTo table key more :=
  List.filterMap_append

namespace Contended

/-- The row under a key. -/
def row? (state : Contended) (table : Table) (key : String) : Option Row :=
  (state.stock.get? table key).map Stored.row

/-- There is a row under a key and it is flagged as pushed. -/
def IsPushed (state : Contended) (table : Table) (key : String) : Prop :=
  ∃ row, state.stock.get? table key = some ⟨row, true⟩

section

variable {table : Table} {key : String}

/-- From one state to a later one nothing but writes happened to the row under a key: no flag was
set for it, and the hub did not save it. -/
structure Drifts (table : Table) (key : String) (passed : List Note)
    (before after : Contended) : Prop where
  notes : after.notes = before.notes ++ passed
  hub : (after.hubRows table).get? key = (before.hubRows table).get? key
  row : after.row? table key = ((writesTo table key passed).getLast?).or (before.row? table key)
  pushed : after.IsPushed table key →
    writesTo table key passed = [] ∧ before.IsPushed table key

namespace Drifts

variable {passed more : List Note} {before mid after : Contended}

theorem refl (state : Contended) : Drifts table key [] state state where
  notes := (List.append_nil _).symm
  hub := rfl
  row := rfl
  pushed hpushed := ⟨rfl, hpushed⟩

theorem trans (hfirst : Drifts table key passed before mid)
    (hsecond : Drifts table key more mid after) :
    Drifts table key (passed ++ more) before after where
  notes := by rw [hsecond.notes, hfirst.notes, List.append_assoc]
  hub := hsecond.hub.trans hfirst.hub
  row := by
    rw [hsecond.row, hfirst.row, writesTo_append, List.getLast?_append, Option.or_assoc]
  pushed hpushed := by
    obtain ⟨hlater, hmid⟩ := hsecond.pushed hpushed
    obtain ⟨hearlier, hbefore⟩ := hfirst.pushed hmid
    exact ⟨by rw [writesTo_append, hearlier, hlater]; rfl, hbefore⟩

end Drifts

/-- Each key holds the last row that was written to it. -/
theorem get?_foldl_put (table : Table) (key : String) (writes : List Write) :
    ∀ stock : Stock, (writes.foldl Stock.put stock).get? table key =
      (((writesTo table key (writes.map .wrote)).getLast?).map (Stored.mk · false)).or
        (stock.get? table key) := by
  induction writes with
  | nil => intro stock; rfl
  | cons write rest ih =>
    intro stock
    rw [List.foldl_cons, ih, Stock.get?_put, List.map_cons]
    by_cases hhit : write.table = table ∧ write.key = key
    · have hwrites : writesTo table key (.wrote write :: rest.map .wrote) =
          write.row :: writesTo table key (rest.map .wrote) := by
        simp [writesTo, hhit]
      rw [if_pos hhit, hwrites, List.getLast?_cons]
      cases (writesTo table key (rest.map .wrote)).getLast? with
      | none => rfl
      | some last => rfl
    · have hwrites : writesTo table key (.wrote write :: rest.map .wrote) =
          writesTo table key (rest.map .wrote) := by
        simp [writesTo, hhit]
      rw [if_neg hhit, hwrites]

/-- Writes that land are all that happens. -/
theorem drifts_land (state : Contended) :
    Drifts table key ((state.due.headD []).map .wrote) state state.land where
  notes := rfl
  hub := rfl
  row := by
    unfold row? land
    rw [get?_foldl_put]
    cases (writesTo table key ((state.due.headD []).map .wrote)).getLast? with
    | none => rfl
    | some last => rfl
  pushed := by
    rintro ⟨row, hrow⟩
    unfold land at hrow
    rw [get?_foldl_put] at hrow
    cases hlast : (writesTo table key ((state.due.headD []).map .wrote)).getLast? with
    | none =>
      rw [hlast] at hrow
      exact ⟨List.getLast?_eq_none_iff.mp hlast, row, hrow⟩
    | some last =>
      rw [hlast] at hrow
      cases hrow

theorem drifts_readRows (state : Contended) (other : Table) (rows : List Row) :
    Drifts table key [.read other rows] state (state.readRows other rows).2 where
  notes := rfl
  hub := rfl
  row := rfl
  pushed hpushed := ⟨rfl, hpushed⟩

/-- Flags that are taken away, or set for other rows. -/
theorem drifts_setFlags (state : Contended) {other : Table} {keys : List String}
    {isPushed : Bool} (hnot : isPushed = true → table = other → key ∉ keys) :
    Drifts table key [.flagged other keys isPushed] state
      (state.setFlags other keys isPushed).2 where
  notes := rfl
  hub := rfl
  row := by
    unfold row? setFlags
    rw [Stock.get?_flag]
    split
    · rw [Option.map_map]; rfl
    · rfl
  pushed := by
    rintro ⟨row, hrow⟩
    unfold setFlags at hrow
    rw [Stock.get?_flag] at hrow
    split at hrow
    · next hhit =>
      obtain ⟨stored, _, hstored⟩ := Option.map_eq_some_iff.mp hrow
      exact absurd hhit.2 (hnot (congrArg Stored.isPushed hstored) hhit.1)
    · exact ⟨rfl, row, hrow⟩

/-- A statement that does not mark a row as pushed leaves it to the writers. -/
theorem drifts_respond (picks : Picks) (state : Contended) {command : Command}
    (hnot : ∀ keys, command = .markPushed table keys → key ∉ keys) :
    ∃ passed, Drifts table key passed state (state.respond picks command).2 := by
  unfold respond
  split
  · exact ⟨_, drifts_readRows state _ _⟩
  · next other keys =>
    refine ⟨_, drifts_setFlags state fun _ htable => ?_⟩
    exact hnot keys (htable ▸ rfl)
  · exact ⟨_, drifts_setFlags state nofun⟩
  · exact ⟨_, drifts_setFlags state nofun⟩
  · exact ⟨_, .refl state⟩

/-- An action that always answers and leaves the row under a key to the writers. -/
def Drifting {α : Type} (table : Table) (key : String) (action : Action Contended Error α) :
    Prop :=
  ∀ state, ∃ value passed after, runFrom action state = (.ok value, after) ∧
    Drifts table key passed state after

namespace Drifting

variable {α β : Type}

theorem pure (value : α) : Drifting table key (Pure.pure value) := fun state =>
  ⟨value, [], state, rfl, .refl state⟩

theorem bind {action : Action Contended Error α} {next : α → Action Contended Error β}
    (hfirst : Drifting table key action) (hnext : ∀ value, Drifting table key (next value)) :
    Drifting table key (action >>= next) := by
  intro state
  obtain ⟨value, passed, mid, hrun, hdrifts⟩ := hfirst state
  obtain ⟨answer, more, after, hrest, hlater⟩ := hnext value mid
  refine ⟨answer, passed ++ more, after, ?_, hdrifts.trans hlater⟩
  rw [runFrom_bind_of_ok hrun, hrest]

/-- An action that always answers is attempted with success. -/
theorem attempt_bind {action : Action Contended Error α}
    {next : Except Error α → Action Contended Error β} (hfirst : Drifting table key action)
    (hnext : ∀ value, Drifting table key (next (.ok value))) :
    Drifting table key (attempt action >>= next) := by
  intro state
  obtain ⟨value, passed, mid, hrun, hdrifts⟩ := hfirst state
  have hattempt := runFrom_attempt (δ := Error) action state
  rw [hrun] at hattempt
  obtain ⟨answer, more, after, hrest, hlater⟩ := hnext value mid
  refine ⟨answer, passed ++ more, after, ?_, hdrifts.trans hlater⟩
  rw [runFrom_bind_of_ok hattempt, hrest]

end Drifting

theorem runFrom_db (picks : Picks) (command : Command) (state : Contended) :
    runFrom ((db picks).run command) state =
      (.ok (state.land.respond picks command).1, (state.land.respond picks command).2) :=
  Database.runFrom_run (db picks) command state

/-- Only a statement that flags the row as pushed is more than drift. -/
theorem drifting_run (picks : Picks) {command : Command}
    (hnot : ∀ keys, command = .markPushed table keys → key ∉ keys) :
    Drifting table key ((db picks).run command) := by
  intro state
  obtain ⟨passed, hdrifts⟩ := drifts_respond picks state.land hnot
  exact ⟨_, _, _, runFrom_db picks command state, (drifts_land state).trans hdrifts⟩

/-- Flagging rows for another push. -/
theorem drifting_markUnpushed (picks : Picks) (owner : Uuid) (other : Table)
    (keys : List String) :
    Drifting table key ((⟨db picks, owner⟩ : RowStore Contended).markUnpushed other keys) := by
  unfold RowStore.markUnpushed
  split
  · exact .pure 0
  refine .bind (drifting_run picks nofun) fun _ => .attempt_bind ?_ fun rows => ?_
  · refine .bind (.bind (drifting_run picks nofun) fun _ => .pure _) fun rows => ?_
    split
    · exact .pure rows
    · refine .bind (.bind (drifting_run picks nofun) fun _ => .pure _) fun parents => ?_
      exact .pure (rows + parents)
  · refine .bind (.attempt_bind (drifting_run picks nofun) fun _ => .pure ()) fun _ => ?_
    exact .pure rows

/-- Flagging other rows as pushed. -/
theorem drifting_markPushed (picks : Picks) (owner : Uuid) {other : Table} {keys : List String}
    (hnot : table = other → key ∉ keys) :
    Drifting table key ((⟨db picks, owner⟩ : RowStore Contended).markPushed other keys) := by
  unfold RowStore.markPushed
  split
  · exact .pure 0
  refine .bind (drifting_run picks ?_) fun _ => .pure _
  intro marked hmarked
  cases hmarked
  exact hnot rfl

end

end Contended

end AgentSync
