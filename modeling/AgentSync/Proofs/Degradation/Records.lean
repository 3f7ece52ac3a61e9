import AgentSync.Error
import AgentSync.Table
import Mathlib.Data.List.Basic
import Mathlib.Data.List.Perm.Subperm

namespace AgentSync

/-- A call to a writer. -/
inductive Save where
  | batch (table : Table) (rows : List Row)
  | one (table : Table) (row : Row)

namespace Save

/-- The table whose rows a call is about. -/
def table : Save → Table
  | batch table _ => table
  | one table _ => table

def rows : Save → List Row
  | batch _ rows => rows
  | one _ row => [row]

def isBatch : Save → Bool
  | batch _ _ => true
  | one _ _ => false

end Save

/-- A call with its answer. The calls of a save, written down in this way, show what its outcome
says about each of its rows. -/
structure SaveRecord where
  save : Save
  answer : Except Error Unit

namespace SaveRecord

/-- Whether a save goes on after the call: it was accepted, or refused because of missing rows. -/
def settles (record : SaveRecord) : Bool :=
  match record.answer with
  | .ok () => true
  | .error error => error.isConflict

/-- The rows of a call that was accepted. -/
def accepted (record : SaveRecord) : List Row :=
  match record.answer with
  | .ok () => record.save.rows
  | .error _ => []

/-- The row of a single save that was refused. -/
def refusedSingly? (record : SaveRecord) : Option Row :=
  match record with
  | ⟨.one _ row, .error _⟩ => some row
  | _ => none

end SaveRecord

/-- A single save of each row, in their order, with the answers they got. -/
def singleSaves (table : Table) (answered : List (Row × Except Error Unit)) : List SaveRecord :=
  answered.map fun (row, answer) => ⟨.one table row, answer⟩

/-- The calls of a whole cycle: the batch is refused and every row of it is saved singly, in order.
What is refused again is left. -/
def IsCycle (table : Table) (rows : List Row) (cycle : List SaveRecord) (refused : List Row) :
    Prop :=
  ∃ error answered, answered.map Prod.fst = rows ∧
    cycle = ⟨.batch table rows, .error error⟩ :: singleSaves table answered ∧
    (∀ record ∈ cycle, record.settles = true) ∧
    refused = cycle.filterMap SaveRecord.refusedSingly?

/-- Whole cycles one after another. The batch of each is what was refused in the one before. -/
inductive Cycles (table : Table) : List Row → List (List SaveRecord) → List Row → Prop
  | nil {rows : List Row} : Cycles table rows [] rows
  | cons {rows refused last : List Row} {cycle : List SaveRecord} {cycles : List (List SaveRecord)}
      (hrows : rows ≠ []) (hcycle : IsCycle table rows cycle refused)
      (hcycles : Cycles table refused cycles last) :
      Cycles table rows (cycle :: cycles) last

/-- The first calls of a cycle, or none. Rows are only saved singly after the batch of them was
refused. -/
inductive BeginsCycle (table : Table) (rows : List Row) : List SaveRecord → Prop
  | nothing : BeginsCycle table rows []
  | batch (answer : Except Error Unit) : BeginsCycle table rows [⟨.batch table rows, answer⟩]
  | singly {error : Error} {answered : List (Row × Except Error Unit)} {records : List SaveRecord}
      (hconflict : error.isConflict = true) (hrows : answered.map Prod.fst = rows)
      (hstart : records <+: singleSaves table answered) :
      BeginsCycle table rows (⟨.batch table rows, .error error⟩ :: records)

/-- The calls by which rows are saved in at most so many cycles, with the rows that are refused to
the last or the failure that ends them. After whole cycles nothing is left, no cycle is left, a
batch is accepted, or a call of the next cycle fails for another reason than missing rows. -/
inductive SaveCalls (table : Table) (limit : Nat) (rows : List Row) :
    List SaveRecord → Except Error (List Row) → Prop
  | cleared {cycles : List (List SaveRecord)} (hcycles : Cycles table rows cycles [])
      (hlength : cycles.length ≤ limit) : SaveCalls table limit rows cycles.flatten (.ok [])
  | left {cycles : List (List SaveRecord)} {refused : List Row}
      (hcycles : Cycles table rows cycles refused) (hlength : cycles.length = limit)
      (hrefused : refused ≠ []) : SaveCalls table limit rows cycles.flatten (.ok refused)
  | accepted {cycles : List (List SaveRecord)} {pending : List Row}
      (hcycles : Cycles table rows cycles pending) (hlength : cycles.length < limit)
      (hpending : pending ≠ []) :
      SaveCalls table limit rows (cycles.flatten ++ [⟨.batch table pending, .ok ()⟩]) (.ok [])
  | failed {cycles : List (List SaveRecord)} {pending : List Row} {earlier : List SaveRecord}
      {save : Save} {error : Error} (hcycles : Cycles table rows cycles pending)
      (hlength : cycles.length < limit) (hpending : pending ≠ [])
      (hbegins : BeginsCycle table pending (earlier ++ [⟨save, .error error⟩]))
      (hsettles : ∀ record ∈ earlier, record.settles = true) (hother : error.isConflict = false) :
      SaveCalls table limit rows (cycles.flatten ++ (earlier ++ [⟨save, .error error⟩]))
        (.error error)

/-- A whole cycle before the calls for the rows it leaves. -/
theorem SaveCalls.cons {table : Table} {limit : Nat} {rows refused : List Row}
    {cycle records : List SaveRecord} {result : Except Error (List Row)} (hrows : rows ≠ [])
    (hcycle : IsCycle table rows cycle refused)
    (h : SaveCalls table limit refused records result) :
    SaveCalls table (limit + 1) rows (cycle ++ records) result := by
  cases h with
  | cleared hcycles hlength =>
    exact .cleared (.cons hrows hcycle hcycles) (Nat.succ_le_succ hlength)
  | left hcycles hlength hrefused =>
    exact .left (.cons hrows hcycle hcycles) (congrArg Nat.succ hlength) hrefused
  | accepted hcycles hlength hpending =>
    rw [← List.append_assoc, ← List.flatten_cons]
    exact .accepted (.cons hrows hcycle hcycles) (Nat.succ_lt_succ hlength) hpending
  | failed hcycles hlength hpending hbegins hsettles hother =>
    rw [← List.append_assoc, ← List.flatten_cons]
    exact .failed (.cons hrows hcycle hcycles) (Nat.succ_lt_succ hlength) hpending hbegins hsettles
      hother

/-- Rows that are accepted singly keep their order. -/
theorem acceptedSingly_sublist (table : Table) (answered : List (Row × Except Error Unit)) :
    ((singleSaves table answered).flatMap SaveRecord.accepted).Sublist (answered.map Prod.fst) := by
  induction answered with
  | nil => exact .refl _
  | cons entry rest ih =>
    obtain ⟨row, error | ⟨⟩⟩ := entry
    · exact ih.cons row
    · exact ih.cons_cons row

/-- A row that is saved singly is accepted or refused. -/
theorem singleSaves_perm (table : Table) (answered : List (Row × Except Error Unit)) :
    ((singleSaves table answered).flatMap SaveRecord.accepted ++
      (singleSaves table answered).filterMap SaveRecord.refusedSingly?).Perm
        (answered.map Prod.fst) := by
  induction answered with
  | nil => exact .nil
  | cons entry rest ih =>
    obtain ⟨row, error | ⟨⟩⟩ := entry
    · exact List.perm_middle.trans (ih.cons row)
    · exact ih.cons row

namespace IsCycle

variable {table : Table} {rows refused : List Row} {cycle : List SaveRecord}

/-- Every row of a cycle is accepted in it or left. -/
theorem perm (h : IsCycle table rows cycle refused) :
    (cycle.flatMap SaveRecord.accepted ++ refused).Perm rows := by
  obtain ⟨error, answered, rfl, rfl, _, rfl⟩ := h
  exact singleSaves_perm table answered

end IsCycle

namespace Cycles

variable {table : Table} {rows last : List Row} {cycles : List (List SaveRecord)}

/-- Every row is accepted in one of the cycles or left by the last one. -/
theorem perm (h : Cycles table rows cycles last) :
    (cycles.flatten.flatMap SaveRecord.accepted ++ last).Perm rows := by
  induction h with
  | nil => exact .refl _
  | cons _ hcycle _ ih =>
    rw [List.flatten_cons, List.flatMap_append, List.append_assoc]
    exact (ih.append_left _).trans hcycle.perm

/-- No call of a whole cycle fails but by a refusal. -/
theorem settles (h : Cycles table rows cycles last) :
    ∀ record ∈ cycles.flatten, record.settles = true := by
  induction h with
  | nil => simp
  | cons _ hcycle _ ih =>
    rw [List.flatten_cons]
    obtain ⟨_, _, _, _, hsettles, _⟩ := hcycle
    exact List.forall_mem_append.mpr ⟨hsettles, ih⟩

end Cycles

/-- No call has rows that were accepted before it: the rows accepted before a call and those of the
call are different ones of the rows to save. -/
def NeverResends (rows : List Row) (records : List SaveRecord) : Prop :=
  ∀ before record after, records = before ++ record :: after →
    (before.flatMap SaveRecord.accepted ++ record.save.rows).Subperm rows

namespace NeverResends

variable {rows left : List Row} {records more : List SaveRecord}

theorem nil : NeverResends rows [] := fun _ _ _ hsplit =>
  absurd hsplit.symm (List.append_ne_nil_of_right_ne_nil _ (List.cons_ne_nil _ _))

/-- The first of some calls. -/
theorem mono (h : NeverResends rows records) (hstart : more <+: records) :
    NeverResends rows more := by
  obtain ⟨later, rfl⟩ := hstart
  rintro before record after rfl
  exact h before record (after ++ later) (by simp)

/-- Calls for the rows that others have left. -/
theorem append (h : NeverResends rows records)
    (hleft : (records.flatMap SaveRecord.accepted ++ left).Subperm rows)
    (hmore : NeverResends left more) : NeverResends rows (records ++ more) := by
  intro before record after hsplit
  rcases List.append_eq_append_iff.mp hsplit with ⟨middle, rfl, hlater⟩ | ⟨middle, rfl, hlater⟩
  · have hcall := hmore middle record after hlater
    rw [List.flatMap_append, List.append_assoc]
    exact ((List.subperm_append_left _).mpr hcall).trans hleft
  · cases middle with
    | nil =>
      have hcall := hmore [] record after hlater.symm
      rw [List.append_nil] at hleft
      exact ((List.subperm_append_left _).mpr hcall).trans hleft
    | cons first middle =>
      obtain ⟨rfl, -⟩ := List.cons.inj hlater
      exact h before record middle rfl

/-- A batch of all rows that is not accepted. -/
theorem refused (table : Table) (error : Error) (h : NeverResends rows records) :
    NeverResends rows (⟨.batch table rows, .error error⟩ :: records) := by
  intro before record after hsplit
  cases before with
  | nil =>
    obtain ⟨rfl, -⟩ := List.cons.inj hsplit
    exact .refl _
  | cons first before =>
    obtain ⟨rfl, hlater⟩ := List.cons.inj hsplit
    exact h before record after hlater

/-- Single saves of rows in their order. -/
theorem singly (table : Table) (answered : List (Row × Except Error Unit)) :
    NeverResends (answered.map Prod.fst) (singleSaves table answered) := by
  intro before record after hsplit
  obtain ⟨earlier, later, rfl, rfl, hlater⟩ := List.map_eq_append_iff.mp hsplit
  obtain ⟨⟨row, answer⟩, rest, rfl, rfl, -⟩ := List.map_eq_cons_iff.mp hlater
  rw [List.map_append, List.map_cons]
  exact ((acceptedSingly_sublist table earlier).append
    (List.singleton_sublist.mpr (List.mem_cons_self))).subperm

end NeverResends

end AgentSync
