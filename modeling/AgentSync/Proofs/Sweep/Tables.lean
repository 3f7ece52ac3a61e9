import AgentSync.Proofs.Beside
import AgentSync.Proofs.Ring.History
import AgentSync.Proofs.Sweep.Report
import AgentSync.Proofs.Table

namespace AgentSync

open AgentSync.Action

/-- Whether there is a text to report a failure with: only a failure of parts may name no part. -/
def Error.HasText (error : Error) : Prop := error ≠ .reconcile []

namespace JobRecord

end JobRecord

namespace Reconciler

/-- A failure with a text contributes to the report. -/
theorem tableFailures_ne_nil (table : Table) {error : Error} (htext : error.HasText) :
    tableFailures table error ≠ [] := by
  cases error with
  | reconcile errors => exact fun hnil => htext (congrArg Error.reconcile hnil)
  | _ => exact List.cons_ne_nil _ _

variable {ω : Type} (reconciler : Reconciler ω)
  (hdigest : ∀ request, FailsOnly Error.HasText (reconciler.source.digest request))
include hdigest

end Reconciler

/-- A sweep over a table: what it came to, and its record. -/
structure TableSweep where
  table : Table
  outcome : Except Error Nat
  record : JobRecord

namespace TableSweep

def succeeded (sweep : TableSweep) : Bool := sweep.outcome.isOk

/-- The number of rows that were pushed. -/
def pushed (sweep : TableSweep) : Nat :=
  match sweep.outcome with
  | .ok count => count
  | .error _ => 0

/-- What the sweep contributes to the report. -/
def failures (sweep : TableSweep) : List String :=
  match sweep.outcome with
  | .ok _ => []
  | .error error => Reconciler.tableFailures sweep.table error

/-- The ring of the records of sweeps over the table. -/
def key (sweep : TableSweep) : RingKey := ⟨.nil, "reconcile", sweep.table.name⟩

/-- A closed record that says what the sweep contributes to the report. The errors are counted in
the word of the counter, and the status follows from the count. -/
structure IsRecorded (sweep : TableSweep) : Prop where
  key : RingKey.ofRecord sweep.record = sweep.key
  ended : sweep.record.timeEnd.isSome
  errors : sweep.record.errors = sweep.failures
  errorCount : sweep.record.errorCount = Word.wrap32 sweep.failures.length
  status : sweep.record.status =
    if Word.wrap32 sweep.failures.length = 0 then .success else .failed

/-- A sweep contributes to the report if it failed. -/
theorem failures_eq_nil_iff {sweep : TableSweep}
    (htext : ∀ error, sweep.outcome = .error error → error.HasText) :
    sweep.failures = [] ↔ sweep.succeeded := by
  unfold failures succeeded
  cases houtcome : sweep.outcome with
  | ok count => exact iff_of_true rfl rfl
  | error error =>
    exact iff_of_false (Reconciler.tableFailures_ne_nil _ (htext error houtcome)) Bool.false_ne_true

theorem IsRecorded.of_error {table : Table} {error : Error} {record : JobRecord}
    (hkey : RingKey.ofRecord record = ⟨.nil, "reconcile", table.name⟩)
    (hended : record.timeEnd.isSome)
    (herrors : record.errors = Reconciler.tableFailures table error)
    (hcount : record.errorCount = Word.wrap32 (Reconciler.tableFailures table error).length)
    (hstatus : record.status =
      if Word.wrap32 (Reconciler.tableFailures table error).length = 0 then .success
      else .failed) :
    IsRecorded ⟨table, .error error, record⟩ := ⟨hkey, hended, herrors, hcount, hstatus⟩

/-- As long as the counter can hold the number of the errors, it is their number and the status
tells whether the sweep succeeded. -/
theorem IsRecorded.counted {sweep : TableSweep} (h : sweep.IsRecorded)
    (htext : ∀ error, sweep.outcome = .error error → error.HasText)
    (hfits : sweep.failures.length ≤ 0x7FFFFFFF) :
    sweep.record.errorCount = sweep.failures.length ∧
      sweep.record.status = if sweep.succeeded then .success else .failed := by
  have hcount : Word.wrap32 sweep.failures.length = sweep.failures.length :=
    Word.wrap32_of_bounds (by omega) (by omega)
  have hzero : Word.wrap32 sweep.failures.length = 0 ↔ sweep.succeeded := by
    rw [hcount, Int.natCast_eq_zero, List.length_eq_zero_iff]
    exact failures_eq_nil_iff htext
  exact ⟨h.errorCount.trans hcount, h.status.trans (if_congr hzero rfl rfl)⟩

end TableSweep

namespace Reconciler.Progress

end Reconciler.Progress

namespace TableSweep

end TableSweep

/-- Where sweeps over tables end: after the last table, at a cancellation, or at a table that needs
more rounds than were given. -/
inductive SweepsEnd (ω : Type) where
  | finished (after : World ω)
  | cancelled (after : World ω)
  | outOfRounds

/-- What there is once sweeps have ended. -/
def SweepsEnd.result {ω : Type} (finished : Except Error Nat) (history : Option History) :
    SweepsEnd ω → Option (Except Error Nat × Beside (Option History) (World ω))
  | .finished after => some (finished, ⟨history, after⟩)
  | .cancelled after => some (.error .cancelled, ⟨history, after⟩)
  | .outOfRounds => none

section

variable {ω : Type} (reconciler : Reconciler ω) (rounds : Nat) (scope : Scope)

namespace SweepsTables

variable {reconciler rounds scope}
variable {tables : List Table} {world : World ω} {sweeps : List TableSweep} {ending : SweepsEnd ω}

end SweepsTables

end

end AgentSync
