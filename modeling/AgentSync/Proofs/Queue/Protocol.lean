import AgentSync.Proofs.Queue.Delivery

namespace AgentSync

open AgentSync.Action

variable {ω : Type}

/-- The stages of a call, in their order. -/
inductive Stage where
  | opening
  | claim
  | handling
  | commit
  | rollback
  | bookkeeping
  | other
  deriving DecidableEq, Repr

/-- A transaction has one end, of either kind. -/
def Stage.rank : Stage → Nat
  | opening => 0
  | claim => 1
  | handling => 2
  | commit | rollback => 3
  | bookkeeping => 4
  | other => 5

namespace Command

def stage : Command → Stage
  | .begin => .opening
  | .claim _ _ _ => .claim
  | .commit => .commit
  | .rollback => .rollback
  | .recordFailure _ _ => .bookkeeping
  | _ => .other

@[simp] theorem stage_begin : begin.stage = .opening := rfl

@[simp] theorem stage_commit : commit.stage = .commit := rfl

@[simp] theorem stage_rollback : rollback.stage = .rollback := rfl

@[simp] theorem stage_recordFailure (id : Uuid) (error : String) :
    (recordFailure id error).stage = .bookkeeping := rfl

end Command

@[simp] theorem Fetcher.stage_command (fetcher : Fetcher) : fetcher.command.stage = .claim := rfl

/-- The stage of a call to which an entry belongs. -/
def LogEntry.stage : LogEntry → Stage
  | .sent command _ => command.stage
  | .handled _ _ _ => .handling
  | .handledBatch _ _ => .other

@[simp] theorem LogEntry.stage_sent (command : Command) (answer : Except DatabaseError Answer) :
    (sent command answer).stage = command.stage := rfl

def entriesOf (stage : Stage) (log : List LogEntry) : List LogEntry :=
  log.filter (·.stage = stage)

section

variable {stage : Stage} {entries : List LogEntry}

@[simp] theorem entriesOf_nil : entriesOf stage [] = [] := rfl

@[simp] theorem entriesOf_cons (entry : LogEntry) :
    entriesOf stage (entry :: entries) =
      if entry.stage = stage then entry :: entriesOf stage entries
      else entriesOf stage entries := by
  simp [entriesOf, List.filter_cons]

@[simp] theorem entriesOf_append (more : List LogEntry) :
    entriesOf stage (entries ++ more) = entriesOf stage entries ++ entriesOf stage more :=
  List.filter_append ..

end

/-- Of events that were claimed the first goes to the handlers in turn, up to the first failure. -/
inductive HandsOver (handlers : Nat) :
    List Event → Except Error Unit → List LogEntry → Prop
  | nothing : HandsOver handlers [] (.ok ()) []
  | first {event : Event} {others : List Event} {result : Except Error Unit}
    {entries : List LogEntry} (h : Handles event 0 handlers result entries) :
    HandsOver handlers (event :: others) result entries

namespace HandsOver

variable {handlers : Nat} {claimed : List Event} {result : Except Error Unit}
  {entries : List LogEntry}

theorem not_sent (h : HandsOver handlers claimed result entries) (command : Command)
    (answer : Except DatabaseError Answer) : .sent command answer ∉ entries := by
  cases h with
  | nothing => simp
  | first h => exact h.not_sent command answer

end HandsOver

/-- A claim fails by its statement or by rows that cannot be read. -/
theorem Claims.of_error {fetcher : Fetcher} {error : Error} {claim : List LogEntry}
    (h : Claims fetcher (.error error) claim) :
    (∃ failure, claim = [.sent fetcher.command (.error failure)] ∧ error = .database failure) ∨
      ∃ answer, claim = [.sent fetcher.command (.ok answer)] ∧
        answer.rows.mapM Json.event? = none ∧ error = .database .undecodable := by
  cases h with
  | refused failure => exact .inl ⟨failure, rfl, rfl⟩
  | undecodable hrows => exact .inr ⟨_, rfl, hrows, rfl⟩

namespace KeepsProtocol

variable {consumer : SyncConsumer ω} (opened : Answer) {claimed : Answer} {events : List Event}
  {result : Except Error Unit} {handled ending : List LogEntry}

end KeepsProtocol

end AgentSync
