import AgentSync.Proofs.Beside
import AgentSync.Proofs.Queue.Log

namespace AgentSync

open AgentSync.Action

variable {ω : Type}

/-- What handing an event to handlers came to: each is given the event in turn, up to the first
failure. Handlers are known by their places, of which the first and the number are given. -/
inductive Handles (event : Event) : Nat → Nat → Except Error Unit → List LogEntry → Prop
  | done (index : Nat) : Handles event index 0 (.ok ()) []
  | failed (index left : Nat) (error : Error) :
    Handles event index (left + 1) (.error error) [.handled index event (.error error)]
  | more {index left : Nat} {outcome : Except Error Unit} {entries : List LogEntry}
    (hrest : Handles event (index + 1) left outcome entries) :
    Handles event index (left + 1) outcome (.handled index event (.ok ()) :: entries)

/-- Handlers write down only that they were given the event. -/
theorem Handles.eq_handled {event : Event} {index left : Nat} {outcome : Except Error Unit}
    {entries : List LogEntry} (h : Handles event index left outcome entries) :
    ∀ entry ∈ entries, ∃ place result, entry = .handled place event result := by
  induction h with
  | done => simp
  | failed index left error => simp
  | more _ ih => simpa using ih

/-- Without a failure every handler was given the event and took it. -/
theorem Handles.of_ok {event : Event} {index left : Nat} {entries : List LogEntry}
    (h : Handles event index left (.ok ()) entries) {place : Nat} (hfrom : index ≤ place)
    (hbelow : place < index + left) : .handled place event (.ok ()) ∈ entries := by
  generalize houtcome : (Except.ok () : Except Error Unit) = outcome at h
  induction h with
  | done => omega
  | failed => cases houtcome
  | more _ ih =>
    subst houtcome
    rcases Nat.eq_or_lt_of_le hfrom with rfl | hlater
    · exact .head _
    · exact .tail _ (ih hlater (by omega) rfl)

/-- A handler is noted with its place, the event and the outcome. -/
theorem traces_handle (handler : SyncHandler ω) (index : Nat) (scope : Scope) (event : Event) :
    Traces (Beside.action ((handler.logged index).handle scope event))
      (Beside.action (handler.handle scope event))
      fun outcome entries => entries = [.handled index event outcome] :=
  fun _ => ⟨_, _, _, rfl, rfl, rfl, rfl⟩

/-- The handlers take the event in turn until one fails. By induction on the handlers. -/
theorem traces_handleAll (scope : Scope) (event : Event) (handlers : List (SyncHandler ω))
    (start : Nat) :
    Traces
      (Beside.action (SyncConsumer.handleAll scope event
        (handlers.mapIdx fun index handler => handler.logged (start + index))))
      (Beside.action (SyncConsumer.handleAll scope event handlers))
      (Handles event start handlers.length) := by
  induction handlers generalizing start with
  | nil => exact .pure (.done start)
  | cons handler rest ih =>
    rw [List.mapIdx_cons, SyncConsumer.handleAll, SyncConsumer.handleAll, Beside.action_bind,
      Beside.action_bind]
    refine (traces_handle handler start scope event).bind ?_ ?_
    · rintro error _ rfl
      exact .failed start rest.length error
    · rintro _ _ rfl
      have hrest := ih (start + 1)
      simp only [Nat.add_assoc, Nat.add_comm 1] at hrest
      exact hrest.mono fun _ _ hrest => .more hrest

theorem traces_recordFailure (db : Database ω) (id : Uuid) (error : String) :
    Traces (EventQueue.recordFailure ⟨Session.database db.logged⟩ id error)
      (EventQueue.recordFailure ⟨Session.database db⟩ id error) fun outcome entries =>
        ∃ answer, entries = [.sent (.recordFailure id error) answer] ∧
          outcome = (answer.mapError Error.database).map fun _ => () := by
  exact .run_bind db (fun failure => ⟨.error failure, rfl, rfl⟩)
    fun answer => .pure ⟨.ok answer, rfl, rfl⟩

/-- What consuming an event came to, from the opening of the transaction on. -/
inductive ConsumesOne (consumer : SyncConsumer ω) : Except Error Nat → List LogEntry → Prop
  | unopened (error : DatabaseError) :
    ConsumesOne consumer (.error (.database error)) [.sent .begin (.error error)]
  | unclaimed {error : Error} {claim : List LogEntry} (opened : Answer)
    (hclaim : Claims consumer.fetcher (.error error) claim)
    (answer : Except DatabaseError Answer) :
    ConsumesOne consumer (.error error)
      (.sent .begin (.ok opened) :: (claim ++ [.sent .rollback answer]))
  | idle {claim ending : List LogEntry} {outcome : Except Error Unit} (opened : Answer)
    (hclaim : Claims consumer.fetcher (.ok []) claim) (hend : Finishes .commit outcome ending) :
    ConsumesOne consumer (outcome.map fun _ => 0) (.sent .begin (.ok opened) :: (claim ++ ending))
  | handled {event : Event} {others : List Event} {claim handled ending : List LogEntry}
    {outcome : Except Error Unit} (opened : Answer)
    (hclaim : Claims consumer.fetcher (.ok (event :: others)) claim)
    (hhandled : Handles event 0 consumer.handlers.length (.ok ()) handled)
    (hend : Finishes .commit outcome ending) :
    ConsumesOne consumer (outcome.map fun _ => 1)
      (.sent .begin (.ok opened) :: (claim ++ (handled ++ ending)))
  | unended {event : Event} {others : List Event} {claim handled ending : List LogEntry}
    {failure error : Error} (opened : Answer)
    (hclaim : Claims consumer.fetcher (.ok (event :: others)) claim)
    (hhandled : Handles event 0 consumer.handlers.length (.error failure) handled)
    (hend : Finishes .rollback (.error error) ending) :
    ConsumesOne consumer (.error error)
      (.sent .begin (.ok opened) :: (claim ++ (handled ++ ending)))
  | recorded {event : Event} {others : List Event} {claim handled ending : List LogEntry}
    {failure : Error} (opened : Answer)
    (hclaim : Claims consumer.fetcher (.ok (event :: others)) claim)
    (hhandled : Handles event 0 consumer.handlers.length (.error failure) handled)
    (hend : Finishes .rollback (.ok ()) ending) (answer : Except DatabaseError Answer) :
    ConsumesOne consumer ((answer.mapError Error.database).map fun _ => 1)
      (.sent .begin (.ok opened) :: (claim ++ (handled ++ (ending ++
        [.sent (.recordFailure event.id failure.message) answer]))))

/-- What a consumer of single events writes down. -/
theorem traces_consumeOne (consumer : SyncConsumer ω) (scope : Scope) :
    Traces (consumer.logged.consumeOne scope) (consumer.consumeOne scope)
      (ConsumesOne consumer) := by
  unfold SyncConsumer.consumeOne
  refine .run_bind consumer.db (fun error => .unopened error) fun opened => ?_
  refine (traces_fetch consumer.db consumer.fetcher).attempt_bind ?_
  rintro (error | _ | ⟨event, others⟩) claim hclaim
  · refine (traces_abandon consumer.db error).mono ?_
    rintro _ _ ⟨rfl, answer, rfl⟩
    exact .unclaimed opened hclaim answer
  · refine (traces_finish consumer.db .commit).bind ?_ ?_
    · exact fun error ending hend => .idle opened hclaim hend
    · intro _ ending hend
      refine .pure ?_
      rw [List.append_nil]
      exact .idle opened hclaim hend
  · have hhandlers := traces_handleAll scope event consumer.handlers 0
    simp only [Nat.zero_add] at hhandlers
    refine (traces_record event).bind (fun error _ h => nomatch h.1) ?_
    rintro _ _ ⟨-, rfl⟩
    refine hhandlers.attempt_bind ?_
    rintro (failure | _) handled hhandled
    · refine (traces_finish consumer.db .rollback).bind ?_ ?_
      · intro error ending hend
        -- Stated first: in the goal the empty log of the ring hides which part is which.
        have hcourse := ConsumesOne.unended opened hclaim hhandled hend
        exact hcourse
      · intro _ ending hend
        refine (traces_recordFailure consumer.db event.id failure.message).bind ?_ ?_
        · rintro error _ ⟨failed | _, rfl, heq⟩
          · cases heq
            exact .recorded opened hclaim hhandled hend (.error failed)
          · cases heq
        · rintro _ _ ⟨_ | answer, rfl, heq⟩
          · cases heq
          · exact .pure (.recorded opened hclaim hhandled hend (.ok answer))
    · refine (traces_finish consumer.db .commit).bind ?_ ?_
      · exact fun error ending hend => .handled opened hclaim hhandled hend
      · intro _ ending hend
        refine .pure ?_
        rw [List.append_nil]
        exact .handled opened hclaim hhandled hend

theorem EventQueue.inOrder_eq_nil {events : List Event} : inOrder events = [] ↔ events = [] := by
  rw [← List.length_eq_zero_iff, inOrder, List.length_mergeSort, List.length_eq_zero_iff]

/-- A claim that succeeds hands out what was answered, in order. -/
theorem Claims.of_ok {fetcher : Fetcher} {claimed : List Event} {claim : List LogEntry}
    (h : Claims fetcher (.ok claimed) claim) :
    ∃ answer events, claim = [.sent fetcher.command (.ok answer)] ∧
      answer.rows.mapM Json.event? = some events ∧ claimed = EventQueue.inOrder events := by
  cases h with
  | claimed hrows => exact ⟨_, _, rfl, hrows, rfl⟩

theorem Claims.eq_sent {fetcher : Fetcher} {outcome : Except Error (List Event)}
    {claim : List LogEntry} (h : Claims fetcher outcome claim) :
    ∃ answer, claim = [.sent fetcher.command answer] := by
  cases h <;> exact ⟨_, rfl⟩

theorem Finishes.not_handled {command : Command} {outcome : Except Error Unit}
    {ending : List LogEntry} (h : Finishes command outcome ending) (index : Nat) (event : Event)
    (result : Except Error Unit) : .handled index event result ∉ ending := by
  cases h <;> simp

theorem Finishes.not_commit {outcome : Except Error Unit} {ending : List LogEntry}
    (h : Finishes .rollback outcome ending) (answer : Answer) :
    .sent .commit (.ok answer) ∉ ending := by
  cases h <;> simp

/-- Handlers send no statements of the queue's. -/
theorem Handles.not_sent {event : Event} {index left : Nat} {outcome : Except Error Unit}
    {entries : List LogEntry} (h : Handles event index left outcome entries) (command : Command)
    (answer : Except DatabaseError Answer) : .sent command answer ∉ entries := by
  intro hmem
  obtain ⟨_, _, heq⟩ := h.eq_handled _ hmem
  cases heq

/-- What is claimed in a transaction that commits: all of it was given to every handler, and taken
by each, exactly when there are no handlers or nothing but the first event was claimed. -/
theorem ConsumesOne.of_commit {consumer : SyncConsumer ω} {outcome : Except Error Nat}
    {entries : List LogEntry} (h : ConsumesOne consumer outcome entries) {answer : Answer}
    (hcommit : .sent .commit (.ok answer) ∈ entries) :
    ∃ claimed events, .sent consumer.fetcher.command (.ok claimed) ∈ entries ∧
      claimed.rows.mapM Json.event? = some events ∧
      ((∀ event ∈ events, ∀ index < consumer.handlers.length,
          .handled index event (.ok ()) ∈ entries) ↔
        consumer.handlers = [] ∨
          ∀ event ∈ events, (EventQueue.inOrder events).head? = some event) := by
  cases h with
  | unopened => simp at hcommit
  | unclaimed opened hclaim =>
    obtain ⟨_, rfl⟩ := hclaim.eq_sent
    simp [Fetcher.command] at hcommit
  | idle opened hclaim hend =>
    obtain ⟨claimed, events, rfl, hrows, hnone⟩ := hclaim.of_ok
    have hevents : events = [] := EventQueue.inOrder_eq_nil.mp hnone.symm
    refine ⟨claimed, events, by simp, hrows, ?_⟩
    simp [hevents]
  | @handled event others _ handled ending _ opened hclaim hhandled hend =>
    obtain ⟨claimed, events, rfl, hrows, horder⟩ := hclaim.of_ok
    refine ⟨claimed, events, by simp, hrows, ?_, ?_⟩
    · intro hall
      by_cases hnone : consumer.handlers = []
      · exact .inl hnone
      · refine .inr fun other hother => ?_
        have hmem := hall other hother 0 (List.length_pos_iff.mpr hnone)
        have hin : .handled 0 other (.ok ()) ∈ handled := by
          simpa [hend.not_handled] using hmem
        obtain ⟨_, _, heq⟩ := hhandled.eq_handled _ hin
        cases heq
        rw [← horder]
        rfl
    · rintro (hnone | hfirst) other hother index hindex
      · rw [hnone] at hindex
        cases hindex
      · have hhead := hfirst other hother
        rw [← horder] at hhead
        cases hhead
        have hmem := hhandled.of_ok (Nat.zero_le index) (by omega)
        simp [hmem]
  | unended opened hclaim hhandled hend =>
    obtain ⟨_, rfl⟩ := hclaim.eq_sent
    simp [Fetcher.command, hhandled.not_sent, hend.not_commit] at hcommit
  | recorded opened hclaim hhandled hend =>
    obtain ⟨_, rfl⟩ := hclaim.eq_sent
    simp [Fetcher.command, hhandled.not_sent, hend.not_commit] at hcommit

namespace SyncConsumer

/-- The exact reach of a commit, for all handlers and all answers of the database: what was claimed
was given to every handler, and taken by each, exactly when there are no handlers or nothing but the
first event was claimed. -/
theorem commit_handles_claimed_iff (consumer : SyncConsumer ω) (scope : Scope)
    (session : Session ω) :
    ∃ outcome after,
      runFrom (consumer.logged.consume scope) session.logged = (outcome, after) ∧
      runFrom (consumer.consume scope) session = (outcome, after.bare) ∧
      ∀ answer, .sent .commit (.ok answer) ∈ after.log →
        ∃ claimed events, .sent consumer.fetcher.command (.ok claimed) ∈ after.log ∧
          claimed.rows.mapM Json.event? = some events ∧
          ((∀ event ∈ events, ∀ index < consumer.handlers.length,
              .handled index event (.ok ()) ∈ after.log) ↔
            consumer.handlers = [] ∨
              ∀ event ∈ events, (EventQueue.inOrder events).head? = some event) := by
  obtain ⟨outcome, after, hfull, hbare, hcancelled, hlive⟩ :=
    (traces_consumeOne consumer scope).unlessCancelled scope session
  refine ⟨outcome, after, hfull, hbare, fun answer hcommit => ?_⟩
  cases hscope : session.rest.scopes.isCancelled scope with
  | true =>
    rw [hcancelled hscope] at hcommit
    cases hcommit
  | false => exact (hlive hscope).of_commit hcommit

end SyncConsumer

/-- An event that waits to be handled for the first time. -/
def pendingEvent (id : Nat) : Event :=
  .new ⟨BitVec.ofNat 128 id⟩ "poll" .empty ⟨1767225600, 0⟩

/-- A row that shows a pending event. -/
def pendingRow (id : String) : Json :=
  Json.object [("id", .str id), ("name", .str "poll"), ("created_at", .str "2026-01-01T00:00:00Z")]

/-- Two rows, whatever number of events was asked for. -/
def pendingPair : Answer :=
  ⟨[pendingRow "00000000-0000-0000-0000-000000000001",
    pendingRow "00000000-0000-0000-0000-000000000002"], 2⟩

/-- A database whose claims all come back with the same answer. -/
def claimDatabase (claimed : Answer) : Database ω where
  send
    | .claim _ _ _ => pure (.ok claimed)
    | _ => pure (.ok ⟨[], 0⟩)

/-- A consumer whose claims come back with two events, and whose one handler takes every event. -/
def pairConsumer : SyncConsumer Unit where
  db := claimDatabase pendingPair
  fetcher := .new ["poll"]
  handlers := [⟨"poll", fun _ _ => pure ()⟩]

def plainSession : Session Unit := ⟨none, ⟨default, 0, Scopes.none.root.2, default, ()⟩⟩

theorem inOrder_pendingPair :
    EventQueue.inOrder [pendingEvent 1, pendingEvent 2] = [pendingEvent 1, pendingEvent 2] :=
  List.mergeSort_of_pairwise (List.pairwise_pair.mpr rfl)

/-- Both events are claimed, although one was asked for. -/
theorem runFrom_fetch_pendingPair (fetcher : Fetcher) (session : Session (Logged Unit)) :
    runFrom (EventQueue.fetch ⟨Session.database (claimDatabase pendingPair).logged⟩ fetcher)
      session =
      (.ok [pendingEvent 1, pendingEvent 2], ⟨session.own, { session.rest with inner :=
        ⟨session.log ++ [.sent fetcher.command (.ok pendingPair)], ()⟩ }⟩) := by
  have hrows : pendingPair.rows.mapM Json.event? = some [pendingEvent 1, pendingEvent 2] := rfl
  have hsend : runFrom ((Session.database (claimDatabase pendingPair).logged).run
      fetcher.command) session =
    (.ok pendingPair, ⟨session.own, { session.rest with inner :=
      ⟨session.log ++ [.sent fetcher.command (.ok pendingPair)], ()⟩ }⟩) := rfl
  rw [← inOrder_pendingPair]
  exact EventQueue.runFrom_fetch hsend hrows

/-- Of two events that are claimed, one is given to the handler and both are gone with the
commit. -/
theorem commit_drops_second_event :
    pendingPair.rows.mapM Json.event? = some [pendingEvent 1, pendingEvent 2] ∧
    ∃ after, runFrom (pairConsumer.logged.consume Scopes.none.root.1) plainSession.logged =
        (.ok 1, after) ∧
      after.log =
        [.sent .begin (.ok ⟨[], 0⟩), .sent pairConsumer.fetcher.command (.ok pendingPair),
          .handled 0 (pendingEvent 1) (.ok ()), .sent .commit (.ok ⟨[], 0⟩)] := by
  have hdb : pairConsumer.logged.db = (claimDatabase pendingPair).logged := rfl
  -- The run is taken apart up to the claim, because sorting what was claimed does not compute.
  refine ⟨rfl, ?_⟩
  rw [SyncConsumer.consume, Session.runFrom_unlessCancelled, if_neg (by decide),
    SyncConsumer.consumeOne, runFrom_bind_of_ok (Database.runFrom_run _ _ _), runFrom_bind,
    runFrom_attempt, hdb, runFrom_fetch_pendingPair]
  exact ⟨_, rfl, rfl⟩

end AgentSync
