import AgentSync.Proofs.Json.Decode
import AgentSync.Proofs.Queue.Delivery
import AgentSync.Proofs.Queue.Stored

namespace AgentSync

open AgentSync.Action

variable {ω : Type}

/-- What handling a batch inside its transaction came to. -/
inductive HandlesBatch (consumer : BatchConsumer ω) (scope : Scope) :
    Except Error Nat → List LogEntry → Prop
  | unclaimed {error : Error} {claim : List LogEntry}
    (hclaim : Claims consumer.fetcher (.error error) claim) :
    HandlesBatch consumer scope (.error error) claim
  | idle {claim : List LogEntry} (hclaim : Claims consumer.fetcher (.ok []) claim) :
    HandlesBatch consumer scope (.ok 0) claim
  | unsettled {events : List Event} {claim puts : List LogEntry} {error : Error}
    (hclaim : Claims consumer.fetcher (.ok events) claim) (world : World ω) (now : Instant)
    (hputs : Requeues (BatchConsumer.retries
      ((consumer.handler.handle scope events).run world).1 now) (.error error) puts) :
    HandlesBatch consumer scope (.error error)
      (claim ++ (.handledBatch events ((consumer.handler.handle scope events).run world).1 :: puts))
  | settled {events : List Event} {claim puts : List LogEntry}
    (hclaim : Claims consumer.fetcher (.ok events) claim) (world : World ω) (now : Instant)
    (hputs : Requeues (BatchConsumer.retries
      ((consumer.handler.handle scope events).run world).1 now) (.ok ()) puts) :
    HandlesBatch consumer scope (.ok events.length)
      (claim ++ (.handledBatch events ((consumer.handler.handle scope events).run world).1 :: puts))

theorem traces_recordAll (events : List Event) :
    Traces (BatchConsumer.recordAll events : Action (Session (Logged ω)) Error Unit)
      (BatchConsumer.recordAll events) fun outcome entries => outcome = .ok () ∧ entries = [] := by
  induction events with
  | nil => exact .pure ⟨rfl, rfl⟩
  | cons event rest ih =>
    refine (traces_record event).bind (fun error _ h => nomatch h.1) ?_
    rintro _ _ ⟨-, rfl⟩
    exact ih

/-- The handler of a batch is noted with what it was given and what it answered. -/
theorem traces_handleBatch (handler : BatchHandler ω) (scope : Scope) (events : List Event) :
    Traces (Beside.action (ExceptT.lift (handler.logged.handle scope events)))
      (Beside.action (ExceptT.lift (handler.handle scope events)))
      fun (outcome : Except Error (List FailedEvent)) entries => ∃ world,
        outcome = .ok ((handler.handle scope events).run world).1 ∧
        entries = [.handledBatch events ((handler.handle scope events).run world).1] :=
  fun session => ⟨_, _, _, rfl, rfl, rfl, session.bare.rest, rfl, rfl⟩

theorem traces_clock :
    Traces (Beside.action World.clock : Action (Session (Logged ω)) Error Instant)
      (Beside.action World.clock) fun outcome entries => ∃ now, outcome = .ok now ∧ entries = [] :=
  fun _ => ⟨_, _, _, rfl, rfl, (List.append_nil _).symm, _, rfl, rfl⟩

/-- A batch is claimed, handled and put back in one transaction. -/
theorem traces_consumeBatch (consumer : BatchConsumer ω) (scope : Scope) :
    Traces (consumer.logged.consumeBatch scope) (consumer.consumeBatch scope)
      (Transacts (HandlesBatch consumer scope)) := by
  refine traces_transaction consumer.db ?_
  refine (traces_fetch consumer.db consumer.fetcher).bind
    (fun error claim hclaim => .unclaimed hclaim) ?_
  intro events claim hclaim
  by_cases hnone : events = []
  · subst hnone
    refine .pure ?_
    rw [List.append_nil]
    exact .idle hclaim
  · have hempty : events.isEmpty = false := by simpa using hnone
    rw [hempty, if_neg Bool.false_ne_true, if_neg Bool.false_ne_true]
    refine (traces_recordAll events).bind (fun error _ h => nomatch h.1) ?_
    rintro _ _ ⟨-, rfl⟩
    refine (traces_handleBatch consumer.handler scope events).bind
      (fun error _ ⟨_, h, _⟩ => nomatch h) ?_
    rintro _ _ ⟨world, heq, rfl⟩
    cases heq
    have hunsettled (now : Instant) {error : Error} {puts : List LogEntry}
        (hputs : Requeues (BatchConsumer.retries
          ((consumer.handler.handle scope events).run world).1 now) (.error error) puts) :=
      HandlesBatch.unsettled hclaim world now hputs
    have hsettled (now : Instant) {puts : List LogEntry}
        (hputs : Requeues (BatchConsumer.retries
          ((consumer.handler.handle scope events).run world).1 now) (.ok ()) puts) :=
      HandlesBatch.settled hclaim world now hputs
    -- From here on the handler's answer is any list: only whether it is empty matters.
    generalize ((consumer.handler.handle scope events).run world).1 = failed at *
    cases failed with
    | nil => exact .pure (hsettled default .done)
    | cons first others =>
      refine traces_clock.bind (fun error _ ⟨_, h, _⟩ => nomatch h) ?_
      rintro _ _ ⟨now, heq, rfl⟩
      cases heq
      refine (traces_requeue consumer.db _).bind (fun error puts hputs => ?_) ?_
      · exact hunsettled _ hputs
      · intro _ puts hputs
        refine .pure ?_
        rw [List.append_nil]
        exact hsettled _ hputs

theorem Requeues.of_ok {events : List Event} {puts : List LogEntry}
    (h : Requeues events (.ok ()) puts) : List.Forall₂ PutsBack events puts := by
  generalize houtcome : (Except.ok () : Except Error Unit) = outcome at h
  induction h with
  | done => exact .nil
  | failed => cases houtcome
  | more answer _ ih => exact .cons ⟨answer, rfl⟩ (ih houtcome)

/-- An entry that shows neither a failure nor a commit. -/
def LogEntry.IsPlain : LogEntry → Prop
  | .sent command answer => command ≠ .commit ∧ ∃ value, answer = .ok value
  | _ => True

/-- A log that stops at the first statement that fails, or with a rollback after it. -/
def Breaks (failure : DatabaseError) (log : List LogEntry) : Prop :=
  ∃ earlier command later, log = earlier ++ .sent command (.error failure) :: later ∧
    (∀ entry ∈ earlier, entry.IsPlain) ∧ (later = [] ∨ ∃ answer, later = [.sent .rollback answer])

theorem Breaks.cons {failure : DatabaseError} {log : List LogEntry} {entry : LogEntry}
    (hentry : entry.IsPlain) (h : Breaks failure log) : Breaks failure (entry :: log) := by
  obtain ⟨earlier, command, later, rfl, hearlier, hlater⟩ := h
  exact ⟨entry :: earlier, command, later, rfl, List.forall_mem_cons.mpr ⟨hentry, hearlier⟩, hlater⟩

/-- After a statement that failed nothing is committed. -/
theorem Breaks.not_commit {failure : DatabaseError} {log : List LogEntry} (h : Breaks failure log)
    (answer : Answer) : .sent .commit (.ok answer) ∉ log := by
  obtain ⟨earlier, command, later, rfl, hearlier, hlater⟩ := h
  have hfirst : .sent .commit (.ok answer) ∉ earlier := fun hmem => (hearlier _ hmem).1 rfl
  rcases hlater with rfl | ⟨rolledBack, rfl⟩ <;> simp [hfirst]

theorem Requeues.isPlain {events : List Event} {outcome : Except Error Unit}
    {puts : List LogEntry} (h : Requeues events outcome puts) (hok : outcome = .ok ()) :
    ∀ entry ∈ puts, entry.IsPlain := by
  induction h with
  | done => simp
  | failed => cases hok
  | more answer _ ih =>
    intro entry hmem
    rcases List.mem_cons.mp hmem with rfl | hmem
    · exact ⟨nofun, answer, rfl⟩
    · exact ih hok entry hmem

/-- How a transaction that claims events stops: with a commit, at the first statement that fails, or
at rows that cannot be read. -/
inductive BatchStops (fetcher : Fetcher) : Except Error Nat → List LogEntry → Prop
  | committed {n : Nat} {earlier : List LogEntry} (answer : Answer)
    (hearlier : ∀ entry ∈ earlier, entry.IsPlain) :
    BatchStops fetcher (.ok n) (earlier ++ [.sent .commit (.ok answer)])
  | broken {failure : DatabaseError} {log : List LogEntry} (h : Breaks failure log) :
    BatchStops fetcher (.error (.database failure)) log
  | unread {opened claimed : Answer} (answer : Except DatabaseError Answer)
    (hrows : claimed.rows.mapM Json.event? = none) :
    BatchStops fetcher (.error (.database .undecodable))
      [.sent .begin (.ok opened), .sent fetcher.command (.ok claimed), .sent .rollback answer]

/-- In a batch that is handled to its end no statement failed. -/
theorem HandlesBatch.isPlain {consumer : BatchConsumer ω} {scope : Scope} {n : Nat}
    {entries : List LogEntry} (h : HandlesBatch consumer scope (.ok n) entries) :
    ∀ entry ∈ entries, entry.IsPlain := by
  cases h with
  | idle hclaim =>
    obtain ⟨claimed, events, rfl, -, -⟩ := hclaim.of_ok
    simp [LogEntry.IsPlain, Fetcher.command]
  | settled hclaim world now hputs =>
    obtain ⟨claimed, events, rfl, -, -⟩ := hclaim.of_ok
    have hplain := hputs.isPlain rfl
    simpa [LogEntry.IsPlain, Fetcher.command] using hplain

/-- A batch that ends in an error has no commit. -/
theorem BatchStops.not_commit {fetcher : Fetcher} {error : Error} {log : List LogEntry}
    (h : BatchStops fetcher (.error error) log) (answer : Answer) :
    .sent .commit (.ok answer) ∉ log := by
  cases h with
  | broken hbreaks => exact hbreaks.not_commit answer
  | unread => simp [Fetcher.command]

/-- Rows that cannot be read end a claim right after its statement. -/
theorem Claims.of_unread {fetcher : Fetcher} {outcome : Except Error (List Event)}
    {claim : List LogEntry} (h : Claims fetcher outcome claim) {claimed : Answer}
    (hclaimed : .sent fetcher.command (.ok claimed) ∈ claim)
    (hrows : claimed.rows.mapM Json.event? = none) :
    outcome = .error (.database .undecodable) ∧ claim = [.sent fetcher.command (.ok claimed)] := by
  cases h with
  | refused => simp at hclaimed
  | undecodable =>
    cases List.mem_singleton.mp hclaimed
    exact ⟨rfl, rfl⟩
  | claimed hevents =>
    cases List.mem_singleton.mp hclaimed
    rw [hevents] at hrows
    cases hrows

/-- Nothing is claimed while events are put back. -/
theorem Requeues.not_claim {events : List Event} {outcome : Except Error Unit}
    {puts : List LogEntry} (h : Requeues events outcome puts) (fetcher : Fetcher)
    (answer : Except DatabaseError Answer) : .sent fetcher.command answer ∉ puts := by
  induction h with
  | done => simp
  | failed => simp [Fetcher.command]
  | more answer _ ih => simpa [Fetcher.command] using ih

/-- The handler never sees a claim that cannot be read. -/
theorem HandlesBatch.of_unread {consumer : BatchConsumer ω} {scope : Scope}
    {outcome : Except Error Nat} {entries : List LogEntry}
    (h : HandlesBatch consumer scope outcome entries) {claimed : Answer}
    (hclaimed : .sent consumer.fetcher.command (.ok claimed) ∈ entries)
    (hrows : claimed.rows.mapM Json.event? = none) :
    outcome = .error (.database .undecodable) ∧
      entries = [.sent consumer.fetcher.command (.ok claimed)] := by
  cases h with
  | unclaimed hclaim =>
    obtain ⟨houtcome, hentries⟩ := hclaim.of_unread hclaimed hrows
    cases houtcome
    exact ⟨rfl, hentries⟩
  | idle hclaim => cases (hclaim.of_unread hclaimed hrows).1
  | unsettled hclaim world now hputs | settled hclaim world now hputs =>
    cases (hclaim.of_unread (by simpa [hputs.not_claim] using hclaimed) hrows).1

/-- Rows that cannot be read are given up with a rollback. -/
theorem Transacts.of_unread {consumer : BatchConsumer ω} {scope : Scope}
    {outcome : Except Error Nat} {log : List LogEntry}
    (h : Transacts (HandlesBatch consumer scope) outcome log) {claimed : Answer}
    (hclaimed : .sent consumer.fetcher.command (.ok claimed) ∈ log)
    (hrows : claimed.rows.mapM Json.event? = none) :
    outcome = .error (.database .undecodable) ∧ ∃ opened answer,
      log = [.sent .begin (.ok opened), .sent consumer.fetcher.command (.ok claimed),
        .sent .rollback answer] := by
  cases h with
  | unopened => simp [Fetcher.command] at hclaimed
  | failed opened hbody answer =>
    obtain ⟨houtcome, rfl⟩ := hbody.of_unread (by simpa [Fetcher.command] using hclaimed) hrows
    cases houtcome
    exact ⟨rfl, opened, answer, rfl⟩
  | unended opened hbody hend | ended opened hbody hend =>
    cases hend
    cases (hbody.of_unread (by simpa [Fetcher.command] using hclaimed) hrows).1

end AgentSync
