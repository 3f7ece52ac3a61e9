import AgentSync.Proofs.Queue.Batch
import AgentSync.Proofs.Time.Instant
import Mathlib.Data.List.Permutation

namespace AgentSync

open AgentSync.Action

variable {ω : Type}

namespace Event

/-- An event that is handed out no later than another: it is more urgent, or as urgent and no
younger. -/
def Precedes (a b : Event) : Prop :=
  b.priority < a.priority ∨ a.priority = b.priority ∧ a.createdAt ≤ b.createdAt

/-- The order of the rows is the one that is promised: urgency, then age. -/
theorem claimedBefore_iff {a b : Event} : a.claimedBefore b = true ↔ a.Precedes b := by
  simp [claimedBefore, Precedes]

theorem Precedes.trans {a b c : Event} (hab : a.Precedes b) (hbc : b.Precedes c) :
    a.Precedes c := by
  rcases hab with hab | ⟨hab, haged⟩
  · exact .inl (by rcases hbc with hbc | ⟨hbc, -⟩ <;> omega)
  · rcases hbc with hbc | ⟨hbc, hbged⟩
    · exact .inl (by omega)
    · exact .inr ⟨hab.trans hbc, Instant.le_trans haged hbged⟩

theorem precedes_total (a b : Event) : a.Precedes b ∨ b.Precedes a := by
  rcases Int.lt_trichotomy a.priority b.priority with hless | heq | hmore
  · exact .inr (.inl hless)
  · rcases Instant.le_total a.createdAt b.createdAt with hage | hage
    · exact .inl (.inr ⟨heq, hage⟩)
    · exact .inr (.inr ⟨heq.symm, hage⟩)
  · exact .inl (.inl hmore)

end Event

namespace EventQueue

theorem claimedBefore_trans (a b c : Event) (hab : a.claimedBefore b = true)
    (hbc : b.claimedBefore c = true) : a.claimedBefore c = true := by
  rw [Event.claimedBefore_iff] at hab hbc ⊢
  exact hab.trans hbc

theorem claimedBefore_total (a b : Event) : (a.claimedBefore b || b.claimedBefore a) = true := by
  rw [Bool.or_eq_true, Event.claimedBefore_iff, Event.claimedBefore_iff]
  exact Event.precedes_total a b

/-- What is handed out is in order. -/
theorem pairwise_inOrder (events : List Event) : (inOrder events).Pairwise Event.Precedes :=
  (List.pairwise_mergeSort claimedBefore_trans claimedBefore_total events).imp
    Event.claimedBefore_iff.mp

/-- Sorting leaves events alone that precede each other. -/
theorem filter_inOrder (events : List Event) {p : Event → Bool}
    (hsame : ∀ a b, p a = true → p b = true → a.Precedes b) :
    (inOrder events).filter p = events.filter p := by
  have hpairwise : (events.filter p).Pairwise fun a b => a.claimedBefore b = true :=
    List.pairwise_of_forall_mem_list fun a ha b hb => Event.claimedBefore_iff.mpr
      (hsame a b (List.mem_filter.mp ha).2 (List.mem_filter.mp hb).2)
  have hsublist : (events.filter p).Sublist (inOrder events) :=
    List.sublist_mergeSort claimedBefore_trans claimedBefore_total hpairwise List.filter_sublist
  have hfiltered : (events.filter p).Sublist ((inOrder events).filter p) := by
    simpa using hsublist.filter p
  have hlength : ((inOrder events).filter p).length = (events.filter p).length :=
    ((List.mergeSort_perm events _).filter p).length_eq
  exact (hfiltered.eq_of_length hlength.symm).symm

end EventQueue

/-- Events as a claim hands them out: all that were answered, in order, and those that are alike in
the order of the answer. -/
structure HandedOut (answered claimed : List Event) : Prop where
  perm : claimed.Perm answered
  sorted : claimed.Pairwise Event.Precedes
  stable : ∀ priority createdAt,
    claimed.filter (fun event => event.priority = priority ∧ event.createdAt = createdAt) =
      answered.filter fun event => event.priority = priority ∧ event.createdAt = createdAt

/-- Ordering the events loses none, and leaves those of equal urgency and age as they were answered.
-/
theorem handedOut_inOrder (events : List Event) : HandedOut events (EventQueue.inOrder events) where
  perm := List.mergeSort_perm events _
  sorted := EventQueue.pairwise_inOrder events
  stable priority createdAt := by
    refine EventQueue.filter_inOrder events fun a b ha hb => ?_
    simp only [decide_eq_true_eq] at ha hb
    exact .inr ⟨ha.1.trans hb.1.symm, by rw [ha.2, hb.2]; exact Instant.le_refl _⟩

/-- What claiming events comes to, by what the database answers. -/
theorem EventQueue.fetch_of_answer {queue : EventQueue ω} {fetcher : Fetcher} {state after : ω}
    {answer : Answer} (hsend : (queue.db.send fetcher.command).run state = (.ok answer, after)) :
    (∀ events, answer.rows.map Json.event? = events.map some →
      runFrom (queue.fetch fetcher) state = (.ok (inOrder events), after)) ∧
    ((∃ row ∈ answer.rows, Json.event? row = none) →
      runFrom (queue.fetch fetcher) state = (.error (.database .undecodable), after)) := by
  have hrun : runFrom (queue.db.run fetcher.command) state = (.ok answer, after) := by
    rw [Database.runFrom_run, hsend]
    rfl
  refine ⟨fun events hrows => runFrom_fetch hrun (mapM_eq_some_iff.mpr hrows), fun hrow => ?_⟩
  rw [fetch, claim, Database.queryAll, bind_assoc]
  refine (runFrom_bind_of_ok hrun _).trans ?_
  rw [mapM_eq_none_iff.mpr hrow]
  rfl

/-- Rows that cannot be read are given up with a rollback, before any handler is given an event. -/
theorem ConsumesOne.of_unread {consumer : SyncConsumer ω} {outcome : Except Error Nat}
    {log : List LogEntry} (h : ConsumesOne consumer outcome log) {claimed : Answer}
    (hclaimed : .sent consumer.fetcher.command (.ok claimed) ∈ log)
    (hrows : claimed.rows.mapM Json.event? = none) :
    outcome = .error (.database .undecodable) ∧ ∃ opened answer,
      log = [.sent .begin (.ok opened), .sent consumer.fetcher.command (.ok claimed),
        .sent .rollback answer] := by
  cases h with
  | unopened => simp [Fetcher.command] at hclaimed
  | unclaimed opened hclaim answer =>
    obtain ⟨houtcome, rfl⟩ := hclaim.of_unread (by simpa [Fetcher.command] using hclaimed) hrows
    cases houtcome
    exact ⟨rfl, opened, answer, rfl⟩
  | idle opened hclaim hend =>
    cases hend <;>
      cases (hclaim.of_unread (by simpa [Fetcher.command] using hclaimed) hrows).1
  | handled opened hclaim hhandled hend | unended opened hclaim hhandled hend
  | recorded opened hclaim hhandled hend answer =>
    cases hend <;> cases (hclaim.of_unread
      (by simpa [Fetcher.command, hhandled.not_sent] using hclaimed) hrows).1

/-- A call that gives up what it claimed if one row cannot be read: it fails with a rollback, and
has done nothing with the others. -/
def GivesUpUnread (fetcher : Fetcher) (outcome : Except Error Nat) (log : List LogEntry) : Prop :=
  ∀ claimed, .sent fetcher.command (.ok claimed) ∈ log →
    (∃ row ∈ claimed.rows, Json.event? row = none) →
    outcome = .error (.database .undecodable) ∧ ∃ opened answer,
      log = [.sent .begin (.ok opened), .sent fetcher.command (.ok claimed),
        .sent .rollback answer]

/-- What gives up on rows that cannot be read does so in any scope that is not cancelled. -/
theorem Traces.givesUpUnread {full : Action (Session (Logged ω)) Error Nat}
    {bare : Action (Session ω) Error Nat} {fits : Except Error Nat → List LogEntry → Prop}
    {fetcher : Fetcher} (h : Traces full bare fits)
    (hunread : ∀ outcome log, fits outcome log → GivesUpUnread fetcher outcome log)
    (scope : Scope) (session : Session ω) :
    ∃ outcome after,
      runFrom (Session.unlessCancelled scope full) session.logged = (outcome, after) ∧
      runFrom (Session.unlessCancelled scope bare) session = (outcome, after.bare) ∧
      GivesUpUnread fetcher outcome after.log := by
  obtain ⟨outcome, after, hfull, hbare, hcancelled, hlive⟩ := h.unlessCancelled scope session
  refine ⟨outcome, after, hfull, hbare, ?_⟩
  cases hscope : session.rest.scopes.isCancelled scope with
  | true =>
    rw [hcancelled hscope]
    exact fun _ hclaimed => nomatch hclaimed
  | false => exact hunread _ _ (hlive hscope)

/-- Whatever the database answers to a claim, all of it is handed out in order, or nothing if a row
cannot be read; and then the transaction of a consumer ends without a commit. -/
theorem EventQueue.fetch_all_or_nothing (queue : EventQueue ω) (fetcher : Fetcher)
    {state after : ω} {answer : Answer}
    (hsend : (queue.db.send fetcher.command).run state = (.ok answer, after)) :
    (∀ events, answer.rows.map Json.event? = events.map some →
      ∃ claimed, runFrom (queue.fetch fetcher) state = (.ok claimed, after) ∧
        HandedOut events claimed) ∧
    ((∃ row ∈ answer.rows, Json.event? row = none) →
      runFrom (queue.fetch fetcher) state = (.error (.database .undecodable), after)) ∧
    (∀ (consumer : SyncConsumer ω) (scope : Scope) (session : Session ω), ∃ outcome after,
      runFrom (consumer.logged.consume scope) session.logged = (outcome, after) ∧
      runFrom (consumer.consume scope) session = (outcome, after.bare) ∧
      GivesUpUnread consumer.fetcher outcome after.log) ∧
    (∀ (consumer : BatchConsumer ω) (scope : Scope) (session : Session ω), ∃ outcome after,
      runFrom (consumer.logged.consume scope) session.logged = (outcome, after) ∧
      runFrom (consumer.consume scope) session = (outcome, after.bare) ∧
      GivesUpUnread consumer.fetcher outcome after.log) := by
  obtain ⟨hread, hunread⟩ := fetch_of_answer hsend
  refine ⟨fun events hrows => ⟨_, hread events hrows, handedOut_inOrder events⟩, hunread, ?_, ?_⟩
  · intro consumer scope
    exact (traces_consumeOne consumer scope).givesUpUnread (fun _ _ hcourse _ hclaimed hrow =>
      hcourse.of_unread hclaimed (mapM_eq_none_iff.mpr hrow)) scope
  · intro consumer scope
    exact (traces_consumeBatch consumer scope).givesUpUnread (fun _ _ hcourse _ hclaimed hrow =>
      hcourse.of_unread hclaimed (mapM_eq_none_iff.mpr hrow)) scope

/-- An event that waits to be handled before those of `pendingEvent`. -/
def urgentEvent (id : Nat) : Event := (pendingEvent id).withPriority 5

/-- Two rows of which the second is the more urgent. -/
def unsortedPair : Answer :=
  ⟨[pendingRow "00000000-0000-0000-0000-000000000001",
    Json.object [("id", .str "00000000-0000-0000-0000-000000000002"), ("name", .str "poll"),
      ("priority", .ofInt 5), ("created_at", .str "2026-01-01T00:00:00Z")]], 2⟩

/-- The more urgent of two events is handed out first, whatever number was asked for. -/
theorem unsortedPair_handed_out_in_order :
    ((claimDatabase unsortedPair : Database Unit).send (Fetcher.new ["poll"]).command).run () =
      (.ok unsortedPair, ()) ∧
    runFrom (EventQueue.fetch ⟨(claimDatabase unsortedPair : Database Unit)⟩ (.new ["poll"])) () =
      (.ok [urgentEvent 2, pendingEvent 1], ()) := by
  have hsend : ((claimDatabase unsortedPair : Database Unit).send
      (Fetcher.new ["poll"]).command).run () = (.ok unsortedPair, ()) := rfl
  have hrows : unsortedPair.rows.map Json.event? =
      [pendingEvent 1, urgentEvent 2].map some := rfl
  obtain ⟨claimed, hfetch, hhanded⟩ :=
    (EventQueue.fetch_all_or_nothing ⟨claimDatabase unsortedPair⟩ _ hsend).1 _ hrows
  refine ⟨hsend, ?_⟩
  rw [hfetch]
  rcases List.perm_pair.mp hhanded.perm with rfl | rfl
  · have hwrong := Event.claimedBefore_iff.mpr (List.pairwise_pair.mp hhanded.sorted)
    exact absurd hwrong (by decide)
  · rfl

end AgentSync
