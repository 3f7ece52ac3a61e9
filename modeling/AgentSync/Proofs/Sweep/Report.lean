import AgentSync.Proofs.Sweep.Cover
import AgentSync.Proofs.Sweep.Outcome
import AgentSync.Proofs.Sweep.Windows
import AgentSync.Proofs.Text.Order

namespace AgentSync

open AgentSync.Action

/-- A page that a sweep went through: where it starts, its digest, and the calls made for it once
the digest was known. -/
structure WatchedPage where
  cursor : String
  digest : PageDigest
  calls : List AnsweredCall

namespace WatchedPage

def outcome (table : Table) (page : WatchedPage) : Except Error Nat := pageOutcome table page.calls

/-- The number of rows that were pushed. -/
def pushed (table : Table) (page : WatchedPage) : Nat :=
  match page.outcome table with
  | .ok count => count
  | .error _ => 0

/-- The text that reports the page if it failed. It names the table and where the page starts. -/
def failure? (table : Table) (page : WatchedPage) : Option String :=
  match page.outcome table with
  | .ok _ => none
  | .error error =>
    some (table.name ++ " page after '" ++ page.cursor ++ "': " ++ error.message)

/-- All calls made for a page, from the one for its digest on. -/
def log (table : Table) (size : Int) (page : WatchedPage) : List AnsweredCall :=
  ⟨.digest (.ofTable table page.cursor size), .ok page.digest⟩ :: page.calls

/-- Whether the digest of a page says that it is the last one. -/
def IsLast (size : Int) (page : WatchedPage) : Prop :=
  page.digest.total < size ∨ page.digest.next ≤ page.cursor

/-- A page with rows, its calls after the digest: they ask the hub for one digest and the agent for
none, and none follows a cancelled one. -/
structure IsVisit (table : Table) (size : Int) (page : WatchedPage) : Prop where
  nonempty : page.digest.total ≠ 0
  digests : page.calls.filterMap (·.call.digestRequest?) = []
  statuses : page.calls.filterMap (·.call.statusRequest?) = [.ofTable table page.cursor size]
  cancelled_last : ∀ answered ∈ page.calls.dropLast, ¬answered.isCancelled

end WatchedPage

/-- What a sweep comes to that went through all its pages. -/
def sweepResult (table : Table) (pages : List WatchedPage) : Except Error Nat :=
  if pages.filterMap (WatchedPage.failure? table) = [] then
    .ok (pages.map (WatchedPage.pushed table)).sum
  else .error (.reconcile (pages.filterMap (WatchedPage.failure? table)))

/-- The pages of a sweep from a key on, the call for a digest that is followed by no page if there
is one, and the failure that ended it. -/
inductive Passes (table : Table) (size : Int) :
    String → List WatchedPage → List AnsweredCall → Option Error → Prop
  | refused {cursor : String} (error : Error) :
      Passes table size cursor [] [⟨.digest (.ofTable table cursor size), .error error⟩]
        (some error)
  | empty {cursor : String} {digest : PageDigest} (hnone : digest.total = 0) :
      Passes table size cursor [] [⟨.digest (.ofTable table cursor size), .ok digest⟩] none
  | cancelled {page : WatchedPage} (hvisit : page.IsVisit table size)
      (hcancelled : page.outcome table = .error .cancelled) :
      Passes table size page.cursor [page] [] (some .cancelled)
  | last {page : WatchedPage} (hvisit : page.IsVisit table size)
      (hnot : page.outcome table ≠ .error .cancelled) (hlast : page.IsLast size) :
      Passes table size page.cursor [page] [] none
  | more {page : WatchedPage} {pages : List WatchedPage} {ending : List AnsweredCall}
      {failure : Option Error} (hvisit : page.IsVisit table size)
      (hnot : page.outcome table ≠ .error .cancelled) (hmore : ¬page.IsLast size)
      (hrest : Passes table size page.digest.next pages ending failure) :
      Passes table size page.cursor (page :: pages) ending failure

/-- The calls of a sweep. -/
def sweepCalls (table : Table) (size : Int) (pages : List WatchedPage)
    (ending : List AnsweredCall) : List AnsweredCall :=
  pages.flatMap (WatchedPage.log table size) ++ ending

theorem sweepCalls_cons (table : Table) (size : Int) (page : WatchedPage)
    (pages : List WatchedPage) (ending : List AnsweredCall) :
    sweepCalls table size (page :: pages) ending =
      page.log table size ++ sweepCalls table size pages ending := by
  rw [sweepCalls, List.flatMap_cons, List.append_assoc]
  rfl

theorem sweepCalls_singleton (table : Table) (size : Int) (page : WatchedPage) :
    sweepCalls table size [page] [] = page.log table size := by
  rw [sweepCalls_cons]
  exact List.append_nil _

namespace WatchedPage.IsVisit

variable {table : Table} {size : Int} {page : WatchedPage}

/-- Of each page the agent is asked for one digest. -/
theorem log_digests (h : page.IsVisit table size) :
    (page.log table size).filterMap (·.call.digestRequest?) =
      [.ofTable table page.cursor size] := by
  rw [log, List.filterMap_cons, h.digests]
  rfl

/-- And so is the hub. -/
theorem log_statuses (h : page.IsVisit table size) :
    (page.log table size).filterMap (·.call.statusRequest?) =
      [.ofTable table page.cursor size] := by
  rw [log, List.filterMap_cons, h.statuses]
  rfl

/-- No call of a page follows a cancelled one. -/
theorem log_cancelled_last (h : page.IsVisit table size) :
    ∀ answered ∈ (page.log table size).dropLast, ¬answered.isCancelled := by
  have hsome : page.calls ≠ [] := by
    intro hnil
    have hstatuses := h.statuses
    rw [hnil] at hstatuses
    cases hstatuses
  rw [log, List.dropLast_cons_of_ne_nil hsome]
  exact List.forall_mem_cons.mpr ⟨Bool.false_ne_true, h.cancelled_last⟩

theorem log_none_cancelled (h : page.IsVisit table size)
    (hnot : page.outcome table ≠ .error .cancelled) :
    ∀ answered ∈ page.log table size, ¬answered.isCancelled := by
  have htells : Tells table (page.outcome table) page.calls := ⟨rfl, h.cancelled_last⟩
  exact List.forall_mem_cons.mpr ⟨Bool.false_ne_true, htells.none_cancelled hnot⟩

end WatchedPage.IsVisit

namespace Passes

variable {table : Table} {size : Int} {cursor : String} {pages : List WatchedPage}
  {ending : List AnsweredCall} {failure : Option Error}

/-- The keys from which the agent is asked for digests: one page after another, each further on. -/
theorem cursors (h : Passes table size cursor pages ending failure) :
    ∃ cursors : List String, cursors.head? = some cursor ∧ cursors.Pairwise (· < ·) ∧
      pages.map WatchedPage.cursor <+: cursors ∧
      (sweepCalls table size pages ending).filterMap (·.call.digestRequest?) =
        cursors.map (.ofTable table · size) := by
  induction h with
  | @refused cursor | @empty cursor =>
    exact ⟨[cursor], rfl, List.pairwise_singleton _ _, List.nil_prefix, rfl⟩
  | @cancelled page hvisit | @last page hvisit =>
    refine ⟨[page.cursor], rfl, List.pairwise_singleton _ _, List.prefix_rfl, ?_⟩
    rw [sweepCalls_singleton, hvisit.log_digests]
    rfl
  | @more page pages ending failure hvisit _ hmore _ ih =>
    obtain ⟨cursors, hhead, hsorted, hprefix, hrequests⟩ := ih
    obtain ⟨rest, rfl⟩ := List.head?_eq_some_iff.mp hhead
    have hnext : page.cursor < page.digest.next := not_le.mp (not_or.mp hmore).2
    refine ⟨page.cursor :: page.digest.next :: rest, rfl, List.pairwise_cons.mpr ⟨?_, hsorted⟩,
      List.cons_prefix_cons.mpr ⟨rfl, hprefix⟩, ?_⟩
    · refine List.forall_mem_cons.mpr ⟨hnext, fun later hlater => ?_⟩
      exact String.lt_trans hnext ((List.pairwise_cons.mp hsorted).1 later hlater)
    · rw [sweepCalls_cons, List.filterMap_append, hvisit.log_digests, hrequests]
      rfl

/-- The hub is asked for the digest of every page once. -/
theorem statuses (h : Passes table size cursor pages ending failure) :
    (sweepCalls table size pages ending).filterMap (·.call.statusRequest?) =
      pages.map fun page => .ofTable table page.cursor size := by
  induction h with
  | refused | empty => rfl
  | cancelled hvisit | last hvisit =>
    rw [sweepCalls_singleton, hvisit.log_statuses]
    rfl
  | more hvisit _ _ _ ih =>
    rw [sweepCalls_cons, List.filterMap_append, hvisit.log_statuses, ih]
    rfl

/-- No call follows a cancelled one. -/
theorem cancelled_last (h : Passes table size cursor pages ending failure) :
    ∀ answered ∈ (sweepCalls table size pages ending).dropLast, ¬answered.isCancelled := by
  induction h with
  | refused | empty => simp [sweepCalls]
  | @cancelled page hvisit | @last page hvisit =>
    rw [sweepCalls_singleton]
    exact hvisit.log_cancelled_last
  | @more page pages ending failure hvisit hnot _ _ ih =>
    intro answered hmem
    rw [sweepCalls_cons] at hmem
    by_cases hrest : sweepCalls table size pages ending = []
    · rw [hrest, List.append_nil] at hmem
      exact hvisit.log_none_cancelled hnot answered (List.dropLast_subset _ hmem)
    · rw [List.dropLast_append_of_ne_nil hrest] at hmem
      exact (List.mem_append.mp hmem).elim (hvisit.log_none_cancelled hnot answered) (ih answered)

end Passes

namespace Reconciler.Progress

/-- The progress with more rows and more failures. -/
def plus (progress : Progress) (pushed : Nat) (errors : List String) : Progress :=
  ⟨progress.pushed + pushed, progress.errors ++ errors⟩

theorem plus_zero (progress : Progress) : progress.plus 0 [] = progress := by
  simp [plus]

/-- What two pages come to is added up, their failures in order. -/
theorem plus_plus (progress : Progress) (pushed more : Nat) (errors others : List String) :
    (progress.plus pushed errors).plus more others =
      progress.plus (pushed + more) (errors ++ others) := by
  simp [plus, Nat.add_assoc]

/-- The progress after more pages, none of them cancelled. -/
def through (progress : Progress) (table : Table) (pages : List WatchedPage) : Progress :=
  progress.plus (pages.map (WatchedPage.pushed table)).sum
    (pages.filterMap (WatchedPage.failure? table))

theorem through_nil (progress : Progress) (table : Table) :
    progress.through table [] = progress := progress.plus_zero

/-- A sweep goes through its pages one after another. -/
theorem through_cons (progress : Progress) (table : Table) (page : WatchedPage)
    (pages : List WatchedPage) :
    progress.through table (page :: pages) =
      (progress.through table [page]).through table pages := by
  have herrors : (page :: pages).filterMap (WatchedPage.failure? table) =
      [page].filterMap (WatchedPage.failure? table) ++
        pages.filterMap (WatchedPage.failure? table) := List.filterMap_append (l := [page])
  unfold through
  rw [herrors, plus_plus, List.map_cons, List.sum_cons]
  rfl

/-- A page that fails is noted, and the sweep goes on. -/
theorem afterPage_of_not_cancelled (progress : Progress) {table : Table} {page : WatchedPage}
    (hnot : page.outcome table ≠ .error .cancelled) :
    progress.afterPage table page.cursor (page.outcome table) =
      .ok (progress.through table [page]) := by
  unfold through plus WatchedPage.failure? WatchedPage.pushed
  cases houtcome : page.outcome table with
  | ok count => simp [afterPage, houtcome]
  | error error =>
    rw [houtcome] at hnot
    cases error with
    | cancelled => exact absurd rfl hnot
    | _ => simp [afterPage, Reconciler.pageFailure, houtcome]

/-- What a sweep answers is read off its pages. -/
theorem result_none_through (table : Table) (pages : List WatchedPage) :
    (none.through table pages).result = sweepResult table pages := by
  simp [through, plus, none, result, sweepResult, List.isEmpty_iff]

end Reconciler.Progress

section

variable {ω : Type} (reconciler : Reconciler ω) (scope : Scope) (table : Table)

/-- What a sweep comes to after some progress, and its calls. -/
def SweepsFrom (table : Table) (size : Int) (cursor : String) (progress : Reconciler.Progress)
    (outcome : Except Error Nat) (calls : List AnsweredCall) : Prop :=
  ∃ pages ending failure, Passes table size cursor pages ending failure ∧
    calls = sweepCalls table size pages ending ∧
    outcome = failure.elim (progress.through table pages).result .error

/-- Whatever is answered, the calls of a sweep are those of its pages. By induction on the rounds.
-/
theorem watches_sweepPages_passes (rounds : Nat) :
    ∀ (cursor : String) (progress : Reconciler.Progress),
      LogsWithin World.calls World.unwatched
        (reconciler.watched.sweepPages scope table rounds cursor progress)
        (reconciler.sweepPages scope table rounds cursor progress)
        (SweepsFrom table reconciler.pageSize cursor progress) := by
  induction rounds with
  | zero => exact fun _ _ => .outOfRounds
  | succ rounds ih =>
    intro cursor progress
    unfold Reconciler.sweepPages
    rw [Reconciler.watched_pageSize]
    refine LogsWithin.bind (.ofAction (watches_local_call (.digest _) _)) ?_ ?_
    · rintro error _ rfl
      exact ⟨[], _, _, .refused error, rfl, rfl⟩
    rintro digest _ rfl
    by_cases htotal : digest.total = 0
    · rw [if_pos htotal, if_pos htotal]
      refine .ofExcept ⟨[], _, _, .empty htotal, rfl, ?_⟩
      rw [Reconciler.Progress.through_nil]
      rfl
    rw [if_neg htotal, if_neg htotal]
    refine LogsWithin.attempt_bind ((watches_reconcilePage scope table reconciler _ digest).and
      (reconcilePage_tells scope table reconciler _ digest)) ?_
    rintro outcome pageCalls ⟨hasks, htells⟩
    let page : WatchedPage := ⟨cursor, digest, pageCalls⟩
    have hvisit : page.IsVisit table reconciler.pageSize :=
      ⟨htotal, hasks.digests, hasks.statuses, htells.cancelled_last⟩
    have houtcome : outcome = page.outcome table := htells.outcome_eq
    have hlog : sweepCalls table reconciler.pageSize [page] [] =
        [⟨.digest (.ofTable table cursor reconciler.pageSize), .ok digest⟩] ++
          (pageCalls ++ []) := by
      rw [sweepCalls_singleton, List.append_nil]
      rfl
    subst houtcome
    refine LogsWithin.ofExcept_bind (fun error hfails => ?_) fun progressed hprogressed => ?_
    · have hcancelled := Reconciler.Progress.afterPage_eq_error hfails
      rw [hcancelled] at hfails
      cases hfails
      exact ⟨[page], [], _, .cancelled hvisit hcancelled, hlog.symm, rfl⟩
    have hnot : page.outcome table ≠ .error .cancelled := by
      intro hcancelled
      rw [hcancelled] at hprogressed
      cases hprogressed
    have hthrough : progress.through table [page] = progressed := by
      have hafter := progress.afterPage_of_not_cancelled hnot
      exact Except.ok.inj (hafter.symm.trans hprogressed)
    subst hthrough
    by_cases hlast : digest.total < reconciler.pageSize ∨ digest.next ≤ cursor
    · rw [if_pos hlast, if_pos hlast]
      refine .ofExcept ⟨[page], [], _, .last hvisit hnot hlast, hlog.symm, rfl⟩
    · rw [if_neg hlast, if_neg hlast]
      refine (ih digest.next _).mono fun result more hrest => ?_
      obtain ⟨pages, ending, failure, hpasses, rfl, rfl⟩ := hrest
      refine ⟨page :: pages, ending, failure, .more hvisit hnot hlast hpasses, ?_, ?_⟩
      · rw [sweepCalls_cons]
        rfl
      · rw [Reconciler.Progress.through_cons progress table page pages]

end

/-- What a sweep that ends reports, whatever the two sides answer. It comes to the same as without
the watch. In a cancelled scope it makes no call. Otherwise its calls are those of its pages, one
page after another, and a call for one more digest if no page ended it; the digests are asked for
from the start on at keys that increase byte by byte, and the hub is asked for the digest of each
page once. Without a failure that ended it, the sweep comes to the rows pushed or to one text for
each page that failed; nothing is called after a cancellation. -/
theorem sweep_reports_pages {ω : Type} (reconciler : Reconciler ω) (rounds : Nat) (scope : Scope)
    (table : Table) (start : String) (world : World ω) {outcome : Except Error Nat}
    {after : World (Watched ω)}
    (hrun : Bounded.runFrom (reconciler.watched.sweep rounds scope table start) world.watched =
      some (outcome, after)) :
    Bounded.runFrom (reconciler.sweep rounds scope table start) world =
      some (outcome, after.unwatched) ∧
    ((world.sweeping scope).scopes.isCancelled (world.scopes.child scope).1 = true →
      outcome = .error .cancelled ∧ after.calls = []) ∧
    ((world.sweeping scope).scopes.isCancelled (world.scopes.child scope).1 = false →
      ∃ pages ending failure,
        Passes table reconciler.pageSize start pages ending failure ∧
        after.calls = sweepCalls table reconciler.pageSize pages ending ∧
        outcome = failure.elim (sweepResult table pages) .error ∧
        (∃ cursors : List String, cursors.head? = some start ∧
          (cursors.Pairwise fun a b => Utf8.encode a.toList < Utf8.encode b.toList) ∧
          pages.map WatchedPage.cursor <+: cursors ∧
          after.calls.filterMap (·.call.digestRequest?) =
            cursors.map (.ofTable table · reconciler.pageSize)) ∧
        after.calls.filterMap (·.call.statusRequest?) =
          pages.map (fun page => .ofTable table page.cursor reconciler.pageSize) ∧
        ∀ answered ∈ after.calls.dropLast, ¬answered.isCancelled) := by
  cases hcancelled : (world.sweeping scope).scopes.isCancelled (world.scopes.child scope).1 with
  | true =>
    have hinner : (world.watched.sweeping scope).scopes.isCancelled
        (world.watched.scopes.child scope).1 = true := hcancelled
    have hwatched := sweep_of_cancelled reconciler.watched rounds scope table start hinner
    rw [hrun] at hwatched
    cases hwatched
    exact ⟨sweep_of_cancelled reconciler rounds scope table start hcancelled,
      fun _ => ⟨rfl, rfl⟩, fun hopen => absurd hopen (by decide)⟩
  | false =>
    have hwatched := sweep_of_open reconciler.watched rounds scope table start world.watched
      hcancelled
    have hplain := sweep_of_open reconciler rounds scope table start world hcancelled
    obtain ⟨hnone, -⟩ | ⟨result, calls, last, hfull, hbare, hcalls, pages, ending, failure, hpasses,
      hsweep, hresult⟩ := watches_sweepPages_passes reconciler (world.scopes.child scope).1 table
        rounds start .none (world.watched.sweeping scope)
    · cases hrun.symm.trans (hwatched.trans hnone)
    have hsame := hrun.symm.trans (hwatched.trans hfull)
    cases hsame
    rw [show (world.watched.sweeping scope).calls = [] from rfl, List.nil_append, hsweep] at hcalls
    rw [Reconciler.Progress.result_none_through] at hresult
    obtain ⟨cursors, hhead, hsorted, hprefix, hdigests⟩ := hpasses.cursors
    have hbytes : cursors.Pairwise fun a b => Utf8.encode a.toList < Utf8.encode b.toList :=
      hsorted.imp Utf8.encode_lt_encode_iff.mpr
    refine ⟨hplain.trans hbare, nofun, fun _ => ⟨pages, ending, failure, hpasses, hcalls, hresult,
      ⟨cursors, hhead, hbytes, hprefix, ?_⟩, ?_, ?_⟩⟩
    · rw [hcalls, hdigests]
    · rw [hcalls, hpasses.statuses]
    · rw [hcalls]
      exact hpasses.cancelled_last

/-- Both pages of two rows fail, and each is reported once. -/
theorem broken_reports_pages : ∃ (pages : List WatchedPage) (ending : List AnsweredCall)
      (failure : Option Error), ∃ after,
    Bounded.runFrom (brokenReconciler.watched.sweep 2 Scopes.none.root.1 .checks "")
      emptyWorld.watched = some (failure.elim (sweepResult .checks pages) .error, after) ∧
    Passes .checks 2 "" pages ending failure ∧ pages.length = 2 ∧
    failure.elim (sweepResult .checks pages) .error = .error (.reconcile
      ["checks page after '': Request error: timed out",
        "checks page after 'b': Internal error: locked"]) := by
  obtain ⟨after, hrun, hcount⟩ : ∃ after,
      Bounded.runFrom (brokenReconciler.watched.sweep 2 Scopes.none.root.1 .checks "")
        emptyWorld.watched = some (.error (.reconcile
          ["checks page after '': Request error: timed out",
            "checks page after 'b': Internal error: locked"]), after) ∧
      (after.calls.filterMap (·.call.statusRequest?)).length = 2 := ⟨_, rfl, rfl⟩
  obtain ⟨-, -, hopen⟩ := sweep_reports_pages brokenReconciler 2 Scopes.none.root.1 .checks ""
    emptyWorld hrun
  obtain ⟨pages, ending, failure, hpasses, -, houtcome, -, hstatuses, -⟩ := hopen rfl
  refine ⟨pages, ending, failure, after, ?_, hpasses, ?_, houtcome.symm⟩
  · rw [← houtcome]
    exact hrun
  · rw [hstatuses, List.length_map] at hcount
    exact hcount

end AgentSync
