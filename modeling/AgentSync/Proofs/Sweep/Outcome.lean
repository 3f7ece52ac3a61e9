import AgentSync.Proofs.Watch
import Mathlib.Algebra.GroupWithZero.Nat

namespace AgentSync

open AgentSync.Action

namespace AnsweredCall

/-- The failure of a call that failed. -/
def error? (answered : AnsweredCall) : Option Error :=
  match answered.answer with
  | .ok _ => none
  | .error error => some error

theorem isCancelled_iff {answered : AnsweredCall} :
    answered.isCancelled = true ↔ answered.answer = .error .cancelled := by
  unfold isCancelled
  split <;> simp_all

/-- The number of rows that the hub took with a call. -/
def taken (table : Table) : AnsweredCall → Nat
  | ⟨.push bundle, .ok _⟩ => (bundle.ids table).length
  | _ => 0

end AnsweredCall

/-- What a page comes to, by its calls. -/
def pageOutcome (table : Table) (calls : List AnsweredCall) : Except Error Nat :=
  match (calls.filterMap AnsweredCall.error?).getLast? with
  | some error => .error error
  | none => .ok (calls.map (AnsweredCall.taken table)).sum

/-- A call that succeeds adds the rows that it pushed. -/
theorem pageOutcome_append_ok (table : Table) (calls : List AnsweredCall) (call : SideCall)
    (value : call.Answer) :
    pageOutcome table (calls ++ [⟨call, .ok value⟩]) =
      (pageOutcome table calls).map (· + AnsweredCall.taken table ⟨call, .ok value⟩) := by
  let answered : AnsweredCall := ⟨call, .ok value⟩
  have herrors : (calls ++ [answered]).filterMap AnsweredCall.error? =
      calls.filterMap AnsweredCall.error? := by
    rw [List.filterMap_append]
    exact List.append_nil _
  unfold pageOutcome
  rw [herrors, List.map_append, List.sum_append, List.map_singleton, List.sum_singleton]
  cases (calls.filterMap AnsweredCall.error?).getLast? with
  | none => rfl
  | some error => rfl

/-- A call that fails is what the page comes to. -/
theorem pageOutcome_append_error (table : Table) (calls : List AnsweredCall) (call : SideCall)
    (error : Error) :
    pageOutcome table (calls ++ [⟨call, .error error⟩]) = .error error := by
  let answered : AnsweredCall := ⟨call, .error error⟩
  have herrors : (calls ++ [answered]).filterMap AnsweredCall.error? =
      calls.filterMap AnsweredCall.error? ++ [error] := List.filterMap_append
  unfold pageOutcome
  rw [herrors, List.getLast?_concat]

/-- Calls that tell what a page comes to. None follows a cancelled one. -/
structure Tells (table : Table) (outcome : Except Error Nat) (calls : List AnsweredCall) :
    Prop where
  outcome_eq : outcome = pageOutcome table calls
  cancelled_last : ∀ answered ∈ calls.dropLast, ¬answered.isCancelled

/-- Calls that were made before others, none of them cancelled, and what they come to so far. -/
structure TellsSoFar (table : Table) (outcome : Except Error Nat) (calls : List AnsweredCall) :
    Prop where
  outcome_eq : outcome = pageOutcome table calls
  none_cancelled : ∀ answered ∈ calls, ¬answered.isCancelled

namespace TellsSoFar

variable {table : Table} {outcome : Except Error Nat} {calls : List AnsweredCall}

theorem nil : TellsSoFar table (.ok 0) [] := ⟨rfl, by simp⟩

theorem tells (h : TellsSoFar table outcome calls) : Tells table outcome calls :=
  ⟨h.outcome_eq, fun answered hmem => h.none_cancelled answered (List.dropLast_subset _ hmem)⟩

/-- The calls up to one that fails. -/
theorem tells_error (h : TellsSoFar table outcome calls) (call : SideCall) (error : Error) :
    Tells table (.error error) (calls ++ [⟨call, .error error⟩]) where
  outcome_eq := (pageOutcome_append_error table calls call error).symm
  cancelled_last := by
    rw [List.dropLast_concat]
    exact h.none_cancelled

theorem ok (h : TellsSoFar table outcome calls) (call : SideCall) (value : call.Answer) :
    TellsSoFar table (outcome.map (· + AnsweredCall.taken table ⟨call, .ok value⟩))
      (calls ++ [⟨call, .ok value⟩]) where
  outcome_eq := by rw [pageOutcome_append_ok, h.outcome_eq]
  none_cancelled := by
    refine List.forall_mem_append.mpr ⟨h.none_cancelled, List.forall_mem_singleton.mpr ?_⟩
    exact Bool.false_ne_true

/-- A failure other than a cancellation, after which there are more calls. -/
theorem error (h : TellsSoFar table outcome calls) (call : SideCall) {error : Error}
    (hother : error ≠ .cancelled) :
    TellsSoFar table (.error error) (calls ++ [⟨call, .error error⟩]) where
  outcome_eq := (pageOutcome_append_error table calls call error).symm
  none_cancelled := by
    refine List.forall_mem_append.mpr ⟨h.none_cancelled, List.forall_mem_singleton.mpr ?_⟩
    cases error with
    | cancelled => exact absurd rfl hother
    | _ => exact Bool.false_ne_true

end TellsSoFar

/-- A page that is not cancelled has no cancelled call. -/
theorem Tells.none_cancelled {table : Table} {outcome : Except Error Nat}
    {calls : List AnsweredCall} (h : Tells table outcome calls)
    (hother : outcome ≠ .error .cancelled) : ∀ answered ∈ calls, ¬answered.isCancelled := by
  intro answered hmem hcancelled
  obtain rfl | ⟨earlier, last, rfl⟩ := calls.eq_nil_or_concat
  · cases hmem
  · rw [List.concat_eq_append] at h hmem
    have hlast := h.cancelled_last
    rw [List.dropLast_concat] at hlast
    obtain hmem | hmem := List.mem_append.mp hmem
    · exact hlast answered hmem hcancelled
    · cases List.mem_singleton.mp hmem
      obtain ⟨call, answer⟩ := answered
      have herror : answer = .error .cancelled := AnsweredCall.isCancelled_iff.mp hcancelled
      subst herror
      exact hother (h.outcome_eq.trans (pageOutcome_append_error table earlier call .cancelled))

section

variable {ω α : Type} (source : LocalSource ω) (hub : HubApi ω) (scope : Scope) (table : Table)

/-- A call in the middle of a page, by which the hub takes nothing. -/
theorem watches_call_bind {outcome : Except Error Nat} {calls : List AnsweredCall}
    (hcalls : TellsSoFar table outcome calls) (call : SideCall)
    (htaken : ∀ value, AnsweredCall.taken table ⟨call, .ok value⟩ = 0)
    {full : Action (World (Watched ω)) Error call.Answer}
    {bare : Action (World ω) Error call.Answer}
    (hcall : Watches full bare fun answer entries => entries = [⟨call, answer⟩])
    {next : call.Answer → Action (World (Watched ω)) Error Nat}
    {bareNext : call.Answer → Action (World ω) Error Nat}
    (hnext : ∀ value more, TellsSoFar table outcome more →
      Watches (next value) (bareNext value)
        fun result later => Tells table result (more ++ later)) :
    Watches (full >>= next) (bare >>= bareNext)
      fun result later => Tells table result (calls ++ later) := by
  refine hcall.bind ?_ ?_
  · rintro error _ rfl
    exact hcalls.tells_error call error
  · rintro value _ rfl
    have hsame : outcome.map (· + AnsweredCall.taken table ⟨call, .ok value⟩) = outcome := by
      rw [htaken value]
      cases outcome <;> rfl
    have hmore := hcalls.ok call value
    rw [hsame] at hmore
    refine (hnext value _ hmore).mono fun result later hlater => ?_
    rw [List.append_assoc] at hlater
    exact hlater

/-- What follows the hub's answer to a push. -/
theorem flagPushed_tells {calls : List AnsweredCall} (hcalls : TellsSoFar table (.ok 0) calls)
    (agentName : String) (rows : List Row) (answer : Except HubError Unit) :
    Watches (flagPushed source.watched table (rows.filterMap table.key?) answer)
      (flagPushed source table (rows.filterMap table.key?) answer)
      fun outcome later => Tells table outcome
        (calls ++ ⟨.push (rowBundle agentName table rows), answer.mapError HubError.toError⟩ ::
          later) := by
  let bundle := rowBundle agentName table rows
  have hmark {outcome : Except Error Nat} {prior : List AnsweredCall} (keys : List String)
      {result : Action (World (Watched ω)) Error Nat} {bareResult : Action (World ω) Error Nat}
      (hprior : TellsSoFar table outcome prior)
      (hresult : Watches result bareResult fun ended later => ended = outcome ∧ later = []) :
      Watches
        (source.watched.markPushed table keys >>= fun _ =>
          World.count (.rowsPushed table.name) keys.length >>= fun _ => result)
        (source.markPushed table keys >>= fun _ =>
          World.count (.rowsPushed table.name) keys.length >>= fun _ => bareResult)
        fun ended later => Tells table ended (prior ++ later) := by
    refine watches_call_bind table hprior (.markPushed table keys) (fun _ => rfl)
      (watches_local_call _ _) fun _ more hmore => watches_count_nothing _ _ ?_
    refine hresult.mono ?_
    rintro _ _ ⟨rfl, rfl⟩
    rw [List.append_nil]
    exact hmore.tells
  cases answer with
  | ok done =>
    have htaken := hcalls.ok (.push bundle) done
    have hcount : (.ok (rows.filterMap table.key?).length : Except Error Nat) =
        Except.map (· + AnsweredCall.taken table ⟨.push bundle, .ok done⟩) (.ok 0) := by
      rw [← rowBundle_ids agentName table rows]
      exact congrArg Except.ok (Nat.zero_add _).symm
    refine (hmark _ htaken (Logs.pure ⟨hcount, rfl⟩)).mono fun outcome later hlater => ?_
    rw [List.append_assoc] at hlater
    exact hlater
  | error error =>
    cases error with
    | missingParents refused =>
      have hrefused : TellsSoFar table (.error (.conflict refused)) _ :=
        hcalls.error (.push bundle) nofun
      have hflags := watches_call_bind table hrefused (.markUnpushed table refused) (fun _ => rfl)
        (watches_local_call _ (source.markUnpushed table refused)) fun _ more hmore =>
          hmark ((rows.filterMap table.key?).filter fun id => !refused.contains id) hmore
            (Logs.throw ⟨rfl, rfl⟩)
      refine hflags.mono fun outcome later hlater => ?_
      rw [List.append_assoc] at hlater
      exact hlater
    | transport _ _ => exact Logs.throw (hcalls.tells_error (.push bundle) _)
    | status _ _ => exact Logs.throw (hcalls.tells_error (.push bundle) _)
    | undecodable _ => exact Logs.throw (hcalls.tells_error (.push bundle) _)
    | cancelled => exact Logs.throw (hcalls.tells_error (.push bundle) _)

/-- What a push comes to can be told from its calls, after any that did not fail. -/
theorem pushRows_tells {calls : List AnsweredCall} (hcalls : TellsSoFar table (.ok 0) calls)
    (rows : List Row) :
    Watches (pushRows source.watched hub.watched scope table rows)
      (pushRows source hub scope table rows)
      fun outcome later => Tells table outcome (calls ++ later) := by
  by_cases hrows : rows = []
  · subst hrows
    refine Logs.pure ?_
    rw [List.append_nil]
    exact hcalls.tells
  · rw [pushRows_eq source.watched hub.watched scope table hrows,
      pushRows_eq source hub scope table hrows]
    refine (watches_watching (.push _) HubError.toError _).attempt_bind ?_
    rintro answer _ rfl
    exact flagPushed_tells source table hcalls hub.agentName rows answer

/-- The calls of a page tell what it comes to. -/
theorem reconcilePage_tells (reconciler : Reconciler ω) (request : PageRequest)
    (digest : PageDigest) :
    Watches (reconciler.watched.reconcilePage scope table request digest)
      (reconciler.reconcilePage scope table request digest) (Tells table) := by
  refine watches_call_bind table .nil (.status request) (fun _ => rfl)
    (watches_remote_call (.status request) _) fun remote asked hasked => ?_
  by_cases hsame : remote.hash = digest.hash
  · rw [if_pos hsame, if_pos hsame]
    refine watches_count_nothing _ _ (Logs.pure ?_)
    rw [List.append_nil]
    exact hasked.tells
  · rw [if_neg hsame, if_neg hsame]
    refine watches_call_bind table hasked (.pullIds request) (fun _ => rfl)
      (watches_remote_call (.pullIds request) _) fun remoteIds pulled hpulled => ?_
    refine watches_call_bind table hpulled (.rowsInWindow request) (fun _ => rfl)
      (watches_local_call (.rowsInWindow request) _) fun rows read hread => ?_
    exact pushRows_tells reconciler.source reconciler.hub scope table hread _

end

end AgentSync
