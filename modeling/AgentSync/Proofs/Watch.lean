import AgentSync.Memory.Watch
import AgentSync.Proofs.Logs
import AgentSync.Proofs.Push

namespace AgentSync

open AgentSync.Action

variable {ω ε α β : Type}

/-- An action on watched sides, what it is without the watch, and what fits its calls. -/
abbrev Watches (full : Action (World (Watched ω)) ε α) (bare : Action (World ω) ε α)
    (fits : Except ε α → List AnsweredCall → Prop) : Prop :=
  Logs World.calls World.unwatched full bare fits

theorem watches_watching (call : SideCall) (toError : ε → Error)
    (action : Action (World ω) ε call.Answer) :
    Watches (World.watching call toError action) action
      fun outcome entries => entries = [⟨call, outcome.mapError toError⟩] :=
  fun _ => ⟨_, _, _, rfl, rfl, rfl, rfl⟩

/-- A call to the agent's side is noted with its answer. -/
theorem watches_local_call (call : SideCall) (action : Action (World ω) Error call.Answer) :
    Watches (World.watching call id action) action
      fun answer entries => entries = [⟨call, answer⟩] :=
  (watches_watching call id action).mono fun answer entries hentries => by
    have hid : answer.mapError id = answer := by cases answer <;> rfl
    rw [hentries, hid]

/-- A call to the hub is noted with what its failure becomes. -/
theorem watches_remote_call (call : SideCall) (action : Action (World ω) HubError call.Answer) :
    Watches (mapFailure HubError.toError (World.watching call HubError.toError action))
      (mapFailure HubError.toError action) fun answer entries => entries = [⟨call, answer⟩] :=
  Logs.mapFailure (watches_watching call HubError.toError action)

/-- Calls that ask the agent's side and the hub for the digests of some pages. If they come to a
cancellation, one of them was cancelled. -/
structure Asks (digests statuses : List PageRequest) (outcome : Except Error α)
    (entries : List AnsweredCall) : Prop where
  digests : entries.filterMap (·.call.digestRequest?) = digests
  statuses : entries.filterMap (·.call.statusRequest?) = statuses
  cancelled : outcome = .error .cancelled → ∃ entry ∈ entries, entry.isCancelled

namespace Asks

variable {digests statuses moreDigests moreStatuses : List PageRequest}
  {outcome : Except Error β} {entries more : List AnsweredCall}

theorem nothing (houtcome : outcome ≠ .error .cancelled) : Asks [] [] outcome [] :=
  ⟨rfl, rfl, fun hcancelled => absurd hcancelled houtcome⟩

theorem call (call : SideCall) (answer : Except Error call.Answer) :
    Asks call.digestRequest?.toList call.statusRequest?.toList answer [⟨call, answer⟩] where
  digests := by rw [List.filterMap_cons]; cases call.digestRequest? <;> rfl
  statuses := by rw [List.filterMap_cons]; cases call.statusRequest? <;> rfl
  cancelled hcancelled := ⟨_, List.mem_singleton_self _, by rw [hcancelled]; rfl⟩

theorem of_error {error : Error}
    (h : Asks digests statuses (.error error : Except Error α) entries) :
    Asks digests statuses (.error error : Except Error β) entries where
  digests := h.digests
  statuses := h.statuses
  cancelled hcancelled := h.cancelled (congrArg Except.error (Except.error.inj hcancelled))

/-- Calls that did not fail are followed by others. -/
theorem append {first : Except Error α} (hfirst : Asks digests statuses first entries)
    (hmore : Asks moreDigests moreStatuses outcome more) :
    Asks (digests ++ moreDigests) (statuses ++ moreStatuses) outcome (entries ++ more) where
  digests := by rw [List.filterMap_append, hfirst.digests, hmore.digests]
  statuses := by rw [List.filterMap_append, hfirst.statuses, hmore.statuses]
  cancelled hcancelled := by
    obtain ⟨entry, hmem, hentry⟩ := hmore.cancelled hcancelled
    exact ⟨entry, List.mem_append_right _ hmem, hentry⟩

end Asks

/-- A call to the agent's side. -/
theorem watches_local (call : SideCall) (action : Action (World ω) Error call.Answer) :
    Watches (World.watching call id action) action
      (Asks call.digestRequest?.toList call.statusRequest?.toList) :=
  (watches_local_call call action).mono fun outcome entries hentries => by
    rw [hentries]
    exact .call call outcome

/-- A call to the hub. -/
theorem watches_remote (call : SideCall) (action : Action (World ω) HubError call.Answer) :
    Watches (mapFailure HubError.toError (World.watching call HubError.toError action))
      (mapFailure HubError.toError action)
      (Asks call.digestRequest?.toList call.statusRequest?.toList) :=
  (watches_remote_call call action).mono fun outcome entries hentries => by
    rw [hentries]
    exact .call call outcome

section

variable {digests statuses : List PageRequest} {full : Action (World (Watched ω)) Error α}
  {bare : Action (World ω) Error α} {next : α → Action (World (Watched ω)) Error β}
  {bareNext : α → Action (World ω) Error β}

/-- A sequence asks for what its first action asks for, if the rest asks for nothing. -/
theorem Watches.bind_asks (hfirst : Watches full bare (Asks digests statuses))
    (hnext : ∀ value, Watches (next value) (bareNext value) (Asks [] [])) :
    Watches (full >>= next) (bare >>= bareNext) (Asks digests statuses) := by
  refine hfirst.bind (fun error entries hasks => hasks.of_error) fun value entries hasks => ?_
  refine (hnext value).mono fun outcome more hmore => ?_
  have hall := hasks.append hmore
  rw [List.append_nil, List.append_nil] at hall
  exact hall

theorem watches_count (metric : Metric) (amount : Nat) :
    Watches (World.count metric amount : Action (World (Watched ω)) Error Unit)
      (World.count metric amount) (Asks [] []) :=
  fun _ => ⟨_, _, _, rfl, rfl, (List.append_nil _).symm, .nothing nofun⟩

end

/-- Counting calls nobody. -/
theorem watches_count_nothing (metric : Metric) (amount : Nat)
    {next : Action (World (Watched ω)) Error α} {bareNext : Action (World ω) Error α}
    {fits : Except Error α → List AnsweredCall → Prop} (hnext : Watches next bareNext fits) :
    Watches (World.count metric amount >>= fun _ => next)
      (World.count metric amount >>= fun _ => bareNext) fits := by
  have hcount : Watches (World.count metric amount : Action (World (Watched ω)) Error Unit)
      (World.count metric amount) fun outcome calls => outcome = .ok () ∧ calls = [] :=
    fun _ => ⟨_, _, _, rfl, rfl, (List.append_nil _).symm, rfl, rfl⟩
  refine hcount.bind (fun _ _ h => nomatch h.1) fun _ _ h => ?_
  rw [h.2]
  exact hnext

section

variable (source : LocalSource ω) (hub : HubApi ω) (scope : Scope) (table : Table)

/-- Flagging rows as pushed before an end. -/
theorem watches_markPushed (keys : List String) {result : Action (World (Watched ω)) Error Nat}
    {bareResult : Action (World ω) Error Nat} (hresult : Watches result bareResult (Asks [] [])) :
    Watches
      (source.watched.markPushed table keys >>= fun _ =>
        World.count (.rowsPushed table.name) keys.length >>= fun _ => result)
      (source.markPushed table keys >>= fun _ =>
        World.count (.rowsPushed table.name) keys.length >>= fun _ => bareResult)
      (Asks [] []) :=
  Watches.bind_asks (watches_local (.markPushed table keys) _) fun _ =>
    Watches.bind_asks (watches_count _ _) fun _ => hresult

/-- What follows the hub's answer to a push. -/
theorem watches_flagPushed (bundle : Bundle) (keys : List String)
    (answer : Except HubError Unit) :
    Watches (flagPushed source.watched table keys answer) (flagPushed source table keys answer)
      fun outcome entries => Asks [] [] outcome
        (⟨.push bundle, answer.mapError HubError.toError⟩ :: entries) := by
  have hpush := Asks.call (.push bundle) (answer.mapError HubError.toError)
  have hanswered {full : Action (World (Watched ω)) Error Nat} {bare : Action (World ω) Error Nat}
      (h : Watches full bare (Asks [] [])) :
      Watches full bare fun outcome entries => Asks [] [] outcome
        (⟨.push bundle, answer.mapError HubError.toError⟩ :: entries) :=
    h.mono fun _ _ => hpush.append
  cases answer with
  | ok _ => exact hanswered (watches_markPushed source table keys (Logs.pure (.nothing nofun)))
  | error error =>
    cases error with
    | missingParents refused =>
      have hflag := watches_local (.markUnpushed table refused) (source.markUnpushed table refused)
      refine hanswered (Watches.bind_asks hflag fun _ => ?_)
      exact watches_markPushed source table _ (Logs.throw (.nothing nofun))
    | transport _ _ => exact Logs.throw hpush.of_error
    | status _ _ => exact Logs.throw hpush.of_error
    | undecodable _ => exact Logs.throw hpush.of_error
    | cancelled => exact Logs.throw hpush.of_error

/-- A push asks for no digests. -/
theorem watches_pushRows (rows : List Row) :
    Watches (pushRows source.watched hub.watched scope table rows)
      (pushRows source hub scope table rows) (Asks [] []) := by
  by_cases hrows : rows = []
  · subst hrows
    exact Logs.pure (.nothing nofun)
  rw [pushRows_eq source.watched hub.watched scope table hrows,
    pushRows_eq source hub scope table hrows]
  refine (watches_watching (.push _) HubError.toError _).attempt_bind ?_
  rintro answer entries rfl
  exact watches_flagPushed source table _ _ answer

/-- A page asks the hub for one digest. -/
theorem watches_reconcilePage (reconciler : Reconciler ω) (request : PageRequest)
    (digest : PageDigest) :
    Watches (reconciler.watched.reconcilePage scope table request digest)
      (reconciler.reconcilePage scope table request digest) (Asks [] [request]) := by
  refine Watches.bind_asks (watches_remote (.status request) _) fun remote => ?_
  by_cases hsame : remote.hash = digest.hash
  · rw [if_pos hsame, if_pos hsame]
    exact Watches.bind_asks (watches_count _ _) fun _ => Logs.pure (.nothing nofun)
  · rw [if_neg hsame, if_neg hsame]
    refine Watches.bind_asks (watches_remote (.pullIds request) _) fun remoteIds => ?_
    refine Watches.bind_asks (watches_local (.rowsInWindow request) _) fun rows => ?_
    exact watches_pushRows reconciler.source reconciler.hub scope table _

end

end AgentSync
