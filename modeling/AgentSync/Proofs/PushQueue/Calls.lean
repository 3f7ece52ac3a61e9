import AgentSync.Proofs.Bundle.Wire
import AgentSync.Proofs.PushQueue.Groups
import AgentSync.Proofs.Table
import AgentSync.Proofs.Watch

namespace AgentSync.PushQueue

open AgentSync.Action

/-- The table of a bundle's rows, if there is exactly one. -/
def onlyTable? (bundle : Bundle) : Option Table :=
  match bundle.tables with
  | [(table, _)] => some table
  | _ => none

/-- The group for which a call is made. A bundle with rows of several tables is for none. -/
def groupOfCall? : SideCall → Option Group
  | .rowsByKeys table _ | .markPushed table _ | .markUnpushed table _ => some ⟨.upsert, table⟩
  | .push bundle => (onlyTable? bundle).map (⟨.upsert, ·⟩)
  | .delete bundle => (onlyTable? bundle).map (⟨.delete, ·⟩)
  | _ => none

/-- Whether a call hands rows or keys over to the hub. -/
def isTransfer : SideCall → Bool
  | .push _ | .delete _ => true
  | _ => false

/-- Whether a call pushes rows or flags them after a push. -/
def isPushStep : SideCall → Bool
  | .push _ | .markPushed _ _ | .markUnpushed _ _ => true
  | _ => false

/-- The failure, but for a conflict. -/
def unlessConflict {α : Type} : Except Error α → Option Error
  | .ok _ => none
  | .error error => if error.isConflict then none else some error

/-- The failure that a call brings on its group. Conflicts while rows are pushed or flagged do not
count. -/
def failure? (answered : AnsweredCall) : Option Error :=
  if isPushStep answered.call then unlessConflict answered.answer
  else match answered.answer with
    | .ok _ => none
    | .error error => some error

/-- The calls that were made for a group. -/
def callsOf (group : Group) (calls : List AnsweredCall) : List AnsweredCall :=
  calls.filter fun answered => groupOfCall? answered.call == some group

/-- The failure of a group's work. -/
def failureOf? (group : Group) (calls : List AnsweredCall) : Option Error :=
  (callsOf group calls).findSome? failure?

/-- The call with which the work of a group starts. -/
def Group.request (group : Group) (agentName : String) (keys : List String) : SideCall :=
  match group.work with
  | .upsert => .rowsByKeys group.table keys
  | .delete => .delete (rowBundle agentName group.table (keys.filterMap group.table.keyRow?))

/-- The bundle of a push can be told to be of one table. -/
theorem onlyTable?_rowBundle (agentName : String) (table : Table) {rows : List Row}
    (hrows : rows ≠ []) : onlyTable? (rowBundle agentName table rows) = some table := by
  have hhere : (rowBundle agentName table rows).rows table = rows := by
    rw [rowBundle_rows, if_pos rfl]
  have hothers : ∀ other, other ≠ table → (rowBundle agentName table rows).rows other = [] := by
    intro other hother
    rw [rowBundle_rows, if_neg hother]
  have hsome : (rowBundle agentName table rows).rows table ≠ [] := by
    rw [hhere]
    exact hrows
  rw [onlyTable?, Bundle.tables_of_only hsome hothers]

/-- Calls that push and flag rows of one table. -/
structure PushSteps (table : Table) (transfers : Nat) (failure : Option Error)
    (calls : List AnsweredCall) : Prop where
  steps : ∀ answered ∈ calls,
    isPushStep answered.call = true ∧ groupOfCall? answered.call = some ⟨.upsert, table⟩
  transfers : calls.countP (isTransfer ·.call) ≤ transfers
  failure : calls.findSome? failure? = failure

namespace PushSteps

variable {table : Table}

theorem nil : PushSteps table 0 none [] := ⟨by simp, by simp, rfl⟩

theorem single (call : SideCall) (answer : Except Error call.Answer)
    (hstep : isPushStep call = true) (hgroup : groupOfCall? call = some ⟨.upsert, table⟩) :
    PushSteps table (if isTransfer call then 1 else 0) (unlessConflict answer)
      [⟨call, answer⟩] where
  steps := by simp [hstep, hgroup]
  transfers := by simp [List.countP_cons]
  failure := by
    rw [List.findSome?_cons, failure?, if_pos hstep, List.findSome?_nil]
    cases unlessConflict answer <;> rfl

theorem append {m n : Nat} {failure : Option Error} {calls more : List AnsweredCall}
    (hcalls : PushSteps table m none calls) (hmore : PushSteps table n failure more) :
    PushSteps table (m + n) failure (calls ++ more) where
  steps answered hmem := (List.mem_append.mp hmem).elim (hcalls.steps _) (hmore.steps _)
  transfers := by
    rw [List.countP_append]
    exact Nat.add_le_add hcalls.transfers hmore.transfers
  failure := by rw [List.findSome?_append, hcalls.failure, hmore.failure, Option.none_or]

/-- After the one push that there may be, rows are only flagged. -/
theorem flags {failure : Option Error} {bundle : Bundle} {answer : Except Error Unit}
    {later : List AnsweredCall} (h : PushSteps table 1 failure (⟨.push bundle, answer⟩ :: later)) :
    ∀ answered ∈ later, isPushStep answered.call = true ∧ isTransfer answered.call = false := by
  have hnone : later.countP (isTransfer ·.call) = 0 := by
    have htransfers := h.transfers
    rw [List.countP_cons_of_pos rfl] at htransfers
    omega
  intro answered hmem
  refine ⟨(h.steps answered (.tail _ hmem)).1, ?_⟩
  simpa using List.countP_eq_zero.mp hnone answered hmem

end PushSteps

section

variable {ω α : Type} (source : LocalSource ω) (hub : HubApi ω) (scope : Scope) (table : Table)

/-- Flagging rows goes on unless it fails. -/
theorem watches_flag_bind (call : SideCall) (action : Action (World ω) Error call.Answer)
    (hstep : isPushStep call = true) (hlocal : isTransfer call = false)
    (hgroup : groupOfCall? call = some ⟨.upsert, table⟩)
    {next : call.Answer → Action (World (Watched ω)) Error α}
    {bareNext : call.Answer → Action (World ω) Error α}
    (hnext : ∀ value, Watches (next value) (bareNext value)
      fun outcome calls => PushSteps table 0 (unlessConflict outcome) calls) :
    Watches (World.watching call id action >>= next) (action >>= bareNext)
      fun outcome calls => PushSteps table 0 (unlessConflict outcome) calls := by
  have hcall (answer : Except Error call.Answer) :
      PushSteps table 0 (unlessConflict answer) [⟨call, answer⟩] := by
    have hsingle := PushSteps.single call answer hstep hgroup
    rwa [hlocal, if_neg Bool.false_ne_true] at hsingle
  refine (watches_local_call call action).bind ?_ ?_
  · rintro error _ rfl
    exact hcall (.error error)
  · rintro value _ rfl
    exact (hnext value).mono fun outcome more hmore => (hcall (.ok value)).append hmore

/-- What follows the hub's answer to a push. -/
theorem flagPushed_steps (agentName : String) {rows : List Row} (hrows : rows ≠ [])
    (keys : List String) (answer : Except HubError Unit) :
    Watches (flagPushed source.watched table keys answer) (flagPushed source table keys answer)
      fun outcome calls => PushSteps table 1 (unlessConflict outcome)
        (⟨.push (rowBundle agentName table rows), answer.mapError HubError.toError⟩ :: calls) := by
  have hgroup : groupOfCall? (.push (rowBundle agentName table rows)) = some ⟨.upsert, table⟩ := by
    rw [groupOfCall?, onlyTable?_rowBundle agentName table hrows]
    rfl
  have hpush := PushSteps.single (.push (rowBundle agentName table rows))
    (answer.mapError HubError.toError) rfl hgroup
  have hflagged {result : Action (World (Watched ω)) Error Nat}
      {bareResult : Action (World ω) Error Nat} (keys : List String)
      (hresult : Watches result bareResult
        fun outcome calls => PushSteps table 0 (unlessConflict outcome) calls) :
      Watches
        (source.watched.markPushed table keys >>= fun _ =>
          World.count (.rowsPushed table.name) keys.length >>= fun _ => result)
        (source.markPushed table keys >>= fun _ =>
          World.count (.rowsPushed table.name) keys.length >>= fun _ => bareResult)
        fun outcome calls => PushSteps table 0 (unlessConflict outcome) calls :=
    watches_flag_bind table (.markPushed table keys) (source.markPushed table keys) rfl rfl rfl
      fun _ => watches_count_nothing _ _ hresult
  cases answer with
  | ok _ => exact (hflagged keys (Logs.pure .nil)).mono fun _ _ => hpush.append
  | error error =>
    cases error with
    | missingParents refused =>
      have hconflict : Watches (throw (.conflict refused) : Action (World (Watched ω)) Error Nat)
          (throw (.conflict refused)) fun outcome calls =>
            PushSteps table 0 (unlessConflict outcome) calls := Logs.throw .nil
      have hrefused := watches_flag_bind table (.markUnpushed table refused)
        (source.markUnpushed table refused) rfl rfl rfl
        fun _ => hflagged (keys.filter fun id => !refused.contains id) hconflict
      exact hrefused.mono fun _ _ => hpush.append
    | transport _ _ => exact Logs.throw hpush
    | status _ _ => exact Logs.throw hpush
    | undecodable _ => exact Logs.throw hpush
    | cancelled => exact Logs.throw hpush

/-- Rows are pushed by one call with exactly these rows, and flagged by those after it. -/
theorem pushRows_steps {rows : List Row} (hrows : rows ≠ []) :
    Watches (pushRows source.watched hub.watched scope table rows)
      (pushRows source hub scope table rows)
      fun outcome calls => ∃ answer flags,
        calls = ⟨.push (rowBundle hub.agentName table rows), answer⟩ :: flags ∧
        PushSteps table 1 (unlessConflict outcome) calls := by
  rw [pushRows_eq source.watched hub.watched scope table hrows,
    pushRows_eq source hub scope table hrows]
  refine (watches_watching (.push _) HubError.toError _).attempt_bind ?_
  rintro answer _ rfl
  exact (flagPushed_steps source table hub.agentName hrows _ answer).mono
    fun _ flags hsteps => ⟨_, flags, rfl, hsteps⟩

end

/-- What follows the first call of a group. The rows that a lookup finds are handed over in one push
of exactly these rows, after which rows are only flagged. Nothing follows a lookup that finds none
or fails, and nothing follows a deletion. -/
inductive HandsOver (agentName : String) : AnsweredCall → List AnsweredCall → Prop
  | found {table : Table} {keys : List String} {rows : List Row} {answer : Except Error Unit}
      {flags : List AnsweredCall} (hrows : rows ≠ [])
      (hflags : ∀ answered ∈ flags,
        isPushStep answered.call = true ∧ isTransfer answered.call = false) :
      HandsOver agentName ⟨.rowsByKeys table keys, .ok rows⟩
        (⟨.push (rowBundle agentName table rows), answer⟩ :: flags)
  | none {table : Table} {keys : List String} :
      HandsOver agentName ⟨.rowsByKeys table keys, .ok []⟩ []
  | failed {table : Table} {keys : List String} {error : Error} :
      HandsOver agentName ⟨.rowsByKeys table keys, .error error⟩ []
  | deleted {bundle : Bundle} {answer : Except Error Unit} :
      HandsOver agentName ⟨.delete bundle, answer⟩ []

/-- What is handed over belongs to a push. -/
theorem HandsOver.isPushStep {agentName : String} {first : AnsweredCall}
    {later : List AnsweredCall} (h : HandsOver agentName first later) :
    ∀ answered ∈ later, PushQueue.isPushStep answered.call = true := by
  cases h with
  | found _ hflags =>
    exact List.forall_mem_cons.mpr ⟨rfl, fun answered hmem => (hflags answered hmem).1⟩
  | none | failed | deleted => exact List.forall_mem_nil _

/-- Calls that do the work of a group on the rows with given keys. -/
structure Serves (agentName : String) (group : Group) (keys : List String)
    (outcome : Except Error Unit) (calls : List AnsweredCall) : Prop where
  request : ∃ answer later, calls = ⟨group.request agentName keys, answer⟩ :: later ∧
    HandsOver agentName ⟨group.request agentName keys, answer⟩ later ∧
    ∀ answered ∈ later, groupOfCall? answered.call = some group
  transfers : calls.countP (isTransfer ·.call) ≤ 1
  outcome_eq : outcome = (calls.findSome? failure?).elim (.ok ()) .error

section

variable {ω : Type} (source : LocalSource ω) (hub : HubApi ω) (scope : Scope) (table : Table)
  (keys : List String)

/-- A deletion is one call, with exactly the keys. -/
theorem delete_serves :
    Watches (delete hub.watched scope table keys) (delete hub scope table keys)
      (Serves hub.agentName ⟨.delete, table⟩ keys) := by
  refine Logs.mapFailure ((watches_watching (.delete _) HubError.toError _).mono ?_)
  rintro outcome _ rfl
  refine ⟨⟨_, [], rfl, .deleted, List.forall_mem_nil _⟩, by simp [isTransfer], ?_⟩
  cases outcome <;> rfl

/-- An upsert asks for the rows of its keys first and hands over what it finds. -/
theorem upsert_serves :
    Watches (upsert source.watched hub.watched scope table keys)
      (upsert source hub scope table keys) (Serves hub.agentName ⟨.upsert, table⟩ keys) := by
  refine (watches_watching (.rowsByKeys table keys) id (source.rowsByKeys table keys)).bind ?_ ?_
  · rintro error _ rfl
    exact ⟨⟨_, [], rfl, .failed, List.forall_mem_nil _⟩, by simp [isTransfer], rfl⟩
  · rintro rows _ rfl
    by_cases hrows : rows = []
    · subst hrows
      exact Logs.pure ⟨⟨_, [], rfl, .none, List.forall_mem_nil _⟩, by simp [isTransfer], rfl⟩
    · refine (pushRows_steps source hub scope table hrows).attempt_bind ?_
      rintro result _ ⟨answer, flags, rfl, hsteps⟩
      have hserves {outcome : Except Error Unit}
          (houtcome : outcome = (unlessConflict result).elim (.ok ()) .error) :
          Serves hub.agentName ⟨.upsert, table⟩ keys outcome
            ([⟨.rowsByKeys table keys, Except.mapError id (.ok rows)⟩] ++
              (⟨.push (rowBundle hub.agentName table rows), answer⟩ :: flags ++ [])) := by
        rw [List.append_nil, List.singleton_append]
        refine ⟨⟨_, _, rfl, .found hrows hsteps.flags, fun answered hmem =>
          (hsteps.steps answered hmem).2⟩, ?_, ?_⟩
        · rw [List.countP_cons]
          exact hsteps.transfers
        · rw [houtcome, ← hsteps.failure]
          rfl
      cases result with
      | ok _ => exact Logs.pure (hserves rfl)
      | error error =>
        by_cases hconflict : error.isConflict = true
        · simp only [hconflict, if_true]
          exact Logs.pure (hserves (by simp [unlessConflict, hconflict]))
        · simp only [hconflict]
          exact Logs.throw (hserves (by simp [unlessConflict, hconflict]))

theorem Group.perform_serves (group : Group) :
    Watches (group.perform source.watched hub.watched scope keys)
      (group.perform source hub scope keys) (Serves hub.agentName group keys) := by
  obtain ⟨work, table⟩ := group
  cases work with
  | upsert => exact upsert_serves source hub scope table keys
  | delete => exact delete_serves hub scope table keys

end

/-- The events of a group as failed, if its work failed. -/
def failedWith (failure : Option Error) (events : List Event) : List FailedEvent :=
  failure.elim [] fun error => events.map (⟨·, error.message⟩)

/-- The calls of groups that do their work in turn. Groups without events make none. -/
inductive ServesGroups (agentName : String) (events : List Event) :
    List Group → List FailedEvent → List AnsweredCall → Prop
  | done : ServesGroups agentName events [] [] []
  | passed {group : Group} {rest : List Group} {failed : List FailedEvent}
    {calls : List AnsweredCall} (hnone : members events group = [])
    (hrest : ServesGroups agentName events rest failed calls) :
    ServesGroups agentName events (group :: rest) failed calls
  | served {group : Group} {rest : List Group} {outcome : Except Error Unit}
    {failed : List FailedEvent} {own calls : List AnsweredCall}
    (hsome : members events group ≠ [])
    (hown : Serves agentName group (keysOf (members events group)) outcome own)
    (hrest : ServesGroups agentName events rest failed calls) :
    ServesGroups agentName events (group :: rest)
      (failedWith (own.findSome? failure?) (members events group) ++ failed) (own ++ calls)

/-- The groups are served one after another, whatever becomes of those before. By induction on the
groups. -/
theorem handleGroups_serves {ω : Type} (source : LocalSource ω) (hub : HubApi ω) (scope : Scope)
    (events : List Event) (groups : List Group) (world : World (Watched ω)) :
    ∃ failed calls after,
      (handleGroups source.watched hub.watched scope events groups).run world = (failed, after) ∧
      (handleGroups source hub scope events groups).run world.unwatched =
        (failed, after.unwatched) ∧
      after.calls = world.calls ++ calls ∧
      ServesGroups hub.agentName events groups failed calls := by
  induction groups generalizing world with
  | nil => exact ⟨[], [], world, rfl, rfl, (List.append_nil _).symm, .done⟩
  | cons group rest ih =>
    rw [run_handleGroups_cons, run_handleGroups_cons]
    by_cases hnone : members events group = []
    · obtain ⟨failed, calls, after, hrun, hbare, hcalls, hserves⟩ := ih world
      refine ⟨failed, calls, after, ?_, ?_, hcalls, .passed hnone hserves⟩
      · simp [hnone, hrun]
      · simp [hnone, hbare]
    · obtain ⟨outcome, own, between, hrun, hbare, hcalls, hown⟩ :=
        group.perform_serves source hub scope (keysOf (members events group)) world
      obtain ⟨failed, later, after, hrun', hbare', hcalls', hserves⟩ := ih between
      have hchosen : (members events group).isEmpty = false := by simpa using hnone
      refine ⟨_, _, after, ?_, ?_, ?_, .served hnone hown hserves⟩
      · simp only [hchosen, Bool.false_eq_true, if_false, run_handleGroup, hrun]
        rw [hown.outcome_eq]
        cases own.findSome? failure? <;> simp [failedWith, hrun']
      · simp only [hchosen, Bool.false_eq_true, if_false, run_handleGroup, hbare]
        rw [hown.outcome_eq]
        cases own.findSome? failure? <;> simp [failedWith, hbare']
      · rw [hcalls', hcalls, List.append_assoc]

/-- An event of a group names a key, so a group with events has keys. -/
theorem keysOf_members_ne_nil {events : List Event} {group : Group}
    (hsome : members events group ≠ []) : keysOf (members events group) ≠ [] := by
  obtain ⟨event, rest, hmembers⟩ := List.exists_cons_of_ne_nil hsome
  have hmem : event ∈ members events group := by simp [hmembers]
  obtain ⟨-, -, key, hkey, -⟩ := groupOf_eq_ok_iff.mp (mem_members.mp hmem).2
  exact List.ne_nil_of_mem (mem_keysOf.mpr ⟨event, hmem, hkey⟩)

/-- The first call for a group tells which one it is for. -/
theorem Group.groupOfCall?_request (group : Group) (agentName : String) {events : List Event}
    (hsome : members events group ≠ []) :
    groupOfCall? (group.request agentName (keysOf (members events group))) = some group := by
  obtain ⟨work, table⟩ := group
  cases work with
  | upsert => rfl
  | delete =>
    have hrows : (keysOf (members events ⟨.delete, table⟩)).filterMap table.keyRow? ≠ [] := by
      obtain ⟨key, rest, hkeys⟩ := List.exists_cons_of_ne_nil (keysOf_members_ne_nil hsome)
      have hmem : key ∈ keysOf (members events ⟨.delete, table⟩) := by simp [hkeys]
      obtain ⟨row, hrow⟩ := Option.isSome_iff_exists.mp (keyFits_of_mem_keysOf hmem)
      exact List.ne_nil_of_mem (List.mem_filterMap.mpr ⟨key, hmem, hrow⟩)
    rw [Group.request, groupOfCall?, onlyTable?_rowBundle agentName table hrows]
    rfl

/-- All calls of a group are told apart from those of others. -/
theorem Serves.own {agentName : String} {group : Group} {events : List Event}
    {outcome : Except Error Unit} {calls : List AnsweredCall}
    (h : Serves agentName group (keysOf (members events group)) outcome calls)
    (hsome : members events group ≠ []) :
    ∀ answered ∈ calls, groupOfCall? answered.call = some group := by
  obtain ⟨answer, later, rfl, -, hlater⟩ := h.request
  rw [List.forall_mem_cons]
  exact ⟨group.groupOfCall?_request agentName hsome, hlater⟩

/-- What became of groups, by the calls of each. -/
structure Settled (agentName : String) (events : List Event) (groups : List Group)
    (failed : List FailedEvent) (calls : List AnsweredCall) : Prop where
  served : ∀ group ∈ groups, members events group ≠ [] → ∃ outcome,
    Serves agentName group (keysOf (members events group)) outcome (callsOf group calls)
  passed : ∀ group, group ∉ groups ∨ members events group = [] → callsOf group calls = []
  calls_eq : calls = groups.flatMap (callsOf · calls)
  failed_eq : failed = groups.flatMap fun group =>
    failedWith (failureOf? group calls) (members events group)

theorem callsOf_append (group : Group) (calls more : List AnsweredCall) :
    callsOf group (calls ++ more) = callsOf group calls ++ callsOf group more :=
  List.filter_append _ _

/-- Calls that tell that they are for one group are all calls of this group, and none of another. -/
theorem callsOf_own {group : Group} {calls : List AnsweredCall}
    (hown : ∀ answered ∈ calls, groupOfCall? answered.call = some group) (other : Group) :
    callsOf other calls = if other = group then calls else [] := by
  split
  case isTrue heq =>
    refine List.filter_eq_self.mpr fun answered hmem => ?_
    rw [hown answered hmem, heq, beq_self_eq_true]
  case isFalse hother =>
    refine List.filter_eq_nil_iff.mpr fun answered hmem => ?_
    rw [hown answered hmem]
    simpa using Ne.symm hother

namespace Settled

variable {agentName : String} {events : List Event} {group : Group} {rest : List Group}
  {failed : List FailedEvent} {calls : List AnsweredCall}

/-- A group without events makes no calls. -/
theorem cons_passed (h : Settled agentName events rest failed calls) (hfresh : group ∉ rest)
    (hnone : members events group = []) :
    Settled agentName events (group :: rest) failed calls := by
  have hown : callsOf group calls = [] := h.passed group (.inl hfresh)
  refine ⟨?_, ?_, ?_, ?_⟩
  · intro other hmem hsome
    rcases List.mem_cons.mp hmem with rfl | hmem
    · exact absurd hnone hsome
    · exact h.served other hmem hsome
  · rintro other (hother | hother)
    · exact h.passed other (.inl (fun hmem => hother (List.mem_cons_of_mem _ hmem)))
    · exact h.passed other (.inr hother)
  · rw [List.flatMap_cons, hown, List.nil_append]
    exact h.calls_eq
  · rw [List.flatMap_cons, failureOf?, hown, h.failed_eq]
    rfl

/-- A group that is served makes its calls first, and no other group has any of them. -/
theorem cons_served {outcome : Except Error Unit} {own : List AnsweredCall}
    (h : Settled agentName events rest failed calls) (hfresh : group ∉ rest)
    (hsome : members events group ≠ [])
    (hserves : Serves agentName group (keysOf (members events group)) outcome own) :
    Settled agentName events (group :: rest)
      (failedWith (own.findSome? failure?) (members events group) ++ failed) (own ++ calls) := by
  have hself : callsOf group (own ++ calls) = own := by
    rw [callsOf_append, callsOf_own (hserves.own hsome), if_pos rfl,
      h.passed group (.inl hfresh), List.append_nil]
  have hothers : ∀ other, other ≠ group → callsOf other (own ++ calls) = callsOf other calls := by
    intro other hother
    rw [callsOf_append, callsOf_own (hserves.own hsome), if_neg hother, List.nil_append]
  have hlater : ∀ other ∈ rest, callsOf other (own ++ calls) = callsOf other calls :=
    fun other hmem => hothers other fun heq => hfresh (heq ▸ hmem)
  refine ⟨?_, ?_, ?_, ?_⟩
  · intro other hmem hmembers
    rcases List.mem_cons.mp hmem with rfl | hmem
    · rw [hself]
      exact ⟨_, hserves⟩
    · rw [hlater other hmem]
      exact h.served other hmem hmembers
  · rintro other (hother | hother)
    · rw [List.mem_cons, not_or] at hother
      rw [hothers other hother.1]
      exact h.passed other (.inl hother.2)
    · have hne : other ≠ group := fun heq => hsome (heq ▸ hother)
      rw [hothers other hne]
      exact h.passed other (.inr hother)
  · rw [List.flatMap_cons, hself, List.flatMap_congr hlater]
    exact congrArg (own ++ ·) h.calls_eq
  · have hfailures : rest.flatMap (fun other =>
        failedWith (failureOf? other (own ++ calls)) (members events other)) =
        rest.flatMap fun other => failedWith (failureOf? other calls) (members events other) :=
      List.flatMap_congr fun other hmem => by rw [failureOf?, hlater other hmem, failureOf?]
    rw [List.flatMap_cons, failureOf?, hself, hfailures, ← h.failed_eq]

end Settled

/-- If no group is served twice, the calls of a group are exactly those that tell that they are for
it. By induction on the groups, since every group puts its calls before those of the rest. -/
theorem ServesGroups.settled {agentName : String} {events : List Event} {groups : List Group}
    {failed : List FailedEvent} {calls : List AnsweredCall}
    (h : ServesGroups agentName events groups failed calls) (hnodup : groups.Nodup) :
    Settled agentName events groups failed calls := by
  induction h with
  | done => exact ⟨by simp, fun _ _ => rfl, rfl, rfl⟩
  | passed hnone _ ih =>
    obtain ⟨hfresh, hnodup⟩ := List.nodup_cons.mp hnodup
    exact (ih hnodup).cons_passed hfresh hnone
  | served hsome hserves _ ih =>
    obtain ⟨hfresh, hnodup⟩ := List.nodup_cons.mp hnodup
    exact (ih hnodup).cons_served hfresh hsome hserves

/-- A batch, by the calls that it makes: what it answers, with and without the watch. -/
theorem handleBatch_settled {ω : Type} (source : LocalSource ω) (hub : HubApi ω) (scope : Scope)
    (events : List Event) (world : World ω) :
    ∃ failed after,
      (handleBatch source.watched hub.watched scope events).run world.watched =
        (events.filterMap refused? ++ failed, after) ∧
      (handleBatch source hub scope events).run world =
        (events.filterMap refused? ++ failed, after.unwatched) ∧
      Settled hub.agentName events Group.all failed after.calls := by
  obtain ⟨failed, calls, after, hrun, hbare, hcalls, hserves⟩ :=
    handleGroups_serves source hub scope events Group.all world.watched
  rw [show world.watched.calls = [] from rfl, List.nil_append] at hcalls
  refine ⟨failed, after, ?_, ?_, hcalls ▸ hserves.settled Group.nodup_all⟩
  · rw [handleBatch, StateT.run_bind, hrun]
    rfl
  · rw [show world.watched.unwatched = world from rfl] at hbare
    rw [handleBatch, StateT.run_bind, hbare]
    rfl

end AgentSync.PushQueue
