import AgentSync.Proofs.PushQueue.Calls

namespace AgentSync.PushQueue

open AgentSync.Action

/-- Why an event is no work for any group. -/
inductive Unusable (event : Event) : Prop
  | otherName (hname : event.name ∉ eventNames)
  | noTable (htable : event.property? "table" = none)
  | unknownTable {name : String} (htable : event.property? "table" = some name)
    (hunknown : ∀ table : Table, table.name ≠ name)
  | noKey (hkey : event.property? "id" = none)
  | brokenKey {table : Table} {key : String} (hname : event.name = Work.delete.eventName)
    (htable : event.property? "table" = some table.name)
    (hkey : event.property? "id" = some key) (hsplits : ¬∃ parts, table.Splits key parts)

/-- An event asks for the work of a group by its name and its table. -/
def AsksFor (event : Event) (group : Group) : Prop :=
  event.name = group.work.eventName ∧ event.property? "table" = some group.table.name

/-- An event asks for the work of one group only. -/
theorem AsksFor.eq {event : Event} {group other : Group} (hasks : AsksFor event group)
    (hother : AsksFor event other) : group = other := by
  obtain ⟨work, table⟩ := group
  obtain ⟨otherWork, otherTable⟩ := other
  have hwork : Work.ofEventName? event.name = some work := Work.ofEventName?_eq_some.mpr hasks.1
  have htable : tableOf event = .ok table := tableOf_eq_ok.mpr hasks.2
  rw [Work.ofEventName?_eq_some.mpr hother.1] at hwork
  rw [tableOf_eq_ok.mpr hother.2] at htable
  cases hwork
  cases htable
  rfl

/-- Only a deletion needs a key that can be taken apart. -/
theorem keyFits_iff {work : Work} {table : Table} {key : String} :
    keyFits work table key = true ↔ (work = .delete → ∃ parts, table.Splits key parts) := by
  cases work with
  | upsert => simp [keyFits]
  | delete => simp [keyFits, Table.isSome_keyRow?_iff]

/-- An event belongs to the group it asks for, unless it is unusable. -/
theorem groupOf_eq_ok_iff_asksFor {event : Event} {group : Group} :
    groupOf event = .ok group ↔ AsksFor event group ∧ ¬Unusable event := by
  rw [groupOf_eq_ok_iff]
  constructor
  · rintro ⟨hname, htable, key, hkey, hfits⟩
    refine ⟨⟨hname, htable⟩, fun hunusable => ?_⟩
    cases hunusable with
    | otherName hother =>
      apply hother
      rw [hname]
      cases group.work <;> decide
    | noTable hnone => simp [htable] at hnone
    | unknownTable hother hunknown =>
      rw [htable] at hother
      exact hunknown group.table (Option.some.inj hother)
    | noKey hnone => simp [hkey] at hnone
    | brokenKey hdelete hother hnamed hsplits =>
      obtain rfl : group = ⟨.delete, _⟩ := AsksFor.eq ⟨hname, htable⟩ ⟨hdelete, hother⟩
      rw [hkey] at hnamed
      cases hnamed
      exact hsplits (keyFits_iff.mp hfits rfl)
  · rintro ⟨⟨hname, htable⟩, husable⟩
    cases hkey : event.property? "id" with
    | none => exact absurd (.noKey hkey) husable
    | some key =>
      refine ⟨hname, htable, key, rfl, keyFits_iff.mpr fun hwork => ?_⟩
      by_contra hsplits
      rw [hwork] at hname
      exact husable (.brokenKey hname htable hkey hsplits)

/-- An event is unusable exactly if it is work for no group. -/
theorem unusable_iff {event : Event} : Unusable event ↔ ∀ group, groupOf event ≠ .ok group := by
  constructor
  · intro hunusable group hgroup
    exact (groupOf_eq_ok_iff_asksFor.mp hgroup).2 hunusable
  · intro hnone
    by_contra husable
    have hname : event.name ∈ eventNames := by
      by_contra hname
      exact husable (.otherName hname)
    obtain ⟨work, -, hwork⟩ := List.mem_map.mp hname
    cases htable : event.property? "table" with
    | none => exact husable (.noTable htable)
    | some name =>
      by_cases hknown : ∃ table : Table, table.name = name
      · obtain ⟨table, rfl⟩ := hknown
        exact hnone ⟨work, table⟩ (groupOf_eq_ok_iff_asksFor.mpr ⟨⟨hwork.symm, htable⟩, husable⟩)
      · exact husable (.unknownTable htable fun table heq => hknown ⟨table, heq⟩)

/-- Whether an event is answered as failed, by the calls that were made. -/
def isReported (calls : List AnsweredCall) (event : Event) : Bool :=
  match groupOf event with
  | .ok group => (failureOf? group calls).isSome
  | .error _ => true

theorem isReported_of_groupOf {calls : List AnsweredCall} {event : Event} {group : Group}
    (hgroup : groupOf event = .ok group) :
    isReported calls event = (failureOf? group calls).isSome := by
  rw [isReported, hgroup]

/-- A group fails exactly if one of its calls does. -/
theorem isSome_failureOf?_iff {group : Group} {calls : List AnsweredCall} :
    (failureOf? group calls).isSome ↔
      ∃ answered ∈ calls, groupOfCall? answered.call = some group ∧ (failure? answered).isSome := by
  simp [failureOf?, List.findSome?_isSome_iff, callsOf, and_assoc]

/-- An event is reported exactly if it is unusable or a call of its group failed. -/
theorem isReported_iff {calls : List AnsweredCall} {event : Event} :
    isReported calls event = true ↔
      Unusable event ∨ ∃ group, AsksFor event group ∧ ∃ answered ∈ calls,
        groupOfCall? answered.call = some group ∧ (failure? answered).isSome := by
  simp only [← isSome_failureOf?_iff]
  by_cases hunusable : Unusable event
  · have hreported : isReported calls event = true := by
      unfold isReported
      split
      · next group hgroup => exact absurd hgroup (unusable_iff.mp hunusable group)
      · rfl
    simp [hreported, hunusable]
  · obtain ⟨group, hgroup⟩ : ∃ group, groupOf event = .ok group := by
      simpa [unusable_iff] using hunusable
    have hasks := (groupOf_eq_ok_iff_asksFor.mp hgroup).1
    rw [isReported_of_groupOf hgroup, or_iff_right hunusable]
    constructor
    · exact fun hfails => ⟨group, hasks, hfails⟩
    · rintro ⟨other, hother, hfails⟩
      rwa [hasks.eq hother]

/-- The failed events of one group. -/
def failuresIn (group : Group) (failed : List FailedEvent) : List FailedEvent :=
  failed.filter fun failure => (groupOf failure.event).toOption == some group

/-- The keys that the events of a group name, each once. -/
def AreKeysOf (events : List Event) (group : Group) (keys : List String) : Prop :=
  keys.Nodup ∧ ∀ key, key ∈ keys ↔
    ∃ event ∈ events, AsksFor event group ∧ ¬Unusable event ∧ event.property? "id" = some key

theorem areKeysOf_keysOf (events : List Event) (group : Group) :
    AreKeysOf events group (keysOf (members events group)) := by
  refine ⟨nodup_keysOf _, fun key => ?_⟩
  simp [mem_keysOf, mem_members, groupOf_eq_ok_iff_asksFor, and_assoc]

/-- What a batch answers and which calls it makes. -/
structure Reports (agentName : String) (events : List Event) (failed : List FailedEvent)
    (calls : List AnsweredCall) : Prop where
  failed_perm : (failed.map FailedEvent.event).Perm (events.filter (isReported calls))
  isReported_iff : ∀ event, isReported calls event = true ↔
    Unusable event ∨ ∃ group, AsksFor event group ∧ ∃ answered ∈ calls,
      groupOfCall? answered.call = some group ∧ (failure? answered).isSome
  calls_eq : calls = Group.all.flatMap (callsOf · calls)
  transfers : ∀ group, (callsOf group calls).countP (isTransfer ·.call) ≤ 1
  /-- A group with events starts with one call for their keys, and hands over what that finds. -/
  starts : ∀ group, (∃ event ∈ events, AsksFor event group ∧ ¬Unusable event) →
    ∃ keys answer later, AreKeysOf events group keys ∧
      callsOf group calls = ⟨group.request agentName keys, answer⟩ :: later ∧
      HandsOver agentName ⟨group.request agentName keys, answer⟩ later ∧
      ∀ answered ∈ later, isPushStep answered.call = true
  lookups : ∀ table keys answer, ⟨.rowsByKeys table keys, answer⟩ ∈ calls →
    AreKeysOf events ⟨.upsert, table⟩ keys
  deletions : ∀ bundle answer, ⟨.delete bundle, answer⟩ ∈ calls →
    ∃ table keys, AreKeysOf events ⟨.delete, table⟩ keys ∧
      (bundle.rows table).map table.key? = keys.map some ∧
      ∀ other, other ≠ table → bundle.rows other = []

theorem flatMap_ite_eq {α β : Type} [DecidableEq α] {elements : List α} {element : α}
    (hnodup : elements.Nodup) (hmem : element ∈ elements) (values : List β) :
    (elements.flatMap fun other => if other = element then values else []) = values := by
  induction elements with
  | nil => cases hmem
  | cons first rest ih =>
    obtain ⟨hfresh, hnodup⟩ := List.nodup_cons.mp hnodup
    rw [List.flatMap_cons]
    rcases List.mem_cons.mp hmem with rfl | hlater
    · have hothers : (rest.flatMap fun other => if other = element then values else []) = [] := by
        refine List.flatMap_eq_nil_iff.mpr fun other hother => if_neg ?_
        rintro rfl
        exact hfresh hother
      rw [if_pos rfl, hothers, List.append_nil]
    · have hne : first ≠ element := fun heq => hfresh (heq ▸ hlater)
      rw [if_neg hne, List.nil_append, ih hnodup hlater]

namespace Settled

variable {agentName : String} {events : List Event} {failed : List FailedEvent}
  {calls : List AnsweredCall}

/-- Calls that neither push nor flag rows are those with which the work of groups starts. -/
theorem eq_request (h : Settled agentName events Group.all failed calls) {answered : AnsweredCall}
    (hmem : answered ∈ calls) (hstep : isPushStep answered.call = false) :
    ∃ group : Group,
      answered.call = group.request agentName (keysOf (members events group)) := by
  rw [h.calls_eq] at hmem
  obtain ⟨group, -, hmem⟩ := List.mem_flatMap.mp hmem
  have hsome : members events group ≠ [] := by
    intro hnone
    rw [h.passed group (.inr hnone)] at hmem
    cases hmem
  obtain ⟨_, hserves⟩ := h.served group group.mem_all hsome
  obtain ⟨answer, later, hcalls, hlater, -⟩ := hserves.request
  rw [hcalls] at hmem
  rcases List.mem_cons.mp hmem with rfl | hmem
  · exact ⟨group, rfl⟩
  · rw [hlater.isPushStep answered hmem] at hstep
    cases hstep

/-- The failures of the groups are those of the events that are reported, group by group. -/
theorem map_event_failed (h : Settled agentName events Group.all failed calls) :
    failed.map FailedEvent.event =
      Group.all.flatMap (members (events.filter (isReported calls))) := by
  rw [h.failed_eq, List.map_flatMap]
  refine List.flatMap_congr fun group _ => ?_
  have hmembers : members (events.filter (isReported calls)) group =
      (members events group).filter fun _ => (failureOf? group calls).isSome := by
    rw [members, members, List.filter_filter, List.filter_filter]
    refine List.filter_congr fun event _ => ?_
    cases hgroup : groupOf event with
    | error reason => simp [Except.toOption]
    | ok other =>
      rw [isReported_of_groupOf hgroup]
      by_cases hother : other = group
      · simp [hother, Except.toOption]
      · simp [beq_eq_false_iff_ne.mpr hother, Except.toOption]
  rw [hmembers]
  cases failureOf? group calls <;> simp [failedWith, Function.comp_def]

/-- Together with the refused events these are all that are reported, each as often as it was given.
-/
theorem failed_perm (h : Settled agentName events Group.all failed calls) :
    ((events.filterMap refused? ++ failed).map FailedEvent.event).Perm
      (events.filter (isReported calls)) := by
  have hrefused : events.filterMap refused? =
      (events.filter (isReported calls)).filterMap refused? := by
    rw [List.filterMap_filter]
    refine List.filterMap_congr fun event _ => ?_
    cases hgroup : groupOf event <;> simp [refused?, isReported, hgroup]
  rw [List.map_append, h.map_event_failed, hrefused]
  exact perm_groups _

theorem failuresIn_failedWith (group other : Group) (failure : Option Error) :
    failuresIn group (failedWith failure (members events other)) =
      if other = group then failedWith failure (members events group) else [] := by
  have hall : ∀ failed ∈ failedWith failure (members events other),
      groupOf failed.event = .ok other := by
    intro failed hmem
    cases failure with
    | none => cases hmem
    | some error =>
      obtain ⟨event, hevent, rfl⟩ := List.mem_map.mp hmem
      exact (mem_members.mp hevent).2
  split
  · next heq =>
    subst heq
    refine List.filter_eq_self.mpr fun failed hmem => ?_
    simp [hall failed hmem, Except.toOption]
  · next hne =>
    refine List.filter_eq_nil_iff.mpr fun failed hmem => ?_
    simpa [hall failed hmem, Except.toOption] using hne

/-- Of a group, all events are answered or none, as its own work fails or not. -/
theorem failuresIn_eq (h : Settled agentName events Group.all failed calls) (group : Group) :
    failuresIn group (events.filterMap refused? ++ failed) =
      failedWith (failureOf? group calls) (members events group) := by
  have hrefused : failuresIn group (events.filterMap refused?) = [] := by
    refine List.filter_eq_nil_iff.mpr fun failure hmem => ?_
    obtain ⟨event, -, hevent⟩ := List.mem_filterMap.mp hmem
    cases hgroup : groupOf event with
    | ok other => simp [refused?, hgroup] at hevent
    | error reason =>
      simp only [refused?, hgroup, Option.some.injEq] at hevent
      simp [← hevent, hgroup, Except.toOption]
  have hgroups : failuresIn group failed = Group.all.flatMap fun other =>
      if other = group then failedWith (failureOf? group calls) (members events group) else [] := by
    rw [h.failed_eq, failuresIn, List.filter_flatMap]
    refine List.flatMap_congr fun other _ => ?_
    rw [← failuresIn, failuresIn_failedWith]
    by_cases hother : other = group <;> simp [hother]
  rw [failuresIn, List.filter_append, ← failuresIn, ← failuresIn, hrefused, hgroups,
    flatMap_ite_eq Group.nodup_all group.mem_all]
  rfl

theorem reports (h : Settled agentName events Group.all failed calls) :
    Reports agentName events (events.filterMap refused? ++ failed) calls where
  failed_perm := h.failed_perm
  isReported_iff _ := isReported_iff
  calls_eq := h.calls_eq
  transfers group := by
    by_cases hnone : members events group = []
    · simp [h.passed group (.inr hnone)]
    · obtain ⟨_, hserves⟩ := h.served group group.mem_all hnone
      exact hserves.transfers
  starts := by
    rintro group ⟨event, hmem, hbelongs⟩
    have hsome : members events group ≠ [] :=
      List.ne_nil_of_mem (mem_members.mpr ⟨hmem, groupOf_eq_ok_iff_asksFor.mpr hbelongs⟩)
    obtain ⟨_, hserves⟩ := h.served group group.mem_all hsome
    obtain ⟨answer, later, hcalls, hlater, -⟩ := hserves.request
    exact ⟨_, answer, later, areKeysOf_keysOf events group, hcalls, hlater, hlater.isPushStep⟩
  lookups table keys answer hmem := by
    obtain ⟨⟨work, other⟩, hrequest⟩ := h.eq_request hmem rfl
    cases work with
    | upsert =>
      injection hrequest with htable hkeys
      subst htable
      exact hkeys ▸ areKeysOf_keysOf events ⟨.upsert, table⟩
    | delete => cases hrequest
  deletions bundle answer hmem := by
    obtain ⟨⟨work, table⟩, hrequest⟩ := h.eq_request hmem rfl
    cases work with
    | upsert => cases hrequest
    | delete =>
      injection hrequest with hbundle
      subst hbundle
      refine ⟨table, _, areKeysOf_keysOf events ⟨.delete, table⟩, ?_, fun other hother => ?_⟩
      · rw [rowBundle_rows, if_pos rfl]
        exact Table.map_key?_filterMap_keyRow? fun key hkey => keyFits_of_mem_keysOf hkey
      · rw [rowBundle_rows, if_neg hother]

end Settled

/-- The exact report of a batch, for all events and whatever the two sides answer. An event is
answered as failed, once for each time it was given, exactly if it is unusable or one of its own
group's calls fails; each group hands over at most one bundle, and asks for or sends exactly the
keys of its events; what a group finds to push it hands over as it is. Whatever becomes of the other
groups, a group with the same calls has the same failures. -/
theorem handleBatch_reports_exactly {ω : Type} (source : LocalSource ω) (hub : HubApi ω)
    (scope : Scope) (events : List Event) (world : World ω) :
    ∃ failed after,
      (handleBatch source.watched hub.watched scope events).run world.watched = (failed, after) ∧
      (handleBatch source hub scope events).run world = (failed, after.unwatched) ∧
      Reports hub.agentName events failed after.calls ∧
      ∀ (ω' : Type) (source' : LocalSource ω') (hub' : HubApi ω') (scope' : Scope)
        (world' : World ω') failed' after',
        (handleBatch source'.watched hub'.watched scope' events).run world'.watched =
          (failed', after') →
        ∀ group, callsOf group after'.calls = callsOf group after.calls →
          failuresIn group failed' = failuresIn group failed := by
  obtain ⟨failed, after, hrun, hbare, hsettled⟩ :=
    handleBatch_settled source hub scope events world
  refine ⟨_, after, hrun, hbare, hsettled.reports, ?_⟩
  intro ω' source' hub' scope' world' failed' after' hrun' group hcalls
  obtain ⟨others, other, hother, -, hsettled'⟩ :=
    handleBatch_settled source' hub' scope' events world'
  rw [hrun'] at hother
  cases hother
  rw [hsettled.failuresIn_eq, hsettled'.failuresIn_eq, failureOf?, hcalls, failureOf?]

end AgentSync.PushQueue
