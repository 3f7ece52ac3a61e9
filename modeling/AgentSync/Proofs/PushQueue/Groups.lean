import AgentSync.Proofs.Dict
import AgentSync.Proofs.Action
import AgentSync.Sync.PushQueue
import Mathlib.Data.List.Flatten
import Mathlib.Data.List.Basic

namespace AgentSync.PushQueue

open AgentSync.Action

/-- The group of an event and the key of the row it names; `none` of events that belong to no
group. -/
def request? (event : Event) : Option (Group × String) :=
  match groupOf event with
  | .ok group => (event.property? "id").map (group, ·)
  | .error _ => none

/-- The work an event asks for on one row. -/
def workOn? (table : Table) (key : String) (event : Event) : Option Work :=
  (request? event).bind fun (group, named) =>
    if group.table = table ∧ named = key then some group.work else none

/-- The work that events ask for on one row, in their order. -/
def worksOn (table : Table) (key : String) (events : List Event) : List Work :=
  events.filterMap (workOn? table key)

/-- A request is an event that is work for a group, and the key it names. -/
theorem request?_eq_some {event : Event} {group : Group} {key : String} :
    request? event = some (group, key) ↔
      groupOf event = .ok group ∧ event.property? "id" = some key := by
  unfold request?
  cases groupOf event with
  | error reason => simp
  | ok other =>
    rw [Option.map_eq_some_iff]
    constructor
    · rintro ⟨named, hnamed, heq⟩
      cases heq
      exact ⟨rfl, hnamed⟩
    · rintro ⟨heq, hkey⟩
      cases heq
      exact ⟨key, hkey, rfl⟩

theorem workOn?_eq_some {table : Table} {key : String} {event : Event} {work : Work} :
    workOn? table key event = some work ↔
      groupOf event = .ok ⟨work, table⟩ ∧ event.property? "id" = some key := by
  rw [← request?_eq_some, workOn?, Option.bind_eq_some_iff]
  constructor
  · rintro ⟨⟨⟨asked, other⟩, named⟩, hrequest, hwork⟩
    dsimp only at hwork
    split at hwork
    · next hsame =>
      obtain ⟨rfl, rfl⟩ := hsame
      cases hwork
      exact hrequest
    · cases hwork
  · intro hrequest
    exact ⟨_, hrequest, if_pos ⟨rfl, rfl⟩⟩

/-- Kinds of work are told apart by their names. -/
theorem Work.ofEventName?_eq_some {name : String} {work : Work} :
    Work.ofEventName? name = some work ↔ name = work.eventName := by
  constructor
  · intro hwork
    unfold Work.ofEventName? at hwork
    have hname := List.find?_some hwork
    exact (beq_iff_eq.mp hname).symm
  · rintro rfl
    cases work <;> decide

theorem tableOf_eq_ok {event : Event} {table : Table} :
    tableOf event = .ok table ↔ event.property? "table" = some table.name := by
  unfold tableOf Table.named
  constructor
  · intro htable
    split at htable
    · cases htable
    · next name hname =>
      split at htable
      · next found hfound =>
        cases htable
        unfold Table.ofName? at hfound
        have hsame := List.find?_some hfound
        rw [hname, beq_iff_eq.mp hsame]
      · cases htable
  · intro htable
    rw [htable]
    simp [Table.ofName?_name, Except.mapError]

/-- The group of an event, by its name and its two properties. -/
theorem groupOf_eq_ok_iff {event : Event} {group : Group} :
    groupOf event = .ok group ↔
      event.name = group.work.eventName ∧ event.property? "table" = some group.table.name ∧
        ∃ key, event.property? "id" = some key ∧ keyFits group.work group.table key = true := by
  rw [← Work.ofEventName?_eq_some, ← tableOf_eq_ok]
  unfold groupOf
  constructor
  · intro hgroup
    split at hgroup
    · cases hgroup
    · next work hwork =>
      split at hgroup
      · cases hgroup
      · next table htable =>
        split at hgroup
        · next hfits =>
          cases hgroup
          exact ⟨hwork, htable, by simpa [Option.any_eq_true] using hfits⟩
        · cases hgroup
  · rintro ⟨hwork, htable, key, hkey, hfits⟩
    simp [hwork, htable, hkey, hfits]

/-- The key of an event that is work for a group can be used for that work. -/
theorem keyFits_of_groupOf {event : Event} {group : Group} {key : String}
    (hgroup : groupOf event = .ok group) (hkey : event.property? "id" = some key) :
    keyFits group.work group.table key = true := by
  obtain ⟨-, -, named, hnamed, hfits⟩ := groupOf_eq_ok_iff.mp hgroup
  rw [hkey] at hnamed
  cases hnamed
  exact hfits

theorem mem_members {events : List Event} {group : Group} {event : Event} :
    event ∈ members events group ↔ event ∈ events ∧ groupOf event = .ok group := by
  rw [members, List.mem_filter, beq_iff_eq]
  cases groupOf event <;> simp [Except.toOption]

theorem mem_keysOf {events : List Event} {key : String} :
    key ∈ keysOf events ↔ ∃ event ∈ events, event.property? "id" = some key := by
  simp [keysOf, Dict.mem_keys_ofList]

/-- The keys of a group's events are those for which the group's work is asked. -/
theorem mem_keysOf_members {events : List Event} {group : Group} {key : String} :
    key ∈ keysOf (members events group) ↔ group.work ∈ worksOn group.table key events := by
  rw [mem_keysOf, worksOn, List.mem_filterMap]
  simp only [mem_members, workOn?_eq_some, and_assoc]

theorem keyFits_of_mem_keysOf {events : List Event} {group : Group} {key : String}
    (hkey : key ∈ keysOf (members events group)) : keyFits group.work group.table key = true := by
  obtain ⟨event, hmem, hkey⟩ := mem_keysOf.mp hkey
  exact keyFits_of_groupOf (mem_members.mp hmem).2 hkey

/-- No key is listed twice, even if several events name it. -/
theorem nodup_keysOf (events : List Event) : (keysOf events).Nodup := Dict.nodup_keys _

/-- The work of a group on the rows with given keys. -/
def Group.perform {ω : Type} (source : LocalSource ω) (hub : HubApi ω) (scope : Scope)
    (group : Group) (keys : List String) : Action (World ω) Error Unit :=
  match group.work with
  | .upsert => upsert source hub scope group.table keys
  | .delete => delete hub scope group.table keys

/-- A group's events fail together, with the failure of the group's work. -/
theorem run_handleGroup {ω : Type} (source : LocalSource ω) (hub : HubApi ω) (scope : Scope)
    (group : Group) (events : List Event) (world : World ω) :
    (handleGroup source hub scope group events).run world =
      match runFrom (group.perform source hub scope (keysOf events)) world with
      | (.ok (), after) => ([], after)
      | (.error error, after) => (events.map (⟨·, error.message⟩), after) := by
  change (ExceptT.run (group.perform source hub scope (keysOf events)) >>= _).run world = _
  rw [run_run_bind]
  rcases runFrom (group.perform source hub scope (keysOf events)) world with ⟨_ | _, after⟩
  · rfl
  · rfl

/-- Groups without events are passed over. -/
theorem run_handleGroups_cons {ω : Type} (source : LocalSource ω) (hub : HubApi ω) (scope : Scope)
    (events : List Event) (group : Group) (rest : List Group) (world : World ω) :
    (handleGroups source hub scope events (group :: rest)).run world =
      let chosen := members events group
      let first := if chosen.isEmpty then ([], world)
        else (handleGroup source hub scope group chosen).run world
      let others := (handleGroups source hub scope events rest).run first.2
      (first.1 ++ others.1, others.2) := by
  rw [handleGroups]
  dsimp only
  split
  · rfl
  · rfl

/-- Elements sorted by a class that some lack. -/
theorem perm_classes {α γ : Type} [DecidableEq γ] (classOf : α → Option γ) (elements : List α)
    {classes : List γ} (hnodup : classes.Nodup)
    (hall : ∀ element ∈ elements, ∀ cls, classOf element = some cls → cls ∈ classes) :
    (elements.filter (fun element => classOf element == none) ++
      classes.flatMap fun cls => elements.filter (classOf · == some cls)).Perm elements := by
  induction classes generalizing elements with
  | nil =>
    have hnone : ∀ element ∈ elements, (classOf element == none) = true := by
      intro element hmem
      cases hclass : classOf element with
      | none => rfl
      | some cls => cases hall element hmem cls hclass
    rw [List.filter_eq_self.mpr hnone, List.flatMap_nil, List.append_nil]
  | cons cls rest ih =>
    obtain ⟨hcls, hnodup⟩ := List.nodup_cons.mp hnodup
    -- The first class is taken out; the other classes then select the same elements as before.
    let others := elements.filter fun element => !(classOf element == some cls)
    have hothers := ih others hnodup (by
      intro element hmem other hother
      obtain ⟨hmem, hne⟩ := List.mem_filter.mp hmem
      rcases List.mem_cons.mp (hall element hmem other hother) with rfl | hrest
      · simp [hother] at hne
      · exact hrest)
    have hnone : others.filter (fun element => classOf element == none) =
        elements.filter fun element => classOf element == none := by
      rw [List.filter_filter]
      refine List.filter_congr fun element _ => ?_
      cases classOf element <;> simp
    have hrest : (rest.flatMap fun other => others.filter (classOf · == some other)) =
        rest.flatMap fun other => elements.filter (classOf · == some other) := by
      refine List.flatMap_congr fun other hmem => ?_
      rw [List.filter_filter]
      refine List.filter_congr fun element _ => ?_
      by_cases hother : classOf element = some other
      · have hne : other ≠ cls := fun heq => hcls (heq ▸ hmem)
        simp [hother, hne]
      · simp [hother]
    rw [hnone, hrest] at hothers
    rw [List.flatMap_cons, ← List.append_assoc]
    refine (List.perm_append_comm.append_right _).trans ?_
    rw [List.append_assoc]
    exact (hothers.append_left _).trans (List.filter_append_perm _ _)

theorem Group.nodup_all : Group.all.Nodup := by decide

theorem Group.mem_all (group : Group) : group ∈ Group.all := by
  obtain ⟨work, table⟩ := group
  cases work <;> cases table <;> decide

/-- A batch is made up of the events that are refused and those of all groups. -/
theorem perm_groups (events : List Event) :
    ((events.filterMap refused?).map FailedEvent.event ++
      Group.all.flatMap (members events)).Perm events := by
  have hrefused : (events.filterMap refused?).map FailedEvent.event =
      events.filter fun event => (groupOf event).toOption == none := by
    induction events with
    | nil => rfl
    | cons event rest ih =>
      cases hgroup : groupOf event <;> simp [refused?, hgroup, Except.toOption, ih]
  rw [hrefused]
  exact perm_classes _ events Group.nodup_all fun _ _ group _ => group.mem_all

end AgentSync.PushQueue
