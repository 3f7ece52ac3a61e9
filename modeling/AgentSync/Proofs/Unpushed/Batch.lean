import AgentSync.Proofs.Sweep.Step
import AgentSync.Proofs.Watch
import Mathlib.Data.Finset.Card

namespace AgentSync

open AgentSync.Action

/-- The bundle of a push and what the hub answered, if a call is one. -/
def AnsweredCall.push? : AnsweredCall → Option (Bundle × Except Error Unit)
  | ⟨.push bundle, answer⟩ => some (bundle, answer)
  | _ => none

/-- Rows under their keys that were pushed, and what the hub answered. -/
structure Push where
  entries : List (String × Row)
  answer : Except Error Unit

namespace Push

def keys (push : Push) : List String := push.entries.map Prod.fst

def rows (push : Push) : List Row := push.entries.map Prod.snd

/-- The call that makes a push, with its answer. -/
def noted (push : Push) (agentName : String) (table : Table) : Bundle × Except Error Unit :=
  (rowBundle agentName table push.rows, push.answer)

end Push

/-- Flagged rows, as many as there are up to a limit. -/
structure IsBatch (stored : Dict Row) (flags : Finset String) (limit : Nat)
    (entries : List (String × Row)) : Prop where
  stored : ∀ entry ∈ entries, entry ∈ stored.entries
  flagged : ∀ key ∈ entries.map Prod.fst, key ∈ flags
  nodup : (entries.map Prod.fst).Nodup
  length : entries.length = min limit flags.card

/-- A source of one table whose rows stay what they are while the flags for a push are a set of
keys. `shows` tells which keys are flagged in a state; `parents` are the keys of the rows that
others name as parents. -/
structure LocalSource.KeepsFlags {ω : Type} (source : LocalSource ω) (table : Table)
    (stored : Dict Row) (parents : List String → List String)
    (shows : ω → Finset String → Prop) : Prop where
  filed : ∀ entry ∈ stored.entries, table.key? entry.2 = some entry.1
  unpushedRows : ∀ {world : World ω} {flags}, shows world.inner flags →
    ∀ limit : Int, 1 ≤ limit → ∃ entries after,
      runFrom (source.unpushedRows table limit) world = (.ok (entries.map Prod.snd), after) ∧
      IsBatch stored flags limit.toNat entries ∧ shows after.inner flags
  markPushed : ∀ {world : World ω} {flags}, shows world.inner flags → ∀ keys, ∃ count after,
    runFrom (source.markPushed table keys) world = (.ok count, after) ∧
    shows after.inner (flags \ keys.toFinset)
  markUnpushed : ∀ {world : World ω} {flags}, shows world.inner flags → ∀ keys, ∃ count after,
    runFrom (source.markUnpushed table keys) world = (.ok count, after) ∧
    shows after.inner (flags ∪ (keys ++ parents keys).toFinset.filter (· ∈ stored.keys))

/-- A hub whose pushes, whatever they come to, leave the agent's flags alone. -/
def HubApi.LeavesFlags {ω : Type} (hub : HubApi ω) (shows : ω → Finset String → Prop) : Prop :=
  ∀ scope bundle {world : World ω} {flags}, shows world.inner flags →
    shows (runFrom (hub.push scope bundle) world).2.inner flags

/-- The keys that are flagged once the hub has refused some rows of a push. -/
def flagsRefused (stored : Dict Row) (parents : List String → List String)
    (flags : Finset String) (pushed refused : List String) : Finset String :=
  (flags ∪ (refused ++ parents refused).toFinset.filter (· ∈ stored.keys)) \
    (pushed.filter fun key => !refused.contains key).toFinset

/-- What a push comes to and leaves flagged, by what the hub answered. -/
inductive Push.Leaves (stored : Dict Row) (parents : List String → List String)
    (flags : Finset String) (push : Push) : Except Error Nat → Finset String → Prop
  | taken (hanswer : push.answer = .ok ()) :
      Leaves stored parents flags push (.ok push.entries.length) (flags \ push.keys.toFinset)
  | refused {keys : List String} (hanswer : push.answer = .error (.conflict keys)) :
      Leaves stored parents flags push (.error (.conflict keys))
        (flagsRefused stored parents flags push.keys keys)
  | failed {error : Error} (hanswer : push.answer = .error error)
      (hother : error.isConflict = false) : Leaves stored parents flags push (.error error) flags

section

variable {ω α β : Type} {world : World (Watched ω)}

/-- From a state, an action on watched sides, what it is without the watch, and what fits the
pushes among its calls. -/
abbrev PushesFrom (world : World (Watched ω)) (full : Action (World (Watched ω)) Error α)
    (bare : Action (World ω) Error α)
    (fits : Except Error α → List (Bundle × Except Error Unit) → World (Watched ω) → Prop) :
    Prop :=
  LogsFrom World.calls World.unwatched world full bare fun outcome calls after =>
    fits outcome (calls.filterMap AnsweredCall.push?) after

namespace PushesFrom

variable {full : Action (World (Watched ω)) Error α} {bare : Action (World ω) Error α}
  {next : α → Action (World (Watched ω)) Error β} {bareNext : α → Action (World ω) Error β}
  {fits : Except Error β → List (Bundle × Except Error Unit) → World (Watched ω) → Prop}

/-- What follows an action that answers and pushes nothing. -/
theorem silent_bind {p : World (Watched ω) → Prop}
    (hfirst : PushesFrom world full bare fun outcome pushes after =>
      (∃ value, outcome = .ok value) ∧ pushes = [] ∧ p after)
    (hnext : ∀ value after, p after → PushesFrom after (next value) (bareNext value) fits) :
    PushesFrom world (full >>= next) (bare >>= bareNext) fits := by
  refine LogsFrom.bind hfirst ?_ ?_
  · rintro error calls after ⟨⟨value, hvalue⟩, _⟩
    cases hvalue
  · rintro value calls after ⟨_, hnone, hafter⟩
    refine (hnext value after hafter).mono fun outcome more last hfits => ?_
    rw [List.filterMap_append, hnone, List.nil_append]
    exact hfits

end PushesFrom

/-- A watched call comes to what the call comes to. -/
theorem logsFrom_watching {ε : Type} (call : SideCall) (toError : ε → Error)
    {action : Action (World ω) ε call.Answer} {outcome : Except ε call.Answer} {after : World ω}
    (hrun : runFrom action world.unwatched = (outcome, after)) :
    LogsFrom World.calls World.unwatched world (World.watching call toError action) action
      fun result calls last => result = outcome ∧ last.unwatched = after ∧
        calls = [⟨call, outcome.mapError toError⟩] := by
  obtain ⟨result, calls, last, hfull, hbare, hcalls, hentry⟩ :=
    watches_watching call toError action world
  have hsame := hbare.symm.trans hrun
  obtain ⟨rfl, rfl⟩ := Prod.mk.injEq _ _ _ _ ▸ hsame
  exact ⟨result, calls, last, hfull, hbare, hcalls, rfl, rfl, hentry⟩

/-- A call to the agent's side is no push. -/
theorem pushesFrom_local (call : SideCall) {action : Action (World ω) Error call.Answer}
    {answer : call.Answer} {after : World ω}
    (hnone : ∀ answer, AnsweredCall.push? ⟨call, answer⟩ = none)
    (hrun : runFrom action world.unwatched = (.ok answer, after)) :
    PushesFrom world (World.watching call id action) action fun outcome pushes last =>
      outcome = .ok answer ∧ pushes = [] ∧ last.unwatched = after := by
  refine (logsFrom_watching call id hrun).mono ?_
  rintro outcome _ last ⟨rfl, rfl, rfl⟩
  refine ⟨rfl, ?_, rfl⟩
  rw [List.filterMap_cons, hnone, List.filterMap_nil]

/-- Counting pushes nothing and leaves the two sides as they are. -/
theorem pushesFrom_count (metric : Metric) (amount : Nat) :
    PushesFrom world (World.count metric amount) (World.count metric amount)
      fun outcome pushes after => (∃ value, outcome = .ok value) ∧ pushes = [] ∧
        after.unwatched.inner = world.unwatched.inner :=
  ⟨_, [], _, rfl, rfl, (List.append_nil _).symm, ⟨(), rfl⟩, rfl, rfl⟩

end

section

variable {ω : Type} {source : LocalSource ω} {hub : HubApi ω} {table : Table} {stored : Dict Row}
  {parents : List String → List String} {shows : ω → Finset String → Prop}
  {world : World (Watched ω)} {flags : Finset String}

/-- Marking rows as pushed before an end. -/
theorem pushesFrom_markPushed (hstore : source.KeepsFlags table stored parents shows)
    (hshows : shows world.unwatched.inner flags) (keys : List String) (outcome : Except Error Nat)
    {result : Action (World (Watched ω)) Error Nat} {bareResult : Action (World ω) Error Nat}
    (hresult : ∀ after, PushesFrom after result bareResult fun ended pushes last =>
      ended = outcome ∧ pushes = [] ∧ last = after) :
    PushesFrom world
      (source.watched.markPushed table keys >>= fun _ =>
        World.count (.rowsPushed table.name) keys.length >>= fun _ => result)
      (source.markPushed table keys >>= fun _ =>
        World.count (.rowsPushed table.name) keys.length >>= fun _ => bareResult)
      fun ended pushes after => ended = outcome ∧ pushes = [] ∧
        shows after.unwatched.inner (flags \ keys.toFinset) := by
  obtain ⟨count, marked, hrun, hmarked⟩ := hstore.markPushed hshows keys
  have hmark : PushesFrom world (source.watched.markPushed table keys)
      (source.markPushed table keys) fun outcome pushes after =>
        (∃ value, outcome = .ok value) ∧ pushes = [] ∧
          shows after.unwatched.inner (flags \ keys.toFinset) := by
    refine (pushesFrom_local (.markPushed table keys) (fun _ => rfl) hrun).mono ?_
    rintro outcome calls after ⟨rfl, hnone, rfl⟩
    exact ⟨⟨count, rfl⟩, hnone, hmarked⟩
  refine hmark.silent_bind fun _ after hafter => ?_
  refine (pushesFrom_count _ _).silent_bind fun _ counted hcounted => ?_
  refine (hresult counted).mono ?_
  rintro ended pushes last ⟨rfl, hnone, rfl⟩
  exact ⟨rfl, hnone, hcounted ▸ hafter⟩

/-- Flagging rows for another push before the rest. -/
theorem pushesFrom_markUnpushed_bind {α : Type}
    (hstore : source.KeepsFlags table stored parents shows)
    (hshows : shows world.unwatched.inner flags) (keys : List String)
    {next : Nat → Action (World (Watched ω)) Error α} {bareNext : Nat → Action (World ω) Error α}
    {fits : Except Error α → List (Bundle × Except Error Unit) → World (Watched ω) → Prop}
    (hnext : ∀ value after, shows after.unwatched.inner
        (flags ∪ (keys ++ parents keys).toFinset.filter (· ∈ stored.keys)) →
      PushesFrom after (next value) (bareNext value) fits) :
    PushesFrom world (source.watched.markUnpushed table keys >>= next)
      (source.markUnpushed table keys >>= bareNext) fits := by
  obtain ⟨count, flagged, hrun, hflagged⟩ := hstore.markUnpushed hshows keys
  have hmark : PushesFrom world (source.watched.markUnpushed table keys)
      (source.markUnpushed table keys) fun outcome pushes after =>
        (∃ value, outcome = .ok value) ∧ pushes = [] ∧ shows after.unwatched.inner
          (flags ∪ (keys ++ parents keys).toFinset.filter (· ∈ stored.keys)) := by
    refine (pushesFrom_local (.markUnpushed table keys) (fun _ => rfl) hrun).mono ?_
    rintro outcome calls after ⟨rfl, hnone, rfl⟩
    exact ⟨⟨count, rfl⟩, hnone, hflagged⟩
  exact hmark.silent_bind hnext

/-- What follows the hub's answer sets the flags by that answer. -/
theorem flagPushed_leaves (hstore : source.KeepsFlags table stored parents shows)
    (hshows : shows world.unwatched.inner flags) (entries : List (String × Row))
    (answer : Except HubError Unit) :
    PushesFrom world (flagPushed source.watched table (entries.map Prod.fst) answer)
      (flagPushed source table (entries.map Prod.fst) answer) fun outcome pushes after =>
        pushes = [] ∧ ∃ left, shows after.unwatched.inner left ∧
          Push.Leaves stored parents flags ⟨entries, answer.mapError HubError.toError⟩ outcome
            left := by
  cases answer with
  | ok done =>
    refine (pushesFrom_markPushed hstore hshows _ (.ok (entries.map Prod.fst).length)
      fun after => .pure ⟨rfl, rfl, rfl⟩).mono ?_
    rintro outcome calls after ⟨rfl, hnone, hafter⟩
    rw [List.length_map]
    exact ⟨hnone, _, hafter, .taken rfl⟩
  | error error =>
    cases error with
    | missingParents refused =>
      refine pushesFrom_markUnpushed_bind hstore hshows refused fun _ flagged hflagged => ?_
      refine (pushesFrom_markPushed hstore hflagged _ (.error (.conflict refused))
        fun after => .throw ⟨rfl, rfl, rfl⟩).mono ?_
      rintro outcome calls after ⟨rfl, hnone, hafter⟩
      exact ⟨hnone, _, hafter, .refused rfl⟩
    | transport _ _ => exact .throw ⟨rfl, flags, hshows, .failed rfl rfl⟩
    | status _ _ => exact .throw ⟨rfl, flags, hshows, .failed rfl rfl⟩
    | undecodable _ => exact .throw ⟨rfl, flags, hshows, .failed rfl rfl⟩
    | cancelled => exact .throw ⟨rfl, flags, hshows, .failed rfl rfl⟩

/-- A push of stored rows is one call to the hub, and its answer decides what is left flagged. -/
theorem pushRows_leaves (hstore : source.KeepsFlags table stored parents shows)
    (hhub : hub.LeavesFlags shows) (scope : Scope) (hshows : shows world.unwatched.inner flags)
    {entries : List (String × Row)} (hstored : ∀ entry ∈ entries, entry ∈ stored.entries)
    (hsome : entries ≠ []) :
    PushesFrom world (pushRows source.watched hub.watched scope table (entries.map Prod.snd))
      (pushRows source hub scope table (entries.map Prod.snd)) fun outcome pushes after =>
        ∃ (push : Push) (left : Finset String), push.entries = entries ∧
          pushes = [push.noted hub.agentName table] ∧
          push.Leaves stored parents flags outcome left ∧ shows after.unwatched.inner left := by
  have hrows : entries.map Prod.snd ≠ [] := by simpa using hsome
  have hkeys : (entries.map Prod.snd).filterMap table.key? = entries.map Prod.fst := by
    rw [← keys_keyed,
      keyed_map_snd entries fun entry hmem => hstore.filed entry (hstored entry hmem)]
  rw [pushRows_eq source.watched hub.watched scope table hrows,
    pushRows_eq source hub scope table hrows, hkeys]
  let bundle := rowBundle hub.agentName table (entries.map Prod.snd)
  obtain ⟨answer, pushed, hrun⟩ : ∃ answer pushed,
      runFrom (hub.push scope bundle) world.unwatched = (answer, pushed) := ⟨_, _, rfl⟩
  have hpushed := hhub scope bundle hshows
  rw [hrun] at hpushed
  refine (logsFrom_watching (.push bundle) HubError.toError hrun).attempt_bind ?_
  rintro _ _ after ⟨rfl, rfl, rfl⟩
  refine (flagPushed_leaves hstore hpushed entries _).mono ?_
  rintro outcome calls last ⟨hnone, left, hlast, hleaves⟩
  refine ⟨_, left, rfl, ?_, hleaves, hlast⟩
  rw [List.filterMap_append, hnone, List.append_nil]
  rfl

end

end AgentSync
