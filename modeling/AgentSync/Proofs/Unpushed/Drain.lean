import AgentSync.Proofs.Unpushed.Batch

namespace AgentSync

open AgentSync.Action

namespace IsBatch

variable {stored : Dict Row} {flags : Finset String} {limit : Nat} {push : Push}

/-- A batch has flagged rows only. -/
theorem subset (h : IsBatch stored flags limit push.entries) : push.keys.toFinset ⊆ flags := by
  intro key hkey
  exact h.flagged key (List.mem_toFinset.mp hkey)

theorem card_keys (h : IsBatch stored flags limit push.entries) :
    push.keys.toFinset.card = push.entries.length := by
  unfold Push.keys
  rw [List.toFinset_card_of_nodup h.nodup, List.length_map]

/-- Every row of a batch that is taken is one flag less. -/
theorem card_sdiff (h : IsBatch stored flags limit push.entries) :
    push.entries.length + (flags \ push.keys.toFinset).card = flags.card := by
  rw [Finset.card_sdiff_of_subset h.subset, h.card_keys, ← h.card_keys]
  exact Nat.add_sub_cancel' (Finset.card_le_card h.subset)

/-- A full batch that is taken is one batch less to come. -/
theorem card_div (h : IsBatch stored flags limit push.entries) (hlimit : 1 ≤ limit)
    (hfull : push.entries.length = limit) :
    flags.card / limit = (flags \ push.keys.toFinset).card / limit + 1 := by
  rw [← h.card_sdiff, hfull, Nat.add_comm, Nat.add_div_right _ hlimit]

/-- A batch that is not full has all flagged rows. -/
theorem sdiff_eq_empty (h : IsBatch stored flags limit push.entries)
    (hshort : push.entries.length < limit) : flags \ push.keys.toFinset = ∅ := by
  have hcard := h.card_sdiff
  have hlength := h.length
  exact Finset.card_eq_zero.mp (by omega)

/-- A batch is empty only if nothing is flagged, so an empty one ends the loop rightly. -/
theorem eq_nil_iff {entries : List (String × Row)} (h : IsBatch stored flags limit entries)
    (hlimit : 1 ≤ limit) : entries = [] ↔ flags = ∅ := by
  have hlength := h.length
  rw [← List.length_eq_zero_iff, ← Finset.card_eq_zero]
  omega

end IsBatch

/-- The loop over the flagged rows of a store: its pushes, what it comes to, and what it leaves
flagged. `isStopped` tells whether its scope is cancelled when it ends. -/
inductive Drains (stored : Dict Row) (parents : List String → List String) (limit : Nat)
    (isStopped : Prop) :
    Finset String → List Push → Except Error Nat → Finset String → Prop
  | stopped {flags : Finset String} (hstop : isStopped) :
      Drains stored parents limit isStopped flags [] (.error .cancelled) flags
  | drained : Drains stored parents limit isStopped ∅ [] (.ok 0) ∅
  | taken {flags left : Finset String} {push : Push} {pushes : List Push}
      {outcome : Except Error Nat} (hbatch : IsBatch stored flags limit push.entries)
      (hanswer : push.answer = .ok ()) (hfull : push.entries.length = limit)
      (hrest : Drains stored parents limit isStopped (flags \ push.keys.toFinset) pushes outcome
        left) :
      Drains stored parents limit isStopped flags (push :: pushes)
        (outcome.map (push.entries.length + ·)) left
  | last {flags : Finset String} {push : Push} (hbatch : IsBatch stored flags limit push.entries)
      (hanswer : push.answer = .ok ()) (hshort : push.entries.length < limit) :
      Drains stored parents limit isStopped flags [push] (.ok push.entries.length)
        (flags \ push.keys.toFinset)
  | refused {flags : Finset String} {push : Push} {keys : List String}
      (hbatch : IsBatch stored flags limit push.entries)
      (hanswer : push.answer = .error (.conflict keys)) :
      Drains stored parents limit isStopped flags [push] (.ok 0)
        (flagsRefused stored parents flags push.keys keys)
  | failed {flags : Finset String} {push : Push} {error : Error}
      (hbatch : IsBatch stored flags limit push.entries) (hanswer : push.answer = .error error)
      (hother : error.isConflict = false) :
      Drains stored parents limit isStopped flags [push] (.error error) flags

namespace Drains

variable {stored : Dict Row} {parents : List String → List String} {limit : Nat}
  {isStopped : Prop} {flags left : Finset String} {pushes : List Push}
  {outcome : Except Error Nat}

/-- The keys of pushes are taken out of a set one push after another. -/
theorem sdiff_keys_cons (flags : Finset String) (push : Push) (pushes : List Push) :
    (flags \ push.keys.toFinset) \ (pushes.flatMap Push.keys).toFinset =
      flags \ ((push :: pushes).flatMap Push.keys).toFinset := by
  rw [List.flatMap_cons, List.toFinset_append, sdiff_sdiff]
  rfl

/-- Each push but the last takes a full batch off the flagged rows, so there are few. -/
theorem length_le (h : Drains stored parents limit isStopped flags pushes outcome left)
    (hlimit : 1 ≤ limit) : pushes.length ≤ flags.card / limit + 1 := by
  induction h with
  | stopped => exact Nat.zero_le _
  | drained => exact Nat.zero_le _
  | @taken flags _ push _ _ hbatch _ hfull _ ih =>
    rw [List.length_cons, hbatch.card_div hlimit hfull]
    exact Nat.succ_le_succ ih
  | last | refused | failed => simp

/-- Every row that is pushed is stored, and was flagged from the start. -/
theorem batches (h : Drains stored parents limit isStopped flags pushes outcome left) :
    ∀ push ∈ pushes, ∀ entry ∈ push.entries, entry ∈ stored.entries ∧ entry.1 ∈ flags := by
  have hof {flags : Finset String} {push : Push}
      (hbatch : IsBatch stored flags limit push.entries) : ∀ entry ∈ push.entries,
        entry ∈ stored.entries ∧ entry.1 ∈ flags := fun entry hmem =>
    ⟨hbatch.stored entry hmem, hbatch.flagged _ (List.mem_map_of_mem hmem)⟩
  induction h with
  | stopped | drained => simp
  | taken hbatch _ _ _ ih =>
    refine List.forall_mem_cons.mpr ⟨hof hbatch, fun push hpush entry hentry => ?_⟩
    obtain ⟨hstored, hleft⟩ := ih push hpush entry hentry
    exact ⟨hstored, (Finset.mem_sdiff.mp hleft).1⟩
  | last hbatch | refused hbatch | failed hbatch =>
    exact List.forall_mem_singleton.mpr (hof hbatch)

/-- A row that was taken is not flagged any more, so it is in no later batch. -/
theorem nodup_keys (h : Drains stored parents limit isStopped flags pushes outcome left) :
    (pushes.flatMap Push.keys).Nodup := by
  induction h with
  | stopped | drained => exact List.nodup_nil
  | taken hbatch _ _ hrest ih =>
    rw [List.flatMap_cons, List.nodup_append']
    refine ⟨hbatch.nodup, ih, fun key hkey hlater => ?_⟩
    obtain ⟨push, hpush, hkeys⟩ := List.mem_flatMap.mp hlater
    obtain ⟨entry, hentry, rfl⟩ := List.mem_map.mp hkeys
    have hleft := (hrest.batches push hpush entry hentry).2
    exact (Finset.mem_sdiff.mp hleft).2 (List.mem_toFinset.mpr hkey)
  | last hbatch | refused hbatch | failed hbatch =>
    rw [List.flatMap_singleton]
    exact hbatch.nodup

/-- If the hub takes every push, all rows are pushed, unless the scope is cancelled. -/
theorem of_taken (h : Drains stored parents limit isStopped flags pushes outcome left)
    (htaken : ∀ push ∈ pushes, push.answer = .ok ()) :
    outcome = .ok flags.card ∧ left = ∅ ∨
      isStopped ∧ outcome = .error .cancelled ∧
        left = flags \ (pushes.flatMap Push.keys).toFinset := by
  induction h with
  | stopped hstop => exact .inr ⟨hstop, rfl, by simp⟩
  | drained => exact .inl ⟨rfl, rfl⟩
  | taken hbatch _ _ _ ih =>
    obtain ⟨rfl, hleft⟩ | ⟨hstop, rfl, hleft⟩ := ih (List.forall_mem_cons.mp htaken).2
    · refine .inl ⟨?_, hleft⟩
      exact congrArg Except.ok hbatch.card_sdiff
    · refine .inr ⟨hstop, rfl, ?_⟩
      rw [hleft, sdiff_keys_cons]
  | last hbatch _ hshort =>
    have hnone := hbatch.sdiff_eq_empty hshort
    have hcard := hbatch.card_sdiff
    rw [hnone, Finset.card_empty, Nat.add_zero] at hcard
    exact .inl ⟨congrArg Except.ok hcard, hnone⟩
  | refused _ hanswer =>
    rw [htaken _ (List.mem_singleton_self _)] at hanswer
    cases hanswer
  | failed _ hanswer =>
    rw [htaken _ (List.mem_singleton_self _)] at hanswer
    cases hanswer

/-- A push that the hub does not take is the last one. It decides the rest, together with the rows
that were taken before it. -/
theorem of_not_taken {earlier later : List Push} {push : Push} {error : Error}
    (h : Drains stored parents limit isStopped flags (earlier ++ push :: later) outcome left)
    (hanswer : push.answer = .error error) :
    later = [] ∧
    ((∃ keys, error = .conflict keys ∧ outcome = .ok (earlier.flatMap Push.keys).length ∧
        left = flagsRefused stored parents (flags \ (earlier.flatMap Push.keys).toFinset) push.keys
          keys) ∨
      error.isConflict = false ∧ outcome = .error error ∧
        left = flags \ (earlier.flatMap Push.keys).toFinset) := by
  induction earlier generalizing flags outcome with
  | nil =>
    have hflags : flags \ (([] : List Push).flatMap Push.keys).toFinset = flags := by simp
    rw [hflags]
    cases h with
    | taken _ htaken =>
      rw [htaken] at hanswer
      cases hanswer
    | last _ htaken =>
      rw [htaken] at hanswer
      cases hanswer
    | refused _ hrefused =>
      rw [hrefused] at hanswer
      cases hanswer
      exact ⟨rfl, .inl ⟨_, rfl, rfl, rfl⟩⟩
    | failed _ hfailed hother =>
      rw [hfailed] at hanswer
      cases hanswer
      exact ⟨rfl, .inr ⟨hother, rfl, rfl⟩⟩
  | cons first rest ih =>
    rw [List.cons_append] at h
    generalize hpushes : rest ++ push :: later = pushes at h
    cases h with
    | taken _ _ _ hrest =>
      subst hpushes
      obtain ⟨hlater, hcases⟩ := ih hrest
      rw [sdiff_keys_cons] at hcases
      refine ⟨hlater, hcases.imp ?_ ?_⟩
      · rintro ⟨keys, rfl, rfl, hleft⟩
        refine ⟨keys, rfl, ?_, hleft⟩
        rw [List.flatMap_cons, List.length_append, Push.keys, List.length_map]
        rfl
      · rintro ⟨hother, rfl, hleft⟩
        exact ⟨hother, rfl, hleft⟩
    | last | refused | failed => simp at hpushes

end Drains

/-- A guard lets a scope pass that is not cancelled. -/
theorem pushesFrom_guard {ω : Type} (scope : Scope) (world : World (Watched ω)) :
    PushesFrom world (World.guard scope) (World.guard scope) fun outcome pushes after =>
      pushes = [] ∧ after = world ∧
        (outcome = .ok () ∨
          outcome = .error .cancelled ∧ world.scopes.isCancelled scope = true) := by
  by_cases hcancelled : world.scopes.isCancelled scope = true
  · exact ⟨_, [], world, World.runFrom_guard_of_cancelled hcancelled,
      World.runFrom_guard_of_cancelled hcancelled, (List.append_nil _).symm, rfl, rfl,
      .inr ⟨rfl, hcancelled⟩⟩
  · have hopen : world.scopes.isCancelled scope = false := Bool.eq_false_iff.mpr hcancelled
    exact ⟨_, [], world, World.runFrom_guard hopen, World.runFrom_guard hopen,
      (List.append_nil _).symm, rfl, rfl, .inl rfl⟩

section

variable {ω : Type} {reconciler : Reconciler ω} {table : Table} {stored : Dict Row}
  {parents : List String → List String} {shows : ω → Finset String → Prop}

/-- What the loop comes to when so many rows were pushed before, and the calls that it makes. -/
def DrainsFrom (agentName : String) (table : Table) (stored : Dict Row)
    (parents : List String → List String) (shows : ω → Finset String → Prop) (scope : Scope)
    (limit : Nat) (flags : Finset String) (total : Nat) (outcome : Except Error Nat)
    (calls : List AnsweredCall) (after : World (Watched ω)) : Prop :=
  ∃ pushes result left, outcome = result.map (total + ·) ∧
    calls.filterMap AnsweredCall.push? = pushes.map (·.noted agentName table) ∧
    Drains stored parents limit (after.scopes.isCancelled scope = true) flags pushes result left ∧
    shows after.unwatched.inner left

theorem DrainsFrom.of_silent {agentName : String} {scope : Scope} {limit total : Nat}
    {flags : Finset String} {outcome : Except Error Nat} {calls more : List AnsweredCall}
    {after : World (Watched ω)} (hnone : calls.filterMap AnsweredCall.push? = [])
    (h : DrainsFrom agentName table stored parents shows scope limit flags total outcome more
      after) :
    DrainsFrom agentName table stored parents shows scope limit flags total outcome (calls ++ more)
      after := by
  obtain ⟨pushes, result, left, houtcome, hcalls, hdrains, hleft⟩ := h
  refine ⟨pushes, result, left, houtcome, ?_, hdrains, hleft⟩
  rw [List.filterMap_append, hnone, List.nil_append, hcalls]

/-- A push that ends the loop. -/
theorem DrainsFrom.single {agentName : String} {scope : Scope} {limit total : Nat}
    {flags left : Finset String} {push : Push} {result : Except Error Nat}
    {calls : List AnsweredCall} {after : World (Watched ω)}
    (hpush : calls.filterMap AnsweredCall.push? = [push.noted agentName table])
    (hdrains : Drains stored parents limit (after.scopes.isCancelled scope = true) flags [push]
      result left)
    (hleft : shows after.unwatched.inner left) :
    DrainsFrom agentName table stored parents shows scope limit flags total
      (result.map (total + ·)) (calls ++ []) after := by
  refine ⟨[push], result, left, rfl, ?_, hdrains, hleft⟩
  rw [List.append_nil, hpush]
  rfl

/-- A full batch that the hub takes comes before the rest of the loop. -/
theorem DrainsFrom.taken {agentName : String} {scope : Scope} {limit total : Nat}
    {flags : Finset String} {push : Push} {outcome : Except Error Nat}
    {calls more : List AnsweredCall} {after : World (Watched ω)}
    (hpush : calls.filterMap AnsweredCall.push? = [push.noted agentName table])
    (hbatch : IsBatch stored flags limit push.entries) (hanswer : push.answer = .ok ())
    (hfull : push.entries.length = limit)
    (hrest : DrainsFrom agentName table stored parents shows scope limit
      (flags \ push.keys.toFinset) (total + push.entries.length) outcome more after) :
    DrainsFrom agentName table stored parents shows scope limit flags total outcome (calls ++ more)
      after := by
  obtain ⟨pushes, result, left, rfl, hcalls, hdrains, hleft⟩ := hrest
  refine ⟨push :: pushes, _, left, ?_, ?_, .taken hbatch hanswer hfull hdrains, hleft⟩
  · cases result with
    | error error => rfl
    | ok count => exact congrArg Except.ok (Nat.add_assoc _ _ _)
  · rw [List.filterMap_append, hpush, hcalls]
    rfl

/-- The loop drains from any set of flags, if it has more rounds than full batches. By induction on
the rounds. -/
theorem pushUnpushed_drainsFrom (hstore : reconciler.source.KeepsFlags table stored parents shows)
    (hhub : reconciler.hub.LeavesFlags shows) (scope : Scope) (batch : Int) (rounds : Nat) :
    ∀ (total : Nat) {world : World (Watched ω)} {flags : Finset String},
      shows world.unwatched.inner flags → flags.card / (max batch 1).toNat < rounds →
      LogsRunFrom World.calls World.unwatched world
        (reconciler.watched.pushUnpushed scope table batch rounds total)
        (reconciler.pushUnpushed scope table batch rounds total)
        (DrainsFrom reconciler.hub.agentName table stored parents shows scope (max batch 1).toNat
          flags total) := by
  have hlimit : 1 ≤ (max batch 1).toNat := by omega
  induction rounds with
  | zero => intro total world flags _ hrounds; exact absurd hrounds (Nat.not_lt_zero _)
  | succ rounds ih =>
    intro total world flags hshows hrounds
    unfold Reconciler.pushUnpushed
    refine LogsRunFrom.ofAction_bind (pushesFrom_guard scope world) ?_ ?_
    · rintro error calls after ⟨hnone, rfl, hguard | ⟨hguard, hcancelled⟩⟩
      · cases hguard
      · cases hguard
        exact ⟨[], _, flags, rfl, hnone, .stopped hcancelled, hshows⟩
    rintro _ calls after ⟨hnone, rfl, _⟩
    obtain ⟨entries, reading, hread, hbatch, hreading⟩ :=
      hstore.unpushedRows hshows (max batch 1) (by omega)
    refine LogsRunFrom.ofAction_bind
      (pushesFrom_local (.unpushedRows table (max batch 1)) (fun _ => rfl) hread) ?_ ?_
    · rintro error calls after ⟨houtcome, _⟩
      cases houtcome
    rintro _ more after ⟨houtcome, hnone', rfl⟩
    cases houtcome
    suffices hrest : LogsRunFrom World.calls World.unwatched after _ _
        (DrainsFrom reconciler.hub.agentName table stored parents shows scope (max batch 1).toNat
          flags total) from
      hrest.mono fun _ _ _ hdrains => (hdrains.of_silent hnone').of_silent hnone
    by_cases hempty : entries = []
    · have hflags : flags = ∅ := (hbatch.eq_nil_iff hlimit).mp hempty
      subst hempty hflags
      have htotal : (.ok total : Except Error Nat) = Except.map (total + ·) (.ok 0) := rfl
      exact LogsRunFrom.ofExcept ⟨[], .ok 0, ∅, htotal, rfl, .drained, hreading⟩
    have hrows : (entries.map Prod.snd).isEmpty = false := by simpa using hempty
    rw [hrows, if_neg Bool.false_ne_true, if_neg Bool.false_ne_true]
    refine LogsRunFrom.attempt_bind
      (pushRows_leaves hstore hhub scope hreading hbatch.stored hempty) ?_
    rintro result own last ⟨push, left, rfl, hpush, hleaves, hleft⟩
    cases hleaves with
    | taken hanswer =>
      obtain ⟨count, hcount⟩ := Nat.exists_eq_succ_of_ne_zero (List.length_pos_iff.mpr hempty).ne'
      rw [hcount]
      simp only [List.length_map]
      rw [← hcount]
      by_cases hshort : (push.entries.length : Int) < max batch 1
      · rw [if_pos hshort, if_pos hshort]
        exact LogsRunFrom.ofExcept (.single hpush (.last hbatch hanswer (by omega)) hleft)
      · rw [if_neg hshort, if_neg hshort]
        have hfull : push.entries.length = (max batch 1).toNat := by
          have hlength := hbatch.length
          omega
        rw [hbatch.card_div hlimit hfull] at hrounds
        exact (ih _ hleft (Nat.lt_of_succ_lt_succ hrounds)).mono fun _ _ _ hrest =>
          DrainsFrom.taken hpush hbatch hanswer hfull hrest
    | refused hanswer =>
      exact LogsRunFrom.ofExcept (.single hpush (.refused hbatch hanswer) hleft)
    | failed hanswer hother =>
      simp only [hother]
      exact LogsRunFrom.ofExcept (.single hpush (.failed hbatch hanswer hother) hleft)

end

/-- What the loop does to the flagged rows of a store, by the hub's answers to its pushes. -/
structure Drained (stored : Dict Row) (parents : List String → List String) (limit : Nat)
    (flags : Finset String) (isStopped : Prop) (pushes : List Push) (outcome : Except Error Nat)
    (left : Finset String) : Prop where
  few : pushes.length ≤ flags.card / limit + 1
  flagged : ∀ push ∈ pushes, ∀ entry ∈ push.entries, entry ∈ stored.entries ∧ entry.1 ∈ flags
  once : (pushes.flatMap Push.keys).Nodup
  taken_before : ∀ earlier push later, pushes = earlier ++ push :: later →
    ∀ other ∈ earlier, other.answer = .ok ()
  /-- If the hub takes every push, all rows are pushed and none stays flagged, unless the scope is
  cancelled. -/
  all_taken : (∀ push ∈ pushes, push.answer = .ok ()) →
    outcome = .ok flags.card ∧ left = ∅ ∨
      isStopped ∧ outcome = .error .cancelled ∧ left = flags \ (pushes.flatMap Push.keys).toFinset
  /-- A refusal ends the loop without a failure. Of the batch the refused rows stay flagged. -/
  refused : ∀ earlier push later keys, pushes = earlier ++ push :: later →
    push.answer = .error (.conflict keys) →
      later = [] ∧ outcome = .ok (earlier.flatMap Push.keys).length ∧
      (∀ key ∈ keys, key ∈ stored.keys → key ∈ left) ∧
      (∀ key ∈ push.keys, key ∉ keys → key ∉ left) ∧
      ∀ key, key ∉ keys → key ∉ push.keys →
        (key ∈ left ↔ (key ∈ flags ∧ key ∉ earlier.flatMap Push.keys) ∨
          key ∈ stored.keys ∧ key ∈ parents keys)
  /-- Any other failure is the loop's, and the flags of the batch stay as they are. -/
  failed : ∀ earlier push later error, pushes = earlier ++ push :: later →
    push.answer = .error error → (∀ keys, error ≠ .conflict keys) →
      later = [] ∧ outcome = .error error ∧ left = flags \ (earlier.flatMap Push.keys).toFinset

/-- After a refusal the flags are those from before, the refused rows and their parents, but for the
rows that were pushed and not refused. -/
theorem mem_flagsRefused {stored : Dict Row} {parents : List String → List String}
    {flags : Finset String} {pushed refused : List String} {key : String} :
    key ∈ flagsRefused stored parents flags pushed refused ↔
      (key ∈ flags ∨ (key ∈ refused ∨ key ∈ parents refused) ∧ key ∈ stored.keys) ∧
        (key ∈ pushed → key ∈ refused) := by
  simp [flagsRefused]

/-- Every course of the loop has the properties that are promised of it. -/
theorem Drains.drained_of {stored : Dict Row} {parents : List String → List String} {limit : Nat}
    {isStopped : Prop} {flags left : Finset String} {pushes : List Push}
    {outcome : Except Error Nat}
    (h : Drains stored parents limit isStopped flags pushes outcome left) (hlimit : 1 ≤ limit) :
    Drained stored parents limit flags isStopped pushes outcome left where
  few := h.length_le hlimit
  flagged := h.batches
  once := h.nodup_keys
  taken_before := by
    rintro earlier push later rfl other hother
    obtain ⟨before, between, rfl⟩ := List.append_of_mem hother
    cases hanswer : other.answer with
    | ok done => rfl
    | error error =>
      rw [List.append_assoc, List.cons_append] at h
      have hlast := (h.of_not_taken hanswer).1
      simp at hlast
  all_taken := h.of_taken
  refused := by
    rintro earlier push later keys rfl hanswer
    obtain ⟨hlater, ⟨refused, hkeys, houtcome, rfl⟩ | ⟨hother, _⟩⟩ := h.of_not_taken hanswer
    · cases hkeys
      refine ⟨hlater, houtcome, fun key hkey hstored => ?_, fun key hkey hkept => ?_,
        fun key hkept hkey => ?_⟩
      · exact mem_flagsRefused.mpr ⟨.inr ⟨.inl hkey, hstored⟩, fun _ => hkey⟩
      · exact fun hleft => hkept ((mem_flagsRefused.mp hleft).2 hkey)
      · rw [mem_flagsRefused, Finset.mem_sdiff, List.mem_toFinset, or_iff_right hkept,
          and_comm (a := key ∈ parents keys)]
        exact and_iff_left fun hmem => absurd hmem hkey
    · cases hother
  failed := by
    rintro earlier push later error rfl hanswer hother
    obtain ⟨hlater, ⟨keys, rfl, _⟩ | ⟨_, houtcome, hleft⟩⟩ := h.of_not_taken hanswer
    · exact absurd rfl (hother keys)
    · exact ⟨hlater, houtcome, hleft⟩

/-- The loop over the rows that the hub does not have ends, and comes to the same as without the
watch. Its pushes are few, push no row twice, and their answers decide what it comes to and which
rows stay flagged. -/
theorem pushUnpushed_drains {ω : Type} (reconciler : Reconciler ω) (table : Table)
    (stored : Dict Row) (parents : List String → List String) (shows : ω → Finset String → Prop)
    (scope : Scope) (batch : Int) (rounds : Nat) (world : World ω) (flags : Finset String)
    (hstore : reconciler.source.KeepsFlags table stored parents shows)
    (hhub : reconciler.hub.LeavesFlags shows) (hshows : shows world.inner flags)
    (hrounds : flags.card / (max batch 1).toNat < rounds) :
    ∃ outcome after pushes left,
      Bounded.runFrom (reconciler.watched.pushUnpushed scope table batch rounds 0) world.watched =
        some (outcome, after) ∧
      Bounded.runFrom (reconciler.pushUnpushed scope table batch rounds 0) world =
        some (outcome, after.unwatched) ∧
      after.calls.filterMap AnsweredCall.push? =
        pushes.map (·.noted reconciler.hub.agentName table) ∧
      shows after.unwatched.inner left ∧
      Drained stored parents (max batch 1).toNat flags (after.scopes.isCancelled scope = true)
        pushes outcome left := by
  have hstart : shows world.watched.unwatched.inner flags := hshows
  obtain ⟨outcome, calls, after, hrun, hbare, hcalls, pushes, result, left, houtcome, hpushes,
    hdrains, hleft⟩ := pushUnpushed_drainsFrom hstore hhub scope batch rounds 0 hstart hrounds
  have hresult : result = outcome := by
    rw [houtcome]
    cases result with
    | error error => rfl
    | ok count => exact congrArg Except.ok (Nat.zero_add _).symm
  subst hresult
  rw [show world.watched.calls = [] from rfl, List.nil_append] at hcalls
  refine ⟨result, after, pushes, left, hrun, hbare, ?_, hleft, hdrains.drained_of (by omega)⟩
  rw [hcalls, hpushes]

end AgentSync
