import AgentSync.Queue.Listener
import Mathlib.Algebra.Ring.Nat
import Mathlib.Data.List.TakeWhile

namespace AgentSync

namespace Listener

/-- What a listener is about: connecting, listening, or nothing any more. -/
inductive Phase where
  | apart
  | listening
  | stopped
  deriving DecidableEq, Repr

/-- What can happen in a phase, and which phase it leads to. -/
inductive Ensues : Phase → Happening → Phase → Prop
  | connected : Ensues .apart .connected .listening
  | refused : Ensues .apart .refused .apart
  | received : Ensues .listening .received .listening
  | renewed : Ensues .listening .renewed .listening
  | lost : Ensues .listening .lost .apart
  | cancelled {phase : Phase} (hlive : phase ≠ .stopped) : Ensues phase .cancelled .stopped

/-- A sequence in which each thing can happen after those before it, and the phase it leads to. -/
inductive Leads : List Happening → Phase → Prop
  | start : Leads [] .apart
  | next {before : List Happening} {phase after : Phase} {happening : Happening}
    (hbefore : Leads before phase) (h : Ensues phase happening after) :
    Leads (before ++ [happening]) after

/-- The number of attempts to connect that failed since the last one that succeeded. -/
def failuresInRow (happened : List Happening) : Nat :=
  let attempts := happened.filter fun happening => happening = .connected ∨ happening = .refused
  (attempts.reverse.takeWhile (· = .refused)).length

section

variable (before : List Happening)

@[simp] theorem failuresInRow_nil : failuresInRow [] = 0 := rfl

@[simp] theorem failuresInRow_refused :
    failuresInRow (before ++ [.refused]) = failuresInRow before + 1 := by
  simp [failuresInRow]

@[simp] theorem failuresInRow_connected : failuresInRow (before ++ [.connected]) = 0 := by
  simp [failuresInRow]

theorem failuresInRow_concat (happening : Happening) (hconnected : happening ≠ .connected)
    (hrefused : happening ≠ .refused) :
    failuresInRow (before ++ [happening]) = failuresInRow before := by
  simp [failuresInRow, hconnected, hrefused]

theorem failuresInRow_of_not_mem (h : .refused ∉ before) : failuresInRow before = 0 := by
  rw [failuresInRow, List.length_eq_zero_iff, List.eq_nil_iff_forall_not_mem]
  intro happening hmem
  obtain rfl : happening = .refused := by simpa using List.mem_takeWhile_imp hmem
  have hattempt := List.takeWhile_subset _ hmem
  exact h (List.mem_filter.mp (List.mem_reverse.mp hattempt)).1

end

variable (listener : Listener)

/-- How the listener stands after what happened. -/
def standing (happened : List Happening) : State := (listener.run start happened).1

/-- All that the listener did. -/
def deeds (happened : List Happening) : List Deed := (listener.run start happened).2

/-- What the listener does when something happens after other things. -/
def reply (before : List Happening) (happening : Happening) : List Deed :=
  (listener.step (listener.standing before) happening).2

/-- What happens later is answered from the state in which what happened first left the listener. -/
theorem run_append (state : State) (first second : List Happening) :
    listener.run state (first ++ second) =
      ((listener.run (listener.run state first).1 second).1,
        (listener.run state first).2 ++ (listener.run (listener.run state first).1 second).2) := by
  induction first generalizing state with
  | nil => rfl
  | cons happening rest ih => simp [run, ih]

@[simp] theorem standing_nil : listener.standing [] = .apart firstPause := rfl

theorem standing_concat (before : List Happening) (happening : Happening) :
    listener.standing (before ++ [happening]) =
      (listener.step (listener.standing before) happening).1 := by
  rw [standing, run_append]
  rfl

theorem deeds_concat (before : List Happening) (happening : Happening) :
    listener.deeds (before ++ [happening]) =
      listener.deeds before ++ listener.reply before happening := by
  rw [deeds, run_append]
  simp [run, deeds, reply, standing]

/-- The pause after so many failed attempts in a row and one more. The first is a second long,
whatever the cap. -/
def nextPause : Nat → Duration
  | 0 => firstPause
  | failures + 1 => (Duration.ofSeconds (2 ^ (failures + 1))).min listener.maxPause

/-- The shortest pause that cannot be doubled. -/
def endlessPause : Duration := .ofSeconds (2 ^ 63)

/-- A pause that can be doubled is followed by its double, or by the cap. -/
theorem afterPause_of_lt {length : Duration} (h : length.nanos < endlessPause.nanos) :
    listener.afterPause length = .apart (Duration.min ⟨2 * length.nanos⟩ listener.maxPause) := by
  have hlongest : Duration.longest.nanos + 1 = 2 * endlessPause.nanos := by decide
  rw [afterPause, Duration.twice?, if_pos (by omega)]

/-- A pause that cannot be doubled stops the listener. -/
theorem afterPause_of_ge {length : Duration} (h : endlessPause.nanos ≤ length.nanos) :
    listener.afterPause length = .stopped := by
  have hlongest : Duration.longest.nanos + 1 = 2 * endlessPause.nanos := by decide
  rw [afterPause, Duration.twice?, if_neg (by omega)]

/-- With a cap that can be doubled every pause can, and with any cap those after few failures. -/
theorem nextPause_lt (failures : Nat)
    (h : listener.maxPause.nanos < endlessPause.nanos ∨ failures < 63) :
    (listener.nextPause failures).nanos < endlessPause.nanos := by
  cases failures with
  | zero => exact (by decide : firstPause.nanos < endlessPause.nanos)
  | succ failures =>
    rcases h with hcap | hfew
    · exact Nat.lt_of_le_of_lt (Nat.min_le_right _ _) hcap
    · have hpow : 2 ^ (failures + 1) < 2 ^ 63 := Nat.pow_lt_pow_right (by decide) hfew
      exact Nat.lt_of_le_of_lt (Nat.min_le_left _ _) (Nat.mul_lt_mul_of_pos_right hpow (by decide))

/-- Doubled and capped, a pause is the next one. -/
theorem min_twice_nextPause (failures : Nat) :
    Duration.min ⟨2 * (listener.nextPause failures).nanos⟩ listener.maxPause =
      listener.nextPause (failures + 1) := by
  cases failures with
  | zero => rfl
  | succ failures =>
    have hpow : 2 ^ (failures + 2) * Duration.nanosPerSecond =
        2 * (2 ^ (failures + 1) * Duration.nanosPerSecond) := by
      rw [Nat.pow_succ _ (failures + 1), Nat.mul_comm _ 2, Nat.mul_assoc]
    simp only [nextPause, Duration.min, Duration.ofSeconds, hpow, Duration.mk.injEq]
    generalize 2 ^ (failures + 1) * Duration.nanosPerSecond = nanos
    change min (2 * min nanos _) _ = min (2 * nanos) _
    omega

/-- So many attempts failed in a row that the pauses, under a cap wide enough, became too long to be
doubled. -/
def OutgrowsPauses (happened : List Happening) : Prop :=
  endlessPause.nanos ≤ listener.maxPause.nanos ∧
    ∃ before, before <+: happened ∧ failuresInRow before = 64

variable {listener} {happened before : List Happening} {phase : Phase}

/-- Pauses that outgrow what can be doubled do so whatever happens later. -/
theorem OutgrowsPauses.mono (h : listener.OutgrowsPauses before) (hbegins : before <+: happened) :
    listener.OutgrowsPauses happened := by
  obtain ⟨hcap, earlier, hearlier, hfailures⟩ := h
  exact ⟨hcap, earlier, hearlier.trans hbegins, hfailures⟩

namespace Leads

theorem exists_earlier (h : Leads happened phase) (hbegins : before <+: happened) :
    ∃ earlier, Leads before earlier := by
  induction h with
  | start =>
    obtain rfl := List.prefix_nil.mp hbegins
    exact ⟨_, .start⟩
  | next hbefore h ih =>
    rcases List.prefix_concat_iff.mp hbegins with rfl | hshorter
    · exact ⟨_, .next hbefore h⟩
    · exact ih hshorter

/-- The last thing to happen ensues from the phase before it. -/
theorem of_concat {happening : Happening} (h : Leads (before ++ [happening]) phase) :
    ∃ earlier, Leads before earlier ∧ Ensues earlier happening phase := by
  generalize hwhole : before ++ [happening] = whole at h
  cases h with
  | start => simp at hwhole
  | next hbefore h =>
    obtain ⟨rfl, heq⟩ := List.append_inj' hwhole rfl
    cases heq
    exact ⟨_, hbefore, h⟩

/-- What happened in a sequence could happen after what was before it. -/
theorem ensues_within {happening : Happening} (h : Leads happened phase)
    (hbegins : before ++ [happening] <+: happened) :
    ∃ earlier after, Leads before earlier ∧ Ensues earlier happening after := by
  obtain ⟨after, hafter⟩ := h.exists_earlier hbegins
  obtain ⟨earlier, hbefore, hensues⟩ := hafter.of_concat
  exact ⟨earlier, after, hbefore, hensues⟩

end Leads

/-- The state of a listener in a phase, with the pause for the case that the next attempt fails. -/
def Phase.state (next : Duration) : Phase → State
  | .apart => .apart next
  | .listening => .listening
  | .stopped => .stopped

/-- A listener stands as the number of failed attempts says, unless its pauses outgrew what can be
doubled. -/
structure InStep (listener : Listener) (happened : List Happening) (phase : Phase) : Prop where
  standing_eq : listener.standing happened =
    phase.state (listener.nextPause (failuresInRow happened))
  few : listener.maxPause.nanos < endlessPause.nanos ∨ failuresInRow happened < 64
  none_failed : phase = .listening → failuresInRow happened = 0

/-- One more happening keeps the listener in step with what happened: the step of the induction. -/
theorem InStep.next {after : Phase} {happening : Happening} (h : InStep listener before phase)
    (hensues : Ensues phase happening after)
    (hroom : ¬listener.OutgrowsPauses (before ++ [happening])) :
    InStep listener (before ++ [happening]) after := by
  obtain ⟨hstanding, hfew, hnone⟩ := h
  cases hensues with
  | connected =>
    exact ⟨by simp [standing_concat, hstanding, Phase.state, step], by simp, by simp⟩
  | refused =>
    have hnot : listener.maxPause.nanos < endlessPause.nanos ∨ failuresInRow before + 1 < 64 := by
      by_contra hmany
      refine hroom ⟨by omega, _, List.prefix_refl _, ?_⟩
      rw [failuresInRow_refused]
      omega
    refine ⟨?_, by simpa using hnot, by simp⟩
    have hlt := listener.nextPause_lt (failuresInRow before) (by omega)
    rw [standing_concat, hstanding, failuresInRow_refused, ← min_twice_nextPause]
    exact listener.afterPause_of_lt hlt
  | received =>
    have hcount := failuresInRow_concat before .received nofun nofun
    exact ⟨by simp [standing_concat, hstanding, Phase.state, step], hcount ▸ hfew,
      fun _ => hcount.trans (hnone rfl)⟩
  | renewed =>
    have hcount := failuresInRow_concat before .renewed nofun nofun
    exact ⟨by simp [standing_concat, hstanding, Phase.state, step], hcount ▸ hfew,
      fun _ => hcount.trans (hnone rfl)⟩
  | lost =>
    have hcount := failuresInRow_concat before .lost nofun nofun
    refine ⟨?_, hcount ▸ hfew, nofun⟩
    rw [hcount, hnone rfl]
    simp [standing_concat, hstanding, Phase.state, step, nextPause]
  | cancelled hlive =>
    have hcount := failuresInRow_concat before .cancelled nofun nofun
    refine ⟨?_, hcount ▸ hfew, nofun⟩
    cases phase with
    | stopped => exact absurd rfl hlive
    | _ => simp [standing_concat, hstanding, Phase.state, step]

namespace Leads

/-- As long as its pauses can be doubled the listener is in step. -/
theorem inStep (h : Leads happened phase) (hroom : ¬listener.OutgrowsPauses happened) :
    InStep listener happened phase := by
  induction h with
  | start => exact ⟨rfl, .inr (by decide), fun _ => rfl⟩
  | next hbefore h ih =>
    exact (ih fun hgrown => hroom (hgrown.mono (List.prefix_append _ _))).next h hroom

/-- Nothing happens after a cancellation. -/
theorem cancelled_mem_iff (h : Leads happened phase) :
    .cancelled ∈ happened ↔ phase = .stopped := by
  induction h with
  | start => simp
  | next hbefore h ih => cases h <;> simp_all

/-- Pauses that outgrow what can be doubled do so first after an attempt that failed. -/
theorem first_outgrown (h : Leads happened phase) (hgrown : listener.OutgrowsPauses happened) :
    ∃ before, before ++ [.refused] <+: happened ∧ failuresInRow before = 63 ∧
      ¬listener.OutgrowsPauses before := by
  induction h with
  | start =>
    obtain ⟨-, before, hbegins, hfailures⟩ := hgrown
    obtain rfl := List.prefix_nil.mp hbegins
    cases hfailures
  | @next before phase after happening hbefore h ih =>
    by_cases hearlier : listener.OutgrowsPauses before
    · obtain ⟨first, hbegins, hfirst⟩ := ih hearlier
      exact ⟨first, hbegins.trans (List.prefix_append _ _), hfirst⟩
    obtain ⟨hcap, whole, hbegins, hfailures⟩ := hgrown
    rcases List.prefix_concat_iff.mp hbegins with rfl | hshorter
    · by_cases hrefused : happening = .refused
      · subst hrefused
        exact ⟨before, List.prefix_refl _, by simpa using hfailures, hearlier⟩
      by_cases hconnected : happening = .connected
      · subst hconnected
        simp at hfailures
      rw [failuresInRow_concat before happening hconnected hrefused] at hfailures
      exact absurd ⟨hcap, before, List.prefix_refl _, hfailures⟩ hearlier
    · exact absurd ⟨hcap, whole, hshorter, hfailures⟩ hearlier

end Leads

variable (listener) in
/-- What a listener does when something happens after so many failed attempts in a row. -/
def answer (failures : Nat) : Happening → List Deed
  | .connected | .received => [.wake]
  | .refused => [.pause (listener.nextPause failures)]
  | _ => []

/-- A listener that is in step goes by the number of failures in a row. -/
theorem InStep.reply_eq {after : Phase} {happening : Happening} (h : InStep listener before phase)
    (hensues : Ensues phase happening after) :
    listener.reply before happening = listener.answer (failuresInRow before) happening := by
  rw [reply, h.standing_eq]
  cases hensues with
  | cancelled hlive => cases phase <;> rfl
  | _ => rfl

theorem Leads.reply_eq {happening : Happening} (h : Leads happened phase)
    (hroom : ¬listener.OutgrowsPauses happened) (hbegins : before ++ [happening] <+: happened) :
    listener.reply before happening = listener.answer (failuresInRow before) happening := by
  obtain ⟨_, _, hbefore, hensues⟩ := h.ensues_within hbegins
  have hearlier : before <+: happened := (List.prefix_append _ _).trans hbegins
  exact (hbefore.inStep fun hgrown => hroom (hgrown.mono hearlier)).reply_eq hensues

/-- A worker is woken by each connection that the listener makes and by each notification. -/
theorem Leads.count_wake (h : Leads happened phase) (hroom : ¬listener.OutgrowsPauses happened) :
    (listener.deeds happened).count .wake =
      happened.count .connected + happened.count .received := by
  induction h with
  | start => rfl
  | @next before phase after happening hbefore h ih =>
    have hearlier : ¬listener.OutgrowsPauses before :=
      fun hgrown => hroom (hgrown.mono (List.prefix_append _ _))
    have hreply := (hbefore.next h).reply_eq hroom (List.prefix_refl _)
    rw [deeds_concat, List.count_append, ih hearlier, hreply, List.count_append, List.count_append]
    cases happening <;> simp [answer] <;> omega

/-- Whether something is a connection, whoever made it. -/
def Happening.connects : Happening → Bool
  | .connected | .renewed => true
  | _ => false

variable (listener) in
/-- The pause that is promised after so many failed attempts in a row: a second, doubled with every
further failure, and never more than the cap. -/
def promisedPause (failures : Nat) : Duration :=
  (Duration.ofSeconds (2 ^ (failures - 1))).min listener.maxPause

/-- What a listener promises: how long it waits, and that no wakeup is missed. -/
structure KeepsPromises (listener : Listener) (happened : List Happening) : Prop where
  pauses : ∀ before, before ++ [.refused] <+: happened → listener.reply before .refused =
    [.pause (listener.promisedPause (failuresInRow (before ++ [.refused])))]
  pauses_only : ∀ before happening, before ++ [happening] <+: happened → happening ≠ .refused →
    ∀ length, .pause length ∉ listener.reply before happening
  wakes : (listener.deeds happened).count .wake =
    happened.countP Happening.connects + happened.count .received
  wakes_connected : ∀ before happening, before ++ [happening] <+: happened →
    happening.connects = true → listener.reply before happening = [.wake]
  goes_on : ∀ before, before <+: happened → listener.standing before = .stopped →
    .cancelled ∈ before

/-- Once the first pause is within the cap, every later pause is what was promised. -/
theorem promisedPause_succ (hcap : firstPause.nanos ≤ listener.maxPause.nanos) (failures : Nat) :
    listener.promisedPause (failures + 1) = listener.nextPause failures := by
  cases failures with
  | zero => exact congrArg Duration.mk (Nat.min_eq_left hcap)
  | succ failures => rfl

namespace KeepsPromises

/-- A listener that stops for a pause breaks its promise. -/
theorem not_outgrows (h : listener.KeepsPromises happened) (hleads : Leads happened phase) :
    ¬listener.OutgrowsPauses happened := by
  intro hgrown
  obtain ⟨before, hbegins, hfailures, hearlier⟩ := hleads.first_outgrown hgrown
  obtain ⟨_, after, hbefore, hensues⟩ := hleads.ensues_within hbegins
  cases hensues
  have hendless : endlessPause.nanos ≤ (listener.nextPause 63).nanos :=
    Nat.le_min.mpr ⟨Nat.le_refl _, hgrown.1⟩
  have hstopped : listener.standing (before ++ [.refused]) = .stopped := by
    rw [standing_concat, (hbefore.inStep hearlier).standing_eq, hfailures]
    exact listener.afterPause_of_ge hendless
  have hcancelled := h.goes_on _ hbegins hstopped
  have hphase := (hbefore.next .refused).cancelled_mem_iff.mp hcancelled
  cases hphase

/-- A first pause beyond the cap breaks the promise at the first refusal. -/
theorem firstPause_le (h : listener.KeepsPromises happened) (hleads : Leads happened phase)
    (hrefused : .refused ∈ happened) : firstPause.nanos ≤ listener.maxPause.nanos := by
  obtain ⟨before, rest, rfl, hfirst⟩ := List.eq_append_cons_of_mem hrefused
  have hbegins : before ++ [.refused] <+: before ++ .refused :: rest := ⟨rest, by simp⟩
  have hpause := h.pauses before hbegins
  rw [hleads.reply_eq (h.not_outgrows hleads) hbegins, failuresInRow_refused,
    failuresInRow_of_not_mem before hfirst] at hpause
  have hlength : firstPause = listener.promisedPause 1 := by simpa [answer, nextPause] using hpause
  calc firstPause.nanos = (listener.promisedPause 1).nanos := congrArg Duration.nanos hlength
    _ ≤ listener.maxPause.nanos := Nat.min_le_right _ _

/-- A connection that is made again beneath the stream wakes nobody, which breaks the promise. -/
theorem not_renewed (h : listener.KeepsPromises happened) (hleads : Leads happened phase) :
    .renewed ∉ happened := by
  intro hrenewed
  obtain ⟨before, rest, rfl, -⟩ := List.eq_append_cons_of_mem hrenewed
  have hbegins : before ++ [.renewed] <+: before ++ .renewed :: rest := ⟨rest, by simp⟩
  have hwake := h.wakes_connected before _ hbegins rfl
  rw [hleads.reply_eq (h.not_outgrows hleads) hbegins] at hwake
  cases hwake

/-- Without these three the listener keeps its promises. -/
theorem of_calm (hleads : Leads happened phase) (hroom : ¬listener.OutgrowsPauses happened)
    (hcap : firstPause.nanos ≤ listener.maxPause.nanos ∨ .refused ∉ happened)
    (hrenewed : .renewed ∉ happened) : listener.KeepsPromises happened where
  pauses before hbegins := by
    have hrefused : .refused ∈ happened := hbegins.subset (by simp)
    have hcap := hcap.resolve_right fun hnone => hnone hrefused
    rw [hleads.reply_eq hroom hbegins, failuresInRow_refused, promisedPause_succ hcap]
    rfl
  pauses_only before happening hbegins hother length := by
    rw [hleads.reply_eq hroom hbegins]
    cases happening <;> simp_all [answer]
  wakes := by
    have hcount : happened.countP Happening.connects = happened.count .connected := by
      refine List.countP_congr fun happening hmem => ?_
      cases happening <;> simp_all [Happening.connects]
    rw [hleads.count_wake hroom, hcount]
  wakes_connected before happening hbegins hconnects := by
    have hmem : happening ∈ happened := hbegins.subset (by simp)
    rw [hleads.reply_eq hroom hbegins]
    cases happening <;> simp_all [answer, Happening.connects]
  goes_on before hbegins hstopped := by
    obtain ⟨earlier, hbefore⟩ := hleads.exists_earlier hbegins
    have hstanding := (hbefore.inStep fun hgrown => hroom (hgrown.mono hbegins)).standing_eq
    rw [hbefore.cancelled_mem_iff]
    cases earlier with
    | stopped => rfl
    | _ => simp [hstopped, Phase.state] at hstanding

end KeepsPromises

/-- What a listener does along everything that can happen to it, and when that is what it promises:
unless its first pause is longer than the cap, the connection is made again beneath the stream of
notifications, or its pauses outgrow what can be doubled. -/
theorem waits_and_wakes_as_promised_iff (listener : Listener) {happened : List Happening}
    {phase : Phase} (h : Leads happened phase) :
    (¬listener.OutgrowsPauses happened →
      (∀ before happening, before ++ [happening] <+: happened →
        listener.reply before happening = listener.answer (failuresInRow before) happening) ∧
      (listener.deeds happened).count .wake =
        happened.count .connected + happened.count .received) ∧
    (listener.KeepsPromises happened ↔
      (firstPause.nanos ≤ listener.maxPause.nanos ∨ .refused ∉ happened) ∧
      .renewed ∉ happened ∧ ¬listener.OutgrowsPauses happened) := by
  refine ⟨fun hroom => ⟨fun before happening hbegins => h.reply_eq hroom hbegins,
    h.count_wake hroom⟩, fun hkeeps => ⟨?_, hkeeps.not_renewed h, hkeeps.not_outgrows h⟩,
    fun ⟨hcap, hrenewed, hroom⟩ => .of_calm h hroom hcap hrenewed⟩
  by_cases hrefused : .refused ∈ happened
  · exact .inl (hkeeps.firstPause_le h hrefused)
  · exact .inr hrefused

/-- A connection that is made at the third attempt, is lost again and cannot be made at once. -/
def interruption : List Happening := [.refused, .refused, .connected, .received, .lost, .refused]

theorem leads_interruption : Leads interruption .apart :=
  (((((Leads.start.next .refused).next .refused).next .connected).next .received).next .lost).next
    .refused

theorem interruption_keepsPromises :
    Leads interruption .apart ∧ default.KeepsPromises interruption ∧
    default.deeds interruption =
      [.pause (.ofSeconds 1), .pause (.ofSeconds 2), .wake, .wake, .pause (.ofSeconds 1)] := by
  have hroom : ¬default.OutgrowsPauses interruption := fun hgrown => absurd hgrown.1 (by decide)
  exact ⟨leads_interruption, (default.waits_and_wakes_as_promised_iff leads_interruption).2.mpr
    ⟨.inl (by decide), by decide, hroom⟩, by decide⟩

/-- A listener that is to wait half a second at the most. -/
def hasty : Listener := ⟨Defaults.eventNotifyChannel, .ofMillis 500⟩

/-- After the first attempt that fails it waits a second. -/
theorem hasty_waits_too_long : Leads [.refused] .apart ∧ ¬hasty.KeepsPromises [.refused] :=
  ⟨Leads.start.next .refused, fun h => absurd (h.pauses [] (List.prefix_refl _)) (by decide)⟩

end Listener

end AgentSync
