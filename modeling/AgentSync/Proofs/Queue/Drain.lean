import AgentSync.Memory.Calls
import AgentSync.Proofs.Action
import Mathlib.Algebra.GroupWithZero.Nat

namespace AgentSync

open AgentSync.Action

/-- A turn of a drain: what the consumer reported or, if it failed, what the error handler answered,
and whether the work is cancelled then. -/
inductive Turn where
  | consumed (n : Nat) (cancelled : Bool)
  /-- The consumer was cancelled. -/
  | cut
  | failed (error : Error) (hother : error ≠ .cancelled) (goesOn cancelled : Bool)

namespace Turn

/-- Whether no other turn is to follow. -/
def stops : Turn → Bool
  | consumed n cancelled => n == 0 || cancelled
  | cut => true
  | failed _ _ goesOn cancelled => !goesOn || cancelled

/-- Whether no other turn is to follow even if the work is not cancelled. -/
def ends : Turn → Bool
  | consumed n _ => n == 0
  | cut => true
  | failed _ _ goesOn _ => !goesOn

def cancelled : Turn → Bool
  | consumed _ cancelled => cancelled
  | cut => true
  | failed _ _ _ cancelled => cancelled

/-- No other turn follows one that ends the drain or finds it cancelled. -/
theorem stops_eq (turn : Turn) : turn.stops = (turn.ends || turn.cancelled) := by
  cases turn <;> rfl

/-- The calls of a turn, in their order. -/
def calls : Turn → List DrainCall
  | consumed n _ => [.consumed (.ok n)]
  | cut => [.consumed (.error .cancelled)]
  | failed error _ goesOn _ => [.consumed (.error error), .asked error goesOn]

/-- The number of events that a turn reported. -/
def reported : Turn → Nat
  | consumed n _ => n
  | _ => 0

/-- The total after a turn. -/
def addTo (total : Nat) : Turn → Nat
  | consumed (n + 1) _ => Word.low64 (total + (n + 1))
  | _ => total

theorem addTo_of_ends {turn : Turn} (h : turn.ends = true) (total : Nat) :
    addTo total turn = total := by
  cases turn with
  | consumed n cancelled =>
    obtain rfl : n = 0 := by simpa [ends] using h
    rfl
  | _ => rfl

end Turn

/-- Turns up to the first that is to be the last; there is none if the work is cancelled already. -/
def EndsAtFirstStop (cancelled : Bool) (turns : List Turn) : Prop :=
  turns.isEmpty = cancelled ∧
    ∀ before turn after, turns = before ++ turn :: after → turn.stops = after.isEmpty

theorem endsAtFirstStop_nil_iff {cancelled : Bool} :
    EndsAtFirstStop cancelled [] ↔ cancelled = true := by
  simp [EndsAtFirstStop, eq_comm]

/-- A turn is followed by others exactly if it does not stop the drain. -/
theorem endsAtFirstStop_cons_iff {cancelled : Bool} {turn : Turn} {rest : List Turn} :
    EndsAtFirstStop cancelled (turn :: rest) ↔
      cancelled = false ∧ turn.stops = rest.isEmpty ∧ (rest ≠ [] → EndsAtFirstStop false rest) := by
  constructor
  · rintro ⟨hfirst, hsplit⟩
    refine ⟨hfirst.symm, hsplit [] turn rest rfl, fun hrest => ⟨by simpa using hrest, ?_⟩⟩
    exact fun before other after heq => hsplit (turn :: before) other after
      (congrArg (turn :: ·) heq)
  · rintro ⟨rfl, hturn, hrest⟩
    refine ⟨rfl, fun before other after heq => ?_⟩
    cases before with
    | nil =>
      cases heq
      exact hturn
    | cons first before =>
      cases heq
      exact (hrest (by simp)).2 before other after rfl

/-- A turn is the last one if it ends the drain or the work is cancelled then. -/
theorem endsAtFirstStop_cons {cancelled : Bool} {turn : Turn} {rest : List Turn} :
    EndsAtFirstStop cancelled (turn :: rest) ↔ cancelled = false ∧
      if turn.ends then rest = [] else EndsAtFirstStop turn.cancelled rest := by
  rw [endsAtFirstStop_cons_iff, turn.stops_eq]
  cases rest with
  | nil => cases turn.ends <;> simp [endsAtFirstStop_nil_iff]
  | cons next others =>
    cases turn.ends <;> cases turn.cancelled <;> simp [endsAtFirstStop_cons_iff]

variable {σ : Type} (consumer : Consumer σ) (onError : Error → StateM σ Bool)

namespace Consumer

/-- Calls the consumer once, whatever there was before, and the error handler if that fails. -/
def turn : StateM σ Turn := do
  match ← consumer.consume.run with
  | .ok n => return .consumed n (consumer.isCancelled (← get))
  | .error error =>
    if hother : error ≠ .cancelled then
      let goesOn ← onError error
      return .failed error hother goesOn (consumer.isCancelled (← get))
    else return .cut

/-- So many turns, whatever they come to. -/
def turns : Nat → StateM σ (List Turn)
  | 0 => return []
  | n + 1 => do
    let first ← consumer.turn onError
    let others ← turns n
    return first :: others

theorem run_turn (state : σ) :
    (consumer.turn onError).run state =
      match runFrom consumer.consume state with
      | (.ok n, after) => (.consumed n (consumer.isCancelled after), after)
      | (.error error, after) =>
        if hother : error ≠ .cancelled then
          let (goesOn, after) := (onError error).run after
          (.failed error hother goesOn (consumer.isCancelled after), after)
        else (.cut, after) := by
  unfold turn
  rw [run_run_bind]
  rcases runFrom consumer.consume state with ⟨error | n, after⟩
  · dsimp only
    split <;> rfl
  · rfl

theorem run_turns_succ (n : Nat) (state : σ) :
    (consumer.turns onError (n + 1)).run state =
      let (turn, after) := (consumer.turn onError).run state
      let (others, last) := (consumer.turns onError n).run after
      (turn :: others, last) := rfl

theorem run_step (state : σ) :
    consumer.step.run state =
      if consumer.isCancelled state then (.finished, state)
      else (.ofResult (runFrom consumer.consume state).1, (runFrom consumer.consume state).2) := by
  unfold step
  cases hcancelled : consumer.isCancelled state <;> simp [hcancelled] <;> rfl

/-- A drain makes a turn and goes on from there, unless that ends it. -/
theorem drain_succ (rounds total : Nat) (state : σ) :
    consumer.drain onError (rounds + 1) total state =
      if consumer.isCancelled state then some (total, state)
      else
        let (turn, after) := (consumer.turn onError).run state
        if turn.ends then some (total, after)
        else consumer.drain onError rounds (Turn.addTo total turn) after := by
  conv => lhs; unfold drain
  rw [run_step, run_turn]
  cases consumer.isCancelled state with
  | true => rfl
  | false =>
    rcases runFrom consumer.consume state with ⟨error | n, after⟩
    · by_cases hcut : error = .cancelled
      · subst hcut
        rfl
      · have hresult : DrainStep.ofResult (.error error) = .failed error := by
          cases error with
          | cancelled => exact absurd rfl hcut
          | _ => rfl
        simp only [Bool.false_eq_true, if_false, hresult, dif_pos hcut]
        rcases (onError error).run after with ⟨_ | _, last⟩ <;> rfl
    · cases n with
      | zero => rfl
      | succ n => rfl

variable {consumer onError}

/-- Unless a turn ends the drain, it says truly whether the work is cancelled. -/
theorem cancelled_of_run_turn {state after : σ} {turn : Turn}
    (hturn : (consumer.turn onError).run state = (turn, after)) (hgoes : turn.ends = false) :
    turn.cancelled = consumer.isCancelled after := by
  rw [run_turn] at hturn
  rcases hrun : runFrom consumer.consume state with ⟨error | n, middle⟩
  · rw [hrun] at hturn
    dsimp only at hturn
    split at hturn
    · cases hturn
      rfl
    · cases hturn
      cases hgoes
  · rw [hrun] at hturn
    cases hturn
    rfl

/-- A drain that comes to an end has made turns up to the first that stops. By induction on the
rounds. -/
theorem exists_turns_of_drain {rounds total sum : Nat} {state last : σ}
    (h : consumer.drain onError rounds total state = some (sum, last)) :
    ∃ turns, (consumer.turns onError turns.length).run state = (turns, last) ∧
      EndsAtFirstStop (consumer.isCancelled state) turns ∧ sum = turns.foldl Turn.addTo total := by
  induction rounds generalizing total state with
  | zero => cases h
  | succ rounds ih =>
    rw [drain_succ] at h
    cases hcancelled : consumer.isCancelled state with
    | true =>
      rw [hcancelled] at h
      cases h
      exact ⟨[], rfl, endsAtFirstStop_nil_iff.mpr rfl, rfl⟩
    | false =>
      rcases hturn : (consumer.turn onError).run state with ⟨turn, after⟩
      rw [hcancelled, hturn] at h
      dsimp only at h
      cases hends : turn.ends with
      | true =>
        rw [hends] at h
        cases h
        refine ⟨[turn], ?_, endsAtFirstStop_cons.mpr ⟨rfl, by simp [hends]⟩,
          (Turn.addTo_of_ends hends _).symm⟩
        rw [List.length_singleton, run_turns_succ, hturn]
        rfl
      | false =>
        rw [hends] at h
        obtain ⟨turns, hrun, hfirst, rfl⟩ := ih h
        rw [← cancelled_of_run_turn hturn hends] at hfirst
        refine ⟨turn :: turns, ?_, endsAtFirstStop_cons.mpr ⟨rfl, by simpa [hends] using hfirst⟩,
          rfl⟩
        rw [List.length_cons, run_turns_succ, hturn]
        dsimp only
        rw [hrun]

/-- As many rounds as there are turns are enough. By induction on the turns. -/
theorem drain_of_turns {turns : List Turn} {state last : σ}
    (hrun : (consumer.turns onError turns.length).run state = (turns, last))
    (hfirst : EndsAtFirstStop (consumer.isCancelled state) turns) (total : Nat) :
    ∃ rounds, consumer.drain onError rounds total state =
      some (turns.foldl Turn.addTo total, last) := by
  induction turns generalizing total state with
  | nil =>
    cases hrun
    exact ⟨1, by rw [drain_succ, if_pos (endsAtFirstStop_nil_iff.mp hfirst)]; rfl⟩
  | cons turn others ih =>
    obtain ⟨hlive, hrest⟩ := endsAtFirstStop_cons.mp hfirst
    rcases hturn : (consumer.turn onError).run state with ⟨first, after⟩
    rw [List.length_cons, run_turns_succ, hturn] at hrun
    dsimp only at hrun
    rcases hothers : (consumer.turns onError others.length).run after with ⟨rest, final⟩
    rw [hothers] at hrun
    cases hrun
    cases hends : turn.ends with
    | true =>
      obtain rfl : others = [] := by simpa [hends] using hrest
      cases hothers
      refine ⟨1, ?_⟩
      rw [drain_succ, hlive, hturn]
      simp [hends, Turn.addTo_of_ends hends]
    | false =>
      rw [hends, cancelled_of_run_turn hturn hends] at hrest
      obtain ⟨rounds, hdrain⟩ := ih hothers hrest (Turn.addTo total turn)
      refine ⟨rounds + 1, ?_⟩
      rw [drain_succ, hlive, hturn]
      simpa [hends] using hdrain

end Consumer

/-- The sum is the one of all reports, cut to a word once at the end. -/
theorem foldl_addTo (turns : List Turn) {total : Nat} (hword : total ≤ Word.max64) :
    turns.foldl Turn.addTo total = Word.low64 (total + (turns.map Turn.reported).sum) := by
  induction turns generalizing total with
  | nil => exact (Word.low64_of_le hword).symm
  | cons turn others ih =>
    have hadd : Turn.addTo total turn = Word.low64 (total + turn.reported) := by
      rcases turn with ⟨_ | n, _⟩ | _ | _
      · exact (Word.low64_of_le hword).symm
      · rfl
      · exact (Word.low64_of_le hword).symm
      · exact (Word.low64_of_le hword).symm
    rw [List.foldl_cons, hadd, ih (Word.low64_le_max64 _), List.map_cons, List.sum_cons]
    simp only [Word.low64]
    omega

/-- Writing the calls down changes nothing else in a turn. -/
theorem run_turn_noting (calls : List DrainCall) (state : σ) :
    (consumer.noting.turn (notingErrors onError)).run ⟨calls, state⟩ =
      let (turn, after) := (consumer.turn onError).run state
      (turn, ⟨calls ++ turn.calls, after⟩) := by
  have hconsume : runFrom consumer.noting.consume ⟨calls, state⟩ =
      ((runFrom consumer.consume state).1,
        ⟨calls ++ [.consumed (runFrom consumer.consume state).1],
          (runFrom consumer.consume state).2⟩) := rfl
  rw [Consumer.run_turn, Consumer.run_turn, hconsume]
  rcases runFrom consumer.consume state with ⟨error | n, after⟩
  · by_cases hcut : error = .cancelled
    · subst hcut
      rfl
    · simp only [dif_pos hcut]
      exact congrArg (fun written => (_, (⟨written, _⟩ : Called σ))) (List.append_assoc ..)
  · rfl

theorem run_turns_noting (n : Nat) (calls : List DrainCall) (state : σ) :
    (consumer.noting.turns (notingErrors onError) n).run ⟨calls, state⟩ =
      let (turns, after) := (consumer.turns onError n).run state
      (turns, ⟨calls ++ turns.flatMap Turn.calls, after⟩) := by
  induction n generalizing calls state with
  | zero => exact congrArg (fun written => (_, (⟨written, _⟩ : Called σ))) (List.append_nil _).symm
  | succ n ih =>
    rw [Consumer.run_turns_succ, Consumer.run_turns_succ, run_turn_noting]
    rcases (consumer.turn onError).run state with ⟨turn, after⟩
    dsimp only
    rw [ih]
    rcases (consumer.turns onError n).run after with ⟨others, last⟩
    simp

/-- Writing the calls down changes nothing else in a drain. -/
theorem drain_noting (rounds total : Nat) (calls : List DrainCall) (state : σ) :
    (consumer.noting.drain (notingErrors onError) rounds total ⟨calls, state⟩).map
        (fun (sum, after) => (sum, after.rest)) = consumer.drain onError rounds total state := by
  induction rounds generalizing total calls state with
  | zero => rfl
  | succ rounds ih =>
    rw [Consumer.drain_succ, Consumer.drain_succ, run_turn_noting]
    rcases (consumer.turn onError).run state with ⟨turn, after⟩
    cases hcancelled : consumer.isCancelled state <;> cases hends : turn.ends <;>
      simp [Consumer.noting, hcancelled, hends]
    exact ih ..

/-- A drain comes to an end exactly when a turn is reached after which no other is to follow:
nothing was left, the consumer was cancelled, the error handler gave up or the work is cancelled. It
makes the calls up to there and no others, the error handler being asked about each failure before
the next turn, and answers the sum of what was reported, as a word. -/
theorem Consumer.drain_stops_first (consumer : Consumer σ) (onError : Error → StateM σ Bool)
    (state : σ) :
    (∀ rounds, (consumer.noting.drain (notingErrors onError) rounds 0 ⟨[], state⟩).map
      (fun (total, after) => (total, after.rest)) = consumer.drain onError rounds 0 state) ∧
    ∀ total calls after,
      (∃ rounds, consumer.noting.drain (notingErrors onError) rounds 0 ⟨[], state⟩ =
        some (total, ⟨calls, after⟩)) ↔
      ∃ turns, (consumer.turns onError turns.length).run state = (turns, after) ∧
        EndsAtFirstStop (consumer.isCancelled state) turns ∧
        calls = turns.flatMap Turn.calls ∧
        total = Word.low64 (turns.map Turn.reported).sum := by
  refine ⟨fun rounds => drain_noting consumer onError rounds 0 [] state,
    fun total calls after => ?_⟩
  have hsum (turns : List Turn) :
      turns.foldl Turn.addTo 0 = Word.low64 (turns.map Turn.reported).sum := by
    rw [foldl_addTo turns (Nat.zero_le _), Nat.zero_add]
  constructor
  · rintro ⟨rounds, hdrain⟩
    obtain ⟨turns, hrun, hfirst, rfl⟩ := exists_turns_of_drain hdrain
    rw [run_turns_noting] at hrun
    rcases hbare : (consumer.turns onError turns.length).run state with ⟨made, last⟩
    rw [hbare] at hrun
    cases hrun
    exact ⟨turns, hbare, hfirst, rfl, hsum turns⟩
  · rintro ⟨turns, hrun, hfirst, rfl, rfl⟩
    have hnoted : (consumer.noting.turns (notingErrors onError) turns.length).run ⟨[], state⟩ =
        (turns, ⟨turns.flatMap Turn.calls, after⟩) := by
      rw [run_turns_noting, hrun]
      rfl
    rw [← hsum]
    exact drain_of_turns hnoted hfirst 0

end AgentSync
