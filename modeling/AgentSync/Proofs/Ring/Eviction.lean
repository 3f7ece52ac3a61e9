import AgentSync.Proofs.Ring.History
import Mathlib.Data.List.Induction

namespace AgentSync

namespace Ring

variable {α : Type} {capacity : Nat} {values : List α} {ring : Ring α}

theorem add_of_nil (hslots : ring.slots = []) (value : α) : ring.add value = (none, ring) :=
  dif_pos hslots

/-- What is overwritten is what the cursor stands at. -/
theorem fst_add (hslots : ring.slots ≠ []) (value : α) :
    (ring.add value).1 = (ring.slots[ring.cursor]?).join := by
  rw [add, dif_neg hslots]

theorem slots_add (hslots : ring.slots ≠ []) (value : α) :
    (ring.add value).2.slots = ring.slots.set ring.cursor (some value) := by
  rw [add, dif_neg hslots]

/-- The cursor goes round the slots. -/
theorem cursor_add (hslots : ring.slots ≠ []) (value : α) :
    (ring.add value).2.cursor = (ring.cursor + 1) % ring.slots.length := by
  rw [add, dif_neg hslots]

/-- The slots of a ring to which values were added in turn. The value at a place is in the slot with
this number, counted round the ring, until as many values as there are slots have followed it. The
slots of places that no value has yet are empty. -/
structure Turns (capacity : Nat) (values : List α) (ring : Ring α) : Prop where
  length_eq : ring.slots.length = capacity
  cursor_eq : 0 < capacity → ring.cursor = values.length % capacity
  slot_eq : ∀ place < max values.length capacity, values.length ≤ place + capacity →
    ring.slots[place % capacity]? = some values[place]?

theorem turns_new (capacity : Nat) : Turns capacity [] (new capacity : Ring α) where
  length_eq := List.length_replicate
  cursor_eq _ := (Nat.zero_mod capacity).symm
  slot_eq place hplace _ := by
    have hlt : place < capacity := by simpa using hplace
    rw [Nat.mod_eq_of_lt hlt, List.getElem?_nil]
    exact List.getElem?_replicate_of_lt hlt

/-- Another place has another slot than the last one, as long as its slot was not filled again. -/
theorem mod_ne_of_near {place last : Nat} (hne : place ≠ last)
    (hbefore : last + 1 ≤ place + capacity) (hafter : place < max (last + 1) capacity) :
    place % capacity ≠ last % capacity := by
  intro hmod
  have habove : (place - last) % capacity = 0 := Nat.sub_mod_eq_zero_of_mod_eq hmod
  have hbelow : (last - place) % capacity = 0 := Nat.sub_mod_eq_zero_of_mod_eq hmod.symm
  rw [Nat.mod_eq_of_lt (by omega)] at habove hbelow
  omega

namespace Turns

theorem ne_nil (h : Turns capacity values ring) (hpos : 0 < capacity) : ring.slots ≠ [] :=
  List.length_pos_iff.mp (h.length_eq.symm ▸ hpos)

theorem eq_nil (h : Turns 0 values ring) : ring.slots = [] :=
  List.length_eq_zero_iff.mp h.length_eq

/-- What a value overwrites: nothing until the ring is full, then the oldest value that it holds. -/
theorem overwrites (h : Turns capacity values ring) (hpos : 0 < capacity) (value : α) :
    (ring.add value).1 =
      if capacity ≤ values.length then values[values.length - capacity]? else none := by
  rw [fst_add (h.ne_nil hpos), h.cursor_eq hpos]
  split
  · next hfull =>
    -- The slot that is filled next is that of the value as many places earlier.
    rw [Nat.mod_eq_sub_mod hfull, h.slot_eq _ (by omega) (by omega), Option.join_some]
  · rw [h.slot_eq _ (by omega) (by omega), List.getElem?_eq_none (Nat.le_refl _), Option.join_some]

/-- One more value goes into its own slot: the step of the induction over the values. -/
theorem add (h : Turns capacity values ring) (value : α) :
    Turns capacity (values ++ [value]) (ring.add value).2 := by
  rcases Nat.eq_zero_or_pos capacity with rfl | hpos
  · rw [add_of_nil h.eq_nil]
    exact ⟨h.length_eq, by simp, by intro place hplace hlast; omega⟩
  · refine ⟨?_, fun _ => ?_, fun place hplace hlast => ?_⟩
    · rw [slots_add (h.ne_nil hpos), List.length_set, h.length_eq]
    · rw [cursor_add (h.ne_nil hpos), h.length_eq, h.cursor_eq hpos, List.length_append,
        List.length_singleton, Nat.mod_add_mod]
    · rw [List.length_append, List.length_singleton] at hplace hlast
      rw [slots_add (h.ne_nil hpos), h.cursor_eq hpos]
      by_cases hhere : place = values.length
      · have hslot : values.length % capacity < ring.slots.length := by
          rw [h.length_eq]
          exact Nat.mod_lt _ hpos
        rw [hhere, List.getElem?_set_self hslot, List.getElem?_concat_length]
      · have hother := mod_ne_of_near hhere hlast hplace
        rw [List.getElem?_set_ne hother.symm, h.slot_eq place (by omega) (by omega)]
        by_cases hlt : place < values.length
        · rw [List.getElem?_append_left hlt]
        · rw [List.getElem?_eq_none (by omega), List.getElem?_eq_none (by simp; omega)]

end Turns

/-- A ring that holds the last of some values: its first slots are in use, and a value that is still
held is in the slot of its place. -/
structure HoldsLast (capacity : Nat) (values : List α) (ring : Ring α) : Prop where
  size_eq : ring.size = min values.length capacity
  length_eq : ring.toList.length = min values.length capacity
  slots_eq : ring.slots =
    ring.toList.map some ++ List.replicate (capacity - min values.length capacity) none
  value_eq : ∀ place < values.length, values.length ≤ place + capacity →
    ring.toList[place % capacity]? = values[place]?

/-- Every slot in use is that of one of the last places. -/
theorem exists_place {slot count : Nat} (hslot : slot < min count capacity) :
    ∃ place < count, count ≤ place + capacity ∧ place % capacity = slot := by
  obtain ⟨hcount, hcapacity⟩ := Nat.lt_min.mp hslot
  have hround := Nat.div_add_mod (count - 1 - slot) capacity
  have hnear := Nat.mod_lt (count - 1 - slot) (Nat.zero_lt_of_lt hcapacity)
  refine ⟨slot + capacity * ((count - 1 - slot) / capacity), by omega, by omega, ?_⟩
  rw [Nat.add_mul_mod_self_left, Nat.mod_eq_of_lt hcapacity]

namespace Turns

/-- The slots that values have reached are filled. -/
theorem isSome_of_mem_take (h : Turns capacity values ring) :
    ∀ held ∈ ring.slots.take (min values.length capacity), held.isSome := by
  intro held hheld
  obtain ⟨slot, hlt, rfl⟩ := List.mem_take_iff_getElem.mp hheld
  obtain ⟨place, hplace, hlast, rfl⟩ := exists_place (Nat.lt_of_lt_of_le hlt (Nat.min_le_left _ _))
  have hslot := h.slot_eq place (by omega) hlast
  rw [List.getElem?_eq_getElem hplace] at hslot
  rw [(List.getElem?_eq_some_iff.mp hslot).2]
  rfl

/-- The slots behind those are empty. -/
theorem drop_eq (h : Turns capacity values ring) :
    ring.slots.drop (min values.length capacity) =
      List.replicate (capacity - min values.length capacity) none := by
  refine List.eq_replicate_iff.mpr ⟨by rw [List.length_drop, h.length_eq], fun held hheld => ?_⟩
  obtain ⟨later, hlt, rfl⟩ := List.mem_drop_iff_getElem.mp hheld
  rw [h.length_eq] at hlt
  have hplace : capacity ≤ min values.length capacity + later ∨
      values.length ≤ min values.length capacity + later := by omega
  have hslot := h.slot_eq (min values.length capacity + later) (by omega) (by omega)
  have hnone : values[min values.length capacity + later]? = none :=
    List.getElem?_eq_none (by omega)
  rw [Nat.mod_eq_of_lt (by omega), hnone] at hslot
  exact (List.getElem?_eq_some_iff.mp hslot).2

theorem slots_eq (h : Turns capacity values ring) :
    ring.slots = ring.toList.map some ++
      List.replicate (capacity - min values.length capacity) none := by
  have hslots := List.take_append_drop (min values.length capacity) ring.slots
  rw [h.drop_eq] at hslots
  have hlist : ring.toList = (ring.slots.take (min values.length capacity)).filterMap id := by
    nth_rewrite 1 [toList, ← hslots]
    rw [List.filterMap_append, List.filterMap_replicate_of_none rfl, List.append_nil]
  rw [hlist, List.map_filterMap_some_eq_filter_map_isSome, List.map_id,
    List.filter_eq_self.mpr h.isSome_of_mem_take, hslots]

/-- The ring holds the last values, each in its slot. -/
theorem holdsLast (h : Turns capacity values ring) : HoldsLast capacity values ring := by
  have hslots := h.slots_eq
  have hlength : ring.toList.length = min values.length capacity := by
    have hall := congrArg List.length hslots
    rw [h.length_eq, List.length_append, List.length_map, List.length_replicate] at hall
    omega
  refine ⟨?_, hlength, hslots, fun place hplace hlast => ?_⟩
  · rw [size, hslots, List.countP_append, List.countP_map]
    simp [Function.comp_def, List.countP_replicate, hlength]
  · have hslot := h.slot_eq place (by omega) hlast
    have hlt : place % capacity < (ring.toList.map some).length := by
      rw [List.length_map, hlength, Nat.lt_min]
      exact ⟨Nat.lt_of_le_of_lt (Nat.mod_le _ _) hplace, Nat.mod_lt _ (by omega)⟩
    rw [hslots, List.getElem?_append_left hlt, List.getElem?_map] at hslot
    rw [List.getElem?_eq_getElem hplace] at hslot ⊢
    obtain ⟨value, hvalue, heq⟩ := Option.map_eq_some_iff.mp hslot
    rw [hvalue, heq]

end Turns

/-- The values that a ring no longer holds after some were added to it. -/
def spilled (capacity : Nat) (values : List α) : List α :=
  if capacity = 0 then [] else values.take (values.length - capacity)

/-- What a value overwrites is the next of the earlier ones. -/
theorem Turns.spilled_append (h : Turns capacity values ring) (value : α) :
    spilled capacity (values ++ [value]) =
      spilled capacity values ++ (ring.add value).1.toList := by
  unfold spilled
  rcases Nat.eq_zero_or_pos capacity with rfl | hpos
  · rw [add_of_nil h.eq_nil, if_pos rfl, if_pos rfl]
    rfl
  · rw [if_neg (by omega), if_neg (by omega), h.overwrites hpos, List.length_append,
      List.length_singleton]
    split
    · next hfull =>
      have hone : values.length + 1 - capacity = values.length - capacity + 1 := by omega
      rw [hone, List.take_append_of_le_length (by omega), List.take_add_one]
    · next hroom =>
      have hnone : values.length + 1 - capacity = 0 := by omega
      rw [hnone, Nat.sub_eq_zero_of_le (by omega)]
      rfl

end Ring

namespace Channel

variable {α : Type} (channel : Channel α) (previous : Option α)

/-- Offers what a ring overwrote, if it overwrote a value. -/
def offer? : Channel α := previous.elim channel channel.offer

/-- An offered value is delivered exactly if the receiver is there and the queue has room. -/
theorem waiting_offer? :
    (channel.offer? previous).waiting = channel.waiting ++
      if channel.isOpen ∧ channel.waiting.length < channel.room then previous.toList else [] := by
  cases previous with
  | none => simp [offer?]
  | some value =>
    rw [offer?, Option.elim_some, offer]
    split
    · rfl
    · exact (List.append_nil _).symm

@[simp] theorem room_offer? : (channel.offer? previous).room = channel.room := by
  cases previous with
  | none => rfl
  | some value =>
    rw [offer?, Option.elim_some, offer]
    split <;> rfl

@[simp] theorem isOpen_offer? : (channel.offer? previous).isOpen = channel.isOpen := by
  cases previous with
  | none => rfl
  | some value =>
    rw [offer?, Option.elim_some, offer]
    split <;> rfl

end Channel

/-- Something done to a ring and its channel. -/
inductive RingStep (α : Type) where
  | add (value : α)
  | drain
  | close

/-- The values that steps add. -/
def RingStep.values {α : Type} (steps : List (RingStep α)) : List α :=
  steps.filterMap fun
    | add value => some value
    | _ => none

/-- A ring with a channel, with what the channel was offered and what was drained from it. -/
structure RingRun (α : Type) where
  ring : ForwardingRing α
  offered : List α
  drained : List α

namespace RingRun

variable {α : Type}

/-- An empty ring with an empty channel. -/
def start (capacity room : Nat) : RingRun α := ⟨⟨.new capacity, some (.new room)⟩, [], []⟩

/-- Takes a step. A value that is added has the one that it overwrites offered. -/
def step (run : RingRun α) : RingStep α → RingRun α
  | .add value =>
    ⟨run.ring.add value, run.offered ++ (run.ring.ring.add value).1.toList, run.drained⟩
  | .drain => ⟨run.ring.drain.2, run.offered, run.drained ++ run.ring.drain.1⟩
  | .close => { run with ring := run.ring.close }

/-- A run of steps from an empty ring. -/
def after (capacity room : Nat) (steps : List (RingStep α)) : RingRun α :=
  steps.foldl step (start capacity room)

theorem after_append (capacity room : Nat) (steps : List (RingStep α)) (last : RingStep α) :
    after capacity room (steps ++ [last]) = (after capacity room steps).step last := by
  rw [after, List.foldl_append]
  rfl

/-- A run after some steps, with the channel as they leave it. -/
structure Follows (capacity room : Nat) (steps : List (RingStep α)) (channel : Channel α)
    (run : RingRun α) : Prop where
  turns : Ring.Turns capacity (RingStep.values steps) run.ring.ring
  evicted_eq : run.ring.evicted = some channel
  room_eq : channel.room = room
  isOpen_iff : channel.isOpen = true ↔ .close ∉ steps
  offered_eq : run.offered = Ring.spilled capacity (RingStep.values steps)
  kept : (run.drained ++ channel.waiting).Sublist run.offered

theorem follows_start (capacity room : Nat) :
    Follows capacity room [] (Channel.new room) (start capacity room : RingRun α) where
  turns := Ring.turns_new capacity
  evicted_eq := rfl
  room_eq := rfl
  isOpen_iff := by simp [Channel.new]
  offered_eq := by simp [start, Ring.spilled, RingStep.values]
  kept := .refl _

namespace Follows

variable {capacity room : Nat} {steps : List (RingStep α)} {channel : Channel α} {run : RingRun α}

theorem evicted_add (h : Follows capacity room steps channel run) (value : α) :
    (run.ring.add value).evicted = some (channel.offer? (run.ring.ring.add value).1) := by
  rw [ForwardingRing.add, h.evicted_eq]
  rfl

/-- A drain takes all that waits and leaves the ring as it is. -/
theorem drain_eq (h : Follows capacity room steps channel run) :
    run.ring.drain = (channel.waiting, ⟨run.ring.ring, some { channel with waiting := [] }⟩) := by
  rw [ForwardingRing.drain, h.evicted_eq]
  rfl

theorem add (h : Follows capacity room steps channel run) (value : α) :
    Follows capacity room (steps ++ [.add value])
      (channel.offer? (run.ring.ring.add value).1) (run.step (.add value)) := by
  have hvalues : RingStep.values (steps ++ [.add value]) = RingStep.values steps ++ [value] := by
    simp [RingStep.values]
  refine ⟨?_, h.evicted_add value, ?_, ?_, ?_, ?_⟩
  · rw [hvalues]
    exact h.turns.add value
  · rw [Channel.room_offer?, h.room_eq]
  · rw [Channel.isOpen_offer?, h.isOpen_iff]
    simp
  · rw [hvalues, h.turns.spilled_append, ← h.offered_eq]
    rfl
  · rw [Channel.waiting_offer?, ← List.append_assoc]
    refine h.kept.append ?_
    split
    · exact .refl _
    · exact List.nil_sublist _

theorem drain (h : Follows capacity room steps channel run) :
    Follows capacity room (steps ++ [.drain]) { channel with waiting := [] } (run.step .drain) := by
  have hvalues : RingStep.values (steps ++ [.drain]) = RingStep.values steps := by
    simp [RingStep.values]
  rw [step, h.drain_eq]
  refine ⟨hvalues ▸ h.turns, rfl, h.room_eq, ?_, hvalues ▸ h.offered_eq, ?_⟩
  · rw [h.isOpen_iff]
    simp
  · rw [List.append_nil]
    exact h.kept

theorem close (h : Follows capacity room steps channel run) :
    Follows capacity room (steps ++ [.close]) channel.close (run.step .close) := by
  have hvalues : RingStep.values (steps ++ [.close]) = RingStep.values steps := by
    simp [RingStep.values]
  refine ⟨hvalues ▸ h.turns, ?_, h.room_eq, ?_, hvalues ▸ h.offered_eq, ?_⟩
  · rw [step, ForwardingRing.close, h.evicted_eq]
    rfl
  · simp [Channel.close]
  · rw [Channel.close, List.append_nil]
    exact (List.sublist_append_left _ _).trans h.kept

end Follows

/-- Every run has a channel that it follows. By induction on the steps, from the last. -/
theorem after_follows (capacity room : Nat) (steps : List (RingStep α)) :
    ∃ channel, Follows capacity room steps channel (after capacity room steps) := by
  induction steps using List.reverseRecOn with
  | nil => exact ⟨_, follows_start capacity room⟩
  | append_singleton steps last ih =>
    obtain ⟨channel, hfollows⟩ := ih
    rw [after_append]
    cases last with
    | add value => exact ⟨_, hfollows.add value⟩
    | drain => exact ⟨_, hfollows.drain⟩
    | close => exact ⟨_, hfollows.close⟩

/-- The channel was never full when it was offered a value. -/
def FindsRoom (capacity room : Nat) (steps : List (RingStep α)) : Prop :=
  ∀ earlier value, earlier ++ [.add value] <+: steps →
    ((after capacity room earlier).ring.ring.add value).1 ≠ none →
    ∀ channel, (after capacity room earlier).ring.evicted = some channel →
      channel.waiting.length < room

/-- Nothing is lost at a channel that always has room and is never closed. -/
theorem delivers_all (capacity room : Nat) (steps : List (RingStep α))
    (hopen : .close ∉ steps) (hroom : FindsRoom capacity room steps) :
    ∀ channel, (after capacity room steps).ring.evicted = some channel →
      (after capacity room steps).drained ++ channel.waiting =
        (after capacity room steps).offered := by
  induction steps using List.reverseRecOn with
  | nil =>
    intro channel hchannel
    cases hchannel
    rfl
  | append_singleton steps last ih =>
    intro channel hchannel
    obtain ⟨before, hfollows⟩ := after_follows capacity room steps
    rw [List.mem_append, not_or] at hopen
    have hearlier := ih hopen.1 (fun earlier value hstart =>
      hroom earlier value (hstart.trans (List.prefix_append _ _))) before hfollows.evicted_eq
    rw [after_append] at hchannel ⊢
    cases last with
    | add value =>
      cases (hfollows.evicted_add value).symm.trans hchannel
      have hdelivered :
          (before.offer? ((after capacity room steps).ring.ring.add value).1).waiting =
            before.waiting ++ ((after capacity room steps).ring.ring.add value).1.toList := by
        rw [Channel.waiting_offer?]
        by_cases hnone : ((after capacity room steps).ring.ring.add value).1 = none
        · rw [hnone, Option.toList_none, ite_self]
        · have hlt := hroom steps value (List.prefix_refl _) hnone before hfollows.evicted_eq
          rw [if_pos ⟨hfollows.isOpen_iff.mpr hopen.1, hfollows.room_eq ▸ hlt⟩]
      rw [hdelivered, ← List.append_assoc]
      change (after capacity room steps).drained ++ before.waiting ++ _ = _ ++ _
      rw [hearlier]
    | drain =>
      rw [step, hfollows.drain_eq] at hchannel ⊢
      cases hchannel
      exact (List.append_nil _).trans hearlier
    | close => exact absurd (List.mem_singleton_self _) hopen.2

/-- What becomes of the values, for every capacity, every room in the channel and all steps. A ring
without slots holds and offers nothing. Any other holds the last values, each in the slot of its
place, and has the earlier ones offered in their order. A value that is added has at most one value
offered, which is delivered exactly if the receiver is there and the queue has room. What was
drained and what still waits are some of the values offered, in their order, and all of them if the
channel was never full when it was offered one and never closed. -/
theorem after_holds_last_offers_rest (capacity room : Nat) (steps : List (RingStep α)) :
    let run := after capacity room steps
    let values := RingStep.values steps
    Ring.HoldsLast capacity values run.ring.ring ∧
      (capacity = 0 → run.ring.ring.toList = [] ∧ run.offered = []) ∧
      (0 < capacity → run.offered = values.take (values.length - capacity)) ∧
      ∃ channel, run.ring.evicted = some channel ∧ channel.room = room ∧
        (channel.isOpen = true ↔ .close ∉ steps) ∧
        (run.drained ++ channel.waiting).Sublist run.offered ∧
        (.close ∉ steps → FindsRoom capacity room steps →
          run.drained ++ channel.waiting = run.offered) ∧
        ∀ value, ∃ previous : Option α, ∃ next : Channel α,
          (after capacity room (steps ++ [.add value])).offered =
              run.offered ++ previous.toList ∧
            (after capacity room (steps ++ [.add value])).ring.evicted = some next ∧
            next.waiting = channel.waiting ++
              if channel.isOpen ∧ channel.waiting.length < room then previous.toList else [] := by
  intro run values
  obtain ⟨channel, hfollows⟩ := after_follows capacity room steps
  have hholds : Ring.HoldsLast capacity values run.ring.ring := hfollows.turns.holdsLast
  refine ⟨hholds, fun hzero => ⟨?_, ?_⟩, fun hpos => ?_, channel, hfollows.evicted_eq,
    hfollows.room_eq, hfollows.isOpen_iff, hfollows.kept, fun hopen hroom => ?_, fun value => ?_⟩
  · refine List.length_eq_zero_iff.mp ?_
    rw [hholds.length_eq, hzero, Nat.min_zero]
  · exact hfollows.offered_eq.trans (if_pos hzero)
  · exact hfollows.offered_eq.trans (if_neg (Nat.pos_iff_ne_zero.mp hpos))
  · exact delivers_all capacity room steps hopen hroom channel hfollows.evicted_eq
  · have hwaiting := channel.waiting_offer? (run.ring.ring.add value).1
    rw [hfollows.room_eq] at hwaiting
    rw [after_append]
    exact ⟨_, _, rfl, hfollows.evicted_add value, hwaiting⟩

-- Five values in two slots, with room for one in the channel, which is drained once.
example : (after 2 1 [.add 1, .add 2, .add 3, .add 4, .drain, .add 5]).ring.ring.toList = [5, 4] ∧
    (after 2 1 [.add 1, .add 2, .add 3, .add 4, .drain, .add 5]).offered = [1, 2, 3] ∧
    (after 2 1 [.add 1, .add 2, .add 3, .add 4, .drain, .add 5]).drained = [1] := by
  decide

end RingRun

end AgentSync
