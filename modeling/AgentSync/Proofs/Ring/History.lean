import AgentSync.Ring.History

namespace AgentSync

namespace Ring

variable {α : Type}

@[simp] theorem toList_new (capacity : Nat) : (new capacity : Ring α).toList = [] := by
  simp [new, toList]

/-- Adds values in turn. -/
def addAll (ring : Ring α) (values : List α) : Ring α :=
  values.foldl (fun ring value => (ring.add value).2) ring

@[simp] theorem addAll_nil (ring : Ring α) : ring.addAll [] = ring := rfl

theorem addAll_append_singleton (ring : Ring α) (values : List α) (value : α) :
    ring.addAll (values ++ [value]) = ((ring.addAll values).add value).2 := by
  rw [addAll, List.foldl_append]
  rfl

end Ring

namespace RingKey

theorem lt_irrefl (key : RingKey) : ¬key < key := by
  rintro (hid | ⟨-, hname | ⟨-, hresource⟩⟩)
  · exact BitVec.lt_irrefl _ hid
  · exact String.lt_irrefl _ hname
  · exact String.lt_irrefl _ hresource

theorem lt_trans {a b c : RingKey} (hab : a < b) (hbc : b < c) : a < c := by
  rcases hab with hab | ⟨hid, hab⟩
  · rcases hbc with hbc | ⟨hid, -⟩
    · exact .inl (BitVec.lt_trans hab hbc)
    · exact .inl (hid ▸ hab)
  · rcases hbc with hbc | ⟨hid', hbc⟩
    · exact .inl (hid ▸ hbc)
    · refine .inr ⟨hid.trans hid', ?_⟩
      rcases hab with hab | ⟨hname, hab⟩
      · rcases hbc with hbc | ⟨hname, -⟩
        · exact .inl (String.lt_trans hab hbc)
        · exact .inl (hname ▸ hab)
      · rcases hbc with hbc | ⟨hname', hbc⟩
        · exact .inl (hname ▸ hbc)
        · exact .inr ⟨hname.trans hname', String.lt_trans hab hbc⟩

/-- Of two different keys one is less than the other. -/
theorem lt_of_not_lt {a b : RingKey} (hlt : ¬a < b) (hne : a ≠ b) : b < a := by
  have htext {s t : String} (hst : ¬s < t) (hother : s ≠ t) : t < s :=
    String.not_le.mp fun hle => hother (String.le_antisymm hle (String.not_lt.mp hst))
  by_cases hid : a.agentId = b.agentId
  · refine .inr ⟨hid.symm, ?_⟩
    by_cases hname : a.name = b.name
    · have hresource : ¬a.resourceId < b.resourceId := fun hless =>
        hlt (.inr ⟨hid, .inr ⟨hname, hless⟩⟩)
      refine .inr ⟨hname.symm, htext hresource ?_⟩
      intro hresource
      cases a; cases b
      cases hid; cases hname; cases hresource
      exact hne rfl
    · exact .inl (htext (fun hless => hlt (.inr ⟨hid, .inl hless⟩)) hname)
  · have hvalue : b.agentId.value ≠ a.agentId.value := fun hsame =>
      hid (congrArg Uuid.mk hsame.symm)
    exact .inl (BitVec.lt_of_le_ne (BitVec.not_lt.mp fun hless => hlt (.inl hless)) hvalue)

end RingKey

namespace History

/-- The ring of a key, if records were ever added to it. -/
def ring? (rings : List (RingKey × Ring JobRecord)) (key : RingKey) : Option (Ring JobRecord) :=
  (rings.find? (·.1 = key)).map (·.2)

/-- A key without a ring has as many records as one with an empty ring. -/
theorem get_eq (history : History) (capacity : Nat) (key : RingKey) :
    history.get key = ((ring? history.rings key).getD (Ring.new capacity)).toList := by
  rw [get, ring?]
  cases history.rings.find? (·.1 = key) with
  | none => exact (Ring.toList_new capacity).symm
  | some entry => rfl

/-- Rings in the order of their keys, one for each. -/
def IsSorted (rings : List (RingKey × Ring JobRecord)) : Prop :=
  rings.Pairwise fun a b => a.1 < b.1

section

variable {capacity : Nat} {record : JobRecord} {rings : List (RingKey × Ring JobRecord)}

theorem ring?_cons (key other : RingKey) (ring : Ring JobRecord) :
    ring? ((other, ring) :: rings) key = if other = key then some ring else ring? rings key := by
  by_cases hkey : other = key
  · simp [ring?, hkey]
  · simp [ring?, hkey]

/-- A key before those of all rings has none. -/
theorem ring?_of_lt {key : RingKey} (hlt : ∀ entry ∈ rings, key < entry.1) :
    ring? rings key = none := by
  rw [ring?, Option.map_eq_none_iff, List.find?_eq_none]
  rintro entry hentry heq
  have hsame : entry.1 = key := by simpa using heq
  exact RingKey.lt_irrefl key (hsame ▸ hlt entry hentry)

/-- The keys that have a ring are the keys of the entries. -/
theorem isSome_ring?_iff {key : RingKey} :
    (ring? rings key).isSome = true ↔ key ∈ rings.map Prod.fst := by
  rw [ring?, Option.isSome_map, List.find?_isSome, List.mem_map]
  simp only [decide_eq_true_eq]

/-- A record adds no key but its own. -/
theorem keys_addTo {entry : RingKey × Ring JobRecord}
    (hentry : entry ∈ (addTo capacity record rings).2) :
    entry.1 = RingKey.ofRecord record ∨ entry.1 ∈ rings.map Prod.fst := by
  induction rings with
  | nil =>
    obtain rfl := List.mem_singleton.mp hentry
    exact .inl rfl
  | cons head rest ih =>
    obtain ⟨key, ring⟩ := head
    rw [addTo] at hentry
    split at hentry
    · rcases List.mem_cons.mp hentry with rfl | hold
      · exact .inl rfl
      · exact .inr (List.mem_map_of_mem hold)
    · split at hentry
      · next hkey =>
        rcases List.mem_cons.mp hentry with rfl | hold
        · exact .inl hkey.symm
        · exact .inr (List.mem_map_of_mem (.tail _ hold))
      · rcases List.mem_cons.mp hentry with rfl | hlater
        · exact .inr (.head _)
        · exact (ih hlater).imp_right (.tail _)

/-- The rings stay in the order of their keys. -/
theorem sorted_addTo (hsorted : IsSorted rings) : IsSorted (addTo capacity record rings).2 := by
  induction rings with
  | nil => exact List.pairwise_singleton _ _
  | cons head rest ih =>
    obtain ⟨key, ring⟩ := head
    obtain ⟨hhead, hrest⟩ := List.pairwise_cons.mp hsorted
    rw [addTo]
    split
    · next hlt =>
      refine List.pairwise_cons.mpr ⟨fun entry hentry => ?_, hsorted⟩
      rcases List.mem_cons.mp hentry with rfl | hlater
      · exact hlt
      · exact RingKey.lt_trans hlt (hhead entry hlater)
    · next hnot =>
      split
      · exact List.pairwise_cons.mpr ⟨hhead, hrest⟩
      · next hother =>
        refine List.pairwise_cons.mpr ⟨fun entry hentry => ?_, ih hrest⟩
        rcases keys_addTo hentry with hnew | hold
        · exact hnew ▸ RingKey.lt_of_not_lt hnot hother
        · obtain ⟨old, hmem, hkey⟩ := List.mem_map.mp hold
          exact hkey ▸ hhead old hmem

variable (capacity record) in
/-- A record goes into the ring of its key, which is empty if there was none, and into no other. -/
theorem addTo_eq (hsorted : IsSorted rings) :
    let ring := (ring? rings (RingKey.ofRecord record)).getD (Ring.new capacity)
    (addTo capacity record rings).1 = (ring.add record).1 ∧
      ∀ key, ring? (addTo capacity record rings).2 key =
        if RingKey.ofRecord record = key then some (ring.add record).2 else ring? rings key := by
  induction rings with
  | nil => exact ⟨rfl, fun key => ring?_cons key _ _⟩
  | cons head rest ih =>
    obtain ⟨key, ring⟩ := head
    obtain ⟨hhead, hrest⟩ := List.pairwise_cons.mp hsorted
    rw [addTo]
    split
    · next hlt =>
      have hnone : ring? ((key, ring) :: rest) (RingKey.ofRecord record) = none := by
        refine ring?_of_lt (List.forall_mem_cons.mpr ⟨hlt, fun entry hentry => ?_⟩)
        exact RingKey.lt_trans hlt (hhead entry hentry)
      rw [hnone]
      exact ⟨rfl, fun other => ring?_cons other _ _⟩
    · split
      · next hkey =>
        rw [ring?_cons, if_pos hkey.symm]
        refine ⟨rfl, fun other => ?_⟩
        rw [ring?_cons, ring?_cons, hkey]
        split
        · rfl
        · rfl
      · next hother =>
        obtain ⟨hprevious, hrings⟩ := ih hrest
        rw [ring?_cons, if_neg (Ne.symm hother)]
        refine ⟨hprevious, fun other => ?_⟩
        rw [ring?_cons, ring?_cons, hrings]
        split
        · next hkey => rw [if_neg (hkey ▸ hother)]
        · rfl

end

/-- The ring of a key if nothing but the records of that key is ever added to it. -/
def ringOf (capacity : Nat) (records : List JobRecord) (key : RingKey) : Ring JobRecord :=
  (Ring.new capacity).addAll (records.filter (RingKey.ofRecord · = key))

/-- A record changes the ring of its own key only. -/
theorem ringOf_append (capacity : Nat) (records : List JobRecord) (record : JobRecord)
    (key : RingKey) :
    ringOf capacity (records ++ [record]) key =
      if RingKey.ofRecord record = key then ((ringOf capacity records key).add record).2
      else ringOf capacity records key := by
  unfold ringOf
  rw [List.filter_append]
  split
  · next hkey => rw [List.filter_cons_of_pos (by simpa using hkey), List.filter_nil,
      Ring.addAll_append_singleton]
  · next hkey => rw [List.filter_cons_of_neg (by simpa using hkey), List.filter_nil,
      List.append_nil]

/-- What records overwrite that are added after `earlier`, each in a ring of the records of its key
alone. -/
def overwritten (capacity : Nat) (earlier : List JobRecord) : List JobRecord → List JobRecord
  | [] => []
  | record :: rest =>
    ((ringOf capacity earlier (RingKey.ofRecord record)).add record).1.toList ++
      overwritten capacity (earlier ++ [record]) rest

/-- Rings that hold what was recorded, each the records of its key. -/
structure IsFamily (capacity : Nat) (records : List JobRecord)
    (rings : List (RingKey × Ring JobRecord)) : Prop where
  sorted : IsSorted rings
  rings : ∀ key, ring? rings key =
    if key ∈ records.map RingKey.ofRecord then some (ringOf capacity records key) else none

namespace IsFamily

variable {capacity : Nat} {records : List JobRecord} {rings : List (RingKey × Ring JobRecord)}

theorem nil : IsFamily capacity [] [] := ⟨.nil, fun _ => rfl⟩

/-- The ring of a key without records is as empty as the one it would get. -/
theorem getD_ring? (h : IsFamily capacity records rings) (key : RingKey) :
    (ring? rings key).getD (Ring.new capacity) = ringOf capacity records key := by
  rw [h.rings]
  split
  · rfl
  · next hnone =>
    have hfilter : records.filter (RingKey.ofRecord · = key) = [] := by
      refine List.filter_eq_nil_iff.mpr fun record hrecord hkey => hnone ?_
      exact List.mem_map.mpr ⟨record, hrecord, by simpa using hkey⟩
    rw [Option.getD_none, ringOf, hfilter, Ring.addAll_nil]

/-- One more record: it overwrites what it overwrites in a ring of its own key, and the rings are
those of the records with it. -/
theorem step (h : IsFamily capacity records rings) (record : JobRecord) :
    (addTo capacity record rings).1 =
        ((ringOf capacity records (RingKey.ofRecord record)).add record).1 ∧
      IsFamily capacity (records ++ [record]) (addTo capacity record rings).2 := by
  obtain ⟨hprevious, hrings⟩ := addTo_eq capacity record h.sorted
  rw [h.getD_ring?] at hprevious hrings
  refine ⟨hprevious, sorted_addTo h.sorted, fun key => ?_⟩
  rw [hrings, h.rings, ringOf_append, List.map_append, List.map_singleton]
  by_cases hkey : RingKey.ofRecord record = key
  · subst hkey
    simp
  · simp [hkey, Ne.symm hkey]

/-- There is a ring for every key that was added to, and for no other. -/
theorem mem_keys (h : IsFamily capacity records rings) {key : RingKey} :
    key ∈ rings.map Prod.fst ↔ key ∈ records.map RingKey.ofRecord := by
  rw [← isSome_ring?_iff, h.rings]
  split
  · next hkey => exact iff_of_true rfl hkey
  · next hnone => exact iff_of_false Bool.false_ne_true hnone

end IsFamily

/-- Adds records in turn. -/
def addAll (history : History) (records : List JobRecord) : History := records.foldl add history

/-- A run over a family leaves the family of all records, and offers the channel what they
overwrite. -/
theorem addAll_isFamily (history : History) {earlier : List JobRecord}
    (h : IsFamily history.capacity earlier history.rings) (records : List JobRecord) :
    IsFamily history.capacity (earlier ++ records) (history.addAll records).rings ∧
      (history.addAll records).evicted = history.evicted.map fun channel =>
        (overwritten history.capacity earlier records).foldl Channel.offer channel := by
  induction records generalizing history earlier with
  | nil =>
    rw [List.append_nil]
    exact ⟨h, by simp [addAll, overwritten]⟩
  | cons record rest ih =>
    obtain ⟨hprevious, hstep⟩ := h.step record
    obtain ⟨hrings, hevicted⟩ := ih (history.add record) hstep
    rw [List.append_assoc] at hrings
    refine ⟨hrings, hevicted.trans ?_⟩
    rw [overwritten, ← hprevious]
    unfold add
    rw [Option.map_map]
    refine Option.map_congr fun channel _ => ?_
    rw [List.foldl_append]
    cases (addTo history.capacity record history.rings).1 with
    | none => rfl
    | some previous => rfl

/-- A history is a family of independent rings, for every capacity and all records: each key has
the ring of its own records, the keys are in order and those that were ever added to, and the
channel is offered what each record overwrites in the ring of its own key, one after another. -/
theorem new_addAll_independent (capacity : Nat) (evicted : Option (Channel JobRecord))
    (records : List JobRecord) :
    let history := (new capacity evicted).addAll records
    (∀ key, history.get key = (ringOf capacity records key).toList) ∧
      history.keys.Pairwise (· < ·) ∧
      (∀ key, key ∈ history.keys ↔ ∃ record ∈ records, RingKey.ofRecord record = key) ∧
      history.evicted = evicted.map fun channel =>
        (overwritten capacity [] records).foldl Channel.offer channel := by
  intro history
  have hnew : IsFamily capacity [] (new capacity evicted).rings := .nil
  obtain ⟨hfamily, hevicted⟩ := addAll_isFamily (new capacity evicted) hnew records
  have hrings : IsFamily capacity records history.rings := hfamily
  refine ⟨fun key => ?_, List.pairwise_map.mpr hrings.sorted, fun key => ?_, hevicted⟩
  · exact (history.get_eq capacity key).trans (congrArg Ring.toList (hrings.getD_ring? key))
  · exact hrings.mem_keys.trans List.mem_map

end History

end AgentSync
