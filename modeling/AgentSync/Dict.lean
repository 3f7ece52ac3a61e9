namespace AgentSync

/-- A map from text to values: entries in strictly increasing key order, so that equal maps are
equal lists. -/
structure Dict (β : Type) where
  entries : List (String × β)
  sorted : entries.Pairwise fun a b => a.1 < b.1

namespace Dict

variable {β : Type}

/-- Puts `value` at `key`, replacing the value that was there. -/
def insertEntry (key : String) (value : β) : List (String × β) → List (String × β)
  | [] => [(key, value)]
  | (k, v) :: rest =>
    if key < k then (key, value) :: (k, v) :: rest
    else if k < key then (k, v) :: insertEntry key value rest
    else (key, value) :: rest

theorem mem_insertEntry {key : String} {value : β} {entries : List (String × β)}
    {e : String × β} (h : e ∈ insertEntry key value entries) :
    e = (key, value) ∨ e ∈ entries := by
  induction entries with
  | nil => exact .inl (List.mem_singleton.mp h)
  | cons head rest ih =>
    obtain ⟨k, v⟩ := head
    simp only [insertEntry] at h
    split at h
    · rcases List.mem_cons.1 h with rfl | h
      · exact .inl rfl
      · exact .inr h
    split at h
    · rcases List.mem_cons.1 h with rfl | h
      · exact .inr (.head _)
      · exact (ih h).imp id (.tail _)
    · rcases List.mem_cons.1 h with rfl | h
      · exact .inl rfl
      · exact .inr (.tail _ h)

theorem sorted_insertEntry (key : String) (value : β) {entries : List (String × β)}
    (h : entries.Pairwise fun a b => a.1 < b.1) :
    (insertEntry key value entries).Pairwise fun a b => a.1 < b.1 := by
  induction entries with
  | nil => simp [insertEntry]
  | cons head rest ih =>
    obtain ⟨k, v⟩ := head
    obtain ⟨hhead, hrest⟩ := List.pairwise_cons.1 h
    simp only [insertEntry]
    split
    · next hlt =>
      refine List.pairwise_cons.2 ⟨fun e he => ?_, h⟩
      rcases List.mem_cons.1 he with rfl | he
      · exact hlt
      · exact String.lt_trans hlt (hhead e he)
    split
    · next hlt =>
      refine List.pairwise_cons.2 ⟨fun e he => ?_, ih hrest⟩
      rcases mem_insertEntry he with rfl | he
      · exact hlt
      · exact hhead e he
    · next hkey hk =>
      have : key = k := String.le_antisymm (String.not_lt.1 hk) (String.not_lt.1 hkey)
      subst this
      exact List.pairwise_cons.2 ⟨fun e he => hhead e he, hrest⟩

def empty : Dict β := ⟨[], .nil⟩

instance : Inhabited (Dict β) := ⟨empty⟩

/-- Puts `value` at `key`, replacing the value that was there. -/
def insert (d : Dict β) (key : String) (value : β) : Dict β :=
  ⟨insertEntry key value d.entries, sorted_insertEntry key value d.sorted⟩

/-- Later entries win over earlier ones with the same key. -/
def ofList (entries : List (String × β)) : Dict β :=
  entries.foldl (fun d e => d.insert e.1 e.2) empty

def get? (d : Dict β) (key : String) : Option β :=
  (d.entries.find? (·.1 == key)).map (·.2)

def keys (d : Dict β) : List String := d.entries.map (·.1)

def isEmpty (d : Dict β) : Bool := d.entries.isEmpty

/-- Keeps the keys and changes each value. -/
def map {γ : Type} (f : β → γ) (d : Dict β) : Dict γ :=
  ⟨d.entries.map fun e => (e.1, f e.2), by
    rw [List.pairwise_map]
    exact d.sorted⟩

instance [BEq β] : BEq (Dict β) := ⟨fun a b => a.entries == b.entries⟩

theorem ext {a b : Dict β} (h : a.entries = b.entries) : a = b := by
  cases a; cases b; cases h; rfl

theorem find?_insertEntry (key k : String) (value : β) (entries : List (String × β)) :
    ((insertEntry key value entries).find? (·.1 == k)).map (·.2) =
      if key = k then some value else (entries.find? (·.1 == k)).map (·.2) := by
  induction entries with
  | nil => by_cases h : key = k <;> simp [insertEntry, h]
  | cons head rest ih =>
    obtain ⟨k', v⟩ := head
    simp only [insertEntry]
    split
    · by_cases h : key = k <;> simp [List.find?_cons, h]
    split
    · next hlt =>
      by_cases hk : k' = k
      · have hne : key ≠ k := fun h => String.lt_irrefl k (by rw [hk, h] at hlt; exact hlt)
        simp [hk, hne]
      · simpa [List.find?_cons, hk] using ih
    · next hkey hk =>
      have heq : key = k' := String.le_antisymm (String.not_lt.1 hk) (String.not_lt.1 hkey)
      by_cases h : key = k
      · simp [h]
      · have hne : ¬ k' = k := heq ▸ h
        simp [h, hne]

/-- What a map holds after an insertion: the new value at its key, the old ones elsewhere. -/
theorem get?_insert (d : Dict β) (key k : String) (value : β) :
    (d.insert key value).get? k = if key = k then some value else d.get? k :=
  find?_insertEntry key k value d.entries

@[simp] theorem get?_empty (k : String) : (empty : Dict β).get? k = none := rfl

end Dict

end AgentSync
