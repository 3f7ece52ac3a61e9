import AgentSync.Memory.Replica
import Mathlib.Data.List.Nodup

namespace AgentSync.Dict

/-- The value at a key is the one of the entry with that key. -/
theorem get?_eq_some_iff {β : Type} {d : Dict β} {key : String} {value : β} :
    d.get? key = some value ↔ (key, value) ∈ d.entries := by
  obtain ⟨entries, hsorted⟩ := d
  unfold get?
  induction entries with
  | nil => simp
  | cons head rest ih =>
    obtain ⟨hhead, hrest⟩ := List.pairwise_cons.mp hsorted
    rw [List.find?_cons]
    by_cases hkey : head.1 = key
    · subst hkey
      have hne : ∀ v, (head.1, v) ∉ rest := fun v hmem =>
        String.lt_irrefl _ (hhead (head.1, v) hmem)
      simp [hne, Prod.ext_iff, eq_comm]
    · have hother : (head.1 == key) = false := by simpa using hkey
      have hne : (key, value) ≠ head := fun h => hkey (h ▸ rfl)
      simp only [hother, List.mem_cons, hne, false_or]
      exact ih hrest

/-- The keys are those that hold a value. -/
theorem mem_keys_iff {β : Type} {d : Dict β} {key : String} :
    key ∈ d.keys ↔ ∃ value, d.get? key = some value := by
  simp [get?_eq_some_iff, keys]

theorem get?_eq_none_iff {β : Type} {d : Dict β} {key : String} :
    d.get? key = none ↔ key ∉ d.keys := by
  rw [mem_keys_iff, Option.eq_none_iff_forall_ne_some, not_exists]

/-- No key is listed twice, since the entries are sorted by their keys. -/
theorem nodup_keys {β : Type} (d : Dict β) : d.keys.Nodup := by
  refine List.pairwise_map.mpr (d.sorted.imp fun hlt => ?_)
  intro heq
  rw [heq] at hlt
  exact String.lt_irrefl _ hlt

/-- Maps that hold the same at every key are equal. -/
theorem ext_get? {β : Type} {a b : Dict β} (h : ∀ key, a.get? key = b.get? key) : a = b := by
  have hmem : ∀ entry, entry ∈ a.entries ↔ entry ∈ b.entries := by
    rintro ⟨key, value⟩
    rw [← get?_eq_some_iff, ← get?_eq_some_iff, h]
  have hnodup (d : Dict β) : d.entries.Nodup :=
    List.Pairwise.of_map Prod.fst (fun _ _ hne heq => hne (congrArg Prod.fst heq)) d.nodup_keys
  have hperm := (List.perm_ext_iff_of_nodup (hnodup a) (hnodup b)).mpr hmem
  refine ext (hperm.eq_of_pairwise ?_ a.sorted b.sorted)
  intro x y _ _ hxy hyx
  exact absurd (String.lt_trans hxy hyx) (String.lt_irrefl _)

/-- Maps with the same keys list them in the same order. -/
theorem keys_ext {β γ : Type} {a : Dict β} {b : Dict γ}
    (h : ∀ key, key ∈ a.keys ↔ key ∈ b.keys) : a.keys = b.keys := by
  have hperm := (List.perm_ext_iff_of_nodup a.nodup_keys b.nodup_keys).mpr h
  have hsorted {δ : Type} (d : Dict δ) : d.keys.Pairwise (· < ·) := List.pairwise_map.mpr d.sorted
  refine hperm.eq_of_pairwise ?_ (hsorted a) (hsorted b)
  intro x y _ _ hxy hyx
  exact absurd (String.lt_trans hxy hyx) (String.lt_irrefl _)

theorem get?_map {β γ : Type} (f : β → γ) (d : Dict β) (key : String) :
    (d.map f).get? key = (d.get? key).map f := by
  simp only [get?, map, List.find?_map, Option.map_map]
  rfl

/-- Maps with the same keys are told apart by their values at the keys of either. -/
theorem map_eq_map_of_keys {β γ : Type} (f : β → γ) {a b : Dict β} (hkeys : a.keys = b.keys)
    (h : ∀ entry ∈ b.entries, (a.get? entry.1).map f = some (f entry.2)) : a.map f = b.map f := by
  refine ext_get? fun key => ?_
  rw [get?_map, get?_map]
  by_cases hmem : key ∈ b.keys
  · obtain ⟨value, hvalue⟩ := mem_keys_iff.mp hmem
    rw [hvalue, h (key, value) (get?_eq_some_iff.mp hvalue), Option.map_some]
  · rw [get?_eq_none_iff.mpr hmem, get?_eq_none_iff.mpr (hkeys ▸ hmem)]

/-- What is put at other keys does not matter. -/
theorem get?_insertAll_of_not_mem {β : Type} {key : String} (entries : List (String × β)) :
    ∀ d : Dict β, key ∉ entries.map Prod.fst → (d.insertAll entries).get? key = d.get? key := by
  induction entries with
  | nil => intro d _; rfl
  | cons entry rest ih =>
    intro d hnot
    rw [List.map_cons, List.mem_cons, not_or] at hnot
    have hstep := ih (d.insert entry.1 entry.2) hnot.2
    rw [get?_insert, if_neg (Ne.symm hnot.1)] at hstep
    exact hstep

/-- A value that is the only one put at a key is held there afterwards. -/
theorem get?_insertAll_of_forall {β : Type} {key : String} {value : β}
    (entries : List (String × β)) :
    ∀ d : Dict β, (∀ other, (key, other) ∈ entries → other = value) →
      (key ∈ entries.map Prod.fst ∨ d.get? key = some value) →
      (d.insertAll entries).get? key = some value := by
  induction entries with
  | nil => intro d _ hheld; exact hheld.resolve_left List.not_mem_nil
  | cons entry rest ih =>
    intro d hall hheld
    refine ih (d.insert entry.1 entry.2) (fun other hother => hall other (.tail _ hother)) ?_
    by_cases hkey : entry.1 = key
    · subst hkey
      rw [get?_insert, if_pos rfl, hall entry.2 (.head _)]
      exact .inr rfl
    · rw [get?_insert, if_neg hkey]
      exact hheld.imp_left fun hmem => (List.mem_cons.mp hmem).resolve_left (Ne.symm hkey)

/-- Values put at different keys are held afterwards. -/
theorem get?_insertAll_of_mem {β : Type} {key : String} {value : β}
    (entries : List (String × β)) (d : Dict β) (hnodup : (entries.map Prod.fst).Nodup)
    (hmem : (key, value) ∈ entries) : (d.insertAll entries).get? key = some value := by
  refine get?_insertAll_of_forall entries d (fun other hother => ?_)
    (.inl (List.mem_map_of_mem hmem))
  exact congrArg Prod.snd (List.inj_on_of_nodup_map hnodup hother hmem rfl)

/-- Entries in key order make a map of these entries. -/
theorem entries_ofList {β : Type} {entries : List (String × β)}
    (hsorted : entries.Pairwise fun a b => a.1 < b.1) : (ofList entries).entries = entries := by
  have hnodup : (entries.map Prod.fst).Nodup := nodup_keys ⟨entries, hsorted⟩
  have heq : ofList entries = ⟨entries, hsorted⟩ := by
    refine ext_get? fun key => ?_
    change (empty.insertAll entries).get? key = _
    by_cases hmem : key ∈ entries.map Prod.fst
    · obtain ⟨⟨key, value⟩, hentry, rfl⟩ := List.mem_map.mp hmem
      rw [get?_insertAll_of_mem entries empty hnodup hentry]
      exact (get?_eq_some_iff.mpr hentry).symm
    · rw [get?_insertAll_of_not_mem entries empty hmem, get?_empty]
      exact (get?_eq_none_iff.mpr hmem).symm
  rw [heq]

theorem mem_keys_insert {β : Type} {d : Dict β} {key k : String} {value : β} :
    k ∈ (d.insert key value).keys ↔ k = key ∨ k ∈ d.keys := by
  rw [mem_keys_iff, mem_keys_iff, get?_insert]
  by_cases hkey : key = k
  · simp [hkey]
  · simp [hkey, Ne.symm hkey]

/-- Entries that are put in add their keys and take none away. -/
theorem mem_keys_insertAll {β : Type} {key : String} (entries : List (String × β)) :
    ∀ d : Dict β, key ∈ (d.insertAll entries).keys ↔ key ∈ entries.map Prod.fst ∨ key ∈ d.keys := by
  induction entries with
  | nil => intro d; exact (or_iff_right List.not_mem_nil).symm
  | cons entry rest ih =>
    intro d
    have hstep := ih (d.insert entry.1 entry.2)
    rw [mem_keys_insert, or_left_comm, ← or_assoc] at hstep
    rw [List.map_cons, List.mem_cons]
    exact hstep

/-- A map made from entries has their keys. -/
theorem mem_keys_ofList {β : Type} {key : String} {entries : List (String × β)} :
    key ∈ (ofList entries).keys ↔ key ∈ entries.map Prod.fst :=
  (mem_keys_insertAll entries empty).trans (or_iff_left List.not_mem_nil)

/-- A map is made again from its entries in any order. -/
theorem ofList_of_perm {β : Type} {entries : List (String × β)} {d : Dict β}
    (hperm : entries.Perm d.entries) : ofList entries = d := by
  have hkeys : (entries.map Prod.fst).Perm d.keys := hperm.map Prod.fst
  have hnodup : (entries.map Prod.fst).Nodup := hkeys.nodup_iff.mpr d.nodup_keys
  refine ext_get? fun key => ?_
  by_cases hmem : key ∈ d.keys
  · obtain ⟨value, hvalue⟩ := mem_keys_iff.mp hmem
    have hentry := hperm.mem_iff.mpr (get?_eq_some_iff.mp hvalue)
    exact (get?_insertAll_of_mem entries empty hnodup hentry).trans hvalue.symm
  · have hnone := mem_keys_ofList.not.mpr (hkeys.mem_iff.not.mpr hmem)
    rw [get?_eq_none_iff.mpr hnone, get?_eq_none_iff.mpr hmem]

/-- A map made of a list holds no other entries than those of the list. -/
theorem mem_of_mem_ofList {β : Type} {entry : String × β} {entries : List (String × β)}
    (hmem : entry ∈ (ofList entries).entries) : entry ∈ entries := by
  have hinsert (entries : List (String × β)) : ∀ d : Dict β,
      entry ∈ (d.insertAll entries).entries → entry ∈ d.entries ∨ entry ∈ entries := by
    induction entries with
    | nil => exact fun _ h => .inl h
    | cons first rest ih =>
      intro d h
      rcases ih (d.insert first.1 first.2) h with hfirst | hrest
      · exact (mem_insertEntry hfirst).elim (fun h => .inr (h ▸ .head _)) .inl
      · exact .inr (.tail _ hrest)
  exact (hinsert entries empty hmem).resolve_left List.not_mem_nil

/-- What a map holds once keys are taken out. -/
theorem get?_eraseAll {β : Type} (d : Dict β) (keys : List String) (key : String) :
    (d.eraseAll keys).get? key = if key ∈ keys then none else d.get? key := by
  refine Option.ext fun value => ?_
  have hmem : (key, value) ∈ (d.eraseAll keys).entries ↔ (key, value) ∈ d.entries ∧ key ∉ keys := by
    simp [eraseAll]
  rw [get?_eq_some_iff, hmem, ← get?_eq_some_iff]
  by_cases hkey : key ∈ keys <;> simp [hkey]

end AgentSync.Dict
