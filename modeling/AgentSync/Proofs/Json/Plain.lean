import AgentSync.Proofs.Json.Decode

namespace AgentSync

namespace Json

/-- Values are built from the values in them. -/
theorem induct {motive : Json → Prop} (null : motive .null) (bool : ∀ b, motive (.bool b))
    (num : ∀ n, motive (.num n)) (str : ∀ s, motive (.str s))
    (arr : ∀ items, (∀ item ∈ items, motive item) → motive (.arr items))
    (obj : ∀ entries, (∀ entry ∈ entries, motive entry.2) → motive (.obj entries)) :
    ∀ value, motive value
  | .null => null
  | .bool b => bool b
  | .num n => num n
  | .str s => str s
  | .arr items => arr items fun item _ => induct null bool num str arr obj item
  | .obj entries => obj entries fun entry _ => induct null bool num str arr obj entry.2
termination_by value => sizeOf value
decreasing_by
  · have := List.sizeOf_lt_of_mem ‹item ∈ items›
    simp only [Json.arr.sizeOf_spec]
    omega
  · have hentry := List.sizeOf_lt_of_mem ‹entry ∈ entries›
    have hvalue : sizeOf entry.2 < sizeOf entry := by
      cases entry
      simp only [Prod.mk.sizeOf_spec]
      omega
    simp only [Json.obj.sizeOf_spec]
    omega

/-- A value whose objects have their entries in key order and do not start with the key of an
embedded text. -/
inductive IsPlain : Json → Prop where
  | null : IsPlain .null
  | bool (b : Bool) : IsPlain (.bool b)
  | num (n : Number) : IsPlain (.num n)
  | str (s : String) : IsPlain (.str s)
  | arr {items : List Json} : (∀ item ∈ items, IsPlain item) → IsPlain (.arr items)
  | obj {entries : List (String × Json)} : (entries.Pairwise fun a b => a.1 < b.1) →
      (∀ entry ∈ entries.head?, entry.1 ≠ Source.embeddingKey) →
      (∀ entry ∈ entries, IsPlain entry.2) → IsPlain (.obj entries)

end Json

namespace Source

variable {read : String → Option Json} {room : Room}

theorem itemsToJson?_eq_mapM (items : List Source) :
    itemsToJson? read room items = items.mapM (toJsonWith? read room) := by
  induction items with
  | nil => rfl
  | cons item rest ih => rw [itemsToJson?, ih, List.mapM_cons]

theorem entriesToJson?_eq_mapM (entries : List (Option String × Source)) :
    entriesToJson? read room entries = entries.mapM fun (key, source) => do
      return ((← key), (← toJsonWith? read room source)) := by
  induction entries with
  | nil => rfl
  | cons entry rest ih =>
    obtain ⟨key, source⟩ := entry
    rw [entriesToJson?, ih, List.mapM_cons]
    cases key with
    | none => rfl
    | some key =>
      dsimp only
      cases toJsonWith? read room source <;> rfl

/-- Only the first key of an object tells whether it embeds a text. -/
theorem embedded?_eq_none_iff {entries : List (Option String × Source)} :
    embedded? entries = none ↔ ∀ entry ∈ entries.head?, entry.1 ≠ some embeddingKey := by
  rcases entries with _ | ⟨⟨_ | key, source⟩, rest⟩
  · simp [embedded?]
  · simp [embedded?]
  · unfold embedded?
    dsimp only
    by_cases hkey : key = embeddingKey
    · rw [if_pos hkey]
      refine iff_of_false ?_ fun h => h _ rfl (congrArg some hkey)
      split <;> nofun
    · rw [if_neg hkey]
      simp [hkey]

/-- No content denotes an object with the key of an embedded text alone, if no embedded text
does. -/
theorem toJsonWith?_ne_embedding (hread : ∀ text value,
    read text ≠ some (.obj [(embeddingKey, value)])) (source : Source) (value : Json) :
    source.toJsonWith? read room ≠ some (.obj [(embeddingKey, value)]) := by
  intro hdenoted
  cases source with
  | obj entries =>
    obtain ⟨inner, _, hdenoted⟩ := Option.bind_eq_some_iff.mp hdenoted
    cases hembedded : embedded? entries with
    | some text =>
      rw [hembedded] at hdenoted
      obtain ⟨text, _, hdenoted⟩ := Option.bind_eq_some_iff.mp hdenoted
      exact hread text value hdenoted
    | none =>
      rw [hembedded] at hdenoted
      obtain ⟨pairs, hpairs, hobject⟩ := Option.bind_eq_some_iff.mp hdenoted
      have hentries : (Dict.ofList pairs).entries = [(embeddingKey, value)] :=
        Json.obj.inj (Option.some.inj hobject)
      have hkeys (key : String) : key ∈ pairs.map Prod.fst ↔ key = embeddingKey := by
        rw [← Dict.mem_keys_ofList, Dict.keys, hentries]
        exact List.mem_singleton
      have hnone := embedded?_eq_none_iff.mp hembedded
      rw [entriesToJson?_eq_mapM] at hpairs
      cases entries with
      | nil =>
        cases hpairs
        exact List.not_mem_nil ((hkeys embeddingKey).mpr rfl)
      | cons entry rest =>
        rw [List.mapM_cons] at hpairs
        obtain ⟨pair, hpair, hpairs⟩ := Option.bind_eq_some_iff.mp hpairs
        obtain ⟨more, _, hpairs⟩ := Option.bind_eq_some_iff.mp hpairs
        cases hpairs
        obtain ⟨key, hkey, hpair⟩ := Option.bind_eq_some_iff.mp hpair
        obtain ⟨held, _, hpair⟩ := Option.bind_eq_some_iff.mp hpair
        cases hpair
        refine hnone entry rfl ?_
        rw [hkey, (hkeys key).mp (.head _)]
  | num n => cases n <;> cases hdenoted
  | str s => cases s <;> cases hdenoted
  | arr items =>
    obtain ⟨_, _, hdenoted⟩ := Option.bind_eq_some_iff.mp hdenoted
    obtain ⟨_, _, hdenoted⟩ := Option.bind_eq_some_iff.mp hdenoted
    cases hdenoted
  | _ => cases hdenoted

end Source

namespace Json

/-- No text denotes an object with the key of an embedded text alone. -/
theorem ofTextWithin?_ne_embedding (depth : Nat) : ∀ (text : String) (value : Json),
    ofTextWithin? depth text ≠ some (.obj [(Source.embeddingKey, value)]) := by
  induction depth with
  | zero => nofun
  | succ depth ih =>
    intro text value hdenoted
    obtain ⟨source, _, hdenoted⟩ := Option.bind_eq_some_iff.mp hdenoted
    exact Source.toJsonWith?_ne_embedding ih source value hdenoted

/-- A value that is read as itself however deep it is. -/
def ReadsAsItself (value : Json) : Prop := value.toSource.toJson? none = some value

/-- An array is read as itself if its items are. -/
theorem readsAsItself_arr_iff {items : List Json} :
    (arr items).ReadsAsItself ↔ ∀ item ∈ items, item.ReadsAsItself := by
  have hitems : (arr items).toSource.toJson? none =
      (items.mapM fun item : Json => item.toSource.toJson? none).map arr := by
    rw [Source.toJson?, isView_toSource.arr, Source.toJsonWith?, Room.enter?, Option.bind_eq_bind,
      Option.bind_some, Source.itemsToJson?_eq_mapM, List.mapM_map]
    exact (Option.map_eq_bind).symm
  rw [ReadsAsItself, hitems, Option.map_eq_some_iff]
  constructor
  · rintro ⟨read, hread, ⟨⟩⟩
    exact List.map_inj_left.mp (mapM_eq_some_iff.mp hread)
  · intro hall
    exact ⟨items, mapM_eq_some_iff.mpr (List.map_congr_left hall), rfl⟩

/-- What an object is read as that does not start with the key of an embedded text. -/
theorem toJson?_obj_iff {entries : List (String × Json)} {value : Json}
    (hfirst : ∀ entry ∈ entries.head?, entry.1 ≠ Source.embeddingKey) :
    (obj entries).toSource.toJson? none = some value ↔ ∃ pairs : List (String × Json),
      entries.map (fun entry => (entry.1, entry.2.toSource.toJson? none)) =
        pairs.map (fun pair => (pair.1, some pair.2)) ∧ object pairs = value := by
  have hnone : Source.embedded? (viewEntries toSource entries) = none := by
    rw [Source.embedded?_eq_none_iff]
    cases entries with
    | nil => nofun
    | cons entry rest =>
      rintro _ ⟨⟩ hkey
      exact hfirst entry rfl (Option.some.inj hkey)
  rw [Source.toJson?, isView_toSource.obj, Source.toJsonWith?, Room.enter?, Option.bind_eq_bind,
    Option.bind_some, hnone]
  dsimp only
  rw [Source.entriesToJson?_eq_mapM]
  refine Option.bind_eq_some_iff.trans (exists_congr fun pairs => and_congr ?_ Option.some_inj)
  exact Decoder.mapM_entries Decoder.json toSource none entries pairs

/-- An object that starts with the key of an embedded text is read as what the text denotes, if as
anything. -/
theorem not_readsAsItself_of_embedding (value : Json) (rest : List (String × Json)) :
    ¬(obj ((Source.embeddingKey, value) :: rest)).ReadsAsItself := by
  intro hread
  rw [ReadsAsItself, Source.toJson?, isView_toSource.obj, Source.toJsonWith?, Room.enter?,
    Option.bind_eq_bind, Option.bind_some] at hread
  cases rest with
  | cons entry rest =>
    have hembedded : Source.embedded?
        (viewEntries toSource ((Source.embeddingKey, value) :: entry :: rest)) = some none := by
      cases value <;> rfl
    rw [hembedded] at hread
    cases hread
  | nil =>
    cases value with
    | str text => exact ofTextWithin?_ne_embedding (text.length + 1) text (.str text) hread
    | _ => cases hread

/-- An object is read as itself if its entries are, their keys are in order, and the first is not
the one for embedded texts. -/
theorem readsAsItself_obj_iff {entries : List (String × Json)} :
    (obj entries).ReadsAsItself ↔ (entries.Pairwise fun a b => a.1 < b.1) ∧
      (∀ entry ∈ entries.head?, entry.1 ≠ Source.embeddingKey) ∧
      ∀ entry ∈ entries, entry.2.ReadsAsItself := by
  by_cases hfirst : ∀ entry ∈ entries.head?, entry.1 ≠ Source.embeddingKey
  · rw [ReadsAsItself, toJson?_obj_iff hfirst]
    constructor
    · rintro ⟨pairs, hread, hobject⟩
      have hentries : (Dict.ofList pairs).entries = entries := obj.inj hobject
      have hsorted : entries.Pairwise fun a b => a.1 < b.1 :=
        hentries ▸ (Dict.ofList pairs).sorted
      have hkeys := congrArg (List.map Prod.fst) hread
      rw [List.map_map, List.map_map] at hkeys
      have hpairs : pairs.Pairwise fun a b => a.1 < b.1 := by
        have hrow : (entries.map Prod.fst).Pairwise (· < ·) := List.pairwise_map.mpr hsorted
        exact List.pairwise_map.mp (hkeys ▸ hrow)
      obtain rfl : pairs = entries := (Dict.entries_ofList hpairs).symm.trans hentries
      refine ⟨hsorted, hfirst, fun entry hentry => ?_⟩
      exact congrArg Prod.snd (List.map_inj_left.mp hread entry hentry)
    · rintro ⟨hsorted, -, hvalues⟩
      refine ⟨entries, List.map_congr_left fun entry hentry => ?_, ?_⟩
      · exact congrArg (entry.1, ·) (hvalues entry hentry)
      · rw [object, Dict.entries_ofList hsorted]
  · refine iff_of_false ?_ fun h => hfirst h.2.1
    cases entries with
    | nil => exact absurd nofun hfirst
    | cons entry rest =>
      obtain ⟨key, value⟩ := entry
      obtain rfl : key = Source.embeddingKey := by simpa using hfirst
      exact not_readsAsItself_of_embedding value rest

/-- Exactly the values in which no object starts with the key of an embedded text are read as
themselves. -/
theorem readsAsItself_iff_isPlain (value : Json) : value.ReadsAsItself ↔ value.IsPlain := by
  induction value using induct with
  | null => exact iff_of_true rfl .null
  | bool b => exact iff_of_true rfl (.bool b)
  | num n => exact iff_of_true rfl (.num n)
  | str s => exact iff_of_true rfl (.str s)
  | arr items ih =>
    rw [readsAsItself_arr_iff]
    refine ⟨fun h => .arr fun item hitem => (ih item hitem).mp (h item hitem), ?_⟩
    rintro (_ | _ | _ | _ | hall)
    exact fun item hitem => (ih item hitem).mpr (hall item hitem)
  | obj entries ih =>
    rw [readsAsItself_obj_iff]
    constructor
    · rintro ⟨hsorted, hfirst, hvalues⟩
      exact .obj hsorted hfirst fun entry hentry => (ih entry hentry).mp (hvalues entry hentry)
    · rintro (_ | _ | _ | _ | _ | ⟨hsorted, hfirst, hvalues⟩)
      exact ⟨hsorted, hfirst, fun entry hentry => (ih entry hentry).mpr (hvalues entry hentry)⟩

end Json

end AgentSync
