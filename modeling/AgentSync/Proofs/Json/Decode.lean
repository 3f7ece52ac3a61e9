import AgentSync.Json.Decode
import AgentSync.Proofs.Dict
import AgentSync.Proofs.Json.RoundTrip

namespace AgentSync

/-- A reading of every item answers the readings of the items. -/
theorem map_eq_of_mapM {α β : Type} {f : α → Option β} {xs : List α} :
    ∀ {ys : List β}, xs.mapM f = some ys → xs.map f = ys.map some := by
  induction xs with
  | nil =>
    intro ys hread
    cases hread
    rfl
  | cons x xs ih =>
    intro ys hread
    rw [List.mapM_cons] at hread
    obtain ⟨y, hfirst, hread⟩ := Option.bind_eq_some_iff.mp hread
    obtain ⟨more, hrest, hread⟩ := Option.bind_eq_some_iff.mp hread
    cases hread
    rw [List.map_cons, List.map_cons, hfirst, ih hrest]

/-- A reading of every item answers nothing else than the readings of the items. -/
theorem mapM_eq_some_iff {α β : Type} {f : α → Option β} {xs : List α} {ys : List β} :
    xs.mapM f = some ys ↔ xs.map f = ys.map some := by
  refine ⟨map_eq_of_mapM, fun hmap => ?_⟩
  induction xs generalizing ys with
  | nil => rw [List.map_eq_nil_iff.mp hmap.symm]; rfl
  | cons x xs ih =>
    cases ys with
    | nil => cases hmap
    | cons y ys =>
      obtain ⟨hfirst, hrest⟩ := List.cons.inj hmap
      rw [List.mapM_cons, hfirst, ih hrest]
      rfl

/-- Items are not read if one of them cannot be. -/
theorem mapM_eq_none_iff {α β : Type} {f : α → Option β} {xs : List α} :
    xs.mapM f = none ↔ ∃ x ∈ xs, f x = none := by
  induction xs with
  | nil => simp
  | cons x xs ih =>
    rw [List.mapM_cons]
    cases hfirst : f x with
    | none => simp [hfirst]
    | some y =>
      cases hrest : xs.mapM f <;> simp_all

namespace Json

/-- Entries whose values are seen as contents. -/
def viewEntries (seen : Json → Source) (entries : List (String × Json)) :
    List (Option String × Source) :=
  entries.map fun entry => (some entry.1, seen entry.2)

/-- A way to see values as the content of a text, where texts, arrays and objects are what they
are. -/
structure IsView (seen : Json → Source) : Prop where
  str : ∀ text, seen (.str text) = .str (some text)
  arr : ∀ items, seen (.arr items) = .arr (items.map seen)
  obj : ∀ entries, seen (.obj entries) = .obj (viewEntries seen entries)

/-- Values seen as the content of their compact text. -/
theorem isView_content : IsView content where
  str _ := rfl
  arr items := by rw [content, itemsContent_eq_map]
  obj entries := by rw [content, entriesContent_eq_map, viewEntries]

theorem itemsToSource_eq_map (items : List Json) : itemsToSource items = items.map toSource := by
  induction items with
  | nil => rfl
  | cons item rest ih => rw [itemsToSource, ih, List.map_cons]

theorem entriesToSource_eq_map (entries : List (String × Json)) :
    entriesToSource entries = viewEntries toSource entries := by
  induction entries with
  | nil => rfl
  | cons entry rest ih => rw [entriesToSource, ih, viewEntries, viewEntries, List.map_cons]

/-- Values seen as what they are. -/
theorem isView_toSource : IsView toSource where
  str _ := rfl
  arr items := by rw [toSource, itemsToSource_eq_map]
  obj entries := by rw [toSource, entriesToSource_eq_map]

end Json

namespace Decoder

/-- What an object says about a field, its value seen as content. -/
def slotOf (seen : Json → Source) (entries : Dict Json) (field : String) : Slot :=
  match entries.get? field with
  | some value => .given (seen value)
  | none => .omitted

/-- The entries of a field are what the map holds for it, since no key of a map is there twice. -/
theorem entry?_view (seen : Json → Source) (entries : Dict Json) (field : String) :
    entry? field (Json.viewEntries seen entries.entries) =
      ((entries.get? field).map seen).toList := by
  obtain ⟨entries, hsorted⟩ := entries
  unfold Json.viewEntries
  induction entries with
  | nil => rfl
  | cons entry rest ih =>
    obtain ⟨hfirst, hrest⟩ := List.pairwise_cons.mp hsorted
    have hlater := ih hrest
    unfold entry? Dict.get? at hlater ⊢
    rw [List.map_cons, List.find?_cons, List.filter_cons]
    by_cases hfield : entry.1 = field
    · have hnone : rest.find? (fun other => other.1 == field) = none := by
        rw [List.find?_eq_none]
        intro other hother heq
        rw [beq_iff_eq, ← hfield] at heq
        exact absurd (hfirst other hother) (heq ▸ String.lt_irrefl _)
      rw [hnone] at hlater
      simpa [hfield] using hlater
    · have hother : (entry.1 == field) = false := by simpa using hfield
      simpa [hfield, hother] using hlater

/-- The fields of an object, each read off its entry. -/
theorem objectSlots_view (seen : Json → Source) (entries : Dict Json) (names : List String) :
    objectSlots names (Json.viewEntries seen entries.entries) =
      some (names.map (slotOf seen entries)) := by
  have hkeys : (Json.viewEntries seen entries.entries).all (·.1.isSome) = true := by
    rw [Json.viewEntries, List.all_map, List.all_eq_true]
    exact fun _ _ => rfl
  rw [objectSlots, if_pos hkeys]
  induction names with
  | nil => rfl
  | cons field names ih =>
    rw [List.mapM_cons, ih, entry?_view, List.map_cons, slotOf]
    cases entries.get? field <;> rfl

/-- A reading of entries keeps the keys and reads each value. -/
theorem mapM_entries {α : Type} (value : Decoder α) (seen : Json → Source) (room : Room)
    (entries : List (String × Json)) (pairs : List (String × α)) :
    (Json.viewEntries seen entries).mapM (fun (key, source) => do
        return ((← key), (← value room source))) = some pairs ↔
      entries.map (fun entry => (entry.1, value room (seen entry.2))) =
        pairs.map fun pair => (pair.1, some pair.2) := by
  rw [mapM_eq_some_iff, Json.viewEntries, List.map_map]
  induction entries generalizing pairs with
  | nil => cases pairs <;> simp
  | cons entry rest ih =>
    cases pairs with
    | nil => simp
    | cons pair more =>
      rw [List.map_cons, List.map_cons, List.map_cons, List.map_cons, List.cons.injEq, ih,
        List.cons.injEq]
      refine and_congr_left fun _ => ?_
      dsimp only [Function.comp_apply]
      cases value room (seen entry.2) with
      | none => simp
      | some read => simp [Prod.ext_iff]

/-- A map is read entry by entry. -/
theorem dict_view {α : Type} (value : Decoder α) (seen : Json → Source) {room inner : Room}
    (hroom : room.enter? = some inner) (entries : Dict Json) (read : Dict α) :
    dict value room (.obj (Json.viewEntries seen entries.entries)) = some read ↔
      entries.map (fun column => value inner (seen column)) = read.map some := by
  have hsame : entries.map (fun column => value inner (seen column)) = read.map some ↔
      entries.entries.map (fun entry => (entry.1, value inner (seen entry.2))) =
        read.entries.map fun pair => (pair.1, some pair.2) :=
    ⟨congrArg Dict.entries, fun hentries => Dict.ext hentries⟩
  unfold dict
  rw [hroom, hsame]
  dsimp only [Option.bind_eq_bind, Option.bind_some]
  rw [Option.bind_eq_some_iff]
  constructor
  · rintro ⟨pairs, hpairs, ⟨⟩⟩
    have hread := (mapM_entries value seen inner entries.entries pairs).mp hpairs
    have hkeys := congrArg (List.map Prod.fst) hread
    rw [List.map_map, List.map_map] at hkeys
    have hsorted : pairs.Pairwise fun a b => a.1 < b.1 := by
      have hrow : (entries.entries.map Prod.fst).Pairwise (· < ·) :=
        List.pairwise_map.mpr entries.sorted
      exact List.pairwise_map.mp (hkeys ▸ hrow)
    rw [Dict.entries_ofList hsorted, hread]
  · intro hread
    refine ⟨read.entries, (mapM_entries value seen inner _ _).mpr hread, ?_⟩
    exact congrArg some (Dict.ext (Dict.entries_ofList read.sorted))

/-- What a map is read as holds, at each key, what its value is read as. -/
theorem get?_of_dict_view {α : Type} {value : Decoder α} {seen : Json → Source}
    {room inner : Room} (hroom : room.enter? = some inner) {entries : Dict Json} {read : Dict α}
    (hread : dict value room (.obj (Json.viewEntries seen entries.entries)) = some read)
    {key : String} {column : Json} (hcolumn : entries.get? key = some column) :
    read.get? key = value inner (seen column) := by
  have hheld := congrArg (Dict.get? · key) ((dict_view value seen hroom entries read).mp hread)
  simp only [Dict.get?_map, hcolumn, Option.map_some] at hheld
  cases hvalue : read.get? key with
  | none => simp [hvalue] at hheld
  | some held => simpa [hvalue] using hheld.symm

/-- A column of text is read as that text. -/
theorem row_content_text {room inner : Room} (hroom : room.enter? = some inner) {row image : Row}
    (hread : Decoder.row room (Json.ofRow row).content = some image) {column text : String}
    (htext : row.get? column = some (.str text)) : image.get? column = some (.str text) := by
  rw [Json.ofRow, Json.isView_content.obj] at hread
  exact get?_of_dict_view hroom hread htext

end Decoder

end AgentSync
