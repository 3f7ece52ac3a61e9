import AgentSync.Labels
import AgentSync.Proofs.Dict
import AgentSync.Proofs.Text.Blank

namespace AgentSync.Labels

open Text (isBlank Trimmed Padded)

/-- A label that its piece spells out: no character of it ends the piece or the key, and trimming
takes nothing of it. -/
structure Plain (label : String × String) : Prop where
  key_ne : label.1 ≠ ""
  key_chars : '=' ∉ label.1.toList ∧ ',' ∉ label.1.toList
  value_chars : ',' ∉ label.2.toList
  key_trimmed : Trimmed label.1.toList
  value_trimmed : Trimmed label.2.toList

/-- A piece that is no label: it has no `=`, or only blanks before the first one. -/
def Idle (piece : List Char) : Prop :=
  ',' ∉ piece ∧
    ('=' ∉ piece ∨ ∃ key value, piece = key ++ '=' :: value ∧ ∀ c ∈ key, isBlank c = true)

/-- Pieces that write labels one after the other, with any blanks around keys and values and any
idle pieces in between. -/
inductive Writes : List (List Char) → List (String × String) → Prop
  | nil : Writes [] []
  | label {pieces labels key value left right} (hkey : Padded key.toList left)
      (hvalue : Padded value.toList right) (hrest : Writes pieces labels) :
      Writes ((left ++ '=' :: right) :: pieces) ((key, value) :: labels)
  | idle {pieces labels piece} (hpiece : Idle piece) (hrest : Writes pieces labels) :
      Writes (piece :: pieces) labels

/-- A piece is taken apart at its first equals sign; without a key it is no label. -/
theorem ofPiece?_append {key : List Char} (hkey : '=' ∉ key) (value : List Char) :
    ofPiece? (key ++ '=' :: value) =
      if Text.trim key = [] then none
      else some (String.ofList (Text.trim key), String.ofList (Text.trim value)) := by
  have hall : ∀ c ∈ key, decide (c ≠ '=') = true := by
    intro c hc
    refine decide_eq_true fun heq => ?_
    exact hkey (heq ▸ hc)
  unfold ofPiece?
  rw [List.takeWhile_append_of_pos hall, List.dropWhile_append_of_pos hall]
  simp

theorem ofPiece?_of_not_mem {piece : List Char} (hpiece : '=' ∉ piece) : ofPiece? piece = none := by
  have hnil : piece.dropWhile (· ≠ '=') = [] := by
    refine List.dropWhile_eq_nil_iff.mpr fun c hc => decide_eq_true fun heq => ?_
    exact hpiece (heq ▸ hc)
  rw [ofPiece?, hnil]

/-- Idle pieces are skipped. -/
theorem ofPiece?_of_idle {piece : List Char} (hpiece : Idle piece) : ofPiece? piece = none := by
  rcases hpiece with ⟨-, hnone | ⟨key, value, rfl, hblank⟩⟩
  · exact ofPiece?_of_not_mem hnone
  · have hkey : '=' ∉ key := fun hmem => absurd (hblank '=' hmem) (by decide)
    have hpadded : Padded [] key := ⟨[], key, by simp, hblank, rfl⟩
    rw [ofPiece?_append hkey, hpadded.trim_eq ⟨by simp, by simp⟩, if_pos rfl]

/-- Blanks around a text bring in no character that is none. -/
theorem not_mem_of_padded {text cs : List Char} {c : Char} (hpadded : Padded text cs)
    (hc : isBlank c = false) (htext : c ∉ text) : c ∉ cs := by
  obtain ⟨before, after, hbefore, hafter, rfl⟩ := hpadded
  have hblank (blanks : List Char) (h : ∀ d ∈ blanks, isBlank d = true) : c ∉ blanks := by
    intro hmem
    rw [h c hmem] at hc
    cases hc
  simp [hblank before hbefore, hblank after hafter, htext]

/-- A plain label is read back, whatever blanks stand around its key and value. -/
theorem ofPiece?_label {key value : String} {left right : List Char} (hplain : Plain (key, value))
    (hleft : Padded key.toList left) (hright : Padded value.toList right) :
    ofPiece? (left ++ '=' :: right) = some (key, value) := by
  have hmark : '=' ∉ left := not_mem_of_padded hleft (by decide) hplain.key_chars.1
  have hne : key.toList ≠ [] := by simpa using hplain.key_ne
  rw [ofPiece?_append hmark, hleft.trim_eq hplain.key_trimmed,
    hright.trim_eq hplain.value_trimmed, if_neg hne, String.ofList_toList, String.ofList_toList]

/-- The pieces give back the labels, in the order in which they were written. -/
theorem Writes.filterMap_ofPiece? {pieces : List (List Char)} {labels : List (String × String)}
    (hwrites : Writes pieces labels) (hplain : ∀ label ∈ labels, Plain label) :
    pieces.filterMap ofPiece? = labels := by
  induction hwrites with
  | nil => rfl
  | label hkey hvalue _ ih =>
    obtain ⟨hfirst, hrest⟩ := List.forall_mem_cons.mp hplain
    rw [List.filterMap_cons_some (ofPiece?_label hfirst hkey hvalue), ih hrest]
  | idle hpiece _ ih => rw [List.filterMap_cons_none (ofPiece?_of_idle hpiece), ih hplain]

/-- No piece holds a comma, so the text is taken apart where it was put together. -/
theorem Writes.not_mem_piece {pieces : List (List Char)} {labels : List (String × String)}
    (hwrites : Writes pieces labels) (hplain : ∀ label ∈ labels, Plain label) :
    ∀ piece ∈ pieces, ',' ∉ piece := by
  induction hwrites with
  | nil => exact fun _ => nofun
  | label hkey hvalue _ ih =>
    obtain ⟨hfirst, hrest⟩ := List.forall_mem_cons.mp hplain
    have hleft := not_mem_of_padded hkey (by decide) hfirst.key_chars.2
    have hright := not_mem_of_padded hvalue (by decide) hfirst.value_chars
    refine List.forall_mem_cons.mpr ⟨?_, ih hrest⟩
    simp [hleft, hright]
  | idle hpiece _ ih => exact List.forall_mem_cons.mpr ⟨hpiece.1, ih hplain⟩

/-- A text of pieces is read piece by piece, and later labels replace earlier ones. -/
theorem parse_intercalate {pieces : List (List Char)} (hpieces : ∀ piece ∈ pieces, ',' ∉ piece) :
    parse (String.ofList ([','].intercalate pieces)) = Dict.ofList (pieces.filterMap ofPiece?) := by
  rw [parse, String.toList_ofList]
  cases pieces with
  -- no pieces make the empty text, which is split into one piece that is no label
  | nil => rfl
  | cons piece rest =>
    rw [Text.splitOn_eq, List.splitOn_intercalate ',' hpieces (List.cons_ne_nil _ _)]

/-- Labels are read back from pieces that write them in any order. -/
theorem parse_of_writes {labels : Dict String} {pieces : List (List Char)}
    {entries : List (String × String)} (hplain : ∀ label ∈ labels.entries, Plain label)
    (hperm : entries.Perm labels.entries) (hwrites : Writes pieces entries) :
    parse (String.ofList ([','].intercalate pieces)) = labels := by
  have hentries : ∀ label ∈ entries, Plain label :=
    fun label hlabel => hplain label (hperm.mem_iff.mp hlabel)
  rw [parse_intercalate (hwrites.not_mem_piece hentries), hwrites.filterMap_ofPiece? hentries,
    Dict.ofList_of_perm hperm]

/-- What is read from a piece is a plain label. -/
theorem plain_of_ofPiece? {piece : List Char} {label : String × String} (hpiece : ',' ∉ piece)
    (hlabel : ofPiece? piece = some label) : Plain label := by
  by_cases hmark : '=' ∈ piece
  · obtain ⟨key, value, rfl, hkey⟩ := List.eq_append_cons_of_mem hmark
    rw [ofPiece?_append hkey] at hlabel
    split at hlabel
    · cases hlabel
    · next hne =>
      cases hlabel
      rw [List.mem_append, List.mem_cons, not_or, not_or] at hpiece
      refine ⟨by simpa using hne, ?_, ?_, ?_, ?_⟩
      · rw [String.toList_ofList]
        exact ⟨mt Text.mem_of_mem_trim hkey, mt Text.mem_of_mem_trim hpiece.1⟩
      · rw [String.toList_ofList]
        exact mt Text.mem_of_mem_trim hpiece.2.2
      · rw [String.toList_ofList]
        exact Text.trimmed_trim key
      · rw [String.toList_ofList]
        exact Text.trimmed_trim value
  · rw [ofPiece?_of_not_mem hmark] at hlabel
    cases hlabel

/-- Whatever text is read, the labels are plain. -/
theorem plain_parse (text : String) : ∀ label ∈ (parse text).entries, Plain label := by
  intro label hlabel
  obtain ⟨piece, hpiece, hread⟩ := List.mem_filterMap.mp (Dict.mem_of_mem_ofList hlabel)
  exact plain_of_ofPiece? (Text.not_mem_of_mem_splitOn hpiece) hread

/-- A rendering writes each label without blanks. -/
theorem writes_render (entries : List (String × String)) :
    Writes (entries.map fun label => label.1.toList ++ '=' :: label.2.toList) entries := by
  induction entries with
  | nil => exact .nil
  | cons label rest ih => exact .label (.refl _) (.refl _) ih

theorem render_eq (labels : Dict String) :
    render labels = String.ofList ([','].intercalate
      (labels.entries.map fun label => label.1.toList ++ '=' :: label.2.toList)) := by
  rw [← String.toList_inj, render, String.toList_ofList, String.toList_intercalate, List.map_map]
  refine congrArg _ (List.map_congr_left fun label _ => ?_)
  simp

/-- Plain labels are read back from their rendering. -/
theorem parse_render {labels : Dict String} (hplain : ∀ label ∈ labels.entries, Plain label) :
    parse (render labels) = labels := by
  rw [render_eq]
  exact parse_of_writes hplain (.refl _) (writes_render labels.entries)

/-- Plain labels written in any order, with any blanks around keys and values and any pieces in
between that are no labels, are read back as they were; and reading any text whatsoever, rendering
what was read and reading that again changes nothing. -/
theorem parse_inverts_writing :
    (∀ (labels : Dict String) (entries : List (String × String)) (pieces : List (List Char)),
      (∀ label ∈ labels.entries, Plain label) → entries.Perm labels.entries →
      Writes pieces entries → parse (String.ofList ([','].intercalate pieces)) = labels) ∧
    ∀ text, parse (render (parse text)) = parse text :=
  ⟨fun _ _ _ hplain hperm hwrites => parse_of_writes hplain hperm hwrites,
    fun text => parse_render (plain_parse text)⟩

/-- Two labels among pieces that are none. -/
def scattered : List (List Char) :=
  [" region ".toList ++ '=' :: " eu-west ".toList, "broken".toList, "=x".toList,
    "env".toList ++ '=' :: "prod".toList]

theorem writes_scattered : Writes scattered [("region", "eu-west"), ("env", "prod")] := by
  have hside : ∀ c ∈ [' '], isBlank c = true := List.forall_mem_singleton.mpr (by decide)
  have hregion : Padded "region".toList " region ".toList := ⟨_, _, hside, hside, rfl⟩
  have hwest : Padded "eu-west".toList " eu-west ".toList := ⟨_, _, hside, hside, rfl⟩
  have hbroken : Idle "broken".toList := ⟨by decide, .inl (by decide)⟩
  have hkeyless : Idle "=x".toList := ⟨by decide, .inr ⟨[], ['x'], rfl, nofun⟩⟩
  exact .label hregion hwest (.idle hbroken (.idle hkeyless
    (.label (.refl _) (.refl _) .nil)))

theorem scattered_labels_read_back :
    Writes scattered [("region", "eu-west"), ("env", "prod")] ∧
    parse " region = eu-west ,broken,=x,env=prod" =
      Dict.ofList [("env", "prod"), ("region", "eu-west")] := by
  have htext : String.ofList ([','].intercalate scattered) =
      " region = eu-west ,broken,=x,env=prod" := rfl
  refine ⟨writes_scattered, ?_⟩
  rw [← htext]
  refine parse_inverts_writing.1 _ _ _ ?_ ?_ writes_scattered
  · have hentries : (Dict.ofList [("env", "prod"), ("region", "eu-west")]).entries =
        [("env", "prod"), ("region", "eu-west")] := by decide
    rw [hentries]
    refine List.forall_mem_cons.mpr ⟨?_, List.forall_mem_singleton.mpr ?_⟩ <;>
      refine ⟨by decide, by decide, by decide, ?_, ?_⟩ <;>
      constructor <;> simp [isBlank]
  · decide

end AgentSync.Labels
