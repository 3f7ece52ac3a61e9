import AgentSync.Http.Form
import AgentSync.Proofs.Http.Percent

namespace AgentSync.Form

/-- What a name or a value is made of. -/
theorem mem_encodePart {cs : List Char} {x : Char} (hmem : x ∈ encodePart cs) :
    x = '+' ∨ keeps x = true ∨ x = '%' ∨ ∃ n < 16, x = Percent.hexDigit n := by
  obtain ⟨c, _, hx⟩ := List.mem_flatMap.mp hmem
  split at hx
  · exact .inl (List.mem_singleton.mp hx)
  split at hx
  · next hkept =>
    cases List.mem_singleton.mp hx
    exact .inr (.inl hkept)
  · exact .inr (.inr (Percent.mem_escapeChar hx))

/-- Neither a name nor a value holds what separates them. -/
theorem not_mem_encodePart {x : Char} (hx : x = '&' ∨ x = '=') (cs : List Char) :
    x ∉ encodePart cs := by
  have hdigits : ∀ n < 16, Percent.hexDigit n ≠ '&' ∧ Percent.hexDigit n ≠ '=' := by decide
  intro hmem
  rcases mem_encodePart hmem with hplus | hkept | hpercent | ⟨n, hn, hdigit⟩
  · rcases hx with rfl | rfl <;> cases hplus
  · rcases hx with rfl | rfl <;> cases hkept
  · rcases hx with rfl | rfl <;> cases hpercent
  · rcases hx with rfl | rfl
    · exact (hdigits n hn).1 hdigit.symm
    · exact (hdigits n hn).2 hdigit.symm

/-- Plus signs are blanks again before anything else is read. -/
def blankOfPlus (c : Char) : Char := if c = '+' then ' ' else c

/-- No escape holds a plus sign, so reading plus signs as blanks leaves escapes alone. -/
theorem map_blankOfPlus_escapeChar (c : Char) :
    (Percent.escapeChar c).map blankOfPlus = Percent.escapeChar c := by
  have hdigits : ∀ n < 16, Percent.hexDigit n ≠ '+' := by decide
  have hsame : ∀ x ∈ Percent.escapeChar c, blankOfPlus x = id x := by
    intro x hx
    refine if_neg fun hplus => ?_
    rcases Percent.mem_escapeChar hx with rfl | ⟨n, hn, rfl⟩
    · cases hplus
    · exact hdigits n hn hplus
  rw [List.map_congr_left hsame, List.map_id]

/-- Names and values are read back. -/
theorem decodePart_encodePart (cs : List Char) : decodePart (encodePart cs) = cs := by
  have hwrite : ∀ c rest, Percent.decodeBytes
      ((if c = ' ' then ['+'] else if keeps c then [c] else Percent.escapeChar c).map blankOfPlus ++
        rest) = String.utf8EncodeChar c ++ Percent.decodeBytes rest := by
    intro c rest
    split
    · next hblank =>
      rw [hblank]
      exact Percent.decodeBytes_cons (by decide) rest
    split
    · next hkept =>
      have hplus : c ≠ '+' := by
        rintro rfl
        cases hkept
      have hpercent : c ≠ '%' := by
        rintro rfl
        cases hkept
      rw [List.map_cons, List.map_nil, blankOfPlus, if_neg hplus]
      exact Percent.decodeBytes_cons hpercent rest
    · rw [map_blankOfPlus_escapeChar]
      exact Percent.decodeBytes_escapes (String.utf8EncodeChar c) rest
  change Utf8.decodeLossy (Percent.decodeBytes ((encodePart cs).map blankOfPlus)) = cs
  rw [encodePart, List.map_flatMap, Percent.decodeBytes_flatMap cs hwrite, Utf8.decodeLossy_encode]

/-- The pieces of a text that begins with a piece. -/
theorem pieces_append {piece : List Char} (hpiece : '&' ∉ piece) (rest : List Char) :
    pieces (piece ++ '&' :: rest) = piece :: pieces rest := by
  induction piece with
  | nil => rfl
  | cons c cs ih =>
    rw [List.mem_cons, not_or] at hpiece
    rw [List.cons_append, pieces, ih hpiece.2]
    exact Ne.symm hpiece.1

theorem pieces_eq_singleton {piece : List Char} (hpiece : '&' ∉ piece) :
    pieces piece = [piece] := by
  induction piece with
  | nil => rfl
  | cons c cs ih =>
    rw [List.mem_cons, not_or] at hpiece
    rw [pieces, ih hpiece.2]
    exact Ne.symm hpiece.1

/-- Fields are taken apart at the ampersands that were put between them, as long as none holds one
itself. -/
theorem pieces_intercalate {parts : List (List Char)} (hne : parts ≠ [])
    (hparts : ∀ part ∈ parts, '&' ∉ part) : pieces (['&'].intercalate parts) = parts := by
  induction parts with
  | nil => exact absurd rfl hne
  | cons part rest ih =>
    obtain ⟨hpart, hrest⟩ := List.forall_mem_cons.mp hparts
    cases rest with
    | nil =>
      rw [List.intercalate_singleton]
      exact pieces_eq_singleton hpart
    | cons next more =>
      rw [List.intercalate_cons_cons, List.append_assoc]
      exact (pieces_append hpart _).trans (congrArg _ (ih (List.cons_ne_nil _ _) hrest))

/-- One field is read back, the equals sign between its name and value being the first in the text.
-/
theorem decodeField_encodeField (field : String × String) :
    decodeField (encodeField field) = field := by
  have hname : ∀ c ∈ encodePart field.1.toList, decide (c ≠ '=') = true := by
    intro c hc
    refine decide_eq_true fun heq => ?_
    exact not_mem_encodePart (.inr rfl) field.1.toList (heq ▸ hc)
  unfold decodeField encodeField
  rw [List.takeWhile_append_of_pos hname, List.dropWhile_append_of_pos hname]
  simp [decodePart_encodePart]

/-- Fields are read back, in their order. -/
theorem decode_encode (fields : List (String × String)) : decode (encode fields) = fields := by
  have hparts : ∀ part ∈ fields.map encodeField, '&' ∉ part := by
    intro part hpart hmem
    obtain ⟨field, _, rfl⟩ := List.mem_map.mp hpart
    rcases List.mem_append.mp hmem with hname | hvalue
    · exact not_mem_encodePart (.inl rfl) _ hname
    · rcases List.mem_cons.mp hvalue with heq | hvalue
      · cases heq
      · exact not_mem_encodePart (.inl rfl) _ hvalue
  have htext : (encode fields).toList = ['&'].intercalate (fields.map encodeField) := by
    rw [encode, String.toList_intercalate, List.map_map]
    simp [Function.comp_def]
  unfold decode
  by_cases hnone : fields = []
  · rw [htext, hnone]
    rfl
  have hfilled : ∀ part ∈ fields.map encodeField, (!part.isEmpty) = true := by
    intro part hpart
    obtain ⟨field, _, rfl⟩ := List.mem_map.mp hpart
    simp [encodeField]
  rw [htext, pieces_intercalate (by simpa using hnone) hparts, List.filter_eq_self.mpr hfilled,
    List.map_map]
  simp [Function.comp_def, decodeField_encodeField]

end AgentSync.Form
