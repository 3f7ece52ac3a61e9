import AgentSync.Proofs.Json.Number
import AgentSync.Proofs.Json.Text

namespace AgentSync

/-- What a number is read back as; nothing if it is too large. -/
def Number.reread? (n : Number) : Option Number :=
  (Reader.readLiteral? (Writer.number n)).bind fun (literal, _) => literal.number?

namespace Json

mutual

/-- The content of a value's compact text. -/
def content : Json → Source
  | .null => .null
  | .bool b => .bool b
  | .num n => .num n.reread?
  | .str s => .str (some s)
  | .arr items => .arr (itemsContent items)
  | .obj entries => .obj (entriesContent entries)

def itemsContent : List Json → List Source
  | [] => []
  | item :: rest => content item :: itemsContent rest

def entriesContent : List (String × Json) → List (Option String × Source)
  | [] => []
  | (key, value) :: rest => (some key, content value) :: entriesContent rest

end

theorem itemsContent_eq_map (items : List Json) : itemsContent items = items.map content := by
  induction items with
  | nil => rfl
  | cons item rest ih => rw [itemsContent, ih, List.map_cons]

theorem entriesContent_eq_map (entries : List (String × Json)) :
    entriesContent entries = entries.map fun entry => (some entry.1, content entry.2) := by
  induction entries with
  | nil => rfl
  | cons entry rest ih => rw [entriesContent, ih, List.map_cons]

end Json

/-- The first character of a number. -/
theorem head_number (n : Number) :
    ∃ c cs, Writer.number n = c :: cs ∧ (c = '-' ∨ IsDigit c) := by
  obtain ⟨numeral, hvalid, htext⟩ := isNumeral_number n
  obtain ⟨c, cs, hcs⟩ := List.exists_cons_of_ne_nil hvalid.whole.1
  rw [← htext, Numeral.text, hcs]
  cases numeral.negative with
  | true => exact ⟨'-', _, rfl, .inl rfl⟩
  | false => exact ⟨c, _, rfl, .inr (hvalid.whole.2 c (hcs ▸ .head _))⟩

/-- A digit is not one of the other characters that a value can start with. -/
theorem ne_of_isDigit {c d : Char} (hc : IsDigit c) (hd : ¬IsDigit d) : c ≠ d := by
  rintro rfl
  exact hd hc

/-- The first character of a value: no blank, and none that closes. -/
theorem head_value (v : Json) : ∃ c cs, Writer.value v = c :: cs ∧
    Reader.isBlank c = false ∧ c ≠ ']' ∧ c ≠ '}' := by
  cases v with
  | null => exact ⟨'n', _, rfl, by decide⟩
  | bool b => cases b with
    | false => exact ⟨'f', _, rfl, by decide⟩
    | true => exact ⟨'t', _, rfl, by decide⟩
  | num n =>
    obtain ⟨c, cs, hcs, hc⟩ := head_number n
    refine ⟨c, cs, hcs, ?_⟩
    rcases hc with rfl | hdigit
    · decide
    · refine ⟨?_, ne_of_isDigit hdigit (by decide), ne_of_isDigit hdigit (by decide)⟩
      simp only [Reader.isBlank, Bool.or_eq_false_iff, beq_eq_false_iff_ne]
      exact ⟨⟨⟨ne_of_isDigit hdigit (by decide), ne_of_isDigit hdigit (by decide)⟩,
        ne_of_isDigit hdigit (by decide)⟩, ne_of_isDigit hdigit (by decide)⟩
  | str s => exact ⟨'"', _, rfl, by decide⟩
  | arr items => cases items with
    | nil => exact ⟨'[', _, rfl, by decide⟩
    | cons item rest => exact ⟨'[', _, rfl, by decide⟩
  | obj entries => cases entries with
    | nil => exact ⟨'{', _, rfl, by decide⟩
    | cons entry rest => exact ⟨'{', _, rfl, by decide⟩

namespace Reader

theorem skipBlank_cons {c : Char} (hc : isBlank c = false) (cs : List Char) :
    skipBlank (c :: cs) = c :: cs := by
  rw [skipBlank, hc, if_neg Bool.false_ne_true]

/-- No value starts with a blank. -/
theorem skipBlank_value (v : Json) (rest : List Char) :
    skipBlank (Writer.value v ++ rest) = Writer.value v ++ rest := by
  obtain ⟨c, cs, hcs, hc, _⟩ := head_value v
  rw [hcs]
  exact skipBlank_cons hc _

/-- The literal of a number is read to its end, and means the number. -/
theorem readLiteral?_number (n : Number) {rest : List Char} (hrest : Stops rest) :
    ∃ literal, readLiteral? (Writer.number n ++ rest) = some (literal, rest) ∧
      n.reread? = literal.number? := by
  obtain ⟨numeral, hvalid, htext⟩ := isNumeral_number n
  refine ⟨numeral.literal, ?_, ?_⟩
  · rw [← htext]
    exact hvalid.readLiteral? hrest
  · have halone := hvalid.readLiteral? stops_nil
    rw [List.append_nil, htext] at halone
    rw [Number.reread?, halone, Option.bind_some]

/-- A number is read back as the number of its literal. -/
theorem readValue_number (n : Number) (fuel : Nat) {rest : List Char} (hrest : Stops rest) :
    readValue (fuel + 1) (Writer.number n ++ rest) = some (.num n.reread?, rest) := by
  obtain ⟨literal, hread, hreread⟩ := readLiteral?_number n hrest
  have hskip := skipBlank_value (.num n) rest
  rw [Writer.value] at hskip
  obtain ⟨c, cs, hcs, hc⟩ := head_number n
  have hne {d : Char} (hd : d ≠ '-') (hdigit : ¬IsDigit d) : c ≠ d := by
    rintro rfl
    exact hc.elim hd hdigit
  rw [readValue, hskip]
  rw [hcs] at hread ⊢
  split
  · next heq => exact absurd (List.cons.inj heq).1 (hne (by decide) (by decide))
  · next heq => exact absurd (List.cons.inj heq).1 (hne (by decide) (by decide))
  · next heq => exact absurd (List.cons.inj heq).1 (hne (by decide) (by decide))
  · next heq => exact absurd (List.cons.inj heq).1 (hne (by decide) (by decide))
  · next heq => exact absurd (List.cons.inj heq).1 (hne (by decide) (by decide))
  · next heq => exact absurd (List.cons.inj heq).1 (hne (by decide) (by decide))
  · rw [hread, hreread]
    rfl

/-- With so many turns every value is read back; one takes two turns for each character but one. -/
def ReadsValues (fuel : Nat) : Prop :=
  ∀ (v : Json) (rest : List Char), 2 * (Writer.value v).length ≤ fuel + 1 → Stops rest →
    readValue fuel (Writer.value v ++ rest) = some (v.content, rest)

/-- With so many turns the items of every array are read back up to its bracket. -/
def ReadsItems (fuel : Nat) : Prop :=
  ∀ (item : Json) (more : List Json) (rest : List Char),
    2 * (Writer.value item ++ Writer.moreItems more).length ≤ fuel →
    readItems fuel (Writer.value item ++ Writer.moreItems more ++ rest) =
      some (item.content :: Json.itemsContent more, rest)

/-- With so many turns the entries of every object are read back up to its brace. -/
def ReadsEntries (fuel : Nat) : Prop :=
  ∀ (key : String) (value : Json) (more : List (String × Json)) (rest : List Char),
    2 * (Writer.quoted key ++ ':' :: Writer.value value ++ Writer.moreEntries more).length ≤ fuel →
    readEntries fuel
        (Writer.quoted key ++ ':' :: Writer.value value ++ Writer.moreEntries more ++ rest) =
      some ((some key, value.content) :: Json.entriesContent more, rest)

/-- Items are read back if the values in them are. By induction on the items. -/
theorem readsItems_succ {fuel : Nat} (hvalues : ReadsValues fuel) (hitems : ReadsItems fuel) :
    ReadsItems (fuel + 1) := by
  intro item more rest hfuel
  rw [List.length_append] at hfuel
  have hmore : 0 < (Writer.moreItems more).length := by
    cases more <;> simp [Writer.moreItems]
  have hstops : Stops (Writer.moreItems more ++ rest) := by
    cases more with
    | nil => exact stops_cons _ (.inr (.inl rfl))
    | cons next more => exact stops_cons _ (.inl rfl)
  have hitem := hvalues item (Writer.moreItems more ++ rest) (by omega) hstops
  rw [List.append_assoc, readItems, hitem, Option.bind_eq_bind, Option.bind_some]
  cases more with
  | nil => rfl
  | cons next more =>
    have hnext := hitems next more rest (by
      rw [Writer.moreItems, List.cons_append, List.length_cons] at hfuel
      omega)
    rw [Writer.moreItems, List.cons_append, List.cons_append]
    simp only [skipBlank_cons (c := ',') (by decide), hnext, Option.bind_eq_bind, Option.bind_some]
    rfl

/-- A key is read back up to the value behind its colon. -/
theorem readText_key (key : String) (rest : List Char) :
    ∃ tail, Writer.quoted key ++ ':' :: rest = '"' :: tail ∧
      readText tail = some (some key, ':' :: rest) := by
  refine ⟨key.toList.flatMap Writer.escape ++ '"' :: ':' :: rest, ?_, readText_quoted key _⟩
  simp [Writer.quoted]

/-- Entries are read back if the values in them are. By induction on the entries. -/
theorem readsEntries_succ {fuel : Nat} (hvalues : ReadsValues fuel)
    (hentries : ReadsEntries fuel) : ReadsEntries (fuel + 1) := by
  intro key value more rest hfuel
  rw [List.length_append, List.length_append, List.length_cons] at hfuel
  have hmore : 0 < (Writer.moreEntries more).length := by
    cases more <;> simp [Writer.moreEntries]
  have hstops : Stops (Writer.moreEntries more ++ rest) := by
    cases more with
    | nil => exact stops_cons _ (.inr (.inr rfl))
    | cons next more => exact stops_cons _ (.inl rfl)
  have hvalue := hvalues value (Writer.moreEntries more ++ rest) (by omega) hstops
  obtain ⟨tail, hquoted, hkey⟩ :=
    readText_key key (Writer.value value ++ (Writer.moreEntries more ++ rest))
  rw [List.append_assoc, List.append_assoc, List.cons_append, hquoted, readEntries,
    skipBlank_cons (by decide)]
  simp only [hkey, Option.bind_eq_bind, Option.bind_some, skipBlank_cons (c := ':') (by decide),
    hvalue]
  cases more with
  | nil => rfl
  | cons next more =>
    obtain ⟨nextKey, nextValue⟩ := next
    have hnext := hentries nextKey nextValue more rest (by
      rw [Writer.moreEntries, List.cons_append, List.cons_append, List.length_cons] at hfuel
      omega)
    rw [Writer.moreEntries, List.cons_append, List.cons_append, List.cons_append]
    simp only [skipBlank_cons (c := ',') (by decide), hnext, Option.bind_some]
    rfl

/-- A value is read back if the items and entries in it are, with less fuel. -/
theorem readsValues_succ {fuel : Nat} (hitems : ReadsItems fuel) (hentries : ReadsEntries fuel) :
    ReadsValues (fuel + 1) := by
  intro v rest hfuel hrest
  cases v with
  | null => rfl
  | bool b => cases b <;> rfl
  | num n => exact readValue_number n fuel hrest
  | str s =>
    have htext : Writer.value (.str s) ++ rest =
        '"' :: (s.toList.flatMap Writer.escape ++ '"' :: rest) := by
      simp [Writer.value, Writer.quoted]
    rw [htext, readValue, skipBlank_cons (by decide)]
    simp only [readText_quoted, Option.map_some]
    rfl
  | arr items =>
    cases items with
    | nil => rfl
    | cons item more =>
      rw [Writer.value, List.cons_append, List.length_cons] at hfuel
      have hinside := hitems item more rest (by omega)
      obtain ⟨c, cs, hcs, hblank, hbracket, _⟩ := head_value item
      rw [Writer.value, List.cons_append, List.cons_append, readValue, skipBlank_cons (by decide)]
      rw [hcs, List.cons_append, List.cons_append] at hinside ⊢
      simp only [skipBlank_cons hblank]
      split
      · next heq => exact absurd (List.cons.inj heq).1 hbracket
      · rw [hinside]
        rfl
  | obj entries =>
    cases entries with
    | nil => rfl
    | cons entry more =>
      obtain ⟨key, item⟩ := entry
      rw [Writer.value, List.cons_append, List.cons_append, List.length_cons] at hfuel
      have hinside := hentries key item more rest (by omega)
      rw [Writer.value, List.cons_append, List.cons_append, List.cons_append, readValue,
        skipBlank_cons (by decide)]
      rw [Writer.quoted, List.cons_append, List.cons_append, List.cons_append,
        List.cons_append] at hinside ⊢
      simp only [skipBlank_cons (c := '"') (by decide)]
      split
      · next heq => exact absurd (List.cons.inj heq).1 (by decide)
      · rw [hinside]
        rfl

/-- Values, items and entries are read back with any number of turns that suffices. -/
theorem reads (fuel : Nat) : ReadsValues fuel ∧ ReadsItems fuel ∧ ReadsEntries fuel := by
  induction fuel with
  | zero =>
    refine ⟨fun v rest hfuel => ?_, fun item more rest hfuel => ?_,
      fun key value more rest hfuel => ?_⟩
    · obtain ⟨c, cs, hcs, _⟩ := head_value v
      rw [hcs, List.length_cons] at hfuel
      omega
    · obtain ⟨c, cs, hcs, _⟩ := head_value item
      rw [hcs, List.cons_append, List.length_cons] at hfuel
      omega
    · rw [List.length_append, List.length_append, List.length_cons] at hfuel
      omega
  | succ fuel ih =>
    obtain ⟨hvalues, hitems, hentries⟩ := ih
    exact ⟨readsValues_succ hitems hentries, readsItems_succ hvalues hitems,
      readsEntries_succ hvalues hentries⟩

end Reader

/-- The compact text of a value is read back to the content of the value. -/
theorem Source.ofText?_text (v : Json) : Source.ofText? v.text = some v.content := by
  have hread := (Reader.reads (Reader.turns (Writer.value v))).1 v []
    (by unfold Reader.turns; omega) stops_nil
  rw [List.append_nil] at hread
  rw [Source.ofText?, Json.text, String.toList_ofList]
  simp only [hread, Option.bind_eq_bind, Option.bind_some]
  rfl

end AgentSync
