import AgentSync.Json.Reader
import AgentSync.Json.Writer

namespace AgentSync.Reader

/-- Control characters come back from their code. -/
theorem hexNumber?_control {n : Nat} (hn : n < 0x20) :
    Text.hexNumber? ['0', '0', Writer.hexDigit (n / 16), Writer.hexDigit (n % 16)] = some n := by
  have hall : ∀ m, m < 0x20 → Text.hexNumber?
      ['0', '0', Writer.hexDigit (m / 16), Writer.hexDigit (m % 16)] = some m := by
    decide
  exact hall n hn

/-- A backslash and a letter stand for one character. -/
theorem readPieces_simple {c escaped : Char} (hescape : simpleEscape? c = some escaped)
    (rest : List Char) :
    readPieces ('\\' :: c :: rest) =
      (readPieces rest).map fun (pieces, left) => (.char escaped :: pieces, left) := by
  rw [readPieces]
  · rw [hescape]
    cases readPieces rest <;> rfl
  · rintro _ _ _ _ _ rfl _
    cases hescape

/-- Any other character stands for itself. -/
theorem readPieces_plain {c : Char} (hquote : c ≠ '"') (hbackslash : c ≠ '\\')
    (hcontrol : ¬c.toNat < 0x20) (rest : List Char) :
    readPieces (c :: rest) =
      (readPieces rest).map fun (pieces, left) => (.char c :: pieces, left) := by
  rw [readPieces]
  · rw [if_neg (not_or.mpr ⟨hcontrol, hbackslash⟩)]
  · exact fun heq => hquote heq
  · rintro _ _ _ _ _ heq _
    exact hbackslash heq
  · rintro _ _ heq _
    exact hbackslash heq

/-- A character is read back from its written form. -/
theorem readPieces_escape (c : Char) (rest : List Char) :
    readPieces (Writer.escape c ++ rest) =
      (readPieces rest).map fun (pieces, left) => (.char c :: pieces, left) := by
  unfold Writer.escape
  split
  · next hc =>
    subst hc
    exact readPieces_simple rfl rest
  split
  · next hc =>
    subst hc
    exact readPieces_simple rfl rest
  split
  · next hc =>
    subst hc
    exact readPieces_simple rfl rest
  split
  · next hc =>
    subst hc
    exact readPieces_simple rfl rest
  split
  · next hc =>
    subst hc
    exact readPieces_simple rfl rest
  split
  · next hc =>
    subst hc
    exact readPieces_simple rfl rest
  split
  · next hc =>
    subst hc
    exact readPieces_simple rfl rest
  split
  · next hcontrol =>
    have hcode : Piece.ofCode c.toNat = .char c := by
      rw [Piece.ofCode, if_neg (by omega), Char.ofNat_toNat]
    simp only [List.cons_append, List.nil_append, readPieces]
    rw [hexNumber?_control hcontrol, Option.bind_eq_bind, Option.bind_some, hcode]
    cases readPieces rest <;> rfl
  · next hquote hbackslash _ _ _ _ _ hcontrol =>
    exact readPieces_plain hquote hbackslash hcontrol rest

/-- Where no surrogate was read there is nothing to join. -/
theorem joinHalves?_chars (chars : List Char) : joinHalves? (chars.map .char) = some chars := by
  induction chars with
  | nil => rfl
  | cons c cs ih => rw [List.map_cons, joinHalves?, ih, Option.map_some]

/-- The characters of a text are read back up to the closing quote. -/
theorem readPieces_escapes (chars rest : List Char) :
    readPieces (chars.flatMap Writer.escape ++ '"' :: rest) = some (chars.map .char, rest) := by
  induction chars with
  | nil => rw [List.flatMap_nil, List.nil_append, readPieces, List.map_nil]
  | cons c cs ih =>
    rw [List.flatMap_cons, List.append_assoc, readPieces_escape, ih]
    rfl

/-- A text is read back after its opening quote. -/
theorem readText_quoted (text : String) (rest : List Char) :
    readText (text.toList.flatMap Writer.escape ++ '"' :: rest) = some (some text, rest) := by
  rw [readText, readPieces_escapes, Option.map_some]
  dsimp only
  rw [joinHalves?_chars, Option.map_some, String.ofList_toList]

end AgentSync.Reader
