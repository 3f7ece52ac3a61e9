import AgentSync.Text.Utf8

namespace AgentSync.Utf8

/-- A character lies below the surrogates or above them. -/
theorem toNat_bounds (c : Char) :
    c.toNat < 0xD800 ∨ (0xDFFF < c.toNat ∧ c.toNat < 0x110000) := c.valid

theorem toNat_ofNat {n : Nat} (h : n < 256) : (UInt8.ofNat n).toNat = n := by
  rw [UInt8.toNat_ofNat', Nat.mod_eq_of_lt h]

/-- A further byte that fits adds six bits. -/
theorem follow_cons {low high n : Nat} (hbyte : n < 256) (hlow : low ≤ n) (hhigh : n ≤ high)
    (bounds : List (Nat × Nat)) (value : Nat) (rest : List UInt8) :
    follow ((low, high) :: bounds) value (UInt8.ofNat n :: rest) =
      follow bounds (value * 64 + (n - 0x80)) rest := by
  rw [follow, toNat_ofNat hbyte, if_pos ⟨hlow, hhigh⟩]

/-- The first byte of a character of two bytes. -/
theorem sequence?_two {v : Nat} (hlow : 0x80 ≤ v) (hhigh : v ≤ 0x7FF) :
    sequence? (v / 64 % 32 + 192) = some ([(0x80, 0xBF)], v / 64) := by
  unfold sequence?
  rw [if_neg (by omega), if_neg (by omega), if_pos (by omega)]
  have hvalue : v / 64 % 32 + 192 - 0xC0 = v / 64 := by omega
  rw [hvalue]

/-- The first byte of a character of three bytes bounds the second. -/
theorem sequence?_three {v : Nat} (hlow : 0x800 ≤ v) (hhigh : v ≤ 0xFFFF)
    (hvalid : v < 0xD800 ∨ 0xDFFF < v) :
    ∃ low high, sequence? (v / 4096 % 16 + 224) = some ([(low, high), (0x80, 0xBF)], v / 4096) ∧
      low ≤ v / 64 % 64 + 128 ∧ v / 64 % 64 + 128 ≤ high := by
  unfold sequence?
  rw [if_neg (by omega), if_neg (by omega), if_neg (by omega)]
  by_cases hfirst : v / 4096 = 0
  · rw [if_pos (by omega), hfirst]
    exact ⟨_, _, rfl, by omega, by omega⟩
  rw [if_neg (by omega)]
  by_cases hlast : v / 4096 = 13
  · rw [if_pos (by omega), hlast]
    exact ⟨_, _, rfl, by omega, by omega⟩
  rw [if_neg (by omega), if_pos (by omega)]
  have hvalue : v / 4096 % 16 + 224 - 0xE0 = v / 4096 := by omega
  rw [hvalue]
  exact ⟨_, _, rfl, by omega, by omega⟩

/-- The first byte of a character of four bytes bounds the second. -/
theorem sequence?_four {v : Nat} (hlow : 0xFFFF < v) (hhigh : v < 0x110000) :
    ∃ low high, sequence? (v / 262144 % 8 + 240) =
        some ([(low, high), (0x80, 0xBF), (0x80, 0xBF)], v / 262144) ∧
      low ≤ v / 4096 % 64 + 128 ∧ v / 4096 % 64 + 128 ≤ high := by
  unfold sequence?
  rw [if_neg (by omega), if_neg (by omega), if_neg (by omega), if_neg (by omega),
    if_neg (by omega), if_neg (by omega)]
  by_cases hfirst : v / 262144 = 0
  · rw [if_pos (by omega), hfirst]
    exact ⟨_, _, rfl, by omega, by omega⟩
  rw [if_neg (by omega)]
  by_cases hlast : v / 262144 = 4
  · rw [if_neg (by omega), if_pos (by omega), hlast]
    exact ⟨_, _, rfl, by omega, by omega⟩
  rw [if_pos (by omega)]
  have hvalue : v / 262144 % 8 + 240 - 0xF0 = v / 262144 := by omega
  rw [hvalue]
  exact ⟨_, _, rfl, by omega, by omega⟩

/-- An encoded character is read back, whatever follows it. -/
theorem next_utf8EncodeChar (c : Char) :
    ∃ first rest, String.utf8EncodeChar c = first :: rest ∧
      ∀ more, next first (rest ++ more) = (some c, more) := by
  have hvalid := toNat_bounds c
  have hchar : Char.ofNat c.toNat = c := Char.ofNat_toNat c
  have hdef : c.val.toNat = c.toNat := rfl
  unfold String.utf8EncodeChar next
  rw [hdef]
  generalize c.toNat = v at hvalid hchar
  dsimp only
  split
  · refine ⟨_, _, rfl, fun more => ?_⟩
    have hsequence : sequence? v = some ([], v) := if_pos (by omega)
    rw [toNat_ofNat (by omega), hsequence, ← hchar]
    rfl
  split
  · refine ⟨_, _, rfl, fun more => ?_⟩
    have hvalue : v / 64 * 64 + (v % 64 + 128 - 0x80) = v := by omega
    rw [toNat_ofNat (by omega), sequence?_two (by omega) (by omega)]
    dsimp only [List.cons_append]
    rw [follow_cons (by omega) (by omega) (by omega), hvalue, follow, ← hchar]
    rfl
  split
  · refine ⟨_, _, rfl, fun more => ?_⟩
    obtain ⟨low, high, hsequence, hlow, hhigh⟩ :=
      sequence?_three (v := v) (by omega) (by omega) (by omega)
    have hvalue :
        (v / 4096 * 64 + (v / 64 % 64 + 128 - 0x80)) * 64 + (v % 64 + 128 - 0x80) = v := by
      omega
    rw [toNat_ofNat (by omega), hsequence]
    dsimp only [List.cons_append]
    rw [follow_cons (by omega) hlow hhigh, follow_cons (by omega) (by omega) (by omega), hvalue,
      follow, ← hchar]
    rfl
  · refine ⟨_, _, rfl, fun more => ?_⟩
    obtain ⟨low, high, hsequence, hlow, hhigh⟩ :=
      sequence?_four (v := v) (by omega) (by omega)
    have hvalue : ((v / 262144 * 64 + (v / 4096 % 64 + 128 - 0x80)) * 64 +
        (v / 64 % 64 + 128 - 0x80)) * 64 + (v % 64 + 128 - 0x80) = v := by
      omega
    rw [toNat_ofNat (by omega), hsequence]
    dsimp only [List.cons_append]
    rw [follow_cons (by omega) hlow hhigh, follow_cons (by omega) (by omega) (by omega),
      follow_cons (by omega) (by omega) (by omega), hvalue, follow, ← hchar]
    rfl

/-- Encoded text is read piece by piece, with one piece for each character. -/
theorem pieces_encode (cs : List Char) :
    ∀ count, (encode cs).length ≤ count → pieces count (encode cs) = cs.map some := by
  induction cs with
  | nil =>
    intro count _
    cases count with
    | zero => rfl
    | succ count => rfl
  | cons c cs ih =>
    intro count hcount
    obtain ⟨first, rest, hencode, hnext⟩ := next_utf8EncodeChar c
    have hsplit : encode (c :: cs) = first :: (rest ++ encode cs) := by
      rw [encode, List.flatMap_cons, hencode]
      rfl
    rw [hsplit, List.length_cons, List.length_append] at hcount
    cases count with
    | zero => omega
    | succ count =>
      rw [hsplit, pieces, hnext, List.map_cons]
      dsimp only
      rw [ih count (by omega)]

theorem mapM_id_map_some (cs : List Char) : (cs.map some).mapM id = some cs := by
  induction cs with
  | nil => rfl
  | cons c cs ih =>
    rw [List.map_cons, List.mapM_cons, ih]
    rfl

/-- Every text is read back from its bytes. -/
theorem decode?_encode (cs : List Char) : decode? (encode cs) = some cs := by
  rw [decode?, pieces_encode cs _ (Nat.le_refl _), mapM_id_map_some]

/-- Nothing of an encoded text has to be replaced. -/
theorem decodeLossy_encode (cs : List Char) : decodeLossy (encode cs) = cs := by
  rw [decodeLossy, pieces_encode cs _ (Nat.le_refl _), List.map_map]
  exact List.map_id' cs

end AgentSync.Utf8
