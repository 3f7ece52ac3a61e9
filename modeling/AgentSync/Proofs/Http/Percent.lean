import AgentSync.Http.Percent
import AgentSync.Proofs.Text.Utf8

namespace AgentSync.Percent

theorem hexValue?_hexDigit : ∀ n < 16, Text.hexValue? (hexDigit n) = some n := by decide

/-- An escaped byte is read back, whatever follows it. -/
theorem decodeBytes_escape (byte : UInt8) (rest : List Char) :
    decodeBytes (escape byte ++ rest) = byte :: decodeBytes rest := by
  have hbyte := byte.toNat_lt
  have hvalue : byte.toNat / 16 * 16 + byte.toNat % 16 = byte.toNat := by omega
  unfold escape
  rw [List.cons_append, List.cons_append, List.cons_append, List.nil_append, decodeBytes,
    hexValue?_hexDigit _ (by omega), hexValue?_hexDigit _ (by omega)]
  dsimp only
  rw [hvalue, UInt8.ofNat_toNat]

/-- Escaped bytes are read back, whatever follows. -/
theorem decodeBytes_escapes (bytes : List UInt8) (rest : List Char) :
    decodeBytes (bytes.flatMap escape ++ rest) = bytes ++ decodeBytes rest := by
  induction bytes with
  | nil => rfl
  | cons byte bytes ih =>
    rw [List.flatMap_cons, List.append_assoc, decodeBytes_escape, ih]
    rfl

/-- A character that is no percent sign stands for itself. -/
theorem decodeBytes_cons {c : Char} (hc : c ≠ '%') (rest : List Char) :
    decodeBytes (c :: rest) = String.utf8EncodeChar c ++ decodeBytes rest := by
  rw [decodeBytes.eq_def]
  split
  · next heq => cases heq
  · next heq => exact absurd (List.cons.inj heq).1 hc
  · next heq =>
    obtain ⟨rfl, rfl⟩ := List.cons.inj heq
    rfl

/-- Text whose characters are written one by one, each so that it can be read back, is read
back. -/
theorem decodeBytes_flatMap {write : Char → List Char} (cs : List Char)
    (hwrite : ∀ c rest, decodeBytes (write c ++ rest) =
      String.utf8EncodeChar c ++ decodeBytes rest) :
    decodeBytes (cs.flatMap write) = Utf8.encode cs := by
  induction cs with
  | nil => rfl
  | cons c cs ih =>
    rw [List.flatMap_cons, hwrite, ih]
    rfl

/-- A character that stands for itself or is escaped is read back. -/
theorem decodeBytes_written {keep : Bool} {c : Char} (hkeep : keep = true → c ≠ '%')
    (rest : List Char) :
    decodeBytes ((if keep then [c] else escapeChar c) ++ rest) =
      String.utf8EncodeChar c ++ decodeBytes rest := by
  cases keep with
  | true => exact decodeBytes_cons (hkeep rfl) rest
  | false => exact decodeBytes_escapes (String.utf8EncodeChar c) rest

/-- Escaped text is read back if percent signs are escaped too. -/
theorem decode?_encode {keep : Char → Bool} (hkeep : keep '%' = false) (cs : List Char) :
    decode? (encode keep cs) = some cs := by
  have hwrite : ∀ c rest, decodeBytes
      ((if c.toNat < 0x80 && keep c then [c] else escapeChar c) ++ rest) =
        String.utf8EncodeChar c ++ decodeBytes rest := by
    intro c rest
    refine decodeBytes_written (fun hkept heq => ?_) rest
    rw [heq, hkeep, Bool.and_false] at hkept
    exact Bool.false_ne_true hkept
  rw [decode?, encode, decodeBytes_flatMap cs hwrite, Utf8.decode?_encode]

/-- An escape is made of percent signs and digits. -/
theorem mem_escapeChar {c x : Char} (hmem : x ∈ escapeChar c) :
    x = '%' ∨ ∃ n < 16, x = hexDigit n := by
  obtain ⟨byte, _, hx⟩ := List.mem_flatMap.mp hmem
  have hbyte := byte.toNat_lt
  simp only [escape, List.mem_cons, List.not_mem_nil, or_false] at hx
  rcases hx with rfl | rfl | rfl
  · exact .inl rfl
  · exact .inr ⟨_, by omega, rfl⟩
  · exact .inr ⟨_, by omega, rfl⟩

/-- A character that is no percent sign and no digit occurs only where it is kept. -/
theorem keep_of_mem_encode {keep : Char → Bool} {cs : List Char} {x : Char}
    (hpercent : x ≠ '%') (hdigit : ∀ n < 16, x ≠ hexDigit n) (hmem : x ∈ encode keep cs) :
    keep x = true := by
  obtain ⟨c, _, hx⟩ := List.mem_flatMap.mp hmem
  split at hx
  · next hkept =>
    cases List.mem_singleton.mp hx
    exact (Bool.and_eq_true_iff.mp hkept).2
  · rcases mem_escapeChar hx with heq | ⟨n, hn, heq⟩
    · exact absurd heq hpercent
    · exact absurd heq (hdigit n hn)

theorem encode_ne_nil {keep : Char → Bool} {cs : List Char} (hcs : cs ≠ []) :
    encode keep cs ≠ [] := by
  obtain ⟨c, rest, rfl⟩ := List.exists_cons_of_ne_nil hcs
  obtain ⟨byte, bytes, hbytes, -⟩ := Utf8.next_utf8EncodeChar c
  rw [encode, List.flatMap_cons]
  split
  · exact List.cons_ne_nil _ _
  · rw [escapeChar, hbytes]
    exact List.cons_ne_nil _ _

end AgentSync.Percent
