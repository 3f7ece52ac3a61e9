import AgentSync.Proofs.Text.Utf8
import Mathlib.Data.String.Basic

namespace AgentSync.Utf8

theorem ofNat_cons_lt_iff {m n : Nat} (hm : m < 256) (hn : n < 256) {rest more : List UInt8} :
    UInt8.ofNat m :: rest < UInt8.ofNat n :: more ↔ m < n ∨ m = n ∧ rest < more := by
  rw [List.cons_lt_cons_iff, UInt8.lt_iff_toNat_lt, ← UInt8.toNat_inj, toNat_ofNat hm,
    toNat_ofNat hn]

/-- The bytes of a smaller character are smaller, whatever follows them. -/
theorem utf8EncodeChar_append_lt {c d : Char} (h : c < d) (rest more : List UInt8) :
    String.utf8EncodeChar c ++ rest < String.utf8EncodeChar d ++ more := by
  have hlt : c.toNat < d.toNat := UInt32.lt_iff_toNat_lt.mp h
  have hbound := toNat_bounds d
  have hdiv (n : Nat) : n / 64 / 64 = n / 4096 ∧ n / 4096 / 64 = n / 262144 := by omega
  have hc := hdiv c.toNat
  have hd := hdiv d.toNat
  have hfirst : c.toNat / 262144 ≤ d.toNat / 262144 ∧ d.toNat / 262144 < 8 := by omega
  have hnext : c.toNat / 4096 ≤ d.toNat / 4096 ∧ c.toNat / 64 ≤ d.toNat / 64 := by omega
  unfold String.utf8EncodeChar
  rw [show c.val.toNat = c.toNat from rfl, show d.val.toNat = d.toNat from rfl]
  dsimp only
  -- One case for each number of bytes of either character; the smaller one never has more.
  split_ifs
  all_goals
    simp (disch := omega) only [List.cons_append, List.nil_append, ofNat_cons_lt_iff]
    omega

/-- Smaller texts have smaller bytes. By the first character in which they differ. -/
theorem encode_lt_encode {cs ds : List Char} (h : cs < ds) : encode cs < encode ds := by
  induction cs generalizing ds with
  | nil =>
    cases ds with
    | nil => exact absurd h (List.lt_irrefl _)
    | cons d ds =>
      obtain ⟨first, rest, hfirst, -⟩ := next_utf8EncodeChar d
      rw [encode, encode, List.flatMap_cons, hfirst]
      exact List.nil_lt_cons _ _
  | cons c cs ih =>
    cases ds with
    | nil => exact absurd h (List.not_lt_nil _)
    | cons d ds =>
      rw [encode, encode, List.flatMap_cons, List.flatMap_cons]
      obtain hchar | ⟨rfl, hrest⟩ := List.cons_lt_cons_iff.mp h
      · exact utf8EncodeChar_append_lt hchar _ _
      · exact List.append_left_lt (ih hrest)

/-- The order of texts is the order of their bytes. -/
theorem encode_lt_encode_iff {s t : String} : encode s.toList < encode t.toList ↔ s < t := by
  constructor
  · intro hbytes
    obtain hlt | rfl | hgt := lt_trichotomy s t
    · exact hlt
    · exact absurd hbytes (List.lt_irrefl _)
    · exact absurd (encode_lt_encode (String.lt_iff.mp hgt)) (List.lt_asymm hbytes)
  · exact fun hlt => encode_lt_encode (String.lt_iff.mp hlt)

end AgentSync.Utf8
