namespace AgentSync.Word

/-- The signed 32-bit word a number wraps to. -/
def wrap32 (n : Int) : Int := n.bmod 0x100000000

theorem wrap32_of_bounds {n : Int} (hlow : -0x80000000 ≤ n) (hhigh : n ≤ 0x7FFFFFFF) :
    wrap32 n = n :=
  Int.bmod_eq_of_le (by omega) (by omega)

/-- The signed 64-bit word a number wraps to. -/
def wrap64 (n : Int) : Int := n.bmod 0x10000000000000000

/-- The unsigned 32-bit word a number wraps to. -/
def low32 (n : Nat) : Nat := n % 0x100000000

/-- The unsigned 64-bit word a number wraps to. -/
def low64 (n : Nat) : Nat := n % 0x10000000000000000

/-- The largest unsigned 64-bit word. -/
def max64 : Nat := 0xFFFFFFFFFFFFFFFF

theorem low64_of_le {n : Nat} (h : n ≤ max64) : low64 n = n :=
  Nat.mod_eq_of_lt (Nat.lt_succ_of_le h)

theorem low64_le_max64 (n : Nat) : low64 n ≤ max64 :=
  Nat.le_of_lt_succ (Nat.mod_lt n (by decide))

/-- The number, or the largest unsigned 64-bit word if that is less. -/
def saturate64 (n : Nat) : Nat := min n max64

theorem saturate64_of_le {n : Nat} (h : n ≤ max64) : saturate64 n = n := Nat.min_eq_left h

theorem saturate64_of_ge {n : Nat} (h : max64 ≤ n) : saturate64 n = max64 := Nat.min_eq_right h

theorem saturate64_le_saturate64 {m n : Nat} (h : m ≤ n) : saturate64 m ≤ saturate64 n := by
  simp only [saturate64]
  omega

theorem saturate64_lt_saturate64_iff {m n : Nat} :
    saturate64 m < saturate64 n ↔ m < n ∧ m < max64 := by
  simp only [saturate64]
  omega

theorem saturate64_eq_saturate64_iff {m n : Nat} :
    saturate64 m = saturate64 n ↔ m = n ∨ max64 ≤ m ∧ max64 ≤ n := by
  simp only [saturate64]
  omega

theorem saturate64_le_iff {m n : Nat} (h : n < max64) : saturate64 m ≤ n ↔ m ≤ n := by
  simp only [saturate64]
  omega

/-- A product is cut off where it would be if its second factor had not been cut off before. -/
theorem saturate64_mul_saturate64 (m n : Nat) :
    saturate64 (m * saturate64 n) = saturate64 (m * n) := by
  rcases Nat.le_total n max64 with hle | hge
  · rw [saturate64_of_le hle]
  rcases Nat.eq_zero_or_pos m with rfl | hpos
  · rw [Nat.zero_mul, Nat.zero_mul]
  · have hleft : max64 ≤ m * max64 := Nat.le_mul_of_pos_left max64 hpos
    have hright : max64 ≤ m * n := Nat.le_trans hge (Nat.le_mul_of_pos_left n hpos)
    rw [saturate64_of_ge hge, saturate64_of_ge hleft, saturate64_of_ge hright]

/-- A power cut off at the largest unsigned 64-bit word. A base of two and more passes it at the
exponent 64, so that no larger power is computed. -/
def saturatedPow (base exponent : Nat) : Nat :=
  if base ≤ 1 then Nat.pow base (min exponent 1)
  else if 64 ≤ exponent then max64
  else saturate64 (Nat.pow base exponent)

theorem saturatedPow_eq (base exponent : Nat) :
    saturatedPow base exponent = saturate64 (Nat.pow base exponent) := by
  unfold saturatedPow
  split
  · next hbase =>
    have hcases : base = 0 ∨ base = 1 := by omega
    rcases hcases with rfl | rfl
    · cases exponent with
      | zero => decide
      | succ n =>
        have hleft : Nat.pow 0 (min (n + 1) 1) = 0 := by
          rw [Nat.min_eq_right (Nat.succ_le_succ (Nat.zero_le n))]
        have hright : Nat.pow 0 (n + 1) = 0 := Nat.mul_zero _
        rw [hleft, hright]; rfl
    · have hone (k : Nat) : Nat.pow 1 k = 1 := Nat.one_pow k
      rw [hone, hone]; rfl
  split
  · next hbase hlarge =>
    have hpow : Nat.pow 2 64 ≤ Nat.pow base exponent :=
      Nat.le_trans (Nat.pow_le_pow_left (Nat.not_le.1 hbase) 64)
        (Nat.pow_le_pow_right (by omega) hlarge)
    have hmax : max64 ≤ Nat.pow base exponent := Nat.le_trans (by decide) hpow
    exact (Nat.min_eq_right hmax).symm
  · rfl

end AgentSync.Word
