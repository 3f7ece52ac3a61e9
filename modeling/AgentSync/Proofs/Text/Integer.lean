import AgentSync.Proofs.Json.Number
import AgentSync.Text.Integer

namespace AgentSync.Text

/-- A row of digits has the value of its digits, one after another. -/
theorem digits?_eq {cs : List Char} (hne : cs ≠ []) (hdigits : ∀ c ∈ cs, IsDigit c) :
    digits? cs = some (Nat.ofDigitChars 10 cs 0) := by
  have hfold : ∀ (cs : List Char) (n : Nat), (∀ c ∈ cs, IsDigit c) →
      cs.foldl (fun (n : Option Nat) c => do
        let n ← n
        if '0' ≤ c ∧ c ≤ '9' then return n * 10 + (c.toNat - '0'.toNat) else none) (some n) =
      some (Nat.ofDigitChars 10 cs n) := by
    intro cs
    induction cs with
    | nil => intro n _; rfl
    | cons c cs ih =>
      intro n hall
      obtain ⟨hc, hcs⟩ := List.forall_mem_cons.mp hall
      have hstep := ih (n * 10 + (c.toNat - '0'.toNat)) hcs
      rw [Nat.mul_comm] at hstep
      rw [List.foldl_cons, Option.bind_eq_bind, Option.bind_some, if_pos hc, Nat.mul_comm]
      exact hstep
  rw [digits?, List.isEmpty_eq_false_iff.mpr hne, if_neg Bool.false_ne_true]
  exact hfold cs 0 hdigits

theorem digits?_toDigits (n : Nat) : digits? (Nat.toDigits 10 n) = some n := by
  rw [digits?_eq Nat.toDigits_ne_nil fun c hc => isDigit_of_mem_toDigits hc,
    Nat.ofDigitChars_toDigits (by decide) (by decide)]

theorem toList_toString_ofNat (n : Nat) :
    (toString (Int.ofNat n)).toList = Nat.toDigits 10 n := by
  change n.repr.toList = _
  rw [Nat.repr_eq_ofList_toDigits, String.toList_ofList]

theorem toList_toString_negSucc (n : Nat) :
    (toString (Int.negSucc n)).toList = '-' :: Nat.toDigits 10 (n + 1) := by
  change ("-" ++ (n + 1).repr).toList = _
  rw [Nat.repr_eq_ofList_toDigits, String.toList_append, String.toList_ofList,
    String.toList_ofList]
  rfl

/-- An integer of so many bits is read back. -/
theorem signed?_toString {bits : Nat} {n : Int} (hlow : -(Nat.pow 2 (bits - 1) : Int) ≤ n)
    (hhigh : n < (Nat.pow 2 (bits - 1) : Int)) : signed? bits (toString n) = some n := by
  cases n with
  | ofNat n =>
    have hdigits := digits?_toDigits n
    unfold signed?
    rw [toList_toString_ofNat]
    split
    · next hminus =>
      have hdigit := isDigit_of_mem_toDigits (hminus ▸ List.mem_cons_self)
      exact absurd hdigit (by decide)
    · next hplus =>
      have hdigit := isDigit_of_mem_toDigits (hplus ▸ List.mem_cons_self)
      exact absurd hdigit (by decide)
    · rw [hdigits]
      exact if_pos ⟨hlow, hhigh⟩
  | negSucc n =>
    unfold signed?
    rw [toList_toString_negSucc]
    split
    · next rest hminus =>
      rw [← (List.cons.inj hminus).2, digits?_toDigits]
      exact if_pos ⟨hlow, hhigh⟩
    · next hplus => exact absurd (List.cons.inj hplus).1 (by decide)
    · next hminus _ => exact absurd rfl (hminus _)

end AgentSync.Text
