import AgentSync.Json.Basic

namespace AgentSync

/-- A number literal, its digits as values. -/
structure Literal where
  negative : Bool
  whole : List Nat
  fraction : Option (List Nat)
  exponent : Option (Bool × List Nat)
  deriving Repr

namespace Literal

/-- The largest significand that is kept exactly. -/
def maxSignificand : Nat := 0xFFFFFFFFFFFFFFFF

/-- The largest written exponent that is kept exactly. -/
def maxExponent : Nat := 0x7FFFFFFF

/-- Appends digits to a significand while it stays within 64 bits. Answers the significand and the
digits left over. -/
def absorb (significand : Nat) : List Nat → Nat × List Nat
  | [] => (significand, [])
  | d :: rest =>
    if significand * 10 + d ≤ maxSignificand then absorb (significand * 10 + d) rest
    else (significand, d :: rest)

/-- A written exponent, or `none` when it is out of range. -/
def exponentValue? (digits : List Nat) : Option Nat :=
  digits.foldl
    (fun value d => do
      let n := (← value) * 10 + d
      if n ≤ maxExponent then some n else none)
    (some 0)

/-- The significand and the power of ten of a literal, its exponent part aside. Digits of the whole
part beyond 64 bits count as zeros; digits of the fraction beyond 64 bits are dropped. -/
def scaled (literal : Literal) : Nat × Int :=
  let (significand, left) := absorb 0 literal.whole
  match literal.fraction with
  | none => (significand, left.length)
  | some fraction =>
    let (significand, unread) := absorb significand fraction
    (significand, (left.length : Int) - (fraction.length - unread.length : Nat))

/-- The floating-point number of a literal; `none` when it is too large. -/
def real? (literal : Literal) : Option Binary64 :=
  let (significand, power) := literal.scaled
  match literal.exponent with
  | none => Binary64.ofDecimal? literal.negative significand power
  | some (down, digits) =>
    match exponentValue? digits with
    | some n =>
      let exponent : Int := if down then power - n else power + n
      Binary64.ofDecimal? literal.negative significand exponent
    | none =>
      if significand ≠ 0 ∧ !down then none
      else some { Binary64.zero with negative := literal.negative }

/-- The number a literal denotes: an integer when it is written as one and fits 64 bits, negative
zero excepted. -/
def number? (literal : Literal) : Option Number :=
  let real := literal.real?.map Number.real
  match literal.fraction, literal.exponent with
  | none, none =>
    let n : Nat := literal.whole.foldl (fun n d => n * 10 + d) 0
    if !literal.negative ∧ n < 0x10000000000000000 then some (.int n)
    else if literal.negative ∧ 0 < n ∧ n ≤ 0x8000000000000000 then some (.int (-(n : Int)))
    else real
  | _, _ => real

end Literal

end AgentSync
