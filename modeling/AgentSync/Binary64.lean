namespace AgentSync

/-- A finite binary floating-point number with 53 significant bits, `(-1)^negative · significand ·
2^scale / 2^1074`. It is kept as integers, so that every operation is exact integer arithmetic
followed by one rounding. -/
structure Binary64 where
  negative : Bool
  significand : Nat
  scale : Nat
  deriving DecidableEq, Repr, Inhabited

namespace Binary64

/-- The denominator all finite numbers share. -/
def unit : Nat := Nat.pow 2 1074

/-- The least significand that fills its fifty-three bits. -/
def normal : Nat := 0x10000000000000

/-- Nearest integer to `num / den`, a half going to the even neighbour. -/
def roundDiv (num den : Nat) : Nat :=
  let quotient := num / den
  let remainder := num % den
  if 2 * remainder < den then quotient
  else if den < 2 * remainder then quotient + 1
  else quotient + quotient % 2

/-- The representable magnitude nearest to `num / den`, ties to the even significand, or `none`
when it lies beyond the largest one. -/
def roundMagnitude (num den : Nat) : Option (Nat × Nat) :=
  let scaled := num * unit
  let whole := scaled / den
  let scale := if whole < normal * 2 then 0 else Nat.log2 whole - 52
  let significand := roundDiv scaled (den * Nat.pow 2 scale)
  let (significand, scale) :=
    if significand = normal * 2 then (normal, scale + 1) else (significand, scale)
  if scale ≤ 2045 then some (significand, scale) else none

/-- The number nearest to `num / den` with the given sign. -/
def ofRatio? (negative : Bool) (num den : Nat) : Option Binary64 :=
  (roundMagnitude num den).map fun (significand, scale) => { negative, significand, scale }

def zero : Binary64 := ⟨false, 0, 0⟩

/-- The number nearest to a natural number; beyond the range, zero. Every 64-bit word is far
inside the range. -/
def ofNat (n : Nat) : Binary64 := (ofRatio? false n 1).getD zero

/-- The number nearest to an integer. -/
def ofInt (n : Int) : Binary64 :=
  let magnitude := ofNat n.natAbs
  { magnitude with negative := decide (n < 0) }

/-- The magnitude counted in units of `2^-1074`. -/
def units (x : Binary64) : Nat := x.significand * Nat.pow 2 x.scale

def isZero (x : Binary64) : Bool := x.significand == 0

def neg (x : Binary64) : Binary64 := { x with negative := !x.negative }

/-- The rounded product of two magnitudes, with the sign of the first. -/
def scaleUp? (x factor : Binary64) : Option Binary64 :=
  ofRatio? x.negative (x.units * factor.units) (unit * unit)

/-- The rounded quotient of two magnitudes, with the sign of the first. A quotient by zero is
zero; no divisor used here is zero. -/
def scaleDown (x divisor : Binary64) : Binary64 :=
  (ofRatio? x.negative x.units divisor.units).getD { zero with negative := x.negative }

/-- The rounded sum of two magnitudes. -/
def addMagnitude (x y : Binary64) : Binary64 :=
  (ofRatio? false (x.units + y.units) unit).getD zero

/-- The number nearest to `10^n`. -/
def powerOfTen (n : Nat) : Binary64 := ofNat (Nat.pow 10 n)

/-- The largest power of ten used as a single factor. -/
def maxPower : Nat := 308

/-- `significand · 10^exponent` for a decimal literal: the significand is rounded first, then it is
scaled by rounded powers of ten, down in steps of at most `10^308`. `none` when the result is too
large. -/
def ofDecimal? (negative : Bool) (significand : Nat) (exponent : Int) : Option Binary64 :=
  let start := { ofNat significand with negative }
  if 0 ≤ exponent then
    if exponent.toNat ≤ maxPower then start.scaleUp? (powerOfTen exponent.toNat)
    else if start.isZero then some start
    else none
  else some (descend start exponent.natAbs)
where
  descend (x : Binary64) (down : Nat) : Binary64 :=
    if down ≤ maxPower then x.scaleDown (powerOfTen down)
    else if x.isZero then x
    else descend (x.scaleDown (powerOfTen maxPower)) (down - maxPower)
  termination_by down
  decreasing_by simp only [maxPower] at *; omega

end Binary64

end AgentSync
