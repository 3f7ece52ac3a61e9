import AgentSync.Binary64

namespace AgentSync

namespace Binary64

/-- Twice-doubled bounds of the interval that rounds to the number, in units of `2^-1076`. The
interval below a power of two is half as wide. Its ends belong to it when the significand is
even. -/
structure Interval where
  low : Nat
  high : Nat
  closed : Bool

def interval (x : Binary64) : Interval :=
  let below := if x.significand = normal ∧ 0 < x.scale then 1 else 2
  { low := (4 * x.significand - below) * Nat.pow 2 x.scale
    high := (4 * x.significand + 2) * Nat.pow 2 x.scale
    closed := x.significand % 2 = 0 }

/-- Whether the fraction `num / den`, in the interval's units, lies in it. -/
def Interval.contains (i : Interval) (num den : Nat) : Bool :=
  if i.closed then i.low * den ≤ num ∧ num ≤ i.high * den
  else i.low * den < num ∧ num < i.high * den

/-- Number of decimal digits. -/
def digitCount (n : Nat) : Nat := (Nat.toDigits 10 n).length

/-- The decimal exponent of the leading digit of `num / den`. -/
def leadingExponent (num den : Nat) : Int :=
  let guess : Int := (digitCount num : Int) - digitCount den
  let small :=
    if 0 ≤ guess then num < den * Nat.pow 10 guess.toNat
    else num * Nat.pow 10 guess.natAbs < den
  if small then guess - 1 else guess

/-- A decimal `digits · 10^exponent`. -/
structure Decimal where
  digits : Nat
  exponent : Int

/-- The decimal with `count` digits, on the grid of the leading digit, that rounds to `x` and is
nearest to it; a tie goes to the even last digit. -/
def onGrid? (x : Binary64) (leading : Int) (count : Nat) : Option Decimal :=
  let exponent := leading - count + 1
  let up := Nat.pow 10 exponent.toNat
  let down := Nat.pow 10 (-exponent).toNat
  let num := x.units * down
  let den := unit * up
  let floor := num / den
  let inside (digits : Nat) : Bool := x.interval.contains (4 * digits * up * unit) down
  let remainder := num % den
  let pick (digits : Nat) : Option Decimal := some { digits, exponent }
  match inside floor, inside (floor + 1) with
  | true, true =>
    if 2 * remainder < den then pick floor
    else if den < 2 * remainder then pick (floor + 1)
    else pick (floor + floor % 2)
  | true, false => pick floor
  | false, true => pick (floor + 1)
  | false, false => none

/-- The shortest decimal that rounds to `x`: the one with the fewest digits, and the nearest of
those when there are two. Seventeen digits always suffice. -/
def shortest (x : Binary64) : Decimal :=
  let leading := leadingExponent x.units unit
  ((List.range 17).findSome? fun n => x.onGrid? leading (n + 1)).getD { digits := 0, exponent := 0 }

/-- How a decimal is laid out: the range of leading exponents written positionally. -/
structure Layout where
  smallest : Int
  largest : Int

/-- Numbers from `0.00001` up to, not including, `10^16` are written positionally with at least
one fraction digit; all others have a signed exponent. -/
def layout : Layout := { smallest := -5, largest := 15 }

def zeros (n : Nat) : String := String.ofList (List.replicate n '0')

/-- Text of a positive decimal. -/
def Decimal.text (d : Decimal) (form : Layout) : String :=
  let digits := (Nat.toDigits 10 d.digits).reverse.dropWhile (· == '0') |>.reverse
  let count := digits.length
  let leading : Int := d.exponent + digitCount d.digits - 1
  if form.smallest ≤ leading ∧ leading ≤ form.largest then
    if leading < 0 then
      "0." ++ zeros (leading.natAbs - 1) ++ String.ofList digits
    else
      let whole := leading.toNat + 1
      if count ≤ whole then String.ofList digits ++ zeros (whole - count) ++ ".0"
      else String.ofList (digits.take whole) ++ "." ++ String.ofList (digits.drop whole)
  else
    let mantissa := match digits with
      | [] => "0"
      | [d] => String.ofList [d]
      | d :: rest => String.ofList [d, '.'] ++ String.ofList rest
    let sign := if leading < 0 then "-" else "+"
    mantissa ++ "e" ++ sign ++ toString leading.natAbs

/-- Text of a number. -/
def text (x : Binary64) : String :=
  let magnitude := if x.isZero then "0.0" else x.shortest.text layout
  if x.negative then "-" ++ magnitude else magnitude

end Binary64

end AgentSync
