namespace AgentSync.Text

/-- The value of a row of decimal digits, of which there is at least one. -/
def digits? (cs : List Char) : Option Nat :=
  if cs.isEmpty then none
  else cs.foldl (fun n c => do
    let n ← n
    if '0' ≤ c ∧ c ≤ '9' then return n * 10 + (c.toNat - '0'.toNat) else none) (some 0)

/-- An unsigned integer of so many bits: digits, perhaps after a plus sign. -/
def unsigned? (bits : Nat) (text : String) : Option Nat := do
  let n ←
    match text.toList with
    | '+' :: rest => digits? rest
    | cs => digits? cs
  if n < Nat.pow 2 bits then return n else none

/-- A signed integer of so many bits: digits, perhaps after a sign. -/
def signed? (bits : Nat) (text : String) : Option Int := do
  let n : Int ←
    match text.toList with
    | '-' :: rest => (digits? rest).map fun n => -(n : Int)
    | '+' :: rest => (digits? rest).map fun n => (n : Int)
    | cs => (digits? cs).map fun n => (n : Int)
  let bound : Int := Nat.pow 2 (bits - 1)
  if -bound ≤ n ∧ n < bound then return n else none

end AgentSync.Text
