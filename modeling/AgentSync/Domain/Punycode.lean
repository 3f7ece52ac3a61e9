namespace AgentSync.Domain.Punycode

def isAscii (c : Char) : Bool := c.toNat < 0x80

/-- Digits are the letters, then the decimal digits. -/
def digit (n : Nat) : Char := if n < 26 then Char.ofNat (97 + n) else Char.ofNat (22 + n)

def digitValue? (c : Char) : Option Nat :=
  if 'a' ≤ c ∧ c ≤ 'z' then some (c.toNat - 97)
  else if 'A' ≤ c ∧ c ≤ 'Z' then some (c.toNat - 65)
  else if '0' ≤ c ∧ c ≤ '9' then some (c.toNat - 22)
  else none

/-- A digit below this one is the last of its number. `k` is 36 for the first digit and grows by
36 with each. -/
def threshold (k bias : Nat) : Nat :=
  if k ≤ bias then 1 else if bias + 26 ≤ k then 26 else k - bias

theorem threshold_pos (k bias : Nat) : 0 < threshold k bias := by
  unfold threshold
  split
  · omega
  · split <;> omega

/-- The bias that suits numbers as large as `delta`. -/
def biasOf (k delta : Nat) : Nat :=
  if 455 < delta then biasOf (k + 36) (delta / 35) else k + 36 * delta / (delta + 38)
termination_by delta
decreasing_by exact Nat.div_lt_self (by omega) (by omega)

/-- The bias after a number, when there are `count` characters. The first number is often much
larger than those after it. -/
def adapt (delta count : Nat) (isFirst : Bool) : Nat :=
  let delta := if isFirst then delta / 700 else delta / 2
  biasOf 0 (delta + delta / count)

/-- A number as digits in base 36, the lowest first. The last digit is the first one below a
threshold that moves with the numbers before it. -/
def digits (bias k n : Nat) : List Char :=
  let t := threshold k bias
  if n < t then [digit n]
  else digit (t + (n - t) % (36 - t)) :: digits bias (k + 36) ((n - t) / (36 - t))
termination_by n
decreasing_by
  have := threshold_pos k bias
  have := Nat.div_le_self (n - threshold k bias) (36 - threshold k bias)
  omega

/-- What has been written of the characters that are not ASCII. -/
structure Written where
  text : List Char
  /-- How far it is from the last character written to the next, in places and in code points. -/
  delta : Nat
  bias : Nat
  /-- How many characters have been written, the ASCII characters included. -/
  count : Nat

namespace Written

/-- Passes one character of the text in search of the code point `code`. -/
def pass (ascii code : Nat) (w : Written) (c : Char) : Written :=
  if c.toNat < code then { w with delta := w.delta + 1 }
  else if c.toNat = code then {
    text := w.text ++ digits w.bias 36 w.delta
    delta := 0
    bias := adapt w.delta (w.count + 1) (w.count == ascii)
    count := w.count + 1 }
  else w

/-- Writes each occurrence of one code point after another. The next code point could be `next`. -/
def codes (text : List Char) (ascii next : Nat) (w : Written) : List Nat → Written
  | [] => w
  | code :: rest =>
    let w := { w with delta := w.delta + (code - next) * (w.count + 1) }
    let w := text.foldl (pass ascii code) w
    codes text ascii (code + 1) { w with delta := w.delta + 1 } rest

end Written

/-- Any text as letters, digits and hyphens. The ASCII characters of the text come first, then a
hyphen, then numbers that say which other characters stand between them and where. -/
def encode (text : List Char) : List Char :=
  let ascii := text.filter isAscii
  let others := ((text.filter (!isAscii ·)).map Char.toNat).mergeSort.eraseDups
  let start : Written := { text := [], delta := 0, bias := 72, count := ascii.length }
  ascii ++ (if ascii.isEmpty then [] else ['-']) ++
    (start.codes text ascii.length 0x80 others).text

/-- What has been read. -/
structure Read where
  text : List Char
  /-- The code point that was put in last. -/
  code : Nat
  bias : Nat
  /-- The place after the character that was put in last. -/
  start : Nat
  /-- That place and the digits read of the number that leads to the next one. -/
  place : Nat
  /-- What the next digit counts. -/
  weight : Nat
  /-- Where the next digit stands, as the threshold counts it. -/
  k : Nat

namespace Read

/-- Numbers have 32 bits. -/
def limit : Nat := 0x100000000

/-- Puts in the character that a whole number tells. -/
def insert (r : Read) (place : Nat) : Option Read :=
  let count := r.text.length + 1
  let code := r.code + place / count
  let index := place % count
  if code.isValidChar then
    some {
      text := r.text.take index ++ Char.ofNat code :: r.text.drop index
      code
      bias := adapt (place - r.start) count (r.start == 0)
      start := index + 1
      place := index + 1
      weight := 1
      k := 36 }
  else none

/-- Reads one digit. -/
def next (r : Read) (c : Char) : Option Read := do
  let value ← digitValue? c
  let place := r.place + value * r.weight
  let t := threshold r.k r.bias
  let weight := r.weight * (36 - t)
  if limit ≤ place then none
  else if value < t then r.insert place
  else if limit ≤ weight then none
  else some { r with place, weight, k := r.k + 36 }

end Read

/-- The text that is written so. The last number must be whole. -/
def decode? (cs : List Char) : Option (List Char) := do
  let hyphens := cs.contains '-'
  let ascii := if hyphens then (cs.reverse.dropWhile (· ≠ '-')).tail.reverse else []
  let numbers := if ascii.isEmpty then cs else cs.drop (ascii.length + 1)
  let start : Read :=
    { text := ascii, code := 0x80, bias := 72, start := 0, place := 0, weight := 1, k := 36 }
  let read ← numbers.foldlM Read.next start
  if read.k = 36 then some read.text else none

end AgentSync.Domain.Punycode
