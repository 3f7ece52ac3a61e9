import AgentSync.Text.Hex

namespace AgentSync

/-- A 128-bit identifier; the order is that of its bytes. -/
structure Uuid where
  value : BitVec 128
  deriving DecidableEq, Repr, Inhabited

namespace Uuid

def nil : Uuid := ⟨0⟩

/-- A version 7 identifier: 48 bits of time in milliseconds before 74 bits that tell identifiers of
one time apart. -/
def timeOrdered (millis serial : Nat) : Uuid :=
  ⟨BitVec.ofNat 48 millis ++ 7#4 ++ BitVec.ofNat 12 (serial >>> 62) ++ 2#2 ++
    BitVec.ofNat 62 serial⟩

/-- Thirty-two hexadecimal digits in lower case, most significant first. -/
def digits (u : Uuid) : List Char :=
  (List.range 32).map fun i => Nat.digitChar (u.value.toNat >>> (4 * (31 - i)) % 16)

/-- The hyphenated form. -/
def text (u : Uuid) : String :=
  let ds := u.digits
  let part (start count : Nat) : String := String.ofList ((ds.drop start).take count)
  part 0 8 ++ "-" ++ part 8 4 ++ "-" ++ part 12 4 ++ "-" ++ part 16 4 ++ "-" ++ part 20 12

def ofDigits? (cs : List Char) : Option Uuid :=
  (Text.hexNumber? cs).map fun n => ⟨BitVec.ofNat 128 n⟩

/-- The digits of a hyphenated form, its four hyphens at their places. -/
def unhyphenate? (cs : List Char) : Option (List Char) :=
  let hyphens := [8, 13, 18, 23]
  if cs.length = 36 ∧ hyphens.all fun i => cs[i]? == some '-' then
    some (cs.zipIdx.filterMap fun (c, i) => if hyphens.contains i then none else some c)
  else none

/-- Reads the hyphenated form, alone, in braces or after `urn:uuid:`, or thirty-two bare digits. -/
def ofText? (text : String) : Option Uuid :=
  let cs := text.toList
  let hyphenated (cs : List Char) : Option Uuid := (unhyphenate? cs).bind ofDigits?
  if cs.length = 32 then ofDigits? cs
  else if cs.length = 36 then hyphenated cs
  else if cs.length = 38 ∧ cs.head? = some '\x7b' ∧ cs.getLast? = some '\x7d' then
    hyphenated (cs.drop 1).dropLast
  else if cs.length = 45 ∧ cs.take 9 = "urn:uuid:".toList then hyphenated (cs.drop 9)
  else none

end Uuid

end AgentSync
