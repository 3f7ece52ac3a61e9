import AgentSync.Text.Blank
import AgentSync.Time.Instant

namespace AgentSync

namespace Rfc3339

open Text (trimStart)

def digit? (c : Char) : Option Nat :=
  if '0' ≤ c ∧ c ≤ '9' then some (c.toNat - '0'.toNat) else none

/-- At most `width` digits from the front, and what follows. -/
def takeDigits : Nat → List Char → List Nat × List Char
  | 0, input => ([], input)
  | _, [] => ([], [])
  | width + 1, c :: rest =>
    match digit? c with
    | some d =>
      let (digits, left) := takeDigits width rest
      (d :: digits, left)
    | none => ([], c :: rest)

/-- A number of one to `width` digits. -/
def number? (width : Nat) (input : List Char) : Option (Nat × List Char) :=
  match takeDigits width input with
  | ([], _) => none
  | (digits, rest) => some (digits.foldl (fun n d => n * 10 + d) 0, rest)

/-- A number after optional blanks. -/
def field? (input : List Char) : Option (Nat × List Char) := number? 2 (trimStart input)

/-- A year after optional blanks: four digits at most, or a sign and any number of them. -/
def year? (input : List Char) : Option (Int × List Char) :=
  match trimStart input with
  | '-' :: rest => (number? rest.length rest).map fun (n, left) => (-(n : Int), left)
  | '+' :: rest => (number? rest.length rest).map fun (n, left) => ((n : Int), left)
  | rest => (number? 4 rest).map fun (n, left) => ((n : Int), left)

/-- The given character after optional blanks. -/
def mark? (c : Char) (input : List Char) : Option (List Char) :=
  match trimStart input with
  | x :: rest => if x = c then some rest else none
  | [] => none

/-- Nanoseconds of a fraction, if a point follows. Digits after the ninth are dropped. -/
def fraction? : List Char → Option (Nat × List Char)
  | '.' :: rest =>
    match takeDigits 9 rest with
    | ([], _) => none
    | (digits, left) =>
      let value := digits.foldl (fun n d => n * 10 + d) 0
      some (value * Nat.pow 10 (9 - digits.length), left.dropWhile fun c => (digit? c).isSome)
  | input => some (0, input)

/-- The sign of an offset: plus, hyphen, or the minus sign U+2212. -/
def sign? : List Char → Option (Int × List Char)
  | '+' :: rest => some (1, rest)
  | '-' :: rest => some (-1, rest)
  | '\u2212' :: rest => some (-1, rest)
  | _ => none

/-- An offset from UTC in seconds: `Z`, or a sign, two digits for hours and two for minutes. -/
def offset? (input : List Char) : Option (Int × List Char) :=
  match input with
  | 'Z' :: rest | 'z' :: rest => some (0, rest)
  | _ => do
    let (sign, rest) ← sign? input
    match rest with
    | h :: h' :: rest =>
      let hours := (← digit? h) * 10 + (← digit? h')
      match rest.dropWhile fun c => c == ':' || Text.isBlank c with
      | m :: m' :: rest =>
        let minutes := (← digit? m) * 10 + (← digit? m')
        if minutes < 60 then some (sign * (hours * 3600 + minutes * 60 : Nat), rest) else none
      | _ => none
    | _ => none

/-- The word `UTC`, in any case, or an offset. -/
def zone? (input : List Char) : Option (Int × List Char) :=
  match input with
  | u :: t :: c :: rest =>
    if u.toUpper = 'U' ∧ t.toUpper = 'T' ∧ c.toUpper = 'C' then some (0, rest) else offset? input
  | _ => offset? input

/-- The letter or blank between date and time. -/
def separator? : List Char → Option (List Char)
  | 'T' :: rest | 't' :: rest | ' ' :: rest => some rest
  | _ => none

end Rfc3339

open Rfc3339 in
/-- The instant a text in RFC 3339 form names, read generously: blanks around the parts, one-digit
months, days, hours, minutes and seconds, a blank or a lower-case letter between date and time, and
any number of colons or blanks inside the offset are all accepted. Second 60 is a leap second; an
offset is shorter than a day. -/
def Instant.ofText? (text : String) : Option Instant := do
  let (year, rest) ← year? text.toList
  let rest ← mark? '-' rest
  let (month, rest) ← field? rest
  let rest ← mark? '-' rest
  let (day, rest) ← field? rest
  let rest ← separator? rest
  let (hour, rest) ← field? rest
  let rest ← mark? ':' rest
  let (minute, rest) ← field? rest
  let rest ← mark? ':' rest
  let (second, rest) ← field? rest
  let (nano, rest) ← fraction? rest
  let (offset, rest) ← zone? (Text.trimStart rest)
  let date : Date := { year, month, day }
  if Text.trimStart rest ≠ [] ∨ !date.isValid ∨ 24 ≤ hour ∨ 60 ≤ minute ∨ 60 < second ∨
      86400 ≤ offset.natAbs then none
  else
    let leap := second = 60
    let ofDay : Nat := hour * 3600 + minute * 60 + (if leap then 59 else second)
    let utc := date.toDays * Instant.secondsPerDay + ofDay - offset
    if Instant.inRange utc then
      some { second := utc, nano := if leap then nano + Instant.nanosPerSecond else nano }
    else none

end AgentSync
