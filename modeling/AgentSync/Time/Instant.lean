import AgentSync.Time.Calendar
import AgentSync.Time.Duration

namespace AgentSync

/-- Seconds from 1970-01-01T00:00:00Z, leap seconds not counted, and nanoseconds into that second.
Nanoseconds of `10^9` and more lie in a leap second, which sorts after the second before it and
before the next. -/
structure Instant where
  second : Int
  nano : Nat
  deriving DecidableEq, Repr, Inhabited

namespace Instant

def nanosPerSecond : Nat := 1000000000

def secondsPerDay : Int := 86400

instance : LT Instant := ⟨fun a b => a.second < b.second ∨ a.second = b.second ∧ a.nano < b.nano⟩

instance : LE Instant := ⟨fun a b => a.second < b.second ∨ a.second = b.second ∧ a.nano ≤ b.nano⟩

instance (a b : Instant) : Decidable (a < b) :=
  inferInstanceAs (Decidable (a.second < b.second ∨ a.second = b.second ∧ a.nano < b.nano))

instance (a b : Instant) : Decidable (a ≤ b) :=
  inferInstanceAs (Decidable (a.second < b.second ∨ a.second = b.second ∧ a.nano ≤ b.nano))

def isLeap (t : Instant) : Bool := nanosPerSecond ≤ t.nano

/-- The first second of the first representable day. -/
def minSecond : Int := (Date.toDays ⟨Date.minYear, 1, 1⟩) * secondsPerDay

/-- The last second of the last representable day. -/
def maxSecond : Int := (Date.toDays ⟨Date.maxYear, 12, 31⟩) * secondsPerDay + (secondsPerDay - 1)

def inRange (second : Int) : Bool := decide (minSecond ≤ second ∧ second ≤ maxSecond)

/-- The instant `seconds` and `nanos < 10^9` later, or `none` when no date reaches it. A sum that
stays inside a leap second stays in it; one that leaves it goes on from its neighbour. -/
def add? (t : Instant) (seconds : Int) (nanos : Nat) : Option Instant :=
  if t.isLeap ∧ seconds = 0 ∧ t.nano + nanos < 2 * nanosPerSecond then
    some { t with nano := t.nano + nanos }
  else
    let base : Instant :=
      if !t.isLeap then t
      else if seconds < 0 then { second := t.second + 1, nano := t.nano - nanosPerSecond }
      else { t with nano := t.nano - nanosPerSecond }
    let fraction := base.nano + nanos
    let second := base.second + seconds + (fraction / nanosPerSecond : Nat)
    if inRange second then some { second, nano := fraction % nanosPerSecond } else none

/-- The instant some time later, with no bound on dates. -/
def advance (t : Instant) (d : Duration) : Instant :=
  let fraction := t.nano + d.nanos
  { second := t.second + (fraction / nanosPerSecond : Nat), nano := fraction % nanosPerSecond }

/-- Whole milliseconds from one instant to a later one. -/
def millisSince (t start : Instant) : Int :=
  ((t.second - start.second) * nanosPerSecond + ((t.nano : Int) - start.nano)).tdiv 1000000

/-- 2000-01-01T00:00:00Z, from which stored times are counted. -/
def storeEpoch : Int := 946684800

/-- The instant as it is stored: whole microseconds from the year 2000, cut toward that year. A
leap second runs into the next second. -/
def stored (t : Instant) : Instant :=
  let nanos := (t.second - storeEpoch) * nanosPerSecond + t.nano
  let micros := nanos.tdiv 1000
  { second := storeEpoch + micros.fdiv 1000000, nano := (micros.fmod 1000000).toNat * 1000 }

/-- Digits of a number, at least `width` of them. -/
def padded (width n : Nat) : String :=
  let digits := toString n
  String.ofList (List.replicate (width - digits.length) '0') ++ digits

/-- Four digits for the years 0 to 9999; a sign and at least four digits for all others. -/
def yearText (year : Int) : String :=
  if 0 ≤ year ∧ year ≤ 9999 then padded 4 year.toNat
  else (if year < 0 then "-" else "+") ++ padded 4 year.natAbs

/-- No fraction, or one of three, six or nine digits. -/
def fractionText (nano : Nat) : String :=
  if nano = 0 then ""
  else if nano % 1000000 = 0 then "." ++ padded 3 (nano / 1000000)
  else if nano % 1000 = 0 then "." ++ padded 6 (nano / 1000)
  else "." ++ padded 9 nano

/-- The instant in RFC 3339 form, in UTC. A leap second is written as second 60. -/
def text (t : Instant) : String :=
  let days := t.second.fdiv secondsPerDay
  let date := Date.ofDays days
  let second := (t.second - days * secondsPerDay).toNat
  let leap := if t.isLeap then 1 else 0
  yearText date.year ++ "-" ++ padded 2 date.month ++ "-" ++ padded 2 date.day ++ "T" ++
    padded 2 (second / 3600) ++ ":" ++ padded 2 (second / 60 % 60) ++ ":" ++
    padded 2 (second % 60 + leap) ++ fractionText (t.nano % nanosPerSecond) ++ "Z"

end Instant

end AgentSync
