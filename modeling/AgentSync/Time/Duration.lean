import AgentSync.Binary64
import AgentSync.Word

namespace AgentSync

/-- A length of time, in nanoseconds. -/
structure Duration where
  nanos : Nat
  deriving DecidableEq, Repr, Inhabited, Ord

namespace Duration

def nanosPerSecond : Nat := 1000000000

def nanosPerMilli : Nat := 1000000

def zero : Duration := ⟨0⟩

def ofSeconds (n : Nat) : Duration := ⟨n * nanosPerSecond⟩

def ofMillis (n : Nat) : Duration := ⟨n * nanosPerMilli⟩

/-- Whole seconds and the nanoseconds left over. -/
def ofParts (seconds nanos : Nat) : Duration := ⟨seconds * nanosPerSecond + nanos⟩

def seconds (d : Duration) : Nat := d.nanos / nanosPerSecond

def subsecond (d : Duration) : Nat := d.nanos % nanosPerSecond

/-- Whole milliseconds. -/
def millis (d : Duration) : Nat := d.nanos / nanosPerMilli

theorem millis_le_millis {a b : Duration} (h : a.nanos ≤ b.nanos) : a.millis ≤ b.millis :=
  Nat.div_le_div_right h

@[simp]
theorem millis_ofMillis (n : Nat) : (ofMillis n).millis = n := Nat.mul_div_cancel n (by decide)

theorem ofMillis_inj {m n : Nat} : ofMillis m = ofMillis n ↔ m = n :=
  ⟨fun h => by simpa using congrArg millis h, congrArg ofMillis⟩

theorem nanos_ofMillis_le_iff {m n : Nat} : (ofMillis m).nanos ≤ (ofMillis n).nanos ↔ m ≤ n :=
  Nat.mul_le_mul_right_iff (by decide)

theorem nanos_ofMillis_lt_iff {m n : Nat} : (ofMillis m).nanos < (ofMillis n).nanos ↔ m < n :=
  Nat.mul_lt_mul_right (by decide)

/-- The longest length of time: its seconds are the largest unsigned 64-bit word. -/
def longest : Duration := ofParts Word.max64 (nanosPerSecond - 1)

/-- Twice a length, or `none` if that is more than the longest. -/
def twice? (d : Duration) : Option Duration :=
  if 2 * d.nanos ≤ longest.nanos then some ⟨2 * d.nanos⟩ else none

def min (a b : Duration) : Duration := ⟨Nat.min a.nanos b.nanos⟩

/-- Seconds as a floating-point number: the whole seconds and the rest are rounded first, their
sum last. -/
def toSeconds (d : Duration) : Binary64 :=
  (Binary64.ofNat d.seconds).addMagnitude
    ((Binary64.ofNat d.subsecond).scaleDown (Binary64.ofNat nanosPerSecond))

end Duration

end AgentSync
