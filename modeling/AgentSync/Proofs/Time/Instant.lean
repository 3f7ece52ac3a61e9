import AgentSync.Time.Instant

namespace AgentSync

namespace Instant

/-- Nanoseconds from 1970-01-01T00:00:00Z, leap seconds not counted. -/
def sinceEpoch (t : Instant) : Int := t.second * nanosPerSecond + t.nano

theorem isLeap_eq_false_iff {t : Instant} : t.isLeap = false ↔ t.nano < nanosPerSecond := by
  simp [isLeap]

/-- Outside leap seconds instants are ordered as their counts. -/
theorem le_iff_sinceEpoch {a b : Instant} (ha : a.isLeap = false) (hb : b.isLeap = false) :
    a ≤ b ↔ a.sinceEpoch ≤ b.sinceEpoch := by
  rw [isLeap_eq_false_iff] at ha hb
  change a.second < b.second ∨ a.second = b.second ∧ a.nano ≤ b.nano ↔ _
  simp only [sinceEpoch, nanosPerSecond] at ha hb ⊢
  omega

theorem not_lt_iff_le {a b : Instant} : ¬a < b ↔ b ≤ a := by
  change ¬(a.second < b.second ∨ a.second = b.second ∧ a.nano < b.nano) ↔
    b.second < a.second ∨ b.second = a.second ∧ b.nano ≤ a.nano
  omega

theorem not_le_iff_lt {a b : Instant} : ¬a ≤ b ↔ b < a := by
  rw [← not_lt_iff_le, Decidable.not_not]

theorem lt_iff_sinceEpoch {a b : Instant} (ha : a.isLeap = false) (hb : b.isLeap = false) :
    a < b ↔ a.sinceEpoch < b.sinceEpoch := by
  rw [← Int.not_le, ← le_iff_sinceEpoch hb ha, not_le_iff_lt]

theorem le_trans {a b c : Instant} (hab : a ≤ b) (hbc : b ≤ c) : a ≤ c := by
  change a.second < b.second ∨ a.second = b.second ∧ a.nano ≤ b.nano at hab
  change b.second < c.second ∨ b.second = c.second ∧ b.nano ≤ c.nano at hbc
  change a.second < c.second ∨ a.second = c.second ∧ a.nano ≤ c.nano
  omega

theorem le_refl (t : Instant) : t ≤ t := .inr ⟨rfl, Nat.le_refl _⟩

theorem le_total (a b : Instant) : a ≤ b ∨ b ≤ a := by
  change (a.second < b.second ∨ a.second = b.second ∧ a.nano ≤ b.nano) ∨
    (b.second < a.second ∨ b.second = a.second ∧ b.nano ≤ a.nano)
  omega

/-- Outside leap seconds a sum carries whole seconds over, and is missing beyond the range. -/
theorem add?_of_regular {t : Instant} (ht : t.isLeap = false) (seconds : Int) (nanos : Nat) :
    t.add? seconds nanos =
      if inRange (t.second + seconds + ((t.nano + nanos) / nanosPerSecond : Nat)) then
        some ⟨t.second + seconds + ((t.nano + nanos) / nanosPerSecond : Nat),
          (t.nano + nanos) % nanosPerSecond⟩
      else none := by
  simp only [add?, ht, Bool.false_eq_true, false_and, if_false, Bool.not_false, if_true]

/-- Going forward, a sum is missing only beyond the last second. -/
theorem add?_of_regular_eq_none_iff {t : Instant} (ht : t.isLeap = false)
    (hmin : minSecond ≤ t.second) {seconds : Int} (hforward : 0 ≤ seconds) (nanos : Nat) :
    t.add? seconds nanos = none ↔
      maxSecond < t.second + seconds + ((t.nano + nanos) / nanosPerSecond : Nat) := by
  rw [add?_of_regular ht, inRange]
  generalize (t.nano + nanos) / nanosPerSecond = carried
  simp only [decide_eq_true_eq, ite_eq_right_iff, reduceCtorEq, imp_false]
  omega

theorem exists_add?_of_regular {t : Instant} (ht : t.isLeap = false) {seconds : Int}
    (hlow : minSecond ≤ t.second + seconds) (hhigh : t.second + seconds ≤ maxSecond) :
    ∃ later, t.add? seconds 0 = some later := by
  rw [add?_of_regular ht, Nat.add_zero, Nat.div_eq_of_lt (isLeap_eq_false_iff.mp ht)]
  exact ⟨_, if_pos (by simp [inRange, hlow, hhigh])⟩

/-- The neighbour of a leap second from which a sum goes on that leaves it. -/
def besideLeap (t : Instant) (seconds : Int) : Instant :=
  ⟨if seconds < 0 then t.second + 1 else t.second, t.nano - nanosPerSecond⟩

theorem isLeap_besideLeap {t : Instant} (hnano : t.nano < 2 * nanosPerSecond) (seconds : Int) :
    (t.besideLeap seconds).isLeap = false :=
  isLeap_eq_false_iff.mpr (by simp only [besideLeap, nanosPerSecond] at *; omega)

/-- A sum that leaves a leap second goes on from the second beside it. -/
theorem add?_of_leap {t : Instant} (ht : t.isLeap = true) {seconds : Int} {nanos : Nat}
    (hnano : t.nano < 2 * nanosPerSecond)
    (hleaves : seconds = 0 → 2 * nanosPerSecond ≤ t.nano + nanos) :
    t.add? seconds nanos = (t.besideLeap seconds).add? seconds nanos := by
  rw [add?_of_regular (isLeap_besideLeap hnano seconds), add?, if_neg fun hstays => ?_]
  · by_cases hback : seconds < 0 <;>
      simp only [ht, besideLeap, hback, Bool.not_true, Bool.false_eq_true, if_false, if_true]
  · exact Nat.not_lt.mpr (hleaves hstays.2.1) hstays.2.2

/-- A sum that some date reaches is exact, and lies outside leap seconds as its first part does. -/
theorem sinceEpoch_add? {t later : Instant} {seconds : Int} {nanos : Nat} (ht : t.isLeap = false)
    (hadd : t.add? seconds nanos = some later) :
    later.isLeap = false ∧
      later.sinceEpoch = t.sinceEpoch + seconds * nanosPerSecond + nanos := by
  rw [add?_of_regular ht] at hadd
  split at hadd
  · cases hadd
    have hpositive : 0 < nanosPerSecond := by decide
    have hsplit := Nat.div_add_mod (t.nano + nanos) nanosPerSecond
    refine ⟨isLeap_eq_false_iff.mpr (Nat.mod_lt _ hpositive), ?_⟩
    simp only [sinceEpoch, nanosPerSecond] at hsplit ⊢
    omega
  · cases hadd

end Instant

/-- A length of time is its whole seconds and what is left over. -/
theorem Duration.seconds_add_subsecond (d : Duration) :
    d.seconds * Instant.nanosPerSecond + d.subsecond = d.nanos :=
  Nat.div_add_mod' d.nanos nanosPerSecond

namespace Instant

/-- The first second of a year. -/
def firstSecond (year : Int) : Int := Date.toDays ⟨year, 1, 1⟩ * secondsPerDay

/-- An instant in the years from one to another. The nanoseconds run to two seconds, since a leap
second counts as part of the second before it. -/
structure InYears (first last : Int) (t : Instant) : Prop where
  first_le : firstSecond first ≤ t.second
  lt_next : t.second < firstSecond (last + 1)
  nano_lt : t.nano < 2 * nanosPerSecond

/-- An instant that some date reaches. -/
abbrev IsDated (t : Instant) : Prop := t.InYears Date.minYear Date.maxYear

namespace InYears

variable {t : Instant}

theorem inRange (ht : t.IsDated) : minSecond ≤ t.second ∧ t.second ≤ maxSecond := by
  have hlast : firstSecond (Date.maxYear + 1) = maxSecond + 1 := by decide
  exact ⟨ht.first_le, by have := ht.lt_next; omega⟩

theorem isDated (ht : t.InYears 1 9999) : t.IsDated where
  first_le := Int.le_trans (by decide) ht.first_le
  lt_next := Int.lt_of_lt_of_le ht.lt_next (by decide)
  nano_lt := ht.nano_lt

/-- Two dates are less than the whole range apart. -/
theorem sinceEpoch_sub_lt {last : Instant} (ht : t.IsDated) (hlast : last.IsDated) :
    t.sinceEpoch - last.sinceEpoch < (maxSecond - minSecond + 2) * nanosPerSecond := by
  have hafter := ht.inRange.2
  have hbefore := hlast.inRange.1
  have hnano := ht.nano_lt
  simp only [sinceEpoch, nanosPerSecond] at hnano ⊢
  omega

/-- No date reaches a sum past the last second. What is added to an instant within a leap second
counts from the end of the second before it. -/
theorem add?_eq_none_iff (ht : t.IsDated) (d : Duration) :
    t.add? d.seconds d.subsecond = none ↔
      maxSecond < t.second + ((t.nano % nanosPerSecond + d.nanos) / nanosPerSecond : Nat) := by
  obtain ⟨hmin, hmax⟩ := ht.inRange
  have hnano := ht.nano_lt
  have hsum : t.second + d.seconds +
      ((t.nano % nanosPerSecond + d.subsecond) / nanosPerSecond : Nat) =
        t.second + ((t.nano % nanosPerSecond + d.nanos) / nanosPerSecond : Nat) := by
    rw [← d.seconds_add_subsecond, ← Nat.add_assoc, Nat.add_right_comm,
      Nat.add_mul_div_right _ _ (by decide)]
    omega
  rw [← hsum]
  cases hleap : t.isLeap with
  | false =>
    rw [add?_of_regular_eq_none_iff hleap hmin (Int.natCast_nonneg _),
      Nat.mod_eq_of_lt (isLeap_eq_false_iff.mp hleap)]
  | true =>
    have hge : nanosPerSecond ≤ t.nano := by simpa [isLeap] using hleap
    have hrest : t.nano % nanosPerSecond = t.nano - nanosPerSecond := by
      rw [Nat.mod_eq_sub_mod hge, Nat.mod_eq_of_lt (by omega)]
    have hbeside : t.besideLeap d.seconds = ⟨t.second, t.nano - nanosPerSecond⟩ :=
      congrArg (Instant.mk · _) (if_neg (Int.not_lt.mpr (Int.natCast_nonneg _)))
    rw [hrest]
    by_cases hstays : d.seconds = 0 ∧ t.nano + d.subsecond < 2 * nanosPerSecond
    · obtain ⟨hzero, hwithin⟩ := hstays
      have hadd : t.add? d.seconds d.subsecond =
          some { t with nano := t.nano + d.subsecond } := if_pos ⟨hleap, by omega, hwithin⟩
      rw [hadd, hzero, Nat.div_eq_of_lt (by omega)]
      simpa using hmax
    · rw [add?_of_leap hleap hnano (by omega), add?_of_regular_eq_none_iff
        (isLeap_besideLeap hnano _) (by rwa [hbeside]) (Int.natCast_nonneg _), hbeside]

/-- Every delay of 32 bits of seconds ends at a date. -/
theorem exists_add? (ht : t.InYears 1 9999) {seconds : Int} (hlow : -0x80000000 ≤ seconds)
    (hhigh : seconds ≤ 0x7FFFFFFF) : ∃ later, t.add? seconds 0 = some later := by
  have hfirst : minSecond + 0x80000000 ≤ firstSecond 1 := by decide
  have hlast : firstSecond (9999 + 1) + 0x80000000 ≤ maxSecond := by decide
  have hafter := ht.first_le
  have hbefore := ht.lt_next
  cases hleap : t.isLeap with
  | false => exact exists_add?_of_regular hleap (by omega) (by omega)
  | true =>
    by_cases hstays : seconds = 0
    · exact ⟨_, if_pos ⟨hleap, hstays, ht.nano_lt⟩⟩
    · rw [add?_of_leap hleap ht.nano_lt (by omega)]
      refine exists_add?_of_regular (isLeap_besideLeap ht.nano_lt _) ?_ ?_ <;>
        simp only [besideLeap] <;> split <;> omega

end InYears

end Instant

end AgentSync
