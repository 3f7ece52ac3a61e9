import AgentSync.Json.Reader
import AgentSync.Json.Writer

namespace AgentSync

/-- The characters of a decimal digit. -/
abbrev IsDigit (c : Char) : Prop := '0' ≤ c ∧ c ≤ '9'

theorem isDigit_iff {c : Char} : c.isDigit = true ↔ IsDigit c := by
  simp only [Char.isDigit, Bool.and_eq_true, decide_eq_true_iff]
  rfl

theorem isDigit_of_mem_toDigits {c : Char} {n : Nat} (hmem : c ∈ Nat.toDigits 10 n) : IsDigit c :=
  isDigit_iff.mp (Nat.isDigit_of_mem_toDigits (by decide) (by decide) hmem)

/-- Only the digits of zero start with a zero. -/
theorem head_toDigits_ne_zero {n : Nat} (hn : 0 < n) : (Nat.toDigits 10 n).head? ≠ some '0' := by
  induction n using Nat.strongRecOn with
  | _ n ih =>
    rw [Nat.toDigits_eq_if (by decide)]
    split
    · next hsmall =>
      have hdigits : ∀ d, d < 10 → 0 < d → d.digitChar ≠ '0' := by decide
      simpa using hdigits n hsmall hn
    · next hlarge =>
      have hstart := ih (n / 10) (Nat.div_lt_self hn (by decide)) (by omega)
      obtain ⟨c, cs, hcs⟩ :=
        List.exists_cons_of_ne_nil (Nat.toDigits_ne_nil (n := n / 10) (b := 10))
      rw [hcs] at hstart ⊢
      exact hstart

/-- What may follow a value: the end of the text, or a character that separates or closes. -/
def Stops (rest : List Char) : Prop :=
  ∀ c ∈ rest.head?, c = ',' ∨ c = ']' ∨ c = '}'

theorem stops_nil : Stops [] := fun _ hmem => nomatch hmem

/-- A number ends at what can follow a value. -/
theorem stops_cons {c : Char} (rest : List Char) (hc : c = ',' ∨ c = ']' ∨ c = '}') :
    Stops (c :: rest) := by
  intro d hd
  cases hd
  exact hc

namespace Reader

/-- Digits are read up to the first character that is none. -/
theorem readDigits_append {digits rest : List Char} (hdigits : ∀ c ∈ digits, IsDigit c)
    (hrest : ∀ c ∈ rest.head?, ¬IsDigit c) :
    readDigits (digits ++ rest) = (digits.map digitValue, rest) := by
  induction digits with
  | nil =>
    cases rest with
    | nil => rfl
    | cons c cs => rw [List.nil_append, readDigits, if_neg (hrest c rfl)]; rfl
  | cons d ds ih =>
    obtain ⟨hd, hds⟩ := List.forall_mem_cons.mp hdigits
    rw [List.cons_append, readDigits, if_pos hd, ih hds]
    rfl

end Reader

/-- A number literal in characters: digits before the point, after it, and of an exponent with its
sign. -/
structure Numeral where
  negative : Bool
  whole : List Char
  fraction : Option (List Char)
  exponent : Option (Bool × List Char)

namespace Numeral

/-- Some digits. -/
def IsDigits (digits : List Char) : Prop := digits ≠ [] ∧ ∀ c ∈ digits, IsDigit c

/-- A numeral that can be read: every part has digits, and the whole part starts with a zero only
if it is one. -/
structure Valid (numeral : Numeral) : Prop where
  whole : IsDigits numeral.whole
  leading : numeral.whole.head? = some '0' → numeral.whole = ['0']
  fraction : ∀ digits ∈ numeral.fraction, IsDigits digits
  exponent : ∀ part ∈ numeral.exponent, IsDigits part.2

def fractionText : Option (List Char) → List Char
  | none => []
  | some digits => '.' :: digits

def exponentText : Option (Bool × List Char) → List Char
  | none => []
  | some (down, digits) => 'e' :: (if down then '-' else '+') :: digits

/-- The written form. -/
def text (numeral : Numeral) : List Char :=
  (if numeral.negative then ['-'] else []) ++
    (numeral.whole ++ (fractionText numeral.fraction ++ exponentText numeral.exponent))

/-- The literal that is read. -/
def literal (numeral : Numeral) : Literal where
  negative := numeral.negative
  whole := numeral.whole.map Reader.digitValue
  fraction := numeral.fraction.map (·.map Reader.digitValue)
  exponent := numeral.exponent.map fun part => (part.1, part.2.map Reader.digitValue)

/-- The whole part is read up to what follows it. It has no leading zero, which would end it. -/
theorem readWhole?_append {whole rest : List Char} (hwhole : IsDigits whole)
    (hleading : whole.head? = some '0' → whole = ['0']) (hrest : ∀ c ∈ rest.head?, ¬IsDigit c) :
    Reader.readWhole? (whole ++ rest) = some (whole.map Reader.digitValue, rest) := by
  obtain ⟨hne, hdigits⟩ := hwhole
  obtain ⟨c, cs, rfl⟩ := List.exists_cons_of_ne_nil hne
  by_cases hzero : c = '0'
  · subst hzero
    obtain rfl : cs = [] := (List.cons.inj (hleading rfl)).2
    rfl
  · have hread := Reader.readDigits_append hdigits hrest
    unfold Reader.readWhole?
    split
    · next heq => exact absurd (List.cons.inj heq).1 hzero
    · rw [hread]
      rfl

/-- The fraction is read, or its absence seen. -/
theorem readFraction?_append {fraction : Option (List Char)} {rest : List Char}
    (hfraction : ∀ digits ∈ fraction, IsDigits digits)
    (hrest : ∀ c ∈ rest.head?, ¬IsDigit c ∧ c ≠ '.') :
    Reader.readFraction? (fractionText fraction ++ rest) =
      some (fraction.map (·.map Reader.digitValue), rest) := by
  cases fraction with
  | none =>
    unfold Reader.readFraction? fractionText
    split
    · next heq =>
      rw [List.nil_append] at heq
      exact absurd rfl (hrest '.' (by rw [heq]; rfl)).2
    · rfl
  | some digits =>
    obtain ⟨hne, hdigits⟩ := hfraction digits rfl
    have hread := Reader.readDigits_append hdigits fun c hc => (hrest c hc).1
    obtain ⟨c, cs, rfl⟩ := List.exists_cons_of_ne_nil hne
    unfold Reader.readFraction? fractionText
    rw [List.cons_append]
    simp only [hread]
    rfl

/-- The exponent is read, or its absence seen. -/
theorem readExponent?_append {exponent : Option (Bool × List Char)} {rest : List Char}
    (hexponent : ∀ part ∈ exponent, IsDigits part.2)
    (hrest : ∀ c ∈ rest.head?, ¬IsDigit c ∧ c ≠ 'e' ∧ c ≠ 'E') :
    Reader.readExponent? (exponentText exponent ++ rest) =
      some (exponent.map fun part => (part.1, part.2.map Reader.digitValue), rest) := by
  cases exponent with
  | none =>
    cases rest with
    | nil => rfl
    | cons c cs =>
      obtain ⟨_, hlower, hupper⟩ := hrest c rfl
      unfold exponentText Reader.readExponent?
      rw [List.nil_append]
      dsimp only
      rw [if_neg (not_or.mpr ⟨hlower, hupper⟩)]
      rfl
  | some part =>
    obtain ⟨down, digits⟩ := part
    obtain ⟨hne, hdigits⟩ := hexponent _ rfl
    have hread := Reader.readDigits_append hdigits fun c hc => (hrest c hc).1
    obtain ⟨c, cs, rfl⟩ := List.exists_cons_of_ne_nil hne
    have hsign : Reader.readSign ((if down then '-' else '+') :: (c :: cs ++ rest)) =
        (down, c :: cs ++ rest) := by
      cases down <;> rfl
    unfold exponentText Reader.readExponent?
    rw [List.cons_append, List.cons_append]
    dsimp only
    rw [if_pos (.inl rfl), hsign]
    dsimp only
    rw [hread]
    rfl

/-- A valid numeral is read to its end. -/
theorem Valid.readLiteral? {numeral : Numeral} (hvalid : numeral.Valid) {rest : List Char}
    (hrest : Stops rest) :
    Reader.readLiteral? (numeral.text ++ rest) = some (numeral.literal, rest) := by
  have hstop : ∀ c ∈ rest.head?, ¬IsDigit c ∧ c ≠ '.' ∧ c ≠ 'e' ∧ c ≠ 'E' := by
    intro c hc
    rcases hrest c hc with rfl | rfl | rfl <;> decide
  have hexponent := readExponent?_append hvalid.exponent fun c hc =>
    ⟨(hstop c hc).1, (hstop c hc).2.2⟩
  have hafterFraction : ∀ c ∈ (exponentText numeral.exponent ++ rest).head?,
      ¬IsDigit c ∧ c ≠ '.' := by
    intro c hc
    cases hcase : numeral.exponent with
    | none =>
      rw [hcase] at hc
      exact ⟨(hstop c hc).1, (hstop c hc).2.1⟩
    | some part =>
      rw [hcase] at hc
      cases hc
      decide
  have hfraction := readFraction?_append hvalid.fraction hafterFraction
  have hafterWhole : ∀ c ∈ (fractionText numeral.fraction ++
      (exponentText numeral.exponent ++ rest)).head?, ¬IsDigit c := by
    intro c hc
    cases hcase : numeral.fraction with
    | none =>
      rw [hcase] at hc
      exact (hafterFraction c hc).1
    | some digits =>
      rw [hcase] at hc
      cases hc
      decide
  have hwhole := readWhole?_append hvalid.whole hvalid.leading hafterWhole
  obtain ⟨c, cs, hcs⟩ := List.exists_cons_of_ne_nil hvalid.whole.1
  have hunsigned : c ≠ '-' := by
    rintro rfl
    exact absurd (hvalid.whole.2 '-' (hcs ▸ .head _)) (by decide)
  unfold Reader.readLiteral? text literal
  cases hnegative : numeral.negative with
  | true =>
    simp only [if_true, List.append_assoc, List.cons_append, List.nil_append, hwhole, hfraction,
      hexponent, Option.bind_eq_bind, Option.bind_some]
    rfl
  | false =>
    simp only [hcs, List.cons_append] at hwhole
    simp only [Bool.false_eq_true, if_false, List.append_assoc, List.nil_append, hcs,
      List.cons_append]
    split
    · next heq => exact absurd (List.cons.inj heq).1 hunsigned
    · simp only [hwhole, hfraction, hexponent, Option.bind_eq_bind, Option.bind_some]
      rfl

end Numeral

/-- The digits of a natural number are the whole part of a numeral. -/
theorem isDigits_toDigits (n : Nat) : Numeral.IsDigits (Nat.toDigits 10 n) :=
  ⟨Nat.toDigits_ne_nil, fun _ => isDigit_of_mem_toDigits⟩

/-- Only zero is written with a leading zero. -/
theorem leading_toDigits (n : Nat) (hzero : (Nat.toDigits 10 n).head? = some '0') :
    Nat.toDigits 10 n = ['0'] := by
  rcases Nat.eq_zero_or_pos n with rfl | hn
  · exact Nat.toDigits_zero 10
  · exact absurd hzero (head_toDigits_ne_zero hn)

/-- A number that is written as a valid numeral. -/
def IsNumeral (text : List Char) : Prop := ∃ numeral : Numeral, numeral.Valid ∧ numeral.text = text

theorem isNumeral_int (n : Int) : IsNumeral (Writer.number (.int n)) := by
  have hvalid (negative : Bool) (magnitude : Nat) :
      (Numeral.mk negative (Nat.toDigits 10 magnitude) none none).Valid :=
    ⟨isDigits_toDigits magnitude, leading_toDigits magnitude, nofun, nofun⟩
  rw [Writer.number, Int.toString_eq_repr, Int.repr_eq_if]
  split
  · refine ⟨_, hvalid false n.toNat, ?_⟩
    simp [Numeral.text, Numeral.fractionText, Numeral.exponentText, Nat.toList_repr]
  · refine ⟨_, hvalid true (-n).toNat, ?_⟩
    simp [Numeral.text, Numeral.fractionText, Numeral.exponentText, Nat.toList_repr]

namespace Binary64

/-- The digits of a decimal without the zeros at their end. -/
def significant (d : Decimal) : List Char :=
  ((Nat.toDigits 10 d.digits).reverse.dropWhile (· == '0')).reverse

/-- The significant digits are all digits but some zeros at the end. -/
theorem significant_prefix (d : Decimal) : significant d <+: Nat.toDigits 10 d.digits := by
  have hsuffix := List.dropWhile_suffix (· == '0') (l := (Nat.toDigits 10 d.digits).reverse)
  rw [← List.reverse_prefix, List.reverse_reverse] at hsuffix
  exact hsuffix

/-- A positive decimal has digits other than zeros, and starts with one. -/
theorem significant_spec {d : Decimal} (hpos : 0 < d.digits) :
    Numeral.IsDigits (significant d) ∧ (significant d).head? ≠ some '0' := by
  have hleading := head_toDigits_ne_zero hpos
  obtain ⟨c, cs, hcs⟩ := List.exists_cons_of_ne_nil (Nat.toDigits_ne_nil (n := d.digits) (b := 10))
  have hne : significant d ≠ [] := by
    intro hnil
    have hany := List.any_dropWhile (p := (· == '0')) (l := (Nat.toDigits 10 d.digits).reverse)
    rw [significant, List.reverse_eq_nil_iff] at hnil
    rw [hnil, List.any_nil, eq_comm, Bool.not_eq_false', List.all_reverse, hcs] at hany
    have hzero : c = '0' := by simpa using (List.all_eq_true.mp hany c (.head _))
    rw [hcs, hzero] at hleading
    exact hleading rfl
  have hstart := significant_prefix d
  refine ⟨⟨hne, fun c hmem => isDigit_of_mem_toDigits (hstart.subset hmem)⟩, ?_⟩
  obtain ⟨b, bs, hbs⟩ := List.exists_cons_of_ne_nil hne
  rw [hbs, hcs] at hstart
  rw [hbs, List.head?_cons, (List.cons_prefix_cons.mp hstart).1]
  rwa [hcs] at hleading

theorem isDigit_of_mem_replicate {c : Char} {n : Nat} (hmem : c ∈ List.replicate n '0') :
    IsDigit c := by
  rw [(List.mem_replicate.mp hmem).2]
  decide

/-- A text that is written as a numeral without a sign. -/
def IsUnsigned (text : String) : Prop :=
  ∃ numeral : Numeral, numeral.Valid ∧ numeral.negative = false ∧ numeral.text = text.toList

theorem isUnsigned_zero : IsUnsigned "0.0" := by
  have hdigits : Numeral.IsDigits ['0'] :=
    ⟨List.cons_ne_nil _ _, List.forall_mem_singleton.mpr (by decide)⟩
  refine ⟨⟨false, ['0'], some ['0'], none⟩, ⟨hdigits, fun _ => rfl, ?_, nofun⟩, rfl, rfl⟩
  rintro _ ⟨⟩
  exact hdigits

/-- A digit with the others after a point. -/
def mantissa : List Char → String
  | [] => "0"
  | [c] => String.ofList [c]
  | c :: rest => String.ofList [c, '.'] ++ String.ofList rest

section

variable {digits : List Char}

/-- Digits behind a point, with zeros between the two. -/
theorem isUnsigned_below_one (hdigits : Numeral.IsDigits digits) (n : Nat) :
    IsUnsigned ("0." ++ zeros n ++ String.ofList digits) := by
  refine ⟨⟨false, ['0'], some (List.replicate n '0' ++ digits), none⟩,
    ⟨⟨List.cons_ne_nil _ _, ?_⟩, fun _ => rfl, ?_, nofun⟩, rfl, ?_⟩
  · exact List.forall_mem_singleton.mpr (by decide)
  · rintro _ ⟨⟩
    exact ⟨fun hnil => hdigits.1 (List.append_eq_nil_iff.mp hnil).2,
      List.forall_mem_append.mpr ⟨fun _ => isDigit_of_mem_replicate, hdigits.2⟩⟩
  · simp [Numeral.text, Numeral.fractionText, Numeral.exponentText, zeros]

/-- Digits with zeros behind them. -/
theorem isUnsigned_whole (hdigits : Numeral.IsDigits digits) (hhead : digits.head? ≠ some '0')
    (n : Nat) : IsUnsigned (String.ofList digits ++ zeros n ++ ".0") := by
  refine ⟨⟨false, digits ++ List.replicate n '0', some ['0'], none⟩,
    ⟨⟨?_, ?_⟩, fun hzero => ?_, ?_, nofun⟩, rfl, ?_⟩
  · exact fun hnil => hdigits.1 (List.append_eq_nil_iff.mp hnil).1
  · exact List.forall_mem_append.mpr ⟨hdigits.2, fun _ => isDigit_of_mem_replicate⟩
  · obtain ⟨c, cs, rfl⟩ := List.exists_cons_of_ne_nil hdigits.1
    exact absurd hzero hhead
  · rintro _ ⟨⟩
    exact ⟨List.cons_ne_nil _ _, List.forall_mem_singleton.mpr (by decide)⟩
  · simp [Numeral.text, Numeral.fractionText, Numeral.exponentText, zeros]

/-- Digits with a point between them. -/
theorem isUnsigned_split (hdigits : Numeral.IsDigits digits) (hhead : digits.head? ≠ some '0')
    {n : Nat} (hn : 0 < n) (hlength : n < digits.length) :
    IsUnsigned (String.ofList (digits.take n) ++ "." ++ String.ofList (digits.drop n)) := by
  refine ⟨⟨false, digits.take n, some (digits.drop n), none⟩,
    ⟨⟨?_, ?_⟩, fun hzero => ?_, ?_, nofun⟩, rfl, ?_⟩
  · exact fun hnil => (List.take_eq_nil_iff.mp hnil).elim (Nat.ne_of_gt hn) hdigits.1
  · exact fun c hmem => hdigits.2 c (List.mem_of_mem_take hmem)
  · rw [List.head?_take, if_neg (Nat.ne_of_gt hn)] at hzero
    exact absurd hzero hhead
  · rintro _ ⟨⟩
    refine ⟨fun hnil => ?_, fun c hmem => hdigits.2 c (List.mem_of_mem_drop hmem)⟩
    exact Nat.not_le.mpr hlength (List.drop_eq_nil_iff.mp hnil)
  · simp [Numeral.text, Numeral.fractionText, Numeral.exponentText]

/-- Digits with a point after the first one, and an exponent. -/
theorem isUnsigned_scientific (hdigits : Numeral.IsDigits digits)
    (hhead : digits.head? ≠ some '0') (down : Prop) [Decidable down] (n : Nat) :
    IsUnsigned (mantissa digits ++ "e" ++ (if down then "-" else "+") ++ toString n) := by
  obtain ⟨c, cs, rfl⟩ := List.exists_cons_of_ne_nil hdigits.1
  have hfirst := List.forall_mem_cons.mp hdigits.2
  have hsign : (if down then "-" else "+").toList = [if down then '-' else '+'] := by
    split <;> rfl
  cases cs with
  | nil =>
    refine ⟨⟨false, [c], none, some (decide down, Nat.toDigits 10 n)⟩,
      ⟨hdigits, fun hzero => absurd hzero hhead, nofun, ?_⟩, rfl, ?_⟩
    · rintro _ ⟨⟩
      exact isDigits_toDigits n
    · simp [mantissa, Numeral.text, Numeral.fractionText, Numeral.exponentText, hsign]
  | cons d ds =>
    refine ⟨⟨false, [c], some (d :: ds), some (decide down, Nat.toDigits 10 n)⟩,
      ⟨⟨List.cons_ne_nil _ _, List.forall_mem_singleton.mpr hfirst.1⟩,
        fun hzero => absurd hzero hhead, ?_, ?_⟩, rfl, ?_⟩
    · rintro _ ⟨⟩
      exact ⟨List.cons_ne_nil _ _, hfirst.2⟩
    · rintro _ ⟨⟩
      exact isDigits_toDigits n
    · simp [mantissa, Numeral.text, Numeral.fractionText, Numeral.exponentText, hsign]

end

/-- A positive decimal is written as a numeral without a sign. -/
theorem isUnsigned_decimal {d : Decimal} (hpos : 0 < d.digits) : IsUnsigned (d.text layout) := by
  obtain ⟨hdigits, hhead⟩ := significant_spec hpos
  unfold Decimal.text
  rw [show ((Nat.toDigits 10 d.digits).reverse.dropWhile (· == '0') |>.reverse) =
    significant d from rfl]
  dsimp only
  generalize d.exponent + digitCount d.digits - 1 = leading
  generalize significant d = digits at hdigits hhead ⊢
  split
  · split
    · exact isUnsigned_below_one hdigits _
    · split
      · exact isUnsigned_whole hdigits hhead _
      · next hcount =>
        exact isUnsigned_split hdigits hhead (Nat.succ_pos _) (Nat.not_le.mp hcount)
  · exact isUnsigned_scientific hdigits hhead (leading < 0) leading.natAbs

/-- Nothing rounds to a number other than zero from zero. -/
theorem not_contains_zero {x : Binary64} (hx : 0 < x.significand) {den : Nat} (hden : 0 < den) :
    x.interval.contains 0 den = false := by
  have hpow : 0 < Nat.pow 2 x.scale := Nat.pow_pos (by decide)
  have hlow : 0 < x.interval.low := by
    refine Nat.mul_pos ?_ hpow
    split <;> omega
  have hmul : 0 < x.interval.low * den := Nat.mul_pos hlow hden
  unfold Interval.contains
  split
  · exact decide_eq_false fun h => Nat.not_le.mpr hmul h.1
  · exact decide_eq_false fun h => Nat.not_lt_zero _ h.1

/-- A decimal on a grid lies in the interval that rounds to the number. -/
theorem digits_pos_of_onGrid? {x : Binary64} (hx : 0 < x.significand) {leading : Int}
    {count : Nat} {d : Decimal} (hgrid : x.onGrid? leading count = some d) : 0 < d.digits := by
  have hden : 0 < Nat.pow 10 (-(leading - count + 1)).toNat := Nat.pow_pos (by decide)
  have hinside {digits : Nat} (up : Nat) (hcontains : x.interval.contains (4 * digits * up * unit)
      (Nat.pow 10 (-(leading - count + 1)).toNat) = true) : 0 < digits := by
    refine Nat.pos_of_ne_zero fun hdigits => ?_
    rw [hdigits, Nat.mul_zero, Nat.zero_mul, Nat.zero_mul, not_contains_zero hx hden] at hcontains
    cases hcontains
  unfold onGrid? at hgrid
  dsimp only at hgrid
  split at hgrid
  · next hfloor hnext =>
    split at hgrid
    · cases hgrid
      exact hinside _ hfloor
    · split at hgrid
      · cases hgrid
        exact Nat.succ_pos _
      · cases hgrid
        exact Nat.add_pos_left (hinside _ hfloor) _
  · next hfloor hnext =>
    cases hgrid
    exact hinside _ hfloor
  · cases hgrid
    exact Nat.succ_pos _
  · cases hgrid

/-- The text of a magnitude other than zero. -/
theorem isUnsigned_shortest {x : Binary64} (hx : 0 < x.significand) :
    IsUnsigned (x.shortest.text layout) := by
  unfold shortest
  dsimp only
  cases hfound : (List.range 17).findSome? fun n =>
      x.onGrid? (leadingExponent x.units unit) (n + 1) with
  | none =>
    have htext : Decimal.text ⟨0, 0⟩ layout = "0.0" := by decide +kernel
    rw [Option.getD_none, htext]
    exact isUnsigned_zero
  | some d =>
    obtain ⟨n, _, hgrid⟩ := List.exists_of_findSome?_eq_some hfound
    exact isUnsigned_decimal (digits_pos_of_onGrid? hx hgrid)

end Binary64

/-- A floating-point number is written as a literal, whichever notation it gets. -/
theorem isNumeral_real (x : Binary64) : IsNumeral (Writer.number (.real x)) := by
  have hmagnitude : Binary64.IsUnsigned
      (if x.isZero then "0.0" else x.shortest.text Binary64.layout) := by
    split
    · exact Binary64.isUnsigned_zero
    · next hzero =>
      refine Binary64.isUnsigned_shortest (Nat.pos_of_ne_zero fun hnone => hzero ?_)
      rw [Binary64.isZero, hnone]
      rfl
  obtain ⟨numeral, hvalid, hsign, htext⟩ := hmagnitude
  unfold Writer.number Binary64.text
  dsimp only
  split
  · refine ⟨{ numeral with negative := true }, ⟨hvalid.1, hvalid.2, hvalid.3, hvalid.4⟩, ?_⟩
    rw [String.toList_append, ← htext]
    simp [Numeral.text, hsign]
  · exact ⟨numeral, hvalid, htext⟩

/-- Every number is written as a numeral. -/
theorem isNumeral_number (n : Number) : IsNumeral (Writer.number n) := by
  cases n with
  | int value => exact isNumeral_int value
  | real value => exact isNumeral_real value

end AgentSync
