import AgentSync.Http.Url
import AgentSync.Proofs.Http.Percent

namespace AgentSync.Url

/-- A text without its tabs and line ends. -/
def unbroken (cs : List Char) : List Char :=
  cs.filter fun c => !(c == '\t' || c == '\n' || c == '\r')

/-- To escape a segment is to take tabs and line ends out of it and to encode the rest. -/
theorem escapeSegment_eq (cs : List Char) :
    escapeSegment cs = Percent.encode Percent.keepsInSegment (unbroken cs) := rfl

/-- Only letters change in lower case. -/
theorem eq_of_toLower_eq {c d : Char} (hd : d.toNat < 65) (h : c.toLower = d) : c = d := by
  unfold Char.toLower at h
  split at h
  · next hupper =>
    have hlow : 65 ≤ c.val.toNat := hupper.1
    have hhigh : c.val.toNat ≤ 90 := hupper.2
    subst h
    change (c.val + 32).toNat < 65 at hd
    rw [UInt32.toNat_add] at hd
    have hsum : (c.val.toNat + (32 : UInt32).toNat) % 2 ^ 32 = c.val.toNat + 32 :=
      Nat.mod_eq_of_lt (by change c.val.toNat + 32 < _; omega)
    omega
  · exact h

/-- The first byte of a character that is not ASCII is none either. -/
theorem eq_of_utf8EncodeChar {c : Char} {byte : UInt8} {bytes : List UInt8}
    (hencode : String.utf8EncodeChar c = byte :: bytes) (hbyte : byte.toNat < 0x80) :
    c.toNat = byte.toNat := by
  have hdef : c.val.toNat = c.toNat := rfl
  unfold String.utf8EncodeChar at hencode
  rw [hdef] at hencode
  dsimp only at hencode
  split at hencode
  · cases hencode
    exact (Utf8.toNat_ofNat (by omega)).symm
  -- Any other first byte says that more bytes follow.
  split at hencode
  · cases hencode
    rw [Utf8.toNat_ofNat (by omega)] at hbyte
    omega
  split at hencode
  · cases hencode
    rw [Utf8.toNat_ofNat (by omega)] at hbyte
    omega
  · cases hencode
    rw [Utf8.toNat_ofNat (by omega)] at hbyte
    omega

/-- No dot is written as an escape. -/
theorem escape_ne_dot {c : Char} (hc : c ≠ '.') (rest tail : List Char) :
    (Percent.escapeChar c ++ rest).map Char.toLower ≠ '%' :: '2' :: 'e' :: tail := by
  have hdigits : ∀ n < 16, ((Percent.hexDigit n).toLower = '2' → n = 2) ∧
      ((Percent.hexDigit n).toLower = 'e' → n = 14) := by decide
  intro heq
  obtain ⟨byte, bytes, hencode, -⟩ := Utf8.next_utf8EncodeChar c
  have hbyte := byte.toNat_lt
  rw [Percent.escapeChar, hencode, List.flatMap_cons, Percent.escape] at heq
  simp only [List.cons_append, List.map_cons, List.cons.injEq] at heq
  obtain ⟨-, hhigh, hlow, -⟩ := heq
  have hhigh := (hdigits _ (by omega)).1 hhigh
  have hlow := (hdigits _ (by omega)).2 hlow
  have hcode : c.toNat = 46 := by
    rw [eq_of_utf8EncodeChar hencode (by omega)]
    omega
  rw [← Char.ofNat_toNat c, hcode] at hc
  exact hc rfl

/-- How a text can begin in lower case once it is escaped: with a dot only if it begins with one,
and never with an escaped dot. -/
theorem lower_encode (cs tail : List Char) :
    ((Percent.encode Percent.keepsInSegment cs).map Char.toLower = '.' :: tail →
      ∃ rest, cs = '.' :: rest ∧
        (Percent.encode Percent.keepsInSegment rest).map Char.toLower = tail) ∧
    (Percent.encode Percent.keepsInSegment cs).map Char.toLower ≠ '%' :: '2' :: 'e' :: tail := by
  cases cs with
  | nil => exact ⟨nofun, nofun⟩
  | cons c rest =>
    rw [Percent.encode, List.flatMap_cons]
    split
    · next hkept =>
      have hpercent : c ≠ '%' := by
        rintro rfl
        cases hkept
      refine ⟨fun heq => ?_, fun heq => ?_⟩
      · obtain ⟨hhead, htail⟩ := List.cons.inj heq
        exact ⟨rest, by rw [eq_of_toLower_eq (by decide) hhead], htail⟩
      · exact hpercent (eq_of_toLower_eq (by decide) (List.cons.inj heq).1)
    · next hescaped =>
      have hdot : c ≠ '.' := by
        rintro rfl
        exact hescaped rfl
      refine ⟨fun heq => ?_, escape_ne_dot hdot _ _⟩
      obtain ⟨byte, bytes, hencode, -⟩ := Utf8.next_utf8EncodeChar c
      rw [Percent.escapeChar, hencode, List.flatMap_cons] at heq
      exact absurd (List.cons.inj heq).1 (by decide)

/-- Nothing but the empty text is encoded as nothing, so a segment is dots only if it was before. -/
theorem encode_eq_nil {cs : List Char}
    (hnil : (Percent.encode Percent.keepsInSegment cs).map Char.toLower = []) : cs = [] :=
  Classical.byContradiction fun hne =>
    Percent.encode_ne_nil hne (List.map_eq_nil_iff.mp hnil)

/-- An escaped text stands for its own segment only if it is a dot. -/
theorem isDot_encode {cs : List Char}
    (hdot : isDot (Percent.encode Percent.keepsInSegment cs) = true) : cs = ['.'] := by
  obtain ⟨hbegins, hescaped⟩ := lower_encode cs []
  simp only [isDot, List.contains_eq_mem, List.mem_cons, List.not_mem_nil, or_false,
    decide_eq_true_eq] at hdot
  rcases hdot with hplain | hother
  · obtain ⟨rest, rfl, hrest⟩ := hbegins (String.ofList_injective hplain)
    rw [encode_eq_nil hrest]
  · exact absurd (String.ofList_injective hother) hescaped

/-- An escaped text stands for the segment above only if it is two dots. -/
theorem isDoubleDot_encode {cs : List Char}
    (hdots : isDoubleDot (Percent.encode Percent.keepsInSegment cs) = true) : cs = ['.', '.'] := by
  simp only [isDoubleDot, List.contains_eq_mem, List.mem_cons, List.not_mem_nil, or_false,
    decide_eq_true_eq] at hdots
  rcases hdots with hplain | hsecond | hfirst | hboth
  · obtain ⟨rest, rfl, hrest⟩ := (lower_encode cs _).1 (String.ofList_injective hplain)
    obtain ⟨last, rfl, hlast⟩ := (lower_encode rest _).1 hrest
    rw [encode_eq_nil hlast]
  · obtain ⟨rest, rfl, hrest⟩ := (lower_encode cs _).1 (String.ofList_injective hsecond)
    exact absurd hrest (lower_encode rest _).2
  · exact absurd (String.ofList_injective hfirst) (lower_encode cs _).2
  · exact absurd (String.ofList_injective hboth) (lower_encode cs _).2

/-- What is left of a text is appended as a segment of its own, unless that is dots. -/
theorem appendSegment_eq (segments : List (List Char)) {text : List Char}
    (hdot : unbroken text ≠ ['.']) (hdots : unbroken text ≠ ['.', '.']) :
    appendSegment segments text = segments ++ [escapeSegment text] := by
  have hkept : ¬(text = ['.'] ∨ text = ['.', '.']) := by
    rintro (rfl | rfl)
    · exact hdot rfl
    · exact hdots rfl
  rw [appendSegment, if_neg hkept, addLast, escapeSegment_eq,
    if_neg fun h => hdots (isDoubleDot_encode h), if_neg fun h => hdot (isDot_encode h)]

/-- A text of which nothing, or only dots, is left does not become a segment of its own. -/
theorem appendSegment_of_dots (first second : List Char) {text : List Char}
    (hkept : unbroken text ∈ [[], ['.'], ['.', '.']]) :
    appendSegment [first, second] text ∈
      [[first, second], [first, second, []], [first, []]] := by
  unfold appendSegment
  split
  · exact .head _
  simp only [List.mem_cons, List.not_mem_nil, or_false] at hkept
  rw [escapeSegment_eq]
  rcases hkept with hnone | hdot | hdots
  · rw [hnone]
    exact .tail _ (.head _)
  · rw [hdot]
    exact .tail _ (.head _)
  · rw [hdots]
    exact .tail _ (.tail _ (.head _))

/-- An escaped segment is one segment. -/
theorem not_mem_escapeSegment (text : List Char) : '/' ∉ escapeSegment text := by
  have hdigits : ∀ n < 16, '/' ≠ Percent.hexDigit n := by decide
  intro hmem
  have hkept := Percent.keep_of_mem_encode (by decide) hdigits hmem
  exact absurd hkept (by decide)

/-- The text that arrives when it is sent as a segment, if any does. -/
def carried? (text : String) : Option String :=
  if unbroken text.toList ∈ [[], ['.'], ['.', '.']] then none
  else some (String.ofList (unbroken text.toList))

/-- A text that holds nothing that is lost in a segment. -/
structure IsWhole (text : String) : Prop where
  unbroken : ∀ c ∈ text.toList, c ≠ '\t' ∧ c ≠ '\n' ∧ c ≠ '\r'
  not_dot : text ≠ "."
  not_dots : text ≠ ".."

/-- Exactly such a text arrives as it is. -/
theorem carried?_eq_some_iff {text : String} (hne : text ≠ "") :
    carried? text = some text ↔ IsWhole text := by
  have hkeeps : ∀ c : Char, (!(c == '\t' || c == '\n' || c == '\r')) = true ↔
      c ≠ '\t' ∧ c ≠ '\n' ∧ c ≠ '\r' := by
    intro c
    simp [and_assoc]
  constructor
  · intro hcarried
    unfold carried? at hcarried
    split at hcarried
    · cases hcarried
    · next hdots =>
      have hsame := congrArg String.toList (Option.some.inj hcarried)
      rw [String.toList_ofList] at hsame
      rw [hsame] at hdots
      refine ⟨fun c hc => (hkeeps c).mp (List.filter_eq_self.mp hsame c hc), ?_, ?_⟩
      · rintro rfl
        exact hdots (.tail _ (.head _))
      · rintro rfl
        exact hdots (.tail _ (.tail _ (.head _)))
  · rintro ⟨hbreaks, hdot, hdots⟩
    have hsame : Url.unbroken text.toList = text.toList :=
      List.filter_eq_self.mpr fun c hc => (hkeeps c).mpr (hbreaks c hc)
    have hother : text.toList ∉ [[], ['.'], ['.', '.']] := by
      simp only [List.mem_cons, List.not_mem_nil, or_false, not_or]
      refine ⟨fun h => hne ?_, fun h => hdot ?_, fun h => hdots ?_⟩
      · exact String.toList_inj.mp h
      · exact String.toList_inj.mp h
      · exact String.toList_inj.mp h
    rw [carried?, hsame, if_neg hother, String.ofList_toList]

/-- A URL that names nothing but a host. -/
structure IsRoot (url : Url) : Prop where
  path : url.path = .segments [[]]
  query : url.query = none

/-- On a URL without a path, segments become the whole path. -/
theorem IsRoot.append {url : Url} (hroot : url.IsRoot) (segments : List String) :
    url.append segments =
      { url with path := .segments ((segments.map String.toList).foldl appendSegment []) } := by
  unfold Url.append
  rw [hroot.path]
  rfl

end AgentSync.Url
