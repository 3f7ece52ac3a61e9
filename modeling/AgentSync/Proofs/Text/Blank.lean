import AgentSync.Text.Blank
import Mathlib.Data.List.TakeWhile

namespace AgentSync.Text

/-- A text that neither starts nor ends with a blank. -/
structure Trimmed (cs : List Char) : Prop where
  start : ∀ c ∈ cs.head?, isBlank c = false
  finish : ∀ c ∈ cs.getLast?, isBlank c = false

/-- A text with blanks on either side, or with none. -/
def Padded (text cs : List Char) : Prop :=
  ∃ before after, (∀ c ∈ before, isBlank c = true) ∧ (∀ c ∈ after, isBlank c = true) ∧
    cs = before ++ text ++ after

theorem Padded.refl (text : List Char) : Padded text text := ⟨[], [], by simp⟩

/-- Blanks at the start make no difference. -/
theorem trimStart_append {blanks : List Char} (hblanks : ∀ c ∈ blanks, isBlank c = true)
    (cs : List Char) : trimStart (blanks ++ cs) = trimStart cs :=
  List.dropWhile_append_of_pos hblanks

theorem trimStart_eq_self {cs : List Char} (hstart : ∀ c ∈ cs.head?, isBlank c = false) :
    trimStart cs = cs := by
  cases cs with
  | nil => rfl
  | cons c rest => exact List.dropWhile_cons_of_neg (by simp [hstart c rfl])

theorem trimStart_of_blank {cs : List Char} (hcs : ∀ c ∈ cs, isBlank c = true) :
    trimStart cs = [] := List.dropWhile_eq_nil_iff.mpr hcs

theorem not_isBlank_of_mem_head?_trimStart {cs : List Char} {c : Char}
    (hc : c ∈ (trimStart cs).head?) : isBlank c = false := by
  unfold trimStart at hc
  have hhead := List.head?_dropWhile_not isBlank cs
  rwa [Option.mem_def.mp hc] at hhead

/-- What is trimmed has no blank at either end. -/
theorem trimmed_trim (cs : List Char) : Trimmed (trim cs) := by
  constructor
  · intro c hc
    -- the first character left is the one that was left at the start
    obtain ⟨dropped, hdropped⟩ : trimStart (trimStart cs).reverse <:+ (trimStart cs).reverse :=
      List.dropWhile_suffix _
    rw [trim, List.head?_reverse] at hc
    have hfirst : (trimStart cs).head? = some c := by
      rw [← List.getLast?_reverse, ← hdropped, List.getLast?_append, Option.mem_def.mp hc]
      rfl
    exact not_isBlank_of_mem_head?_trimStart hfirst
  · intro c hc
    rw [trim, List.getLast?_reverse] at hc
    exact not_isBlank_of_mem_head?_trimStart hc

/-- Nothing but blanks is taken off. -/
theorem padded_trim (cs : List Char) : Padded (trim cs) cs := by
  have hsplit (ds : List Char) : ds.takeWhile isBlank ++ trimStart ds = ds :=
    List.takeWhile_append_dropWhile
  refine ⟨cs.takeWhile isBlank, ((trimStart cs).reverse.takeWhile isBlank).reverse,
    fun _ => List.mem_takeWhile_imp,
    fun _ hc => List.mem_takeWhile_imp (List.mem_reverse.mp hc), ?_⟩
  rw [trim, List.append_assoc, ← List.reverse_append, hsplit, List.reverse_reverse, hsplit]

theorem mem_of_mem_trim {cs : List Char} {c : Char} (hc : c ∈ trim cs) : c ∈ cs := by
  obtain ⟨before, after, -, -, hcs⟩ := padded_trim cs
  rw [hcs]
  exact List.mem_append_left _ (List.mem_append_right _ hc)

/-- A trimmed text is found again between blanks. -/
theorem Padded.trim_eq {text cs : List Char} (hpadded : Padded text cs) (htext : Trimmed text) :
    trim cs = text := by
  obtain ⟨before, after, hbefore, hafter, rfl⟩ := hpadded
  have hreverse : ∀ c ∈ after.reverse, isBlank c = true :=
    fun c hc => hafter c (List.mem_reverse.mp hc)
  rw [trim, List.append_assoc, trimStart_append hbefore]
  cases text with
  | nil =>
    rw [List.nil_append, trimStart_of_blank hafter]
    rfl
  | cons c rest =>
    have hstart : trimStart (c :: rest ++ after) = c :: rest ++ after :=
      trimStart_eq_self htext.start
    have hfinish : trimStart (c :: rest).reverse = (c :: rest).reverse :=
      trimStart_eq_self (by rw [List.head?_reverse]; exact htext.finish)
    rw [hstart, List.reverse_append, trimStart_append hreverse, hfinish, List.reverse_reverse]

end AgentSync.Text
