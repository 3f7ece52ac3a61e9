import AgentSync.Proofs.Degradation.Course
import AgentSync.Proofs.Degradation.Records

namespace AgentSync

open AgentSync.Action

namespace RowWriter

variable {σ : Type} {writer : RowWriter σ} {table : Table}

/-- Makes a call to a writer. -/
def perform (writer : RowWriter σ) : Save → Action σ Error Unit
  | .batch table rows => writer.saveBatch table rows
  | .one table row => writer.saveOne table row

/-- Calls that a writer answers one after another, from a state to a state. -/
inductive Makes (writer : RowWriter σ) : σ → List SaveRecord → σ → Prop
  | nil {state : σ} : Makes writer state [] state
  | cons {save : Save} {answer : Except Error Unit} {records : List SaveRecord}
      {state middle after : σ} (hsave : runFrom (writer.perform save) state = (answer, middle))
      (hrest : Makes writer middle records after) :
      Makes writer state (⟨save, answer⟩ :: records) after

theorem Makes.batch {rows : List Row} {answer : Except Error Unit} {records : List SaveRecord}
    {state middle after : σ}
    (hsave : runFrom (writer.saveBatch table rows) state = (answer, middle))
    (hrest : writer.Makes middle records after) :
    writer.Makes state (⟨.batch table rows, answer⟩ :: records) after := .cons hsave hrest

theorem Makes.one {row : Row} {answer : Except Error Unit} {records : List SaveRecord}
    {state middle after : σ} (hsave : runFrom (writer.saveOne table row) state = (answer, middle))
    (hrest : writer.Makes middle records after) :
    writer.Makes state (⟨.one table row, answer⟩ :: records) after := .cons hsave hrest

/-- Calls that a writer answers after others. -/
theorem Makes.append {records more : List SaveRecord} {state middle after : σ}
    (h : writer.Makes state records middle) (hmore : writer.Makes middle more after) :
    writer.Makes state (records ++ more) after := by
  induction h with
  | nil => exact hmore
  | cons hsave _ ih => exact .cons hsave (ih hmore)

/-- What every save keeps holds after saves that are made one after another. -/
theorem Makes.keeps {p : σ → Prop}
    (h : ∀ save state, p state → p (runFrom (writer.perform save) state).2)
    {records : List SaveRecord} {state after : σ} (hmakes : writer.Makes state records after) :
    p state → p after := by
  induction hmakes with
  | nil => exact id
  | @cons save _ _ state _ _ hsave _ ih =>
    intro hstate
    have hmiddle := h save state hstate
    rw [hsave] at hmiddle
    exact ih hmiddle

/-- Rows saved singly are called for one by one, in their order. -/
theorem SavesSingly.calls_of_ok {rows : List Row} {state after : σ}
    {result : Except Error (List Row)} (h : SavesSingly writer table rows state result after) :
    ∀ refused, result = .ok refused → ∃ answered, answered.map Prod.fst = rows ∧
      writer.Makes state (singleSaves table answered) after ∧
      (∀ record ∈ singleSaves table answered, record.settles = true) ∧
      refused = (singleSaves table answered).filterMap SaveRecord.refusedSingly? := by
  induction h with
  | nil =>
    rintro refused ⟨⟩
    exact ⟨[], rfl, .nil, by simp [singleSaves], rfl⟩
  | @accepted row _ _ _ _ _ hsave _ ih =>
    intro refused hresult
    obtain ⟨answered, hrows, hmakes, hsettles, hrefused⟩ := ih refused hresult
    exact ⟨(row, .ok ()) :: answered, congrArg (row :: ·) hrows,
      .one hsave hmakes,
      List.forall_mem_cons.mpr ⟨rfl, hsettles⟩, hrefused⟩
  | @refused row _ result error _ _ _ hsave hconflict _ ih =>
    intro refused hresult
    cases result with
    | error failure => cases hresult
    | ok others =>
      cases hresult
      obtain ⟨answered, hrows, hmakes, hsettles, hrefused⟩ := ih others rfl
      exact ⟨(row, .error error) :: answered, congrArg (row :: ·) hrows, .one hsave hmakes,
        List.forall_mem_cons.mpr ⟨hconflict, hsettles⟩, congrArg (row :: ·) hrefused⟩
  | failed _ _ => nofun

/-- Single saves that stop are calls for the first rows; the last one answers the failure. -/
theorem SavesSingly.calls_of_error {rows : List Row} {state after : σ}
    {result : Except Error (List Row)} (h : SavesSingly writer table rows state result after) :
    ∀ failure, result = .error failure → ∃ answered earlier save,
      answered.map Prod.fst = rows ∧
      writer.Makes state (earlier ++ [⟨save, .error failure⟩]) after ∧
      earlier ++ [⟨save, .error failure⟩] <+: singleSaves table answered ∧
      ∀ record ∈ earlier, record.settles = true := by
  induction h with
  | nil => nofun
  | @accepted row _ _ _ _ _ hsave _ ih =>
    intro failure hresult
    obtain ⟨answered, earlier, save, hrows, hmakes, hstart, hsettles⟩ := ih failure hresult
    exact ⟨(row, .ok ()) :: answered, ⟨.one table row, .ok ()⟩ :: earlier, save,
      congrArg (row :: ·) hrows, .one hsave hmakes, List.cons_prefix_cons.mpr ⟨rfl, hstart⟩,
      List.forall_mem_cons.mpr ⟨rfl, hsettles⟩⟩
  | @refused row _ result error _ _ _ hsave hconflict _ ih =>
    intro failure hresult
    cases result with
    | ok others => cases hresult
    | error other =>
      obtain ⟨answered, earlier, save, hrows, hmakes, hstart, hsettles⟩ := ih failure hresult
      exact ⟨(row, .error error) :: answered, ⟨.one table row, .error error⟩ :: earlier, save,
        congrArg (row :: ·) hrows, .one hsave hmakes, List.cons_prefix_cons.mpr ⟨rfl, hstart⟩,
        List.forall_mem_cons.mpr ⟨hconflict, hsettles⟩⟩
  | @failed row rest error _ _ hsave _ =>
    rintro failure ⟨⟩
    refine ⟨(row, .error error) :: rest.map (·, .ok ()), [], .one table row, ?_,
      .one hsave .nil, List.cons_prefix_cons.mpr ⟨rfl, List.nil_prefix⟩, by simp⟩
    simp [Function.comp_def]

/-- The calls of cycles, for any writer. -/
theorem SavesInCycles.calls {limit : Nat} {rows : List Row} {state after : σ}
    {result : Except Error (List Row)}
    (h : SavesInCycles writer table limit rows state result after) (hrows : rows ≠ []) :
    ∃ records, writer.Makes state records after ∧
      SaveCalls table limit rows records result := by
  induction h with
  | spent => exact ⟨[], .nil, .left .nil rfl hrows⟩
  | @accepted _ rows _ _ hsave =>
    exact ⟨_, .batch hsave .nil, .accepted .nil (Nat.succ_pos _) hrows⟩
  | @failed _ rows error _ _ hsave hother =>
    exact ⟨_, .batch hsave .nil,
      .failed .nil (Nat.succ_pos _) hrows (.batch _) (List.forall_mem_nil _) hother⟩
  | @stopped _ rows error failure _ _ _ hsave hconflict hsingly =>
    obtain ⟨answered, earlier, save, heach, hmakes, hstart, hsettles⟩ :=
      hsingly.calls_of_error failure rfl
    have hbegins : BeginsCycle table rows
        ((⟨.batch table rows, .error error⟩ :: earlier) ++ [⟨save, .error failure⟩]) :=
      .singly hconflict heach hstart
    exact ⟨_, .batch hsave hmakes, .failed .nil (Nat.succ_pos _) hrows hbegins
      (List.forall_mem_cons.mpr ⟨hconflict, hsettles⟩) (hsingly.not_isConflict failure rfl)⟩
  | @cleared cycles rows error _ _ _ hsave hconflict hsingly =>
    obtain ⟨answered, heach, hmakes, hsettles, hleft⟩ := hsingly.calls_of_ok [] rfl
    have hcycle : IsCycle table rows
        (⟨.batch table rows, .error error⟩ :: singleSaves table answered) [] :=
      ⟨error, answered, heach, rfl, List.forall_mem_cons.mpr ⟨hconflict, hsettles⟩, hleft⟩
    have hcalls : SaveCalls table (cycles + 1) rows (_ ++ []) (.ok []) :=
      .cons hrows hcycle (.cleared .nil (Nat.zero_le _))
    rw [List.append_nil] at hcalls
    exact ⟨_, .batch hsave hmakes, hcalls⟩
  | @again _ rows left error _ _ _ _ _ hsave hconflict hsingly hleft _ ih =>
    obtain ⟨answered, heach, hmakes, hsettles, hrefused⟩ := hsingly.calls_of_ok left rfl
    obtain ⟨records, hmore, hcalls⟩ := ih hleft
    have hcycle : IsCycle table rows
        (⟨.batch table rows, .error error⟩ :: singleSaves table answered) left :=
      ⟨error, answered, heach, rfl, List.forall_mem_cons.mpr ⟨hconflict, hsettles⟩, hrefused⟩
    exact ⟨_, (Makes.batch hsave hmakes).append hmore,
      hcalls.cons hrows hcycle⟩

end RowWriter

/-- The failure that an outcome reports, if it is no conflict. -/
def Error.stopping? {α : Type} : Except Error α → Option Error
  | .error error => if error.isConflict then none else some error
  | .ok _ => none

theorem Error.stopping?_of_other {α : Type} {error : Error} (hother : error.isConflict = false) :
    stopping? (.error error : Except Error α) = some error := by
  rw [stopping?, hother, if_neg Bool.false_ne_true]

/-- What is answered makes no difference to whether a failure is reported. -/
theorem Error.stopping?_map {α β : Type} (f : α → β) (result : Except Error α) :
    stopping? (result.map f) = stopping? result := by
  cases result <;> rfl

/-- A save goes on after a call exactly if the call reports no failure but a conflict. -/
theorem SaveRecord.settles_iff {record : SaveRecord} :
    record.settles = true ↔ Error.stopping? record.answer = none := by
  obtain ⟨save, error | ⟨⟩⟩ := record
  · simp [settles, Error.stopping?]
  · exact iff_of_true rfl rfl

/-- How calls end: every call is accepted or refused, but the last one may fail otherwise. -/
inductive EndsIn : List SaveRecord → Option Error → Prop
  | nil : EndsIn [] none
  | cons {record : SaveRecord} {records : List SaveRecord} {failure : Option Error}
      (hsettles : record.settles = true) (hrest : EndsIn records failure) :
      EndsIn (record :: records) failure
  | stopped {save : Save} {error : Error} (hother : error.isConflict = false) :
      EndsIn [⟨save, .error error⟩] (some error)

/-- Further calls only follow where no failure has ended them. -/
theorem EndsIn.append {records more : List SaveRecord} {failure : Option Error}
    (h : EndsIn records none) (hmore : EndsIn more failure) : EndsIn (records ++ more) failure := by
  induction records with
  | nil => exact hmore
  | cons record records ih =>
    cases h with
    | cons hsettles hrest => exact .cons hsettles (ih hrest)

/-- Calls that were all accepted or refused end in no failure. -/
theorem EndsIn.of_settles {records : List SaveRecord}
    (h : ∀ record ∈ records, record.settles = true) : EndsIn records none := by
  induction records with
  | nil => exact .nil
  | cons record records ih =>
    obtain ⟨hfirst, hrest⟩ := List.forall_mem_cons.mp h
    exact .cons hfirst (ih hrest)

/-- A save goes on as long as its calls are accepted or refused, and a failure of it is the answer
of its last call. -/
theorem SaveCalls.endsIn {table : Table} {limit : Nat} {rows : List Row}
    {records : List SaveRecord} {result : Except Error (List Row)}
    (h : SaveCalls table limit rows records result) : EndsIn records (Error.stopping? result) := by
  cases h with
  | cleared hcycles _ => exact .of_settles hcycles.settles
  | left hcycles _ _ => exact .of_settles hcycles.settles
  | accepted hcycles _ _ => exact (EndsIn.of_settles hcycles.settles).append (.cons rfl .nil)
  | failed hcycles _ _ _ hsettles hother =>
    rw [Error.stopping?_of_other hother]
    exact (EndsIn.of_settles hcycles.settles).append
      ((EndsIn.of_settles hsettles).append (.stopped hother))

namespace RowWriter

variable {σ : Type} {writer : RowWriter σ} {table : Table}

/-- A writer gets to a state by calls that end in a failure or in none. -/
def Reaches (writer : RowWriter σ) (state : σ) (failure : Option Error) (after : σ) : Prop :=
  ∃ records, writer.Makes state records after ∧ EndsIn records failure

theorem Reaches.refl {state : σ} : writer.Reaches state none state := ⟨[], .nil, .nil⟩

/-- Cycles are calls of their writer, and a failure of them is that of the last one. -/
theorem SavesInCycles.reaches {cycles : Nat} {rows : List Row} {state after : σ}
    {result : Except Error (List Row)}
    (h : SavesInCycles writer table cycles rows state result after) (hrows : rows ≠ []) :
    writer.Reaches state (Error.stopping? result) after := by
  obtain ⟨records, hmakes, hcalls⟩ := h.calls hrows
  exact ⟨records, hmakes, hcalls.endsIn⟩

/-- A save is calls of its writer, and a failure of it that is no conflict is that of the last
one. -/
theorem Saves.reaches {maxRetries : Nat} {rows : List Row} {state after : σ}
    {result : Except Error Unit} (h : Saves writer table maxRetries rows state result after) :
    writer.Reaches state (Error.stopping? result) after := by
  cases h with
  | nothing => exact .refl
  | saved hrows hcycles => exact hcycles.reaches hrows
  | left hrows hcycles _ => exact hcycles.reaches hrows
  | failed hrows hcycles hother =>
    rw [Error.stopping?_of_other hother]
    have hreaches := hcycles.reaches hrows
    rwa [Error.stopping?_of_other hother] at hreaches

end RowWriter

end AgentSync
