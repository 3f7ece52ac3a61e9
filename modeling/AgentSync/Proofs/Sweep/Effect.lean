import AgentSync.Proofs.Sweep.Course

namespace AgentSync

/-- Nothing is pushed but rows as the agent holds them. -/
theorem pagePush_mem {rows : Dict Row} {hubPage : List (String × Row)} {cursor : String}
    {size : Int} {entry : String × Row}
    (hmem : entry ∈ pagePush (pageAfter rows cursor size) hubPage) :
    rows.get? entry.1 = some entry.2 :=
  (mem_of_mem_pageAfter ((pagePush_sublist _ _).subset hmem)).1

/-- Pages of the same versions have the same keys. -/
theorem keys_eq_of_versions {page hubPage : List (String × Row)}
    (hsame : versions page = versions hubPage) : page.map Prod.fst = hubPage.map Prod.fst := by
  have hkeys := congrArg (List.map Prod.fst) hsame
  simp only [versions, List.map_map] at hkeys
  exact hkeys

/-- A row of a page is shown with its time of change on a page with the same versions. -/
theorem exists_mem_of_versions {page hubPage : List (String × Row)}
    (hsame : versions page = versions hubPage) {entry : String × Row} (hmem : entry ∈ page) :
    ∃ row, (entry.1, row) ∈ hubPage ∧ changeTime row = changeTime entry.2 := by
  have hversion : (entry.1, changeTime entry.2) ∈ versions hubPage :=
    hsame ▸ List.mem_map_of_mem hmem
  obtain ⟨⟨key, row⟩, hshown, heq⟩ := List.mem_map.mp hversion
  obtain ⟨rfl, htime⟩ := Prod.mk.inj heq
  exact ⟨row, hshown, htime⟩

/-- A row is on the hub's page, or it is pushed. -/
theorem mem_pagePush_of_not_mem {page hubPage : List (String × Row)} {entry : String × Row}
    (hmem : entry ∈ page) (hmissing : entry.1 ∉ hubPage.map Prod.fst) :
    entry ∈ pagePush page hubPage := by
  have hother : versions page ≠ versions hubPage := by
    intro hsame
    rw [← keys_eq_of_versions hsame] at hmissing
    exact hmissing (List.mem_map_of_mem hmem)
  rw [pagePush, if_neg hother]
  split
  · exact hmem
  · exact mem_missingFrom.mpr ⟨hmem, hmissing⟩

/-- At every key a map still holds what it held, or what another map holds there. -/
def Adopts (before held after : Dict Row) : Prop :=
  ∀ key, after.get? key = before.get? key ∨
    ∃ row, held.get? key = some row ∧ after.get? key = some row

/-- No key is lost. -/
theorem Adopts.keeps {before held after : Dict Row} (hadopts : Adopts before held after)
    {key : String} (hmem : key ∈ before.keys) : key ∈ after.keys := by
  obtain ⟨row, hbefore⟩ := Dict.mem_keys_iff.mp hmem
  rcases hadopts key with hsame | ⟨row, _, hafter⟩
  · exact Dict.mem_keys_iff.mpr ⟨row, hsame.trans hbefore⟩
  · exact Dict.mem_keys_iff.mpr ⟨row, hafter⟩

/-- No key comes from elsewhere. -/
theorem Adopts.mem_keys {before held after : Dict Row} (hadopts : Adopts before held after)
    {key : String} (hmem : key ∈ after.keys) : key ∈ before.keys ∨ key ∈ held.keys := by
  obtain ⟨row, hafter⟩ := Dict.mem_keys_iff.mp hmem
  rcases hadopts key with hsame | ⟨row, hheld, _⟩
  · exact .inl (Dict.mem_keys_iff.mpr ⟨row, hsame ▸ hafter⟩)
  · exact .inr (Dict.mem_keys_iff.mpr ⟨row, hheld⟩)

/-- A value that becomes the agent's stays so. -/
theorem Adopts.trans {before held mid after : Dict Row} (hfirst : Adopts before held mid)
    (hsecond : Adopts mid held after) : Adopts before held after := by
  intro key
  rcases hsecond key with hsame | hadopted
  · rw [hsame]
    exact hfirst key
  · exact .inr hadopted

section

variable {agentName : String} {table : Table} {size : Int} {cursor : String}
  {before after : World Replica} {pushed : List (String × Row)}

theorem PageStep.mem (hstep : PageStep agentName table size cursor before pushed after)
    {entry : String × Row} (hmem : entry ∈ pushed) :
    (before.inner.held table).get? entry.1 = some entry.2 := by
  rw [hstep.pushes] at hmem
  exact pagePush_mem hmem

theorem PageStep.nodup_keys (hstep : PageStep agentName table size cursor before pushed after) :
    (pushed.map Prod.fst).Nodup := by
  have hsub := pagePush_sublist (pageAfter (before.inner.held table) cursor size)
    (pageAfter (before.inner.hubRows table) cursor size)
  rw [← hstep.pushes] at hsub
  exact (hsub.map Prod.fst).nodup (nodup_keys_pageAfter _ _ _)

/-- A pushed row is on the hub afterwards. -/
theorem PageStep.get?_of_mem (hstep : PageStep agentName table size cursor before pushed after)
    {key : String} {row : Row} (hmem : (key, row) ∈ pushed) :
    (after.inner.hubRows table).get? key = some row := by
  rw [hstep.hubRows]
  exact Dict.get?_insertAll_of_mem pushed _ hstep.nodup_keys hmem

/-- A row that is not pushed is left alone. -/
theorem PageStep.get?_of_not_mem
    (hstep : PageStep agentName table size cursor before pushed after) {key : String}
    (hnot : key ∉ pushed.map Prod.fst) :
    (after.inner.hubRows table).get? key = (before.inner.hubRows table).get? key := by
  rw [hstep.hubRows]
  exact Dict.get?_insertAll_of_not_mem pushed _ hnot

/-- A page makes the hub adopt rows of the agent. -/
theorem PageStep.adopts (hstep : PageStep agentName table size cursor before pushed after) :
    Adopts (before.inner.hubRows table) (before.inner.held table)
      (after.inner.hubRows table) := by
  intro key
  by_cases hpushed : key ∈ pushed.map Prod.fst
  · obtain ⟨⟨key, row⟩, hmem, rfl⟩ := List.mem_map.mp hpushed
    exact .inr ⟨row, hstep.mem hmem, hstep.get?_of_mem hmem⟩
  · exact .inl (hstep.get?_of_not_mem hpushed)

/-- A sweep makes the hub adopt rows of the agent. -/
theorem Swept.adopts (hswept : Swept agentName table size cursor before pushed after) :
    Adopts (before.inner.hubRows table) (before.inner.held table)
      (after.inner.hubRows table) := by
  induction hswept with
  | done _ => exact fun key => .inl rfl
  | last _ hstep => exact hstep.adopts
  | more _ hstep _ ih =>
    rw [hstep.held] at ih
    exact hstep.adopts.trans ih

/-- Every row of a page is on the hub afterwards. -/
theorem PageStep.covers (hstep : PageStep agentName table size cursor before pushed after)
    {entry : String × Row} (hmem : entry ∈ pageAfter (before.inner.held table) cursor size) :
    entry.1 ∈ (after.inner.hubRows table).keys := by
  by_cases hshown :
      entry.1 ∈ (pageAfter (before.inner.hubRows table) cursor size).map Prod.fst
  · obtain ⟨⟨key, held⟩, hheld, hkey⟩ := List.mem_map.mp hshown
    have hhub : (before.inner.hubRows table).get? entry.1 = some held := by
      rw [← hkey]
      exact (mem_of_mem_pageAfter hheld).1
    exact hstep.adopts.keeps (Dict.mem_keys_iff.mpr ⟨held, hhub⟩)
  · have hpushed : entry ∈ pushed := by
      rw [hstep.pushes]
      exact mem_pagePush_of_not_mem hmem hshown
    exact Dict.mem_keys_iff.mpr ⟨entry.2, hstep.get?_of_mem hpushed⟩

/-- No row that a sweep passes is missing from the hub afterwards. -/
theorem Swept.covers (hswept : Swept agentName table size cursor before pushed after)
    {entry : String × Row} (hmem : entry ∈ pending (before.inner.held table) cursor) :
    entry.1 ∈ (after.inner.hubRows table).keys := by
  induction hswept with
  | done hnone => simp [hnone] at hmem
  | last hall hstep => exact hstep.covers (hall ▸ hmem)
  | more hlast hstep hrest ih =>
    rw [pending_eq_append hlast] at hmem
    rcases List.mem_append.mp hmem with hpage | hlater
    · exact hrest.adopts.keeps (hstep.covers hpage)
    · rw [← hstep.held] at hlater
      exact ih hlater

end

end AgentSync
