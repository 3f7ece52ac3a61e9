import AgentSync.Proofs.Dict

namespace AgentSync

/-- The rows that a sweep from a key on has before it. -/
def pending (rows : Dict Row) (cursor : String) : List (String × Row) :=
  rows.entries.filter fun entry => cursor < entry.1

/-- A page is the first of the rows that are still to come. -/
theorem pageAfter_eq_take (rows : Dict Row) (cursor : String) (size : Int) :
    pageAfter rows cursor size = (pending rows cursor).take size.toNat := rfl

/-- The rows to come are those with greater keys. -/
theorem mem_pending {rows : Dict Row} {cursor : String} {entry : String × Row} :
    entry ∈ pending rows cursor ↔ rows.get? entry.1 = some entry.2 ∧ cursor < entry.1 := by
  rw [Dict.get?_eq_some_iff, pending, List.mem_filter, decide_eq_true_iff]

theorem mem_of_mem_pageAfter {rows : Dict Row} {cursor : String} {size : Int}
    {entry : String × Row} (hmem : entry ∈ pageAfter rows cursor size) :
    rows.get? entry.1 = some entry.2 ∧ cursor < entry.1 :=
  mem_pending.mp (List.mem_of_mem_take hmem)

theorem sorted_pending (rows : Dict Row) (cursor : String) :
    (pending rows cursor).Pairwise fun a b => a.1 < b.1 :=
  rows.sorted.filter _

theorem nodup_keys_pageAfter (rows : Dict Row) (cursor : String) (size : Int) :
    ((pageAfter rows cursor size).map Prod.fst).Nodup := by
  have hsub : (pageAfter rows cursor size).Sublist rows.entries :=
    (List.take_sublist _ _).trans List.filter_sublist
  exact (hsub.map Prod.fst).nodup rows.nodup_keys

/-- A page that is not full has all the rows that are left. -/
theorem pageAfter_eq_pending {rows : Dict Row} {cursor : String} {size : Int}
    (hshort : (pageAfter rows cursor size).length < size) :
    pageAfter rows cursor size = pending rows cursor := by
  rw [pageAfter_eq_take, List.length_take] at hshort
  have hall : (pending rows cursor).length ≤ size.toNat := by omega
  exact List.take_of_length_le hall

/-- A page of at least one row is empty only if no row is left. -/
theorem pending_eq_nil {rows : Dict Row} {cursor : String} {size : Int} (hsize : 1 ≤ size)
    (hempty : pageAfter rows cursor size = []) : pending rows cursor = [] := by
  rw [pageAfter_eq_take, List.take_eq_nil_iff] at hempty
  rcases hempty with hzero | hnil
  · omega
  · exact hnil

/-- The next page starts further on, so a sweep comes to an end. -/
theorem lt_of_getLast?_pageAfter {rows : Dict Row} {cursor next : String} {size : Int} {row : Row}
    (hlast : (pageAfter rows cursor size).getLast? = some (next, row)) : cursor < next :=
  (mem_of_mem_pageAfter (List.mem_of_getLast? hlast)).2

/-- The rows before a sweep are those of its page and those after the last row of the page. -/
theorem pending_eq_append {rows : Dict Row} {cursor next : String} {size : Int} {row : Row}
    (hlast : (pageAfter rows cursor size).getLast? = some (next, row)) :
    pending rows cursor = pageAfter rows cursor size ++ pending rows next := by
  have hlt := lt_of_getLast?_pageAfter hlast
  obtain ⟨before, hpage⟩ := List.getLast?_eq_some_iff.mp hlast
  have hcut := List.take_append_drop size.toNat (pending rows cursor)
  rw [← pageAfter_eq_take] at hcut
  have hsorted := sorted_pending rows cursor
  rw [← hcut, List.pairwise_append] at hsorted
  obtain ⟨hpageSorted, _, hcross⟩ := hsorted
  rw [hpage, List.pairwise_append] at hpageSorted
  -- Of the rows up to the last one of the page none lies after it, all others do.
  have hearly : (pageAfter rows cursor size).filter (fun entry => next < entry.1) = [] := by
    rw [List.filter_eq_nil_iff]
    intro entry hmem
    rw [decide_eq_true_iff, String.not_lt]
    rcases List.mem_append.mp (hpage ▸ hmem) with hmem | hmem
    · exact Std.le_of_lt (hpageSorted.2.2 entry hmem (next, row) (List.mem_singleton.mpr rfl))
    · cases List.mem_singleton.mp hmem
      exact String.le_refl _
  have hlate : ((pending rows cursor).drop size.toNat).filter (fun entry => next < entry.1) =
      (pending rows cursor).drop size.toNat := by
    rw [List.filter_eq_self]
    intro entry hmem
    exact decide_eq_true (hcross (next, row) (List.mem_of_getLast? hlast) entry hmem)
  have hnext : pending rows next = (pending rows cursor).filter fun entry => next < entry.1 := by
    rw [pending, pending, List.filter_filter]
    refine List.filter_congr fun entry _ => ?_
    by_cases hafter : next < entry.1
    · simp [hafter, String.lt_trans hlt hafter]
    · simp [hafter]
  rw [hnext, ← hcut, List.filter_append, hearly, hlate, List.nil_append, hcut]

/-- Pages of maps with the same versions show the same versions. -/
theorem versions_pageAfter (rows : Dict Row) (cursor : String) (size : Int) :
    versions (pageAfter rows cursor size) =
      ((rows.map changeTime).entries.filter fun entry => cursor < entry.1).take size.toNat := by
  simp only [versions, pageAfter, Dict.map, List.map_take, List.filter_map]
  rfl

/-- A page can be cut out of the keys alone. -/
theorem keys_pageAfter (rows : Dict Row) (cursor : String) (size : Int) :
    (pageAfter rows cursor size).map Prod.fst =
      (rows.keys.filter fun key => cursor < key).take size.toNat := by
  simp only [pageAfter, Dict.keys, List.map_take, List.filter_map]
  rfl

end AgentSync
