import AgentSync.Proofs.Sweep.Course
import AgentSync.Proofs.Sweep.Spell
import AgentSync.Proofs.Watch

namespace AgentSync

open AgentSync.Action

/-- The keys after which a sweep from a key on asks about a page. -/
inductive Windows (rows : Dict Row) (size : Int) : String → List String → Prop
  | last {cursor} (hshort : (pageAfter rows cursor size).length < size) :
      Windows rows size cursor [cursor]
  | more {cursor next row cursors} (hfull : ¬(pageAfter rows cursor size).length < size)
      (hlast : (pageAfter rows cursor size).getLast? = some (next, row))
      (hrest : Windows rows size next cursors) :
      Windows rows size cursor (cursor :: cursors)

/-- Those of the keys after which the page has rows. -/
def filled (rows : Dict Row) (size : Int) (cursors : List String) : List String :=
  cursors.filter fun cursor => !(pageAfter rows cursor size).isEmpty

theorem filled_cons {rows : Dict Row} {size : Int} {cursor : String}
    (hpage : pageAfter rows cursor size ≠ []) (cursors : List String) :
    filled rows size (cursor :: cursors) = cursor :: filled rows size cursors :=
  List.filter_cons_of_pos (by simpa using hpage)

theorem filled_cons_of_nil {rows : Dict Row} {size : Int} {cursor : String}
    (hpage : pageAfter rows cursor size = []) (cursors : List String) :
    filled rows size (cursor :: cursors) = filled rows size cursors :=
  List.filter_cons_of_neg (by simp [hpage])

/-- Behind a full page there are rows for one page less. -/
theorem length_pending_div {rows : Dict Row} {size : Int} {cursor next : String} {row : Row}
    (hsize : 1 ≤ size) (hfull : ¬(pageAfter rows cursor size).length < size)
    (hlast : (pageAfter rows cursor size).getLast? = some (next, row)) :
    (pending rows cursor).length / size.toNat = (pending rows next).length / size.toNat + 1 := by
  have hpage : (pageAfter rows cursor size).length = size.toNat := by
    rw [pageAfter_eq_take, List.length_take] at hfull ⊢
    omega
  have hpositive : 0 < size.toNat := by omega
  rw [pending_eq_append hlast, List.length_append, hpage, Nat.add_div_left _ hpositive]

namespace Windows

variable {rows : Dict Row} {size : Int} {cursor : String} {cursors : List String}

/-- There is one window for each full page, and one more. -/
theorem length_eq (hwindows : Windows rows size cursor cursors) (hsize : 1 ≤ size) :
    cursors.length = (pending rows cursor).length / size.toNat + 1 := by
  induction hwindows with
  | @last cursor hshort =>
    rw [pageAfter_eq_pending hshort] at hshort
    have hfew : (pending rows cursor).length < size.toNat := by omega
    rw [Nat.div_eq_of_lt hfew]
    rfl
  | more hfull hlast _ ih => rw [length_pending_div hsize hfull hlast, List.length_cons, ih]

/-- The pages follow one another and leave out no row. -/
theorem flatMap_page (hwindows : Windows rows size cursor cursors) :
    cursors.flatMap (pageAfter rows · size) = pending rows cursor := by
  induction hwindows with
  | last hshort => rw [List.flatMap_singleton, pageAfter_eq_pending hshort]
  | more _ hlast _ ih => rw [List.flatMap_cons, ih, ← pending_eq_append hlast]

end Windows

/-- Empty pages add no rows. -/
theorem flatMap_filled (rows : Dict Row) (size : Int) (cursors : List String) :
    (filled rows size cursors).flatMap (pageAfter rows · size) =
      cursors.flatMap (pageAfter rows · size) := by
  induction cursors with
  | nil => rfl
  | cons cursor cursors ih =>
    rw [List.flatMap_cons, ← ih]
    by_cases hempty : pageAfter rows cursor size = []
    · rw [filled_cons_of_nil hempty, hempty, List.nil_append]
    · rw [filled_cons hempty, List.flatMap_cons]

/-- In lists that share nothing a member is in one of them. -/
theorem countP_mem_of_nodup_flatMap {α β : Type} [DecidableEq β] {f : α → List β} {b : β} :
    ∀ {xs : List α}, (xs.flatMap f).Nodup → b ∈ xs.flatMap f → xs.countP (b ∈ f ·) = 1
  | [], _, hmem => absurd hmem List.not_mem_nil
  | x :: xs, hnodup, hmem => by
    rw [List.flatMap_cons] at hnodup hmem
    obtain ⟨_, hrest, hapart⟩ := List.nodup_append.mp hnodup
    rw [List.countP_cons]
    by_cases hfirst : b ∈ f x
    · have hnone : xs.countP (b ∈ f ·) = 0 := by
        rw [List.countP_eq_zero]
        intro y hy hother
        exact hapart b hfirst b (List.mem_flatMap.mpr ⟨y, hy, of_decide_eq_true hother⟩) rfl
      rw [hnone, if_pos (decide_eq_true hfirst)]
    · have hlater : b ∈ xs.flatMap f := (List.mem_append.mp hmem).resolve_left hfirst
      rw [countP_mem_of_nodup_flatMap hrest hlater, if_neg (by simpa using hfirst)]

/-- Each row after the start is on one page that has rows. -/
theorem Windows.countP_page {rows : Dict Row} {size : Int} {cursor : String}
    {cursors : List String} (hwindows : Windows rows size cursor cursors) {key : String}
    (hkey : key ∈ (pending rows cursor).map Prod.fst) :
    (filled rows size cursors).countP
      (fun start => key ∈ (pageAfter rows start size).map Prod.fst) = 1 := by
  have hkeys : (filled rows size cursors).flatMap
      (fun start => (pageAfter rows start size).map Prod.fst) =
        (pending rows cursor).map Prod.fst := by
    rw [← List.map_flatMap, flatMap_filled, hwindows.flatMap_page]
  have hnodup : ((pending rows cursor).map Prod.fst).Nodup :=
    (List.filter_sublist.map Prod.fst).nodup rows.nodup_keys
  rw [← hkeys] at hkey hnodup
  exact countP_mem_of_nodup_flatMap hnodup hkey

/-- The digests that a source answers of a table are those of fixed rows. -/
def LocalSource.Shows {ω : Type} (source : LocalSource ω)
    (hash : List (String × String) → String) (table : Table) (rows : Dict Row) : Prop :=
  ∀ cursor size world, (runFrom (source.digest (.ofTable table cursor size)) world).1 =
    .ok (digestBy hash (pageAfter rows cursor size))

/-- Unless one of them was cancelled, calls ask for the digests of all pages from a key on, and the
hub for those of the pages that have rows. -/
def AsksWindows (table : Table) (rows : Dict Row) (size : Int) (cursor : String)
    (outcome : Except Error Nat) (entries : List AnsweredCall) : Prop :=
  (∀ entry ∈ entries, ¬entry.isCancelled) → ∃ cursors, Windows rows size cursor cursors ∧
    Asks (cursors.map (.ofTable table · size))
      ((filled rows size cursors).map (.ofTable table · size)) outcome entries

namespace AsksWindows

variable {table : Table} {rows : Dict Row} {size : Int} {cursor : String}
  {outcome page : Except Error Nat} {digest : PageDigest}
  {entries pageEntries rest : List AnsweredCall}

/-- No row is left, so the digest is the last call. -/
theorem nil (hsize : 1 ≤ size) (hempty : pageAfter rows cursor size = [])
    (hdigest : Asks [.ofTable table cursor size] [] (.ok digest) entries)
    (houtcome : outcome ≠ .error .cancelled) :
    AsksWindows table rows size cursor outcome (entries ++ []) := by
  intro _
  have hshort : (pageAfter rows cursor size).length < size := by
    rw [hempty, List.length_nil]
    omega
  refine ⟨[cursor], .last hshort, ?_⟩
  rw [filled_cons_of_nil hempty]
  exact hdigest.append (.nothing houtcome)

/-- A page that is not full is the last one. -/
theorem last (hpage : pageAfter rows cursor size ≠ [])
    (hshort : (pageAfter rows cursor size).length < size)
    (hdigest : Asks [.ofTable table cursor size] [] (.ok digest) entries)
    (hstatus : Asks [] [.ofTable table cursor size] page pageEntries)
    (houtcome : outcome ≠ .error .cancelled) :
    AsksWindows table rows size cursor outcome (entries ++ (pageEntries ++ [])) := by
  intro _
  refine ⟨[cursor], .last hshort, ?_⟩
  rw [filled_cons hpage]
  exact hdigest.append (hstatus.append (.nothing houtcome))

/-- A full page is followed by the windows after its last key. -/
theorem more {next : String} {row : Row} (hfull : ¬(pageAfter rows cursor size).length < size)
    (hlast : (pageAfter rows cursor size).getLast? = some (next, row))
    (hdigest : Asks [.ofTable table cursor size] [] (.ok digest) entries)
    (hstatus : Asks [] [.ofTable table cursor size] page pageEntries)
    (hrest : AsksWindows table rows size next outcome rest) :
    AsksWindows table rows size cursor outcome (entries ++ (pageEntries ++ rest)) := by
  intro hnone
  obtain ⟨cursors, hwindows, hasks⟩ := hrest fun entry hentry =>
    hnone entry (List.mem_append_right _ (List.mem_append_right _ hentry))
  have hpage : pageAfter rows cursor size ≠ [] :=
    List.ne_nil_of_mem (List.mem_of_getLast? hlast)
  refine ⟨cursor :: cursors, .more hfull hlast hwindows, ?_⟩
  rw [filled_cons hpage]
  exact hdigest.append (hstatus.append hasks)

/-- A page that comes to a cancellation has a call that was cancelled. -/
theorem of_cancelled {digests statuses : List PageRequest}
    (hstatus : Asks digests statuses (.error .cancelled : Except Error Nat) pageEntries) :
    AsksWindows table rows size cursor outcome (entries ++ (pageEntries ++ rest)) := by
  intro hnone
  obtain ⟨entry, hentry, hcancelled⟩ := hstatus.cancelled rfl
  have hmem : entry ∈ entries ++ (pageEntries ++ rest) :=
    List.mem_append_right _ (List.mem_append_left _ hentry)
  exact absurd hcancelled (hnone entry hmem)

end AsksWindows

/-- Pages that failed are no cancellation. -/
theorem Reconciler.Progress.result_ne_cancelled (progress : Progress) :
    progress.result ≠ .error .cancelled := by
  unfold result
  split
  · nofun
  · nofun

/-- Only a page that is cancelled ends a sweep before its last page. -/
theorem Reconciler.Progress.afterPage_eq_error {progress : Progress} {table : Table}
    {start : String} {page : Except Error Nat} {error : Error}
    (h : progress.afterPage table start page = .error error) : page = .error .cancelled := by
  cases page with
  | ok n => cases h
  | error failure =>
    cases failure with
    | cancelled => rfl
    | _ => cases h

section

variable {ω : Type} {reconciler : Reconciler ω} {hash : List (String × String) → String}
  {table : Table} {rows : Dict Row}

/-- The agent's side answers with the digest of the page, and the call is noted. -/
theorem watches_digest (hshows : reconciler.source.Shows hash table rows) (cursor : String)
    (size : Int) :
    Watches (reconciler.watched.source.digest (.ofTable table cursor size))
      (reconciler.source.digest (.ofTable table cursor size)) fun outcome entries =>
        outcome = .ok (digestBy hash (pageAfter rows cursor size)) ∧
        Asks [.ofTable table cursor size] [] outcome entries := by
  intro world
  obtain ⟨outcome, entries, after, hfull, hbare, hlog, hasks⟩ :=
    watches_local (.digest (.ofTable table cursor size))
      (reconciler.source.digest (.ofTable table cursor size)) world
  have hanswer := hshows cursor size world.unwatched
  rw [hbare] at hanswer
  exact ⟨outcome, entries, after, hfull, hbare, hlog, hanswer, hasks⟩

/-- However its pages end, a sweep goes through all of them, as long as none is cancelled. -/
theorem watches_sweepPages (hshows : reconciler.source.Shows hash table rows)
    (hsize : 1 ≤ reconciler.pageSize) (scope : Scope) (rounds : Nat) :
    ∀ (cursor : String) (progress : Reconciler.Progress),
      (pending rows cursor).length / reconciler.pageSize.toNat < rounds →
      LogsRun World.calls World.unwatched
        (reconciler.watched.sweepPages scope table rounds cursor progress)
        (reconciler.sweepPages scope table rounds cursor progress)
        (AsksWindows table rows reconciler.pageSize cursor) := by
  induction rounds with
  | zero => intro cursor progress hrounds; exact absurd hrounds (Nat.not_lt_zero _)
  | succ rounds ih =>
    intro cursor progress hrounds
    let page := pageAfter rows cursor reconciler.pageSize
    unfold Reconciler.sweepPages
    rw [Reconciler.watched_pageSize]
    refine LogsRun.bind (.ofAction (watches_digest hshows cursor reconciler.pageSize)) ?_ ?_
    · rintro error entries ⟨hanswer, _⟩
      cases hanswer
    rintro digest entries ⟨hanswer, hdigest⟩
    cases hanswer
    by_cases hempty : page = []
    · have htotal : (digestBy hash page).total = 0 := by simp [digestBy, hempty]
      rw [if_pos htotal, if_pos htotal]
      exact .ofExcept (.nil hsize hempty hdigest progress.result_ne_cancelled)
    have htotal : (digestBy hash page).total ≠ 0 := by simpa [digestBy] using hempty
    rw [if_neg htotal, if_neg htotal]
    refine LogsRun.attempt_bind (watches_reconcilePage scope table reconciler _ _) ?_
    intro outcome pageEntries hstatus
    -- The outcome of the page matters only if it is a cancellation.
    refine LogsRun.ofExcept_bind (fun error hfails => ?_) fun progress _ => ?_
    · rw [Reconciler.Progress.afterPage_eq_error hfails] at hstatus
      exact .of_cancelled hstatus
    obtain ⟨⟨next, row⟩, hlast⟩ := Option.isSome_iff_exists.mp (List.getLast?_isSome.mpr hempty)
    have hstops := digestBy_stops_iff hash hlast
    by_cases hshort : (page.length : Int) < reconciler.pageSize
    · have hstop := hstops.mpr hshort
      rw [if_pos hstop, if_pos hstop]
      exact .ofExcept (.last hempty hshort hdigest hstatus progress.result_ne_cancelled)
    · have hon := (not_congr hstops).mpr hshort
      have hnext : (digestBy hash page).next = next := by simp [digestBy, page, hlast]
      have hfewer : (pending rows next).length / reconciler.pageSize.toNat < rounds := by
        rw [length_pending_div hsize hshort hlast] at hrounds
        exact Nat.lt_of_succ_lt_succ hrounds
      rw [if_neg hon, if_neg hon, hnext]
      exact (ih next progress hfewer).mono fun _ _ => .more hshort hlast hdigest hstatus

end

/-- A sweep ends, and it comes to the same as without the watch. Unless a call is cancelled, it asks
the agent's side for one digest more than the rows after the start fill pages. The pages that it
compares with the hub have these rows in their order, and each row is on one of them; what the hub
answers, and which calls fail, makes no difference. -/
theorem sweep_asks_for_each_row_once {ω : Type} (reconciler : Reconciler ω)
    (hash : List (String × String) → String) (rows : Dict Row) (rounds : Nat) (scope : Scope)
    (table : Table) (start : String) (world : World ω) (hsize : 1 ≤ reconciler.pageSize)
    (hshows : reconciler.source.Shows hash table rows) (hlive : world.scopes.IsLive scope)
    (hrounds : (pending rows start).length / reconciler.pageSize.toNat < rounds) :
    ∃ outcome after,
      Bounded.runFrom (reconciler.watched.sweep rounds scope table start) world.watched =
        some (outcome, after) ∧
      Bounded.runFrom (reconciler.sweep rounds scope table start) world =
        some (outcome, after.unwatched) ∧
      ((∀ entry ∈ after.calls, ¬entry.isCancelled) →
        outcome ≠ .error .cancelled ∧
        ∃ cursors windows : List String,
          after.calls.filterMap (·.call.digestRequest?) =
            cursors.map (.ofTable table · reconciler.pageSize) ∧
          cursors.length = (pending rows start).length / reconciler.pageSize.toNat + 1 ∧
          windows = cursors.filter (fun cursor =>
            !(pageAfter rows cursor reconciler.pageSize).isEmpty) ∧
          after.calls.filterMap (·.call.statusRequest?) =
            windows.map (.ofTable table · reconciler.pageSize) ∧
          windows.flatMap (pageAfter rows · reconciler.pageSize) = pending rows start ∧
          ∀ key ∈ (pending rows start).map Prod.fst, windows.countP (fun cursor =>
            key ∈ (pageAfter rows cursor reconciler.pageSize).map Prod.fst) = 1) := by
  have hopen : (world.sweeping scope).scopes.isCancelled (world.scopes.child scope).1 = false :=
    hlive.child.not_cancelled
  have hwatched := sweep_of_open reconciler.watched rounds scope table start world.watched hopen
  have hplain := sweep_of_open reconciler rounds scope table start world hopen
  obtain ⟨outcome, calls, after, hrun, hbare, hcalls, hasks⟩ :=
    watches_sweepPages hshows hsize (world.scopes.child scope).1 rounds start .none hrounds
      (world.watched.sweeping scope)
  refine ⟨outcome, after, hwatched.trans hrun, hplain.trans hbare, fun hnone => ?_⟩
  rw [show (world.watched.sweeping scope).calls = [] from rfl, List.nil_append] at hcalls
  rw [hcalls] at hnone ⊢
  obtain ⟨cursors, hwindows, hrequests⟩ := hasks hnone
  refine ⟨fun hcancelled => ?_, cursors, filled rows reconciler.pageSize cursors,
    hrequests.digests, hwindows.length_eq hsize, rfl, hrequests.statuses, ?_, ?_⟩
  · obtain ⟨entry, hentry, hanswer⟩ := hrequests.cancelled hcancelled
    exact hnone entry hentry hanswer
  · rw [flatMap_filled, hwindows.flatMap_page]
  · exact fun key hkey => hwindows.countP_page hkey

/-- The rows `a`, `b` and `c`. -/
def threeRows : Dict Row := versionRows (.ofList [("a", "t1"), ("b", "t1"), ("c", "t1")])

/-- An agent that can tell its rows apart but not hand them out, and a hub that times out on the
first page and holds nothing. -/
def brokenReconciler : Reconciler Unit where
  source := {
    digest := fun request => return digestBy spell (pageAfter threeRows request.start request.size)
    rowsInWindow := fun _ => throw (.internal "locked")
    rowsByKeys := fun _ _ => return []
    unpushedRows := fun _ _ => return []
    markPushed := fun _ keys => return keys.length
    markUnpushed := fun _ keys => return keys.length
    syncAfterCursor := fun _ _ => return "" }
  hub := {
    agentName := "agent-a"
    push := fun _ _ => return ()
    delete := fun _ _ => return ()
    status := fun _ request =>
      if request.start = "" then throw (.transport true "timed out") else return ⟨"", "", 0⟩
    pullIds := fun _ _ => return [] }
  pageSize := 2

/-- A world with a single scope and nothing else in it. -/
def emptyWorld : World Unit := ⟨default, 0, Scopes.none.root.2, default, ()⟩

/-- Both pages of two rows fail, the first one with the hub and the second one with the agent. -/
theorem sweep_broken : ∃ after,
    Bounded.runFrom (brokenReconciler.watched.sweep 2 Scopes.none.root.1 .checks "")
      emptyWorld.watched = some (.error (.reconcile
        ["checks page after '': Request error: timed out",
          "checks page after 'b': Internal error: locked"]), after) ∧
    ∀ entry ∈ after.calls, ¬entry.isCancelled :=
  ⟨_, rfl, by decide⟩

/-- They are asked about all the same, and have the three rows between them. -/
theorem broken_asks_for_each_row_once : ∃ errors after, ∃ cursors windows : List String,
    Bounded.runFrom (brokenReconciler.watched.sweep 2 Scopes.none.root.1 .checks "")
      emptyWorld.watched = some (.error (.reconcile errors), after) ∧
    errors.length = 2 ∧
    after.calls.filterMap (·.call.digestRequest?) = cursors.map (.ofTable .checks · 2) ∧
    cursors.length = 2 ∧
    after.calls.filterMap (·.call.statusRequest?) = windows.map (.ofTable .checks · 2) ∧
    windows.flatMap (pageAfter threeRows · 2) = threeRows.entries := by
  obtain ⟨after, hrun, hnone⟩ := sweep_broken
  obtain ⟨outcome, other, hother, _, hasks⟩ :=
    sweep_asks_for_each_row_once brokenReconciler spell threeRows 2 Scopes.none.root.1 .checks ""
      emptyWorld (by decide) (fun _ _ _ => rfl) (fun _ hmem => nomatch hmem) (by decide)
  rw [hrun] at hother
  cases hother
  obtain ⟨_, cursors, windows, hdigests, hlength, _, hstatuses, hrows, _⟩ := hasks hnone
  exact ⟨_, after, cursors, windows, hrun, rfl, hdigests, hlength, hstatuses, hrows⟩

end AgentSync
