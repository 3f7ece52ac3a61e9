import AgentSync.Proofs.Sweep.Step

namespace AgentSync

open AgentSync.Action

/-- A sweep from a key on: what it pushes of each page, and the two sides before and after it. -/
inductive Swept (agentName : String) (table : Table) (size : Int) :
    String → World Replica → List (String × Row) → World Replica → Prop
  | done {cursor world} (hnone : pending (world.inner.held table) cursor = []) :
      Swept agentName table size cursor world [] world
  | last {cursor world pushed after}
      (hall : pageAfter (world.inner.held table) cursor size =
        pending (world.inner.held table) cursor)
      (hstep : PageStep agentName table size cursor world pushed after) :
      Swept agentName table size cursor world pushed after
  | more {cursor world pushed mid next row others after}
      (hlast : (pageAfter (world.inner.held table) cursor size).getLast? = some (next, row))
      (hstep : PageStep agentName table size cursor world pushed mid)
      (hrest : Swept agentName table size next mid others after) :
      Swept agentName table size cursor world (pushed ++ others) after

/-- A page leaves what the agent holds as it is. -/
theorem PageStep.held {agentName : String} {table : Table} {size : Int} {cursor : String}
    {before after : World Replica} {pushed : List (String × Row)}
    (hstep : PageStep agentName table size cursor before pushed after) (other : Table) :
    after.inner.held other = before.inner.held other := by
  rw [Replica.held, hstep.localRows, Replica.held]

/-- What no page changes, a sweep does not change. -/
theorem Swept.keeps {β : Type} {agentName : String} {table : Table} {size : Int} {cursor : String}
    {before after : World Replica} {pushed : List (String × Row)} {f : World Replica → β}
    (hswept : Swept agentName table size cursor before pushed after)
    (hkeeps : ∀ start world entries next,
      PageStep agentName table size start world entries next → f next = f world) :
    f after = f before := by
  induction hswept with
  | done _ => rfl
  | last _ hstep => exact hkeeps _ _ _ _ hstep
  | more _ hstep _ ih => exact ih.trans (hkeeps _ _ _ _ hstep)

/-- A sweep does not change the agent's rows. -/
theorem Swept.held {agentName : String} {table : Table} {size : Int} {cursor : String}
    {before after : World Replica} {pushed : List (String × Row)}
    (hswept : Swept agentName table size cursor before pushed after) :
    after.inner.held table = before.inner.held table :=
  hswept.keeps fun _ _ _ _ hstep => hstep.held table

theorem Swept.scopes {agentName : String} {table : Table} {size : Int} {cursor : String}
    {before after : World Replica} {pushed : List (String × Row)}
    (hswept : Swept agentName table size cursor before pushed after) :
    after.scopes = before.scopes :=
  hswept.keeps fun _ _ _ _ hstep => hstep.scopes

/-- After a page with rows a sweep stops exactly if the page is not full. -/
theorem digestBy_stops_iff (hash : List (String × String) → String) {rows : Dict Row}
    {cursor next : String} {size : Int} {row : Row}
    (hlast : (pageAfter rows cursor size).getLast? = some (next, row)) :
    ((digestBy hash (pageAfter rows cursor size)).total < size ∨
      (digestBy hash (pageAfter rows cursor size)).next ≤ cursor) ↔
    (pageAfter rows cursor size).length < size := by
  have hnext : (digestBy hash (pageAfter rows cursor size)).next = next := by
    simp [digestBy, hlast]
  have hon : ¬next ≤ cursor := String.not_le.mpr (lt_of_getLast?_pageAfter hlast)
  rw [hnext, or_iff_left hon]
  rfl

/-- A sweep goes over the pages one after another without a failure, if it has a round for every
row that is left and one more. -/
theorem sweepPages_runs {hash : List (String × String) → String}
    (hinj : Function.Injective hash) (agentName : String) (scope : Scope) (table : Table)
    {size : Int} (hsize : 1 ≤ size) (rounds : Nat) :
    ∀ (cursor : String) (world : World Replica) (sofar : Nat),
      (pending (world.inner.held table) cursor).length < rounds →
      ∃ pushed after,
        Bounded.runFrom (Reconciler.sweepPages
          ⟨Replica.source hash, Replica.hub hash agentName, size⟩ scope table rounds cursor
          ⟨sofar, []⟩) world = some (.ok (sofar + pushed.length), after) ∧
        Swept agentName table size cursor world pushed after := by
  induction rounds with
  | zero => intro cursor world sofar hrounds; exact absurd hrounds (Nat.not_lt_zero _)
  | succ rounds ih =>
    intro cursor world sofar hrounds
    let page := pageAfter (world.inner.held table) cursor size
    have hdigest : Bounded.runFrom (Bounded.ofAction ((Replica.source hash).digest
        (.ofTable table cursor size))) world = some (.ok (digestBy hash page), world) := by
      unfold Replica.source
      rw [Bounded.runFrom_ofAction, Replica.runFrom_look, Replica.page_ofTable]
    unfold Reconciler.sweepPages
    dsimp only
    rw [Bounded.runFrom_bind_of_ok hdigest]
    by_cases hempty : page = []
    · have htotal : (digestBy hash page).total = 0 := by simp [digestBy, hempty]
      rw [if_pos htotal]
      exact ⟨[], world, rfl, .done (pending_eq_nil hsize hempty)⟩
    have htotal : (digestBy hash page).total ≠ 0 := by simpa [digestBy] using hempty
    rw [if_neg htotal]
    obtain ⟨pushed, mid, hrun, hstep⟩ :=
      reconcilePage_runs hinj agentName scope table size cursor world hempty
    have hattempt := Bounded.runFrom_ofAction (attempt (δ := Error) (Reconciler.reconcilePage
      ⟨Replica.source hash, Replica.hub hash agentName, size⟩ scope table
      (.ofTable table cursor size) (digestBy hash page))) world
    rw [runFrom_attempt, hrun] at hattempt
    rw [Bounded.runFrom_bind_of_ok hattempt, Reconciler.Progress.afterPage,
      Bounded.runFrom_bind_of_ok (Bounded.runFrom_ofExcept _ _)]
    obtain ⟨⟨next, row⟩, hlast⟩ := Option.isSome_iff_exists.mp (List.getLast?_isSome.mpr hempty)
    have hstops := digestBy_stops_iff hash hlast
    by_cases hshort : (page.length : Int) < size
    · rw [if_pos (hstops.mpr hshort)]
      exact ⟨pushed, mid, rfl, .last (pageAfter_eq_pending hshort) hstep⟩
    · have hnext : (digestBy hash page).next = next := by simp [digestBy, page, hlast]
      have hsplit := congrArg List.length (pending_eq_append hlast)
      have hpositive : 0 < (pageAfter (world.inner.held table) cursor size).length :=
        List.length_pos_iff.mpr hempty
      have hfewer : (pending (mid.inner.held table) next).length < rounds := by
        rw [List.length_append] at hsplit
        rw [hstep.held]
        omega
      obtain ⟨others, after, hrest, hswept⟩ := ih next mid (sofar + pushed.length) hfewer
      rw [if_neg ((not_congr hstops).mpr hshort), hnext]
      refine ⟨pushed ++ others, after, ?_, .more hlast hstep hswept⟩
      rw [List.length_append, ← Nat.add_assoc]
      exact hrest

/-- No row that the agent holds is before the start of a sweep over all rows. -/
theorem Replica.pending_empty (replica : Replica) (table : Table) :
    pending (replica.held table) "" = (replica.held table).entries := by
  refine List.filter_eq_self.mpr fun entry hmem => decide_eq_true ?_
  have hkey := ((replica.localRows table).filed entry hmem).2
  refine Std.lt_of_le_of_ne ?_ (Ne.symm hkey)
  rw [← String.not_lt, String.lt_iff]
  exact List.not_lt_nil _

/-- The world in which a sweep runs its pages: it has one more scope. -/
def World.sweeping {ω : Type} (world : World ω) (scope : Scope) : World ω :=
  { world with scopes := (world.scopes.child scope).2 }

theorem World.runFrom_child_scope {ω : Type} (world : World ω) (scope : Scope) :
    Bounded.runFrom (ε := Error) (Bounded.ofAction (World.child scope)) world =
      some (.ok (world.scopes.child scope).1, world.sweeping scope) := by
  rw [Bounded.runFrom_ofAction, World.runFrom_child]
  rfl

/-- A sweep in a scope that is not cancelled goes over the pages. -/
theorem sweep_of_open {ω : Type} (reconciler : Reconciler ω) (rounds : Nat) (scope : Scope)
    (table : Table) (start : String) (world : World ω)
    (hopen : (world.sweeping scope).scopes.isCancelled (world.scopes.child scope).1 = false) :
    Bounded.runFrom (reconciler.sweep rounds scope table start) world =
      Bounded.runFrom (reconciler.sweepPages (world.scopes.child scope).1 table rounds start .none)
        (world.sweeping scope) := by
  have hguard : Bounded.runFrom (Bounded.ofAction (World.guard (world.scopes.child scope).1))
      (world.sweeping scope) = some (.ok (), world.sweeping scope) := by
    rw [Bounded.runFrom_ofAction, World.runFrom_guard hopen]
  unfold Reconciler.sweep
  rw [Bounded.runFrom_bind_of_ok (world.runFrom_child_scope scope),
    Bounded.runFrom_bind_of_ok hguard]

/-- A sweep in a scope that is not cancelled goes over the rows after its start without failing. -/
theorem sweep_runs {hash : List (String × String) → String} (hinj : Function.Injective hash)
    (agentName : String) (size : Int) {rounds : Nat} {scope : Scope} (table : Table)
    {start : String} {world : World Replica}
    (hopen : (world.sweeping scope).scopes.isCancelled (world.scopes.child scope).1 = false)
    (hrounds : (pending (world.inner.held table) start).length < rounds) :
    ∃ pushed after,
      Bounded.runFrom ((Replica.reconciler hash agentName size).sweep rounds scope table start)
        world = some (.ok pushed.length, after) ∧
      Swept agentName table (max size 1) start (world.sweeping scope) pushed after := by
  obtain ⟨pushed, after, hrun, hswept⟩ := sweepPages_runs hinj agentName
    (world.scopes.child scope).1 table (Int.le_max_right size 1) rounds start
    (world.sweeping scope) 0 hrounds
  rw [Nat.zero_add] at hrun
  exact ⟨pushed, after, (sweep_of_open _ rounds scope table start world hopen).trans hrun, hswept⟩

/-- A sync in a scope that is not cancelled goes over the whole table without a failure. -/
theorem sync_runs {hash : List (String × String) → String} (hinj : Function.Injective hash)
    (agentName : String) (size : Int) {rounds : Nat} {scope : Scope} (table : Table)
    {world : World Replica} (hlive : world.scopes.IsLive scope)
    (hrounds : (world.inner.held table).entries.length < rounds) :
    ∃ pushed after,
      Bounded.runFrom ((Replica.reconciler hash agentName size).sync rounds scope table) world =
        some (.ok pushed.length, after) ∧
      Swept agentName table (max size 1) "" (world.sweeping scope) pushed after :=
  sweep_runs hinj agentName size table hlive.child.not_cancelled
    (by rw [Replica.pending_empty]; exact hrounds)

end AgentSync
