import AgentSync.Proofs.Link

namespace AgentSync

open AgentSync.Action

/-- A bundle of some rows is not empty. -/
theorem rowBundle_isEmpty (agentName : String) (table : Table) {rows : List Row}
    (hrows : rows ≠ []) :
    (rowBundle agentName table rows).isEmpty = false := by
  have hcount : (rowBundle agentName table rows).count ≠ 0 := by
    intro hzero
    have hall := List.eq_nil_of_length_eq_zero hzero
    have hnone := List.flatMap_eq_nil_iff.mp hall table table.mem_all
    rw [rowBundle_rows, if_pos rfl] at hnone
    exact hrows hnone
  simpa [Bundle.isEmpty] using hcount

/-- The keys of rows that all have one. -/
theorem Table.map_key?_eq {table : Table} {rows : List Row}
    (hkeys : ∀ row ∈ rows, ∃ key, table.key? row = some key) :
    rows.map table.key? = (rows.filterMap table.key?).map some := by
  induction rows with
  | nil => rfl
  | cons row rest ih =>
    obtain ⟨⟨key, hkey⟩, hrest⟩ := List.forall_mem_cons.mp hkeys
    rw [List.map_cons, List.filterMap_cons_some hkey, List.map_cons, hkey, ih hrest]

/-- A row with a key has an image with that key in its place. -/
theorem Table.exists_image {table : Table} {rows images : List Row}
    (hkeys : images.map table.key? = rows.map table.key?) {key : String}
    (hkey : key ∈ rows.filterMap table.key?) :
    ∃ (index : Nat) (row image : Row), rows[index]? = some row ∧ images[index]? = some image ∧
      table.key? row = some key ∧ table.key? image = some key := by
  obtain ⟨row, hrow, hrowKey⟩ := List.mem_filterMap.mp hkey
  obtain ⟨index, hindex⟩ := List.mem_iff_getElem?.mp hrow
  have hplace := congrArg (·[index]?) hkeys
  simp only [List.getElem?_map, hindex, Option.map_some, hrowKey] at hplace
  obtain ⟨image, himage, himageKey⟩ := Option.map_eq_some_iff.mp hplace
  exact ⟨index, row, image, hindex, himage, hrowKey, himageKey⟩

namespace Link

/-- What a push of rows of one table comes to, by the text that carries them: the calls that changed
flags, what crossed the network, and the rows that the hub's database accepted. -/
inductive Settles (table : Table) (rows : List Row) (text : String) :
    List FlagCall → List (Request × Response) → List Row → Prop
  | unsent : Settles table rows text [] [] []
  | saved {request : Request} {response : Response} {images accepted : List Row}
      (hbody : request.body = text) (harrives : Bundle.Arrives text table images)
      (hkeys : images.map table.key? = rows.map table.key?) (hperm : accepted.Perm images)
      (hsuccess : response.isSuccess = true) :
      Settles table rows text [.pushed table (rows.filterMap table.key?)] [(request, response)]
        accepted
  | refused {request : Request} {images refused accepted : List Row} {ids : List String}
      {calls : List FlagCall} (hbody : request.body = text)
      (harrives : Bundle.Arrives text table images)
      (hkeys : images.map table.key? = rows.map table.key?) (hrefused : refused ≠ [])
      (hsub : refused.Sublist images) (hperm : (accepted ++ refused).Perm images)
      (hids : refused.map table.key? = ids.map some)
      (hcalls : Flags table (rows.filterMap table.key?) (.error (.missingParents ids)) calls) :
      Settles table rows text calls [(request, (ApiError.conflict ids).response)] accepted
  | failed {request : Request} {response : Response} {accepted : List Row}
      (hbody : request.body = text) (hstatus : response.isSuccess = false)
      (hother : response.status ≠ 422) :
      Settles table rows text [] [(request, response)] accepted

namespace Settles

variable {table : Table} {rows : List Row} {text : String} {calls : List FlagCall}
  {exchanges : List (Request × Response)} {accepted : List Row}

/-- A row that is flagged as pushed was accepted. -/
theorem of_pushed (h : Settles table rows text calls exchanges accepted) {other : Table}
    {keys : List String} (hcall : .pushed other keys ∈ calls) :
    other = table ∧ ∃ images, Bundle.Arrives text table images ∧
      ∀ key ∈ keys, ∃ (index : Nat) (row image : Row), rows[index]? = some row ∧
        images[index]? = some image ∧ table.key? row = some key ∧ table.key? image = some key ∧
        image ∈ accepted := by
  cases h with
  | unsent => cases hcall
  | @saved _ _ images _ _ harrives hkeys hperm _ =>
    cases List.mem_singleton.mp hcall
    refine ⟨rfl, images, harrives, fun key hkey => ?_⟩
    obtain ⟨index, row, image, hrow, himage, hrowKey, himageKey⟩ := Table.exists_image hkeys hkey
    exact ⟨index, row, image, hrow, himage, hrowKey, himageKey,
      hperm.symm.subset (List.mem_of_getElem? himage)⟩
  | @refused _ images refused _ ids _ _ harrives hkeys _ _ hperm hids hcalls =>
    obtain ⟨rfl, rfl⟩ := hcalls.of_pushed hcall
    refine ⟨rfl, images, harrives, fun key hkey => ?_⟩
    obtain ⟨hkey, hsaved⟩ := List.mem_filter.mp hkey
    have hkept : key ∉ ids := by simpa using hsaved
    obtain ⟨index, row, image, hrow, himage, hrowKey, himageKey⟩ := Table.exists_image hkeys hkey
    refine ⟨index, row, image, hrow, himage, hrowKey, himageKey, ?_⟩
    rcases List.mem_append.mp (hperm.symm.subset (List.mem_of_getElem? himage)) with hin | hleft
    · exact hin
    · have hid := List.mem_map_of_mem (f := other.key?) hleft
      rw [himageKey, hids] at hid
      exact absurd (by simpa using hid) hkept
  | failed _ _ _ => cases hcall

/-- A conflict names the rows that were never accepted, and they are flagged for another push. -/
theorem of_conflict (h : Settles table rows text calls exchanges accepted)
    {exchange : Request × Response} (hexchange : exchange ∈ exchanges)
    (hstatus : exchange.2.status = 422) :
    ∃ ids images refused, exchange.2 = (ApiError.conflict ids).response ∧
      Bundle.Arrives text table images ∧ images.map table.key? = rows.map table.key? ∧
      refused ≠ [] ∧ refused.Sublist images ∧ (accepted ++ refused).Perm images ∧
      refused.map table.key? = ids.map some ∧ calls.head? = some (.unpushed table ids) ∧
      ∀ other keys, .pushed other keys ∈ calls → ∀ id ∈ ids, id ∉ keys := by
  cases h with
  | unsent => cases hexchange
  | saved _ _ _ _ hsuccess =>
    cases List.mem_singleton.mp hexchange
    exact absurd hstatus (Response.status_ne_of_isSuccess hsuccess)
  | @refused _ images refused _ ids _ _ harrives hkeys hrefused hsub hperm hids hcalls =>
    cases List.mem_singleton.mp hexchange
    refine ⟨ids, images, refused, rfl, harrives, hkeys, hrefused, hsub, hperm, hids,
      hcalls.head?_eq, fun other keys hcall id hid hkept => ?_⟩
    obtain ⟨rfl, rfl⟩ := hcalls.of_pushed hcall
    have hsaved := (List.mem_filter.mp hkept).2
    simp [hid] at hsaved
  | failed _ _ hother =>
    cases List.mem_singleton.mp hexchange
    exact absurd hstatus hother

/-- Without a success or a conflict no flag is touched. -/
theorem calls_eq_nil (h : Settles table rows text calls exchanges accepted)
    (hfailed : ∀ exchange ∈ exchanges,
      exchange.2.isSuccess = false ∧ exchange.2.status ≠ 422) : calls = [] := by
  cases h with
  | unsent => rfl
  | saved _ _ _ _ hsuccess =>
    have hstatus := (hfailed _ List.mem_cons_self).1
    rw [hsuccess] at hstatus
    cases hstatus
  | refused _ _ _ _ _ _ _ _ => exact absurd rfl (hfailed _ List.mem_cons_self).2
  | failed _ _ _ => rfl

/-- A success flags all rows as pushed. -/
theorem of_success (h : Settles table rows text calls exchanges accepted)
    {exchange : Request × Response} (hexchange : exchange ∈ exchanges)
    (hsuccess : exchange.2.isSuccess = true) :
    calls = [.pushed table (rows.filterMap table.key?)] := by
  cases h with
  | unsent => cases hexchange
  | saved _ _ _ _ _ => rfl
  | refused _ _ _ _ _ _ _ _ =>
    cases List.mem_singleton.mp hexchange
    cases hsuccess
  | failed _ hstatus _ =>
    cases List.mem_singleton.mp hexchange
    rw [hstatus] at hsuccess
    cases hsuccess

/-- At most one request was made, and it carried the rows. -/
theorem exchanges_carry (h : Settles table rows text calls exchanges accepted) :
    exchanges.length ≤ 1 ∧ ∀ exchange ∈ exchanges, exchange.1.body = text := by
  cases h with
  | unsent => simp
  | saved hbody _ _ _ _ => simp [hbody]
  | refused hbody _ _ _ _ _ _ _ => simp [hbody]
  | failed hbody _ _ => simp [hbody]

/-- What the hub answered decides which flags are set. -/
theorem of_answers {request : Request} {response : Response}
    (htext : ∀ row ∈ rows, table.HasTextKey row) (hbody : request.body = text)
    (hkeys : ∀ {images}, Bundle.Arrives text table images →
      images.map table.key? = rows.map table.key?)
    (hanswers : HubServer.Answers text table [] accepted response)
    (hcalls : Flags table (rows.filterMap table.key?)
      (if response.isSuccess then .ok () else .error (.ofResponse response.status response.body))
      calls) :
    Settles table rows text calls [(request, response)] accepted := by
  cases hanswers with
  | saved harrives hperm =>
    cases hcalls with
    | saved => exact .saved hbody harrives (hkeys harrives) hperm rfl
  | @refused images refused harrives hrefused hsub hperm =>
    have hids := Table.map_key?_eq fun row hrow =>
      Table.exists_key_of_map_eq (hkeys harrives) (fun row hrow => (htext row hrow).exists_key)
        row (hsub.subset hrow)
    have hnonempty : refused.filterMap table.key? ≠ [] := by
      intro hnil
      rw [hnil] at hids
      exact hrefused (List.map_eq_nil_iff.mp hids)
    have hfailure : (ApiError.conflict (refused.filterMap table.key?)).response.isSuccess = false :=
      rfl
    rw [hfailure, if_neg Bool.false_ne_true, HubError.ofResponse_conflict hnonempty] at hcalls
    exact .refused hbody harrives (hkeys harrives) hrefused hsub hperm hids hcalls
  | failed hstatus hother hread =>
    rw [hstatus, if_neg Bool.false_ne_true, hread] at hcalls
    cases hcalls with
    | failed _ => exact .failed hbody hstatus hother

end Settles

variable {α ω : Type}

/-- What a push over the network comes to, for rows whose keys survive being sent as text: by its
outcome, which rows are flagged and what the hub's database had accepted of them. -/
theorem pushRows_settles (agentSource : LocalSource α) (settings : HubSettings) (base : Url)
    (db : Database ω) (maxRetries : Nat) (scope : Scope) {table : Table} {rows : List Row}
    (htext : ∀ row ∈ rows, table.HasTextKey row) (agent : World α) (hub : HubState ω)
    {outcome : Except Error Nat} {after : World (Link α ω)}
    (hrun : runFrom (pushRows (source agentSource) (client settings base db maxRetries).api scope
      table rows) (join agent hub) = (outcome, after)) :
    Settles table rows
      ((client (α := α) settings base db maxRetries).stamp
        (rowBundle settings.agentName table rows)).text
      after.inner.flags after.inner.exchanges (after.inner.accepted table) := by
  by_cases hrows : rows = []
  · rw [hrows] at hrun
    cases hrun
    exact .unsent
  · rcases hpush : runFrom ((client settings base db maxRetries).api.push scope
      (rowBundle settings.agentName table rows)) (join agent hub) with ⟨answer, middle⟩
    rw [runFrom_pushRows (source agentSource) _ scope table hrows hpush] at hrun
    obtain ⟨calls, hcalls, hflags⟩ :=
      flags_flagPushed agentSource table (rows.filterMap table.key?) answer middle
    have hkeep := keeps_flagPushed agentSource table (rows.filterMap table.key?) answer middle
    rw [hrun] at hflags hkeep
    obtain ⟨hexchanges, hhub⟩ : after.inner.exchanges = middle.inner.exchanges ∧
      after.inner.hub = middle.inner.hub := Prod.mk.inj hkeep
    rw [accepted, hflags, hexchanges, hhub]
    rcases runFrom_push settings base db maxRetries scope
        (rowBundle_isEmpty settings.agentName table hrows) hpush with
      ⟨rfl, hinner⟩ | ⟨request, response, answered, hpost, hbody, hhandle, hinner, rfl⟩
    · rw [hinner]
      cases hcalls with
      | failed _ => exact .unsent
    · have hstamped : ∀ other, ((client (α := α) settings base db maxRetries).stamp
          (rowBundle settings.agentName table rows)).rows other =
            if other = table then rows else [] := fun other =>
        rowBundle_rows settings.agentName table other rows
      generalize (client (α := α) settings base db maxRetries).stamp
        (rowBundle settings.agentName table rows) = bundle at hbody hstamped ⊢
      have hown : bundle.rows table = rows := (hstamped table).trans (if_pos rfl)
      have honly : ∀ other, other ≠ table → bundle.rows other = [] :=
        fun other hother => (hstamped other).trans (if_neg hother)
      have hanswers := HubServer.handle_answers db maxRetries hpost hbody (hown.symm ▸ hrows) honly
        (hown.symm ▸ htext) hhandle
      have hkeys : ∀ {images}, Bundle.Arrives bundle.text table images →
          images.map table.key? = rows.map table.key? := fun harrives =>
        (harrives.keys (hown.symm ▸ htext)).trans (by rw [hown])
      rw [hinner]
      exact .of_answers htext hbody hkeys hanswers hcalls

end Link

/-- Over the network, for rows with text keys and any database behind the hub: a row is flagged as
pushed only if, as it arrived, it was in an upsert that the database answered. A conflict names in
order the keys of all rows that never were; these are flagged for another push and not as pushed.
A success flags all rows, and after any other answer no flag is touched. -/
theorem pushRows_acknowledges {α ω : Type} (agentSource : LocalSource α) (settings : HubSettings)
    (base : Url) (db : Database ω) (maxRetries : Nat) (scope : Scope) {table : Table}
    {rows : List Row} (htext : ∀ row ∈ rows, table.HasTextKey row) (agent : World α)
    (hub : HubState ω) :
    let client := Link.client (α := α) settings base db maxRetries
    let text := (client.stamp ((Bundle.new settings.agentName).addRows table rows)).text
    let link := (runFrom (pushRows (Link.source agentSource) client.api scope table rows)
      (Link.join agent hub)).2.inner
    (link.exchanges.length ≤ 1 ∧ ∀ exchange ∈ link.exchanges, exchange.1.body = text) ∧
    (∀ other keys, .pushed other keys ∈ link.flags → other = table ∧
      ∃ images, Bundle.Arrives text table images ∧ ∀ key ∈ keys,
        ∃ (index : Nat) (row image : Row), rows[index]? = some row ∧ images[index]? = some image ∧
          table.key? row = some key ∧ table.key? image = some key ∧
          ∃ columns batch answer,
            ⟨.upsert table columns batch, .ok answer⟩ ∈ link.hub.rest.own ∧ image ∈ batch) ∧
    (∀ exchange ∈ link.exchanges, exchange.2.status = 422 →
      ∃ ids images refused, exchange.2 = (ApiError.conflict ids).response ∧
        Bundle.Arrives text table images ∧ images.map table.key? = rows.map table.key? ∧
        refused ≠ [] ∧ refused.Sublist images ∧ (link.accepted table ++ refused).Perm images ∧
        refused.map table.key? = ids.map some ∧ link.flags.head? = some (.unpushed table ids) ∧
        ∀ other keys, .pushed other keys ∈ link.flags → ∀ id ∈ ids, id ∉ keys) ∧
    (∀ exchange ∈ link.exchanges, exchange.2.isSuccess = true →
      link.flags = [.pushed table (rows.filterMap table.key?)]) ∧
    ((∀ exchange ∈ link.exchanges, exchange.2.isSuccess = false ∧ exchange.2.status ≠ 422) →
      link.flags = []) := by
  intro client text link
  have hsettles : Link.Settles table rows text link.flags link.exchanges (link.accepted table) :=
    Link.pushRows_settles agentSource settings base db maxRetries scope htext agent hub rfl
  refine ⟨hsettles.exchanges_carry, fun other keys hcall => ?_,
    fun exchange hexchange hstatus => hsettles.of_conflict hexchange hstatus,
    fun exchange hexchange hsuccess => hsettles.of_success hexchange hsuccess,
    hsettles.calls_eq_nil⟩
  obtain ⟨hother, images, harrives, hkeys⟩ := hsettles.of_pushed hcall
  refine ⟨hother, images, harrives, fun key hkey => ?_⟩
  obtain ⟨index, row, image, hrow, himage, hrowKey, himageKey, haccepted⟩ := hkeys key hkey
  exact ⟨index, row, image, hrow, himage, hrowKey, himageKey, mem_acceptedRows haccepted⟩

/-- An agent that only has flags to set. -/
def flagSource : LocalSource Unit where
  digest _ := return ⟨"", "", 0⟩
  rowsInWindow _ := return []
  rowsByKeys _ _ := return []
  unpushedRows _ _ := return []
  markPushed _ keys := return keys.length
  markUnpushed _ keys := return keys.length
  syncAfterCursor _ _ := return ""

/-- A database that refuses the row `orphan`. -/
def orphanDatabase : Database Unit where
  send
    | .registerAgent _ => pure (.ok ⟨[.str Uuid.nil.text], 1⟩)
    | .columnsOf _ => pure (.ok ⟨[.str "id"], 1⟩)
    | .upsert table _ rows =>
      if rows.any fun row => table.key? row == some "orphan" then
        pure (.error (.reported DatabaseError.foreignKeyViolation ""))
      else pure (.ok ⟨[], rows.length⟩)
    | _ => pure (.ok ⟨[], 0⟩)

def orphanRows : List Row := [.ofList [("id", .str "kept")], .ofList [("id", .str "orphan")]]

/-- What a push of the two rows leaves. -/
def orphanPush : Link Unit Unit :=
  (runFrom (pushRows (Link.source flagSource)
    (Link.client (.new "http://hub" "agent-a")
      ⟨"http".toList, some "hub".toList, .segments [[]], none⟩ orphanDatabase 1).api
    ⟨[]⟩ .checks orphanRows)
    (Link.join ⟨default, 0, Scopes.none, default, ()⟩ ⟨.empty, ()⟩)).2.inner

/-- The batch of both rows is refused, and then only the row `kept` is accepted. -/
theorem orphanPush_acknowledges : (∀ row ∈ orphanRows, Table.checks.HasTextKey row) ∧
    orphanPush.flags = [.unpushed .checks ["orphan"], .pushed .checks ["kept"]] ∧
    ∃ columns batch answer, ⟨.upsert .checks columns batch, .ok answer⟩ ∈ orphanPush.hub.rest.own ∧
      ∃ row ∈ batch, Table.checks.key? row = some "kept" := by
  have htext : ∀ row ∈ orphanRows, Table.checks.HasTextKey row := by
    intro row hrow column hcolumn
    rw [List.mem_singleton.mp hcolumn]
    rcases List.mem_cons.mp hrow with rfl | hrow
    · exact ⟨"kept", rfl⟩
    · rw [List.mem_singleton.mp hrow]
      exact ⟨"orphan", rfl⟩
  have hflags : orphanPush.flags = [.unpushed .checks ["orphan"], .pushed .checks ["kept"]] := by
    decide +kernel
  refine ⟨htext, hflags, ?_⟩
  unfold orphanPush at hflags ⊢
  obtain ⟨_, hpushed, _⟩ := pushRows_acknowledges flagSource (.new "http://hub" "agent-a")
    ⟨"http".toList, some "hub".toList, .segments [[]], none⟩ orphanDatabase 1 ⟨[]⟩ htext
    ⟨default, 0, Scopes.none, default, ()⟩ ⟨.empty, ()⟩
  have hcall := hpushed .checks ["kept"]
  rw [hflags] at hcall
  obtain ⟨_, images, _, hkeys⟩ := hcall (List.mem_cons_of_mem _ List.mem_cons_self)
  obtain ⟨_, _, image, _, _, _, hkey, columns, batch, answer, hsent, himage⟩ :=
    hkeys "kept" List.mem_cons_self
  exact ⟨columns, batch, answer, hsent, image, himage, hkey⟩

end AgentSync
