import AgentSync.Proofs.Http.Client
import AgentSync.Proofs.Hub.Server
import AgentSync.Proofs.Push

namespace AgentSync

open AgentSync.Action

namespace Link

variable {α ω : Type}

/-- A request is answered by the server, and the exchange written down. -/
theorem runFrom_send (server : HubServer (Beside (List Sent) ω)) (scope : Scope) {request : Request}
    {world : World (Link α ω)} {response : Response} {hub : HubState (Beside (List Sent) ω)}
    (hhandle : (server.handle request).run world.inner.hub = (response, hub)) :
    runFrom ((transport server).send scope request) world =
      (.ok response, { world with
        inner := ⟨world.inner.agent, world.inner.flags,
          world.inner.exchanges ++ [(request, response)], hub⟩ }) := by
  rw [transport, World.runFrom_inside]
  change (Except.ok ((server.handle request).run world.inner.hub).1, { world with
    inner := { world.inner with
      hub := ((server.handle request).run world.inner.hub).2
      exchanges := world.inner.exchanges ++
        [(request, ((server.handle request).run world.inner.hub).1)] } }) = _
  rw [hhandle]

/-- A push is given up before anything is sent, or is one exchange whose response decides. No flag
is changed by it. -/
theorem runFrom_push (settings : HubSettings) (base : Url) (db : Database ω) (maxRetries : Nat)
    (scope : Scope) {bundle : Bundle} (hbundle : bundle.isEmpty = false)
    {world after : World (Link α ω)} {answer : Except HubError Unit}
    (hrun : runFrom ((client settings base db maxRetries).push scope bundle) world =
      (answer, after)) :
    (answer = .error .cancelled ∧ after.inner = world.inner) ∨
    ∃ request response hub, request.method = .post ∧
      request.body = ((client (α := α) settings base db maxRetries).stamp bundle).text ∧
      ((server db maxRetries).handle request).run world.inner.hub = (response, hub) ∧
      after.inner = ⟨world.inner.agent, world.inner.flags,
        world.inner.exchanges ++ [(request, response)], hub⟩ ∧
      answer = if response.isSuccess then .ok ()
        else .error (.ofResponse response.status response.body) := by
  cases hscope : world.scopes.isCancelled scope with
  | true =>
    obtain ⟨metrics, hcancelled⟩ :=
      (client settings base db maxRetries).runFrom_sendBundle_of_cancelled "push" .post hbundle
        hscope
    rw [HubClient.push, hcancelled] at hrun
    cases hrun
    exact .inl ⟨rfl, rfl⟩
  | false =>
    rcases hhandle : ((server db maxRetries).handle
      ((client (α := α) settings base db maxRetries).bundleRequest .post bundle)).run
        world.inner.hub with ⟨response, hub⟩
    obtain ⟨metrics, hsent⟩ := (client settings base db maxRetries).runFrom_sendBundle "push"
      hbundle hscope (runFrom_send (server db maxRetries) scope hhandle)
    rw [HubClient.push, hsent] at hrun
    cases hrun
    exact .inr ⟨_, response, hub, rfl, rfl, hhandle, rfl, rfl⟩

/-- What the hub and the network have of a link. -/
def remote (world : World (Link α ω)) :
    List (Request × Response) × HubState (Beside (List Sent) ω) :=
  (world.inner.exchanges, world.inner.hub)

/-- Flagging rows leaves the hub alone. -/
theorem keeps_flagPushed (agentSource : LocalSource α) (table : Table) (keys : List String)
    (answer : Except HubError Unit) :
    Keeps (remote (ω := ω)) (flagPushed (source agentSource) table keys answer) := by
  have hpushed : ∀ keys, Keeps (remote (ω := ω)) ((source agentSource).markPushed table keys) :=
    fun _ _ => rfl
  have hunpushed : ∀ keys, Keeps (remote (ω := ω)) ((source agentSource).markUnpushed table keys) :=
    fun _ _ => rfl
  have hcount : ∀ metric amount,
      Keeps (remote (ω := ω)) (World.count metric amount : Action (World (Link α ω)) Error Unit) :=
    fun _ _ _ => rfl
  rcases answer with error | ⟨⟩
  · cases error with
    | missingParents refused =>
      exact .bind (hunpushed _) fun _ => .bind (hpushed _) fun _ => .bind (hcount _ _) fun _ =>
        .throw _ _
    | _ => exact .throw _ _
  · exact .bind (hpushed _) fun _ => .bind (hcount _ _) fun _ => .pure _ _

/-- The calls that change flags after an answer of the hub. The refused rows come first, and if
that fails no row is flagged as pushed. -/
inductive Flags (table : Table) (keys : List String) : Except HubError Unit → List FlagCall → Prop
  | saved : Flags table keys (.ok ()) [.pushed table keys]
  | stopped {refused : List String} :
      Flags table keys (.error (.missingParents refused)) [.unpushed table refused]
  | refused {refused : List String} :
      Flags table keys (.error (.missingParents refused))
        [.unpushed table refused, .pushed table (keys.filter fun key => !refused.contains key)]
  | failed {error : HubError} (hother : ∀ ids, error ≠ .missingParents ids) :
      Flags table keys (.error error) []

/-- After a refusal only keys that were not refused are flagged as pushed. -/
theorem Flags.of_pushed {table other : Table} {keys refused flagged : List String}
    {calls : List FlagCall} (h : Flags table keys (.error (.missingParents refused)) calls)
    (hcall : .pushed other flagged ∈ calls) :
    other = table ∧ flagged = keys.filter fun key => !refused.contains key := by
  cases h with
  | stopped => simp at hcall
  | refused => simpa using hcall
  | failed hother => exact absurd rfl (hother refused)

/-- The rows that were refused are flagged before any others. -/
theorem Flags.head?_eq {table : Table} {keys refused : List String} {calls : List FlagCall}
    (h : Flags table keys (.error (.missingParents refused)) calls) :
    calls.head? = some (.unpushed table refused) := by
  cases h with
  | stopped => rfl
  | refused => rfl
  | failed hother => exact absurd rfl (hother refused)

/-- The answer of the hub decides which flags are set, even if setting them fails. -/
theorem flags_flagPushed (agentSource : LocalSource α) (table : Table) (keys : List String)
    (answer : Except HubError Unit) (world : World (Link α ω)) :
    ∃ calls, Flags table keys answer calls ∧
      (runFrom (flagPushed (source agentSource) table keys answer) world).2.inner.flags =
        world.inner.flags ++ calls := by
  have hcount : ∀ {δ : Type} (metric : Metric) (amount : Nat)
      (last : Action (World (Link α ω)) Error δ),
      Keeps (fun world => world.inner.flags) last →
      Keeps (fun world => world.inner.flags) (World.count metric amount >>= fun _ => last) :=
    fun _ _ _ hlast => .bind (fun _ => rfl) fun _ => hlast
  rcases answer with error | ⟨⟩
  · cases error with
    | missingParents refused =>
      rcases hmark : runFrom ((source agentSource).markUnpushed table refused) world with
        ⟨error | count, middle⟩
      · refine ⟨_, .stopped, ?_⟩
        rw [flagPushed, runFrom_bind_of_error hmark]
        exact congrArg (fun result => result.2.inner.flags) hmark.symm
      · refine ⟨_, .refused, ?_⟩
        rw [flagPushed, runFrom_bind_of_ok hmark]
        refine (Keeps.after_bind _ (fun _ => hcount _ _ _ (.throw _ _)) middle).trans ?_
        have hflags : middle.inner.flags = world.inner.flags ++ [.unpushed table refused] :=
          congrArg (fun result => result.2.inner.flags) hmark.symm
        change middle.inner.flags ++ _ = _
        rw [hflags, List.append_assoc]
        rfl
    | _ => exact ⟨[], .failed (by simp), (List.append_nil _).symm⟩
  · exact ⟨_, .saved, Keeps.after_bind _ (fun _ => hcount _ _ _ (.pure _ _)) world⟩

end Link

end AgentSync
