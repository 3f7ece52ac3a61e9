import AgentSync.Proofs.Http.Report
import AgentSync.Proofs.Hub.Store

namespace AgentSync

open AgentSync.Action

/-- The rows of a table as the hub saves them: read from the text that was sent, and given an
owner. -/
def Bundle.Arrives (text : String) (table : Table) (images : List Row) : Prop :=
  ∃ received owner, ofText? text = some received ∧
    images = (received.populateOwner owner).rows table

/-- Rows with text keys arrive with the same keys. -/
theorem Bundle.Arrives.keys {bundle : Bundle} {table : Table} {images : List Row}
    (harrives : Arrives bundle.text table images)
    (htext : ∀ row ∈ bundle.rows table, table.HasTextKey row) :
    images.map table.key? = (bundle.rows table).map table.key? := by
  obtain ⟨received, owner, hread, rfl⟩ := harrives
  exact keys_of_ofText? hread htext owner

/-- Only a conflict over rows is reported as one. -/
theorem ApiError.ofError_ne_conflict {error : Error} (hother : ∀ ids, error ≠ .conflict ids) :
    ∀ ids, ofError error ≠ .conflict ids := by
  cases error with
  | conflict ids => exact absurd rfl (hother ids)
  | _ => simp [ofError]

namespace HubServer

/-- The body of an answer is left out for no request but `HEAD`. -/
theorem forRequest_post {request : Request} (hpost : request.method = .post) (response : Response) :
    forRequest request response = response := by
  have hhead : ¬request.method.name = "HEAD" := by
    rw [hpost]
    decide
  rw [forRequest, if_neg hhead]

/-- A body that is too long is not looked at. -/
theorem run_handle_tooLong {ω : Type} (server : HubServer ω) {request : Request}
    (hlong : Defaults.maxBodyBytes < request.body.utf8ByteSize) (hpost : request.method = .post)
    (state : HubState ω) : (server.handle request).run state = (tooLong, state) := by
  unfold handle
  rw [if_pos hlong, forRequest_post hpost]
  rfl

section Posts

variable {ω : Type} (server : HubServer ω) {request : Request}
  (hsize : ¬Defaults.maxBodyBytes < request.body.utf8ByteSize) (hpost : request.method = .post)

include hsize hpost

/-- A request to save rows gets the outcome of the save. -/
theorem run_handle_push (hpath : Resource.ofPath? request.path = some .push)
    (state : HubState ω) :
    (server.handle request).run state =
      (match (runFrom (server.push request) state).1 with
        | .ok response => response
        | .error error => error.response, (runFrom (server.push request) state).2) := by
  have hmethod : Resource.push.methods.contains request.method.name = true := by
    rw [hpost]
    decide
  have hserve : server.serve .push request = server.push request := by
    rw [serve, hpost, if_neg (by decide)]
  unfold handle
  rw [if_neg hsize, hpath]
  dsimp only
  rw [hmethod, hserve, Bool.not_true, if_neg Bool.false_ne_true]
  simp only [StateT.run_bind, forRequest_post hpost]
  rfl

/-- Anywhere else there is nothing to post rows to. -/
theorem run_handle_elsewhere (hpath : Resource.ofPath? request.path ≠ some .push)
    (state : HubState ω) :
    ∃ status allow, (server.handle request).run state = (⟨status, none, allow, ""⟩, state) ∧
      (status = 404 ∨ status = 405) := by
  unfold handle
  rw [if_neg hsize]
  cases hresource : Resource.ofPath? request.path with
  | none => exact ⟨404, none, rfl, .inl rfl⟩
  | some resource =>
    have hmethod : resource.methods.contains request.method.name = false := by
      rw [hpost]
      cases resource with
      | push => exact absurd hresource hpath
      | _ => rfl
    refine ⟨405, some (",".intercalate resource.methods), ?_, .inr rfl⟩
    dsimp only
    rw [hmethod]
    rfl

end Posts

/-- A body that is taken for a bundle is one. -/
theorem bundleOf_eq_ok {request : Request} {bundle : Bundle}
    (hbundle : bundleOf request = .ok bundle) : Bundle.ofText? request.body = some bundle := by
  unfold bundleOf at hbundle
  split at hbundle
  · cases hbundle
  · split at hbundle
    · cases hbundle
    · split at hbundle
      · cases hbundle
        assumption
      · cases hbundle

/-- A body that is no bundle is a bad request. -/
theorem bundleOf_eq_error {request : Request} {error : ApiError}
    (hbundle : bundleOf request = .error error) : ∃ message, error = .badRequest message := by
  unfold bundleOf at hbundle
  split at hbundle
  · cases hbundle
    exact ⟨_, rfl⟩
  · split at hbundle
    · cases hbundle
      exact ⟨_, rfl⟩
    · split at hbundle
      · cases hbundle
      · cases hbundle
        exact ⟨_, rfl⟩

/-- A body without a name is a bad request. -/
theorem agentNameOf_eq_error {request : Request} {error : ApiError}
    (hname : agentNameOf request = .error error) : ∃ message, error = .badRequest message := by
  unfold agentNameOf atMostOne at hname
  split at hname
  · cases hname
  · cases hname
  · cases hname
    exact ⟨_, rfl⟩

/-- The bundle of a request is that of its body, only the name of the agent may be another; without
one the request is bad. -/
theorem agentBundleOf_cases (request : Request) :
    (∃ received agentName, Bundle.ofText? request.body = some received ∧
      agentBundleOf request = .ok { received with agentName }) ∨
    ∃ message, agentBundleOf request = .error (.badRequest message) := by
  unfold agentBundleOf
  cases hname : agentNameOf request with
  | error error =>
    obtain ⟨message, rfl⟩ := agentNameOf_eq_error hname
    exact .inr ⟨message, rfl⟩
  | ok name =>
    cases hbundle : bundleOf request with
    | error error =>
      obtain ⟨message, rfl⟩ := bundleOf_eq_error hbundle
      exact .inr ⟨message, rfl⟩
    | ok received =>
      dsimp only [bind, Except.bind]
      generalize (if name.isEmpty = true then received.agentName else name) = agentName
      split
      · exact .inr ⟨_, rfl⟩
      · exact .inl ⟨received, _, bundleOf_eq_ok hbundle, rfl⟩

/-- The response to the outcome of a save. -/
def saveResponse : Except Error Nat → Response
  | .ok count => .json 200 (Json.object [("saved", Json.ofNat count)])
  | .error error => (ApiError.ofError error).response

section Bundles

variable {ω : Type} (server : HubServer ω) {request : Request}
  (hsize : ¬Defaults.maxBodyBytes < request.body.utf8ByteSize) (hpost : request.method = .post)
  (hpath : Resource.ofPath? request.path = some .push)

include hsize hpost hpath

/-- A bundle that can be read is saved, and the response is that to the outcome. -/
theorem run_handle_bundle {bundle : Bundle} (hbundle : agentBundleOf request = .ok bundle)
    (state : HubState ω) :
    (server.handle request).run state =
      (saveResponse (runFrom (server.store.insertBundle bundle) state).1,
        (runFrom (server.store.insertBundle bundle) state).2) := by
  rw [run_handle_push server hsize hpost hpath, push, hbundle, runFrom_bind, runFrom_ofExcept]
  dsimp only
  rw [runFrom_bind, reported, runFrom_mapFailure]
  rcases runFrom (server.store.insertBundle bundle) state with ⟨error | count, after⟩
  · rfl
  · rfl

/-- A request without a readable bundle is bad, and nothing is saved. -/
theorem run_handle_bad {message : String}
    (hbad : agentBundleOf request = .error (.badRequest message)) (state : HubState ω) :
    (server.handle request).run state = ((ApiError.badRequest message).response, state) := by
  rw [run_handle_push server hsize hpost hpath, push, hbad]
  rfl

end Bundles

/-- How a bundle with rows of one table is answered, by the rows of the table that the database
has accepted before and after. -/
inductive Answers (text : String) (table : Table) (before after : List Row) : Response → Prop
  | saved {images : List Row} {count : Nat} (harrives : Bundle.Arrives text table images)
      (hperm : after.Perm (before ++ images)) :
      Answers text table before after (.json 200 (Json.object [("saved", Json.ofNat count)]))
  | refused {images refused : List Row} (harrives : Bundle.Arrives text table images)
      (hrefused : refused ≠ []) (hsub : refused.Sublist images)
      (hperm : (after ++ refused).Perm (before ++ images)) :
      Answers text table before after (ApiError.conflict (refused.filterMap table.key?)).response
  | failed {response : Response} (hstatus : response.isSuccess = false)
      (hother : response.status ≠ 422)
      (hread : HubError.ofResponse response.status response.body =
        .status response.status response.body) :
      Answers text table before after response

/-- No other report than a conflict reads as an answer about rows. -/
theorem Answers.of_report {text : String} {table : Table} {before after : List Row}
    {error : ApiError} (hother : ∀ ids, error ≠ .conflict ids) :
    Answers text table before after error.response := by
  have hread := HubError.ofResponse_response error
  cases error with
  | conflict ids => exact absurd rfl (hother ids)
  | badRequest _ => exact .failed rfl (Nat.ne_of_beq_eq_false rfl) hread
  | notFound _ => exact .failed rfl (Nat.ne_of_beq_eq_false rfl) hread
  | unavailable _ => exact .failed rfl (Nat.ne_of_beq_eq_false rfl) hread
  | internal _ => exact .failed rfl (Nat.ne_of_beq_eq_false rfl) hread

/-- The answer after a save says which rows were accepted. -/
theorem Answers.of_splits {text : String} {table : Table} {images before after : List Row}
    (harrives : Bundle.Arrives text table images) {outcome : Except Error Nat}
    (hsplits : HubStore.Splits table images before after outcome) :
    Answers text table before after (saveResponse outcome) := by
  cases hsplits with
  | saved hperm => exact .saved harrives hperm
  | refused hrefused hsub hperm => exact .refused harrives hrefused hsub hperm
  | failed hother => exact .of_report (ApiError.ofError_ne_conflict hother)

/-- A bundle with rows of one table that is posted anywhere gets one of the three answers. -/
theorem handle_answers {ω : Type} (db : Database ω) (maxRetries : Nat) {request : Request}
    (hpost : request.method = .post) {bundle : Bundle} (hbody : request.body = bundle.text)
    {table : Table} (hrows : bundle.rows table ≠ [])
    (honly : ∀ other, other ≠ table → bundle.rows other = [])
    (htext : ∀ row ∈ bundle.rows table, table.HasTextKey row)
    {state after : HubState (Beside (List Sent) ω)} {response : Response}
    (hrun : ((Link.server db maxRetries).handle request).run state = (response, after)) :
    Answers bundle.text table (acceptedRows table state.rest.own)
      (acceptedRows table after.rest.own) response := by
  by_cases hsize : Defaults.maxBodyBytes < request.body.utf8ByteSize
  · rw [run_handle_tooLong _ hsize hpost] at hrun
    cases hrun
    exact .failed rfl (Nat.ne_of_beq_eq_false rfl) rfl
  by_cases hpath : Resource.ofPath? request.path = some .push
  · rcases agentBundleOf_cases request with ⟨received, agentName, hread, hbundle⟩ | ⟨message, hbad⟩
    · rw [hbody] at hread
      have hkeys : ∀ row ∈ received.rows table, ∃ key, table.key? row = some key :=
        Table.exists_key_of_map_eq
          (Bundle.keys_of_readRow _ htext (Bundle.ofText?_rows hread table))
          fun row hrow => (htext row hrow).exists_key
      rcases hinsert : runFrom ((Link.server db maxRetries).store.insertBundle
        { received with agentName }) state with ⟨outcome, middle⟩
      obtain ⟨owner, hsplits⟩ := HubStore.insertBundle_splits db maxRetries hinsert
        (mt (Bundle.rows_eq_nil_of_ofText? hread).mp hrows)
        (fun other hother => (Bundle.rows_eq_nil_of_ofText? hread).mpr (honly other hother)) hkeys
      rw [run_handle_bundle _ hsize hpost hpath hbundle, hinsert] at hrun
      cases hrun
      exact .of_splits ⟨received, owner, hread, rfl⟩ hsplits
    · rw [run_handle_bad _ hsize hpost hpath hbad] at hrun
      cases hrun
      exact .of_report (by simp)
  · obtain ⟨status, allow, hempty, hstatus⟩ := run_handle_elsewhere _ hsize hpost hpath state
    rw [hempty] at hrun
    cases hrun
    rcases hstatus with rfl | rfl
    · exact .failed rfl (Nat.ne_of_beq_eq_false rfl) rfl
    · exact .failed rfl (Nat.ne_of_beq_eq_false rfl) rfl

end HubServer

end AgentSync
