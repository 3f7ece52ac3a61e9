import AgentSync.Http.Client
import AgentSync.Hub.Server
import AgentSync.Proofs.Http.Form
import AgentSync.Proofs.Http.Url
import AgentSync.Proofs.Hub.Records
import AgentSync.Proofs.Text.Integer

namespace AgentSync

namespace HubServer

/-- The name of the agent that a request is about, as the server takes it from the request. -/
def agentOf? (request : Request) : Option String :=
  match Resource.ofPath? request.path with
  | some (.status segment) | some (.pull segment) => (agentOfPath segment).toOption
  | some .push => (agentBundleOf request).toOption.map (·.agentName)
  | some .ping => (agentNameOf request).toOption
  | _ => none

section Serve

variable {ω : Type} (db : Database ω) (maxRetries : Nat) {request : Request}

open AgentSync.HubStore

/-- Where nothing is found the server answers without a further statement. -/
theorem sends_orNothing {α : Type} {name : Option String} (nothing : α)
    {full : Action (HubState (Beside (List Sent) ω)) Error α} {bare : Action (HubState ω) Error α}
    (h : HubSends name full bare) :
    HubSends name (orNothing nothing full) (orNothing nothing bare) := by
  refine .bind h.attempt fun result => ?_
  cases result with
  | ok value => exact .pure value
  | error error =>
    cases error with
    | notFound _ => exact .pure nothing
    | _ => exact .throw _

/-- A request is served with statements that name the agent it is about. -/
theorem sends_serve {resource : Resource}
    (hresource : Resource.ofPath? request.path = some resource) :
    HubSends (agentOf? request) ((HubServer.mk ⟨db.recorded, maxRetries⟩).serve resource request)
      ((HubServer.mk ⟨db, maxRetries⟩).serve resource request) := by
  unfold agentOf?
  rw [hresource]
  cases resource with
  | health =>
    exact .bind (sends_action (sends_run db (Command.namesOnly_of_none rfl))).attempt fun _ =>
      .pure _
  | push =>
    have hpush : HubSends ((agentBundleOf request).toOption.map (·.agentName))
        ((HubServer.mk ⟨db.recorded, maxRetries⟩).push request)
        ((HubServer.mk ⟨db, maxRetries⟩).push request) := by
      refine .ofExcept_bind fun bundle hbundle => ?_
      rw [hbundle]
      exact .bind (.mapFailure (sends_insertBundle db maxRetries bundle)) fun _ => .pure _
    have hdelete : HubSends ((agentBundleOf request).toOption.map (·.agentName))
        ((HubServer.mk ⟨db.recorded, maxRetries⟩).delete request)
        ((HubServer.mk ⟨db, maxRetries⟩).delete request) := by
      refine .ofExcept_bind fun bundle hbundle => ?_
      rw [hbundle]
      exact .bind (.mapFailure (sends_action (sends_deleteBundle db maxRetries bundle))) fun _ =>
        .pure _
    unfold serve
    dsimp only
    split
    · exact hdelete
    · exact hpush
  | ping =>
    refine .ofExcept_bind fun name hname => ?_
    rw [hname]
    exact .bind (.mapFailure (sends_action (sends_touchAgent db maxRetries name))) fun _ => .pure _
  | status segment =>
    refine .ofExcept_bind fun name hname => ?_
    dsimp only
    rw [hname]
    exact .bind (.ofExcept _) fun page =>
      .bind (sends_orNothing _ (sends_action (sends_pageDigest db maxRetries name page))) fun _ =>
        .pure _
  | pull segment =>
    refine .ofExcept_bind fun name hname => ?_
    dsimp only
    rw [hname]
    exact .bind (.ofExcept _) fun page =>
      .bind (sends_orNothing _ (sends_action (sends_pageIds db maxRetries name page))) fun _ =>
        .pure _

/-- The statements that are sent while a request is handled, with their answers. -/
def handled (cache : ColumnCache) (state : ω) (request : Request) : List Sent :=
  (((HubServer.mk ⟨db.recorded, maxRetries⟩).handle request).run ⟨cache, ⟨[], state⟩⟩).2.rest.own

/-- Every statement that a request gives rise to names its agent or none. -/
theorem namesOnly_of_handled {cache : ColumnCache} {state : ω} {entry : Sent}
    (hentry : entry ∈ handled db maxRetries cache state request) :
    entry.command.NamesOnly (agentOf? request) := by
  unfold handled handle at hentry
  split at hentry
  · cases hentry
  · cases hresource : Resource.ofPath? request.path with
    | none =>
      rw [hresource] at hentry
      cases hentry
    | some resource =>
      rw [hresource] at hentry
      dsimp only at hentry
      split at hentry
      · cases hentry
      · obtain ⟨outcome, sent, after, hrun, -, hlog, hsent⟩ :=
          sends_serve db maxRetries hresource ⟨cache, ⟨[], state⟩⟩
        rw [Action.run_run_bind, hrun] at hentry
        dsimp only at hlog
        have hafter : entry ∈ after.rest.own := hentry
        rw [hlog, List.nil_append] at hafter
        exact hsent entry hafter

end Serve

end HubServer

namespace Resource

/-- A text that goes on after a start is not another text without this start. -/
theorem ofList_append_ne {start : List Char} {other : String}
    (hstart : start.isPrefixOf other.toList = false) (rest : List Char) :
    String.ofList (start ++ rest) ≠ other := by
  intro heq
  have hother : start ++ rest = other.toList := by rw [← heq, String.toList_ofList]
  rw [← hother, List.isPrefixOf_iff_prefix.mpr (List.prefix_append _ _)] at hstart
  cases hstart

/-- The segment after the status path is the agent, as it stands in the path. -/
theorem ofPath?_status {segment : List Char} (hne : segment ≠ []) (hslash : '/' ∉ segment) :
    ofPath? (String.ofList ("/upstream/status/".toList ++ segment)) = some (status segment) := by
  have hlength : "/upstream/status/".length = 17 := rfl
  unfold ofPath?
  rw [if_neg (ofList_append_ne (by decide) segment), if_neg (ofList_append_ne (by decide) segment),
    if_neg (ofList_append_ne (by decide) segment)]
  simp [hlength, hne, hslash]

theorem ofPath?_pull {segment : List Char} (hne : segment ≠ []) (hslash : '/' ∉ segment) :
    ofPath? (String.ofList ("/upstream/pull/".toList ++ segment)) = some (pull segment) := by
  have hlength : "/upstream/pull/".length = 15 := rfl
  unfold ofPath?
  rw [if_neg (ofList_append_ne (by decide) segment), if_neg (ofList_append_ne (by decide) segment),
    if_neg (ofList_append_ne (by decide) segment)]
  simp [hlength, hne, hslash]

end Resource

namespace HubClient

open AgentSync.HubServer

section

variable {ω : Type} {client : HubClient ω} (hroot : client.base.IsRoot)

include hroot

/-- The path of a request is made of its segments, each appended as URLs do. -/
theorem path_request (method : Method) (segments : List String)
    (fields : List (String × String)) (contentType : Option String) (body : String) :
    (client.request method segments fields contentType body).path =
      String.ofList (((segments.map String.toList).foldl Url.appendSegment []).flatMap
        ('/' :: ·)) := by
  unfold request endpoint
  rw [hroot.append]
  rfl

/-- The server reads the fields that the client wrote. -/
theorem fieldsOf_request (method : Method) (segments : List String)
    (fields : List (String × String)) (contentType : Option String) (body : String) :
    fieldsOf (client.request method segments fields contentType body) = fields := by
  unfold fieldsOf request endpoint Url.withFields Url.queryText
  rw [hroot.append, hroot.query]
  exact (congrArg Form.decode String.ofList_toList).trans (Form.decode_encode fields)

/-- The server knows the agent of a query by the name that the client wrote. -/
theorem agentNameOf_request (method : Method) (segments : List String)
    (contentType : Option String) (body : String) :
    agentNameOf (client.request method segments client.agentFields contentType body) =
      .ok client.settings.agentName := by
  unfold agentNameOf
  rw [fieldsOf_request hroot]
  rfl

/-- The server reads the page that the client asks about. -/
theorem pageOf_pageRequest (resource : String) {page : PageRequest}
    (hlow : -(Nat.pow 2 63 : Int) ≤ page.size) (hhigh : page.size < (Nat.pow 2 63 : Int)) :
    pageOf (client.pageRequest resource page) = .ok page := by
  have hsize : (some (toString page.size)).bind (Text.signed? 64) = some page.size :=
    Text.signed?_toString hlow hhigh
  have htable : atMostOne "table" (pageFields page) = .ok (some page.table) := rfl
  have hstart : atMostOne "from" (pageFields page) = .ok (some page.start) := rfl
  have hcount : atMostOne "size" (pageFields page) = .ok (some (toString page.size)) := rfl
  unfold pageOf pageRequest
  simp only [fieldsOf_request hroot, htable, hstart, hcount, hsize, bind, Except.bind]
  rfl

/-- A bundle is for the configured agent whenever it can be read. -/
theorem agentOf?_bundleRequest (hname : client.settings.agentName ≠ "") (method : Method)
    (bundle : Bundle) :
    agentOf? (client.bundleRequest method bundle) =
      (bundleOf (client.bundleRequest method bundle)).toOption.map
        fun _ => client.settings.agentName := by
  have hpath : Resource.ofPath? (client.bundleRequest method bundle).path = some .push := by
    unfold bundleRequest
    rw [path_request hroot]
    rfl
  have hagent : agentNameOf (client.bundleRequest method bundle) = .ok client.settings.agentName :=
    agentNameOf_request hroot _ _ _ _
  have hfilled : client.settings.agentName.isEmpty = false := by simpa using hname
  unfold agentOf?
  rw [hpath]
  dsimp only
  unfold agentBundleOf
  rw [hagent]
  cases bundleOf (client.bundleRequest method bundle) with
  | error error => rfl
  | ok received =>
    dsimp only [bind, Except.bind]
    rw [hfilled]
    simp [hfilled, Except.toOption, pure, Except.pure]

/-- A sign of life carries the name in its body, so it arrives whole. -/
theorem agentOf?_pingRequest :
    agentOf? client.pingRequest = some client.settings.agentName := by
  have hpath : Resource.ofPath? client.pingRequest.path = some .ping := by
    unfold pingRequest
    rw [path_request hroot]
    rfl
  unfold agentOf?
  rw [hpath]
  dsimp only
  unfold pingRequest
  rw [agentNameOf_request hroot]
  rfl

/-- The name that arrives in the path is the one that the server takes. -/
theorem agentOf?_pageRequest {resource : String} (hresource : resource ∈ ["status", "pull"])
    (page : PageRequest) :
    agentOf? (client.pageRequest resource page) = Url.carried? client.settings.agentName := by
  let segments := ["upstream".toList, resource.toList]
  have hpath : (client.pageRequest resource page).path = String.ofList
      ((Url.appendSegment segments client.settings.agentName.toList).flatMap ('/' :: ·)) := by
    unfold pageRequest
    rw [path_request hroot]
    simp only [List.mem_cons, List.not_mem_nil, or_false] at hresource
    rcases hresource with rfl | rfl <;> rfl
  unfold Url.carried?
  split
  · next hdots =>
    have hnone : Resource.ofPath? (client.pageRequest resource page).path = none := by
      rw [hpath]
      have hsegments := Url.appendSegment_of_dots "upstream".toList resource.toList hdots
      simp only [List.mem_cons, List.not_mem_nil, or_false] at hsegments hresource
      rcases hsegments with hsegments | hsegments | hsegments <;> rw [hsegments] <;>
        rcases hresource with rfl | rfl <;> rfl
    unfold agentOf?
    rw [hnone]
  · next hdots =>
    simp only [List.mem_cons, List.not_mem_nil, or_false, not_or] at hdots hresource
    obtain ⟨hnil, hdot, hdots⟩ := hdots
    have hfilled : Url.escapeSegment client.settings.agentName.toList ≠ [] :=
      Percent.encode_ne_nil hnil
    have hslash := Url.not_mem_escapeSegment client.settings.agentName.toList
    have hname : agentOfPath (Url.escapeSegment client.settings.agentName.toList) =
        .ok (String.ofList (Url.unbroken client.settings.agentName.toList)) := by
      rw [agentOfPath, Url.escapeSegment_eq, Percent.decode?_encode rfl]
    rw [Url.appendSegment_eq segments hdot hdots, List.flatMap_append, List.flatMap_singleton,
      ← List.singleton_append, ← List.append_assoc] at hpath
    unfold agentOf?
    rcases hresource with rfl | rfl
    · have hstart : segments.flatMap ('/' :: ·) ++ ['/'] = "/upstream/status/".toList := by decide
      rw [hpath, hstart, Resource.ofPath?_status hfilled hslash]
      exact congrArg Except.toOption hname
    · have hstart : segments.flatMap ('/' :: ·) ++ ['/'] = "/upstream/pull/".toList := by decide
      rw [hpath, hstart, Resource.ofPath?_pull hfilled hslash]
      exact congrArg Except.toOption hname

end

/-- An agent of which the environment gives the name has one. -/
theorem agentName_ne_empty {vars : Variables} {settings : HubSettings}
    (hsettings : HubSettings.ofVariables vars = .ok settings) : settings.agentName ≠ "" := by
  unfold HubSettings.ofVariables at hsettings
  cases hhost : HubSettings.required vars "UPSTREAM_HOST" with
  | error error =>
    rw [hhost] at hsettings
    cases hsettings
  | ok host =>
    cases hname : HubSettings.required vars "AGENT_NAME" with
    | error error =>
      rw [hhost, hname] at hsettings
      cases hsettings
    | ok name =>
      rw [hhost, hname] at hsettings
      cases hsettings
      rintro rfl
      unfold HubSettings.required at hname
      split at hname
      · cases hname
      · split at hname
        · cases hname
        · next hblank =>
          cases hname
          exact hblank rfl

/-- Whom the two sides mean. The server handles a request with statements about the agent that it
takes the request to be about. Under every name that the environment gives, it takes bundles and
signs of life to be from the agent of that name, and reads every page as it was asked about; but it
takes questions about pages to be about that agent exactly if the name holds no tabs and line ends
and is not made of one or two dots. -/
theorem requests_name_agent_iff {ω : Type} {vars : Variables} {settings : HubSettings}
    (hsettings : HubSettings.ofVariables vars = .ok settings) {base : Url} (hroot : base.IsRoot)
    (transport : Transport ω) {page : PageRequest} (hlow : -(Nat.pow 2 63 : Int) ≤ page.size)
    (hhigh : page.size < (Nat.pow 2 63 : Int)) :
    let client : HubClient ω := ⟨settings, base, transport⟩
    (∀ {τ : Type} (db : Database τ) maxRetries cache state request,
      ∀ entry ∈ handled db maxRetries cache state request,
        entry.command.NamesOnly (agentOf? request)) ∧
    (∀ method bundle, agentOf? (client.bundleRequest method bundle) =
      (bundleOf (client.bundleRequest method bundle)).toOption.map fun _ => settings.agentName) ∧
    agentOf? client.pingRequest = some settings.agentName ∧
    (∀ resource ∈ ["status", "pull"], pageOf (client.pageRequest resource page) = .ok page) ∧
    ((∀ resource ∈ ["status", "pull"],
      agentOf? (client.pageRequest resource page) = some settings.agentName) ↔
        Url.IsWhole settings.agentName) := by
  intro client
  have hname := agentName_ne_empty hsettings
  have hclient : client.base.IsRoot := hroot
  refine ⟨fun db maxRetries _ _ _ _ hentry => namesOnly_of_handled db maxRetries hentry,
    agentOf?_bundleRequest hclient hname, agentOf?_pingRequest hclient,
    fun resource _ => pageOf_pageRequest hclient resource hlow hhigh, ?_⟩
  rw [← Url.carried?_eq_some_iff hname]
  constructor
  · intro hall
    rw [← hall "status" (.head _), agentOf?_pageRequest hclient (.head _)]
  · intro hcarried resource hresource
    rw [agentOf?_pageRequest hclient hresource]
    exact hcarried

/-- An environment with the name of an agent. -/
def namedEnvironment (name : String) : Variables :=
  .ofList [("AGENT_NAME", name), ("UPSTREAM_HOST", "http://hub")]

/-- The URL of a hub. -/
def hubUrl : Url := ⟨"http".toList, some "hub".toList, .segments [[]], none⟩

/-- A client of that hub without a network. -/
def offlineClient (name : String) : HubClient Unit :=
  ⟨.new "http://hub" name, hubUrl, ⟨fun _ _ => throw .cancelled⟩⟩

theorem isRoot_hubUrl : hubUrl.IsRoot := ⟨rfl, rfl⟩

theorem get?_namedEnvironment (name key : String) : (namedEnvironment name).get? key =
    if "UPSTREAM_HOST" = key then some "http://hub"
    else if "AGENT_NAME" = key then some name else none := by
  simp [namedEnvironment, Dict.ofList, Dict.get?_insert]

theorem required_of_get? {vars : Variables} {name value : String}
    (hget : vars.get? name = some value) (hfilled : Text.blank value = false) :
    HubSettings.required vars name = .ok value := by
  unfold HubSettings.required
  rw [hget]
  simp [hfilled]

/-- Such an environment is accepted with every name that is more than blanks. -/
theorem ofVariables_namedEnvironment {name : String} (hfilled : Text.blank name = false) :
    HubSettings.ofVariables (namedEnvironment name) = .ok (.new "http://hub" name) := by
  have hhost : HubSettings.required (namedEnvironment name) "UPSTREAM_HOST" = .ok "http://hub" :=
    required_of_get? (get?_namedEnvironment name _) (by decide)
  have hname : HubSettings.required (namedEnvironment name) "AGENT_NAME" = .ok name :=
    required_of_get? (get?_namedEnvironment name _) hfilled
  unfold HubSettings.ofVariables
  rw [hhost, hname]
  simp [get?_namedEnvironment, HubSettings.new, Variables.seconds, Variables.word64?, bind,
    Except.bind, pure, Except.pure]

/-- Blanks, slashes and percent signs arrive. -/
theorem spacedName_arrives :
    HubSettings.ofVariables (namedEnvironment "a b/5%") = .ok (.new "http://hub" "a b/5%") ∧
    baseOf (.new "http://hub" "a b/5%") = .ok hubUrl ∧
    ∀ resource ∈ ["status", "pull"],
      agentOf? ((offlineClient "a b/5%").pageRequest resource ⟨"checks", "", 10⟩) =
        some "a b/5%" := by
  have hsettings := ofVariables_namedEnvironment (show Text.blank "a b/5%" = false by decide)
  have hwhole : Url.IsWhole "a b/5%" := ⟨by simp, by decide, by decide⟩
  obtain ⟨-, -, -, -, harrives⟩ := requests_name_agent_iff hsettings isRoot_hubUrl
    (offlineClient "a b/5%").transport
    (show -(Nat.pow 2 63 : Int) ≤ (⟨"checks", "", 10⟩ : PageRequest).size by decide) (by decide)
  exact ⟨hsettings, rfl, harrives.mpr hwhole⟩

/-- A tab is lost on the way: the agent registers under one name and asks about another. -/
theorem tabbedName_split :
    HubSettings.ofVariables (namedEnvironment "a\tb") = .ok (.new "http://hub" "a\tb") ∧
    agentOf? (offlineClient "a\tb").pingRequest = some "a\tb" ∧
    agentOf? ((offlineClient "a\tb").pageRequest "status" ⟨"checks", "", 10⟩) = some "ab" :=
  ⟨ofVariables_namedEnvironment (by decide), agentOf?_pingRequest isRoot_hubUrl,
    agentOf?_pageRequest isRoot_hubUrl (.head _) _⟩

end HubClient

end AgentSync
