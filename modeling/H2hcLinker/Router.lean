import H2hcLinker.Middleware
import H2hcLinker.SessionHistory

/-! The route tables, and which requests to the DHT routes the authenticated router lets
through after a history of the session store. The outer layers (body limit, CORS) do not look
at the token and are left out. -/
namespace H2hcLinker.Http

inductive Segment where
  | literal (text : String)
  | param (name : String)
  deriving DecidableEq, Repr

inductive Layer where
  | dnaScope
  | dhtRead
  | dhtWrite
  | k2
  | adminSecret
  deriving DecidableEq, Repr

def Layer.run (codec : HashCodec) (st : AuthState) : Layer → Request → Next → Outcome
  | .dnaScope => requireDnaScope codec
  | .dhtRead => requireDhtRead st
  | .dhtWrite => requireDhtWrite st
  | .k2 => requireK2 st
  | .adminSecret => requireAdminSecret st

structure Route where
  method : Method
  path : List Segment
  handler : Handler
  /-- Outermost first. -/
  layers : List Layer
  deriving DecidableEq, Repr

def route (method : Method) (path : List Segment) (handler : Handler) : Route :=
  ⟨method, path, handler, []⟩

/-- A layer added later runs first. -/
def routeLayer (layer : Layer) (routes : List Route) : List Route :=
  routes.map fun r => { r with layers := layer :: r.layers }

def nest (start : String) (routes : List Route) : List Route :=
  routes.map fun r => { r with path := .literal start :: r.path }

def dhtRoutes : List Route :=
  [route .get [.literal "dht", .param "dna_hash", .literal "record", .param "hash"] .dhtGetRecord,
    route .get [.literal "dht", .param "dna_hash", .literal "details", .param "hash"] .dhtGetDetails,
    route .get [.literal "dht", .param "dna_hash", .literal "links"] .dhtGetLinks,
    route .get [.literal "dht", .param "dna_hash", .literal "count_links"] .dhtCountLinks,
    route .get [.literal "dht", .param "dna_hash", .literal "agent_activity", .param "agent_hash"]
      .dhtGetAgentActivity,
    route .post [.literal "dht", .param "dna_hash", .literal "must_get_agent_activity"]
      .dhtMustGetAgentActivity]

def publishRoutes : List Route :=
  [route .post [.literal "dht", .param "dna_hash", .literal "publish"] .dhtPublish]

def kitsuneRoutes : List Route :=
  [route .get [.literal "status"] .getNetworkStatus,
    route .get [.literal "peers"] .getAllPeers,
    route .get [.literal "space", .param "space_id", .literal "status"] .getSpaceStatus,
    route .get [.literal "space", .param "space_id", .literal "peers"] .getSpacePeers,
    route .get [.literal "space", .param "space_id", .literal "local-agents"] .getLocalAgents,
    route .get [.literal "transport", .literal "stats"] .getTransportStats]

def openRoutes : List Route :=
  [route .get [.literal "health"] .healthCheck,
    route .get [.literal "ws"] .wsHandler,
    route .post [.literal "test", .literal "signal"] .testSignal]

def zomeCallRoutes : List Route :=
  [route .get [.literal "api", .param "dna_hash", .param "zome_name", .param "fn_name"] .zomeCall]

def adminRoutes : List Route :=
  [route .post [.literal "agents"] .addAgent,
    route .delete [.literal "agents"] .removeAgent,
    route .get [.literal "agents"] .listAgents]

def createOpenRouter : List Route :=
  openRoutes ++ dhtRoutes ++ publishRoutes ++ zomeCallRoutes ++ nest "k2" kitsuneRoutes

def createAuthenticatedRouter : List Route :=
  openRoutes ++
  routeLayer .dhtRead (routeLayer .dnaScope dhtRoutes) ++
  routeLayer .dhtWrite (routeLayer .dnaScope publishRoutes) ++
  nest "k2" (routeLayer .k2 kitsuneRoutes) ++
  nest "admin" (routeLayer .adminSecret adminRoutes) ++
  zomeCallRoutes

def createRouter (st : AuthState) : List Route :=
  if st.authStore.isSome then createAuthenticatedRouter else createOpenRouter

/-- A `GET` route also serves `HEAD`. -/
def Method.accepts : Method → Method → Bool
  | .get, .head => true
  | expected, sent => expected = sent

def matchPath : List Segment → List String → Option (List (String × String))
  | [], [] => some []
  | .literal text :: path, sent :: rest => if sent = text then matchPath path rest else none
  | .param name :: path, sent :: rest =>
    if sent = "" then none else (matchPath path rest).map ((name, sent) :: ·)
  | _, _ => none

def Route.serves (r : Route) (req : Request) : Bool :=
  r.method.accepts req.method && (matchPath r.path req.path).isSome

/-- `none` when some value does not decode. -/
def decodeParams (percentDecode : String → Option String) (raw : List (String × String)) :
    Option (List (String × String)) :=
  raw.mapM fun param => (percentDecode param.2).map (param.1, ·)

def runLayers (codec : HashCodec) (st : AuthState) (handler : Handler) : List Layer → Next
  | [], req => .handled handler req
  | layer :: layers, req => layer.run codec st req (runLayers codec st handler layers)

/-- The request as the matched route's layers see it. -/
def Route.bind (percentDecode : String → Option String) (r : Route) (req : Request) : Request :=
  { req with
    params := (matchPath r.path req.path).bind (decodeParams percentDecode)
    authContext := none }

def serve (percentDecode : String → Option String) (codec : HashCodec) (st : AuthState)
    (routes : List Route) (req : Request) : Outcome :=
  match routes.find? (·.serves req) with
  | none => .unrouted
  | some r => runLayers codec st r.handler r.layers (r.bind percentDecode req)

/-- Reading needs one capability, publishing the other. -/
def requiredCapability : Handler → Capability
  | .dhtPublish => .dhtWrite
  | _ => .dhtRead

def capabilityLayer : Capability → Layer
  | .dhtRead => .dhtRead
  | .dhtWrite => .dhtWrite
  | .k2 => .k2

theorem runLayers_scoped (codec : HashCodec) (st : AuthState) (handler : Handler)
    (required : Capability) (req : Request) :
    runLayers codec st handler [capabilityLayer required, .dnaScope] req =
      checkCapability st required req fun req =>
        requireDnaScope codec req fun req => .handled handler req := by
  cases required <;> rfl

/-- Under `/dht/{dna_hash}` the capability check is outermost and the DNA check follows. -/
theorem dht_layers (r : Route) (member : r ∈ createAuthenticatedRouter)
    (dht : r.path.take 2 = [.literal "dht", .param "dna_hash"]) :
    r.layers = [capabilityLayer (requiredCapability r.handler), .dnaScope] := by
  have all : ∀ r ∈ createAuthenticatedRouter, r.path.take 2 = [.literal "dht", .param "dna_hash"] →
      r.layers = [capabilityLayer (requiredCapability r.handler), .dnaScope] := by
    decide
  exact all r member dht

/-- A DHT request passes both layers exactly when its token's session has the route's capability
and the DNA of the path. -/
theorem serve_dht_iff (percentDecode : String → Option String) (codec : HashCodec) (st : AuthState)
    (req : Request) {r : Route} (selected : createAuthenticatedRouter.find? (·.serves req) = some r)
    (dht : r.path.take 2 = [.literal "dht", .param "dna_hash"]) :
    (∃ reached, serve percentDecode codec st createAuthenticatedRouter req =
      .handled r.handler reached) ↔
      ∃ store token session dna, st.authStore = some store ∧ extractBearerToken req = some token ∧
        store.validateSession token = some session ∧
        requiredCapability r.handler ∈ session.capabilities ∧
        pathDna codec (r.bind percentDecode req) = some dna ∧ dna ∈ session.registeredDnas := by
  have layers := dht_layers r (List.mem_of_find?_eq_some selected) dht
  simp only [serve, selected, layers, runLayers_scoped]
  constructor
  · rintro ⟨reached, passed⟩
    obtain ⟨store, token, session, configured, bearer, valid, able, rest⟩ :=
      (checkCapability_handled_iff ..).mp passed
    obtain ⟨ctx, dna, inserted, path, registered, _⟩ := (requireDnaScope_handled_iff ..).mp rest
    cases inserted
    exact ⟨store, token, session, dna, configured, bearer, valid, able, path, registered⟩
  · rintro ⟨store, token, session, dna, configured, bearer, valid, able, path, registered⟩
    let reached : Request := { r.bind percentDecode req with
      authContext := some ⟨session.agentPubkey, session.capabilities, session.registeredDnas⟩ }
    have admitted : requireDnaScope codec reached (fun req => .handled r.handler req) =
        .handled r.handler reached :=
      (requireDnaScope_handled_iff ..).mpr ⟨_, dna, rfl, path, registered, rfl⟩
    exact ⟨reached, (checkCapability_handled_iff ..).mpr
      ⟨store, token, session, configured, bearer, valid, able, admitted⟩⟩

/-- A request to a DHT route reaches its handler exactly when its Bearer token was returned by a
`create_session`, the capability was in the allowlist entry then, and since then nothing ended
the session and the agent registered the DNA of the path. -/
theorem dht_request_handled_iff (percentDecode : String → Option String) (codec : HashCodec)
    (history : List MemoryStore.Completed) (fresh : MemoryStore.FreshTokens history)
    (senders : HashTable.Table AgentPubKey (List WsSender)) (secret : Option String) (req : Request)
    (r : Route) (selected : createAuthenticatedRouter.find? (·.serves req) = some r)
    (dht : r.path.take 2 = [.literal "dht", .param "dna_hash"]) :
    (∃ reached, serve percentDecode codec ⟨some ⟨MemoryStore.after history, senders⟩, secret⟩
        createAuthenticatedRouter req = .handled r.handler reached) ↔
      ∃ token agent dna before since, extractBearerToken req = some token ∧
        history = before ++ (.createSession agent, ⟨token⟩) :: since ∧
        (∃ entry, (MemoryStore.after before).allowedAgents.lookup agent = some entry ∧
          requiredCapability r.handler ∈ entry.capabilities) ∧
        (∀ op ∈ since, ¬MemoryStore.Ends token agent op.1) ∧
        pathDna codec (r.bind percentDecode req) = some dna ∧
        ∃ drawn, (.registerDnaForAgent agent dna, drawn) ∈ since := by
  rw [serve_dht_iff percentDecode codec _ req selected dht]
  constructor
  · rintro ⟨store, token, session, dna, configured, bearer, valid, able, path, registered⟩
    cases configured
    obtain ⟨before, since, split, caps, lasting, dnas⟩ :=
      (MemoryStore.session_iff history fresh token session).mp valid
    obtain ⟨entry, listed, same⟩ := Option.map_eq_some_iff.mp caps
    rw [dnas, MemoryStore.mem_grantedDnas] at registered
    exact ⟨token, session.agentPubkey, dna, before, since, bearer, split,
      ⟨entry, listed, same ▸ able⟩, lasting, path, registered⟩
  · rintro ⟨token, agent, dna, before, since, bearer, split, ⟨entry, listed, able⟩, lasting, path,
      registered⟩
    let session : SessionInfo := ⟨agent, entry.capabilities, MemoryStore.grantedDnas agent since⟩
    have caps : MemoryStore.sessionCapabilities agent (MemoryStore.after before) =
        some entry.capabilities := by
      simp [MemoryStore.sessionCapabilities, listed]
    have valid := (MemoryStore.session_iff history fresh token session).mpr
      ⟨before, since, split, caps, lasting, rfl⟩
    exact ⟨_, token, session, dna, rfl, bearer, valid, able, path,
      MemoryStore.mem_grantedDnas.mpr registered⟩

def sampleHistory : List MemoryStore.Completed :=
  [(.addAgent ⟨MemoryStore.sampleAgent, {.dhtRead}, none⟩, ⟨""⟩),
    (.createSession MemoryStore.sampleAgent, ⟨"5e55"⟩),
    (.registerDnaForAgent MemoryStore.sampleAgent sampleDna, ⟨""⟩)]

def linksRequest : Request where
  method := .get
  path := ["dht", sampleDnaText, "links"]
  authorization := some ("Bearer 5e55".toList.map fun c => .ofNat c.toNat)
  params := none
  authContext := none

theorem dht_request_handled_links :
    ∃ reached, serve some sampleCodec ⟨some ⟨MemoryStore.after sampleHistory, ∅⟩, none⟩
      createAuthenticatedRouter linksRequest = .handled .dhtGetLinks reached := by
  have fresh : MemoryStore.FreshTokens sampleHistory := by
    unfold MemoryStore.FreshTokens
    decide
  have selected : createAuthenticatedRouter.find? (·.serves linksRequest) =
      some ⟨.get, [.literal "dht", .param "dna_hash", .literal "links"], .dhtGetLinks,
        [.dhtRead, .dnaScope]⟩ := by
    decide
  have lasting : ∀ op ∈ sampleHistory.drop 2,
      ¬MemoryStore.Ends "5e55" MemoryStore.sampleAgent op.1 := by
    simp [sampleHistory, MemoryStore.Ends]
  apply (dht_request_handled_iff some sampleCodec sampleHistory fresh ∅ none linksRequest _ selected
    rfl).mpr
  exact ⟨"5e55", MemoryStore.sampleAgent, sampleDna, sampleHistory.take 1, sampleHistory.drop 2,
    by decide, rfl, ⟨_, rfl, by decide⟩, lasting, by decide, ⟨""⟩, by decide⟩

end H2hcLinker.Http
