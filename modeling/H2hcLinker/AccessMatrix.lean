import H2hcLinker.Router

/-! Who gets through to which handler. No two routes of a table answer the same request, so what a
route's layers let through is all that reaches its handler. -/
namespace H2hcLinker.Http

/-- Some path fits both patterns. -/
def pathsOverlap : List Segment → List Segment → Bool
  | [], [] => true
  | .literal a :: path, .literal b :: other => a = b && pathsOverlap path other
  | _ :: path, _ :: other => pathsOverlap path other
  | _, _ => false

def Method.overlaps (m other : Method) : Bool :=
  [.get, .head, .post, .delete].any fun sent => m.accepts sent && other.accepts sent

def Route.overlaps (r other : Route) : Bool :=
  r.method.overlaps other.method && pathsOverlap r.path other.path

/-- A matched path starts with a segment that fits. -/
theorem matchPath_cons {segment : Segment} {path : List Segment} {sent : List String}
    (fits : (matchPath (segment :: path) sent).isSome) :
    ∃ text rest, sent = text :: rest ∧ (matchPath path rest).isSome ∧
      ∀ literal, segment = .literal literal → text = literal := by
  cases sent with
  | nil => cases segment <;> cases fits
  | cons text rest =>
    refine ⟨text, rest, rfl, ?_⟩
    cases segment with
    | literal literal =>
      simp only [matchPath] at fits
      split at fits
      next same => exact ⟨fits, fun other is => by cases is; exact same⟩
      next => cases fits
    | param name =>
      simp only [matchPath] at fits
      split at fits
      · cases fits
      · rw [Option.isSome_map] at fits
        exact ⟨fits, fun other is => by cases is⟩

theorem pathsOverlap_of_match {path other : List Segment} {sent : List String}
    (fits : (matchPath path sent).isSome) (also : (matchPath other sent).isSome) :
    pathsOverlap path other = true := by
  induction path generalizing other sent with
  | nil =>
    cases other with
    | nil => rfl
    | cons segment other =>
      obtain ⟨text, rest, rfl, _⟩ := matchPath_cons also
      cases fits
  | cons segment path ih =>
    obtain ⟨text, rest, rfl, below, first⟩ := matchPath_cons fits
    cases other with
    | nil => cases also
    | cons segment' other =>
      obtain ⟨text', rest', same, below', first'⟩ := matchPath_cons also
      cases same
      have later := ih below below'
      cases segment with
      | param name => cases segment' <;> exact later
      | literal a =>
        cases segment' with
        | param name => exact later
        | literal b =>
          have equal : a = b := (first a rfl).symm.trans (first' b rfl)
          simp [pathsOverlap, equal, later]

theorem Method.overlaps_of_accepts {m other sent : Method} (one : m.accepts sent = true)
    (both : other.accepts sent = true) : m.overlaps other = true := by
  unfold Method.overlaps
  refine List.any_eq_true.mpr ⟨sent, ?_, by simp [one, both]⟩
  cases sent <;> simp

theorem Route.overlaps_of_serves {r other : Route} {req : Request} (one : r.serves req = true)
    (both : other.serves req = true) : r.overlaps other = true := by
  simp only [Route.serves, Bool.and_eq_true] at one both
  simp only [Route.overlaps, Bool.and_eq_true]
  exact ⟨Method.overlaps_of_accepts one.1 both.1, pathsOverlap_of_match one.2 both.2⟩

/-- No request is for two routes of the table. -/
def Unambiguous (routes : List Route) : Prop := routes.Pairwise fun r other => r.overlaps other = false

theorem createAuthenticatedRouter_unambiguous : Unambiguous createAuthenticatedRouter := by
  unfold Unambiguous
  decide

theorem createOpenRouter_unambiguous : Unambiguous createOpenRouter := by
  unfold Unambiguous
  decide

/-- In an unambiguous table the route that serves a request is the one it is matched with. -/
theorem Unambiguous.find?_eq {routes : List Route} (unambiguous : Unambiguous routes) {r : Route}
    {req : Request} (member : r ∈ routes) (serves : r.serves req = true) :
    routes.find? (·.serves req) = some r := by
  induction routes with
  | nil => cases member
  | cons first routes ih =>
    obtain ⟨apart, later⟩ := List.pairwise_cons.mp unambiguous
    rcases List.mem_cons.mp member with rfl | there
    · exact List.find?_cons_of_pos (p := fun r : Route => r.serves req) serves
    · have skipped : ¬first.serves req = true := by
        intro also
        have clash := Route.overlaps_of_serves also serves
        rw [apart r there] at clash
        cases clash
      exact (List.find?_cons_of_neg (p := fun r : Route => r.serves req) skipped).trans (ih later there)

/-- What the layers of the authenticated router ask for on the way to each handler. -/
def layersOf : Handler → List Layer
  | .healthCheck | .wsHandler | .testSignal | .zomeCall => []
  | .dhtGetRecord | .dhtGetDetails | .dhtGetLinks | .dhtCountLinks | .dhtGetAgentActivity
  | .dhtMustGetAgentActivity => [.dhtRead, .dnaScope]
  | .dhtPublish => [.dhtWrite, .dnaScope]
  | .getNetworkStatus | .getAllPeers | .getSpaceStatus | .getSpacePeers | .getLocalAgents
  | .getTransportStats => [.k2]
  | .addAgent | .removeAgent | .listAgents => [.adminSecret]

theorem layers_eq (r : Route) (member : r ∈ createAuthenticatedRouter) : r.layers = layersOf r.handler := by
  have all : ∀ r ∈ createAuthenticatedRouter, r.layers = layersOf r.handler := by decide
  exact all r member

theorem open_layers_eq (r : Route) (member : r ∈ createOpenRouter) : r.layers = [] := by
  have all : ∀ r ∈ createOpenRouter, r.layers = [] := by decide
  exact all r member

/-- What a request has to bring to get through to a handler, by the sessions that its token is good
for. -/
def Admits (codec : HashCodec) (req : Request) (capable : Capability → SessionInfo → Prop)
    (secret : Option String) : Handler → Prop
  | .healthCheck | .wsHandler | .testSignal | .zomeCall => True
  | .dhtGetRecord | .dhtGetDetails | .dhtGetLinks | .dhtCountLinks | .dhtGetAgentActivity
  | .dhtMustGetAgentActivity => ∃ session dna, capable .dhtRead session ∧
      pathDna codec req = some dna ∧ dna ∈ session.registeredDnas
  | .dhtPublish => ∃ session dna, capable .dhtWrite session ∧
      pathDna codec req = some dna ∧ dna ∈ session.registeredDnas
  | .getNetworkStatus | .getAllPeers | .getSpaceStatus | .getSpacePeers | .getLocalAgents
  | .getTransportStats => ∃ session, capable .k2 session
  | .addAgent | .removeAgent | .listAgents =>
    ∃ token, extractBearerToken req = some token ∧ secret = some token

/-- The request's token is that of a session with the capability. -/
def Capable (st : AuthState) (req : Request) (required : Capability) (session : SessionInfo) : Prop :=
  ∃ store token, st.authStore = some store ∧ extractBearerToken req = some token ∧
    store.validateSession token = some session ∧ required ∈ session.capabilities

def Access (codec : HashCodec) (st : AuthState) (req : Request) : Handler → Prop :=
  Admits codec req (Capable st req) st.adminSecret

theorem Admits.congr {codec : HashCodec} {req : Request} {secret : Option String}
    {capable capable' : Capability → SessionInfo → Prop}
    (same : ∀ required session, capable required session ↔ capable' required session)
    (handler : Handler) :
    Admits codec req capable secret handler ↔ Admits codec req capable' secret handler := by
  rw [show capable = capable' from funext fun required => funext fun session =>
    propext (same required session)]

theorem requireAdminSecret_handled_iff (st : AuthState) (req req' : Request) (next : Next)
    (handler : Handler) :
    requireAdminSecret st req next = .handled handler req' ↔
      ∃ token, extractBearerToken req = some token ∧ st.adminSecret = some token ∧
        next req = .handled handler req' := by
  unfold requireAdminSecret
  constructor
  · intro passed
    split at passed
    next => cases passed
    next token bearer =>
      split at passed
      next => cases passed
      next secret configured =>
        split at passed
        next => cases passed
        next same =>
          have equal : token = secret := by simpa using same
          subst equal
          exact ⟨token, bearer, configured, passed⟩
  · rintro ⟨token, bearer, configured, passed⟩
    simp [bearer, configured, passed]

variable (codec : HashCodec) (st : AuthState) (handler : Handler) (req : Request)

theorem scoped_iff (required : Capability) :
    (∃ reached, runLayers codec st handler [capabilityLayer required, .dnaScope] req =
      .handled handler reached) ↔
      ∃ session dna, Capable st req required session ∧ pathDna codec req = some dna ∧
        dna ∈ session.registeredDnas := by
  simp only [runLayers_scoped, checkCapability_handled_iff, requireDnaScope_handled_iff]
  constructor
  · rintro ⟨reached, store, token, session, configured, bearer, valid, able, ctx, dna, inserted, path,
      registered, _⟩
    cases inserted
    exact ⟨session, dna, ⟨store, token, configured, bearer, valid, able⟩, path, registered⟩
  · rintro ⟨session, dna, ⟨store, token, configured, bearer, valid, able⟩, path, registered⟩
    exact ⟨_, store, token, session, configured, bearer, valid, able, _, dna, rfl, path, registered, rfl⟩

theorem k2_iff :
    (∃ reached, runLayers codec st handler [.k2] req = .handled handler reached) ↔
      ∃ session, Capable st req .k2 session := by
  have layer (reached : Request) : runLayers codec st handler [.k2] req = .handled handler reached ↔
      checkCapability st .k2 req (fun req => .handled handler req) = .handled handler reached := .rfl
  simp only [layer, checkCapability_handled_iff]
  constructor
  · rintro ⟨reached, store, token, session, configured, bearer, valid, able, _⟩
    exact ⟨session, store, token, configured, bearer, valid, able⟩
  · rintro ⟨session, store, token, configured, bearer, valid, able⟩
    exact ⟨_, store, token, session, configured, bearer, valid, able, rfl⟩

theorem admin_iff :
    (∃ reached, runLayers codec st handler [.adminSecret] req = .handled handler reached) ↔
      ∃ token, extractBearerToken req = some token ∧ st.adminSecret = some token := by
  have layer (reached : Request) :
      runLayers codec st handler [.adminSecret] req = .handled handler reached ↔
        requireAdminSecret st req (fun req => .handled handler req) = .handled handler reached := .rfl
  simp only [layer, requireAdminSecret_handled_iff]
  constructor
  · rintro ⟨reached, token, bearer, configured, _⟩
    exact ⟨token, bearer, configured⟩
  · rintro ⟨token, bearer, configured⟩
    exact ⟨req, token, bearer, configured, rfl⟩

/-- The layers before a handler let through exactly what has access to it. -/
theorem layersOf_iff :
    (∃ reached, runLayers codec st handler (layersOf handler) req = .handled handler reached) ↔
      Access codec st req handler := by
  cases handler with
  | healthCheck | wsHandler | testSignal | zomeCall => exact iff_of_true ⟨req, rfl⟩ trivial
  | dhtPublish => exact scoped_iff codec st _ req .dhtWrite
  | getNetworkStatus | getAllPeers | getSpaceStatus | getSpacePeers | getLocalAgents
  | getTransportStats => exact k2_iff codec st _ req
  | addAgent | removeAgent | listAgents => exact admin_iff codec st _ req
  | _ => exact scoped_iff codec st _ req .dhtRead

/-- Only the handler of the matched route is ever reached. -/
theorem runLayers_handler (layers : List Layer) {other : Handler} {reached : Request}
    (passed : runLayers codec st handler layers req = .handled other reached) : other = handler := by
  induction layers generalizing req with
  | nil => cases passed; rfl
  | cons layer layers ih =>
    cases layer with
    | dnaScope =>
      obtain ⟨_, _, _, _, _, next⟩ := (requireDnaScope_handled_iff ..).mp passed
      exact ih _ next
    | adminSecret =>
      obtain ⟨_, _, _, next⟩ := (requireAdminSecret_handled_iff ..).mp passed
      exact ih _ next
    | dhtRead | dhtWrite | k2 =>
      obtain ⟨_, _, _, _, _, _, _, next⟩ := (checkCapability_handled_iff ..).mp passed
      exact ih _ next

/-- In an unambiguous table a handler is reached through a route of its own. -/
theorem serve_iff (percentDecode : String → Option String) {routes : List Route}
    (unambiguous : Unambiguous routes) :
    (∃ reached, serve percentDecode codec st routes req = .handled handler reached) ↔
      ∃ r ∈ routes, r.handler = handler ∧ r.serves req = true ∧
        ∃ reached, runLayers codec st r.handler r.layers (r.bind percentDecode req) =
          .handled r.handler reached := by
  constructor
  · rintro ⟨reached, passed⟩
    unfold serve at passed
    split at passed
    next => cases passed
    next r found =>
      have same := runLayers_handler codec st r.handler _ _ passed
      subst same
      exact ⟨r, List.mem_of_find?_eq_some found, rfl, List.find?_some (p := fun r : Route => r.serves req) found, reached, passed⟩
  · rintro ⟨r, member, rfl, serves, reached, passed⟩
    refine ⟨reached, ?_⟩
    simp only [serve, unambiguous.find?_eq member serves]
    exact passed

theorem createAuthenticatedRouter_iff (percentDecode : String → Option String) :
    (∃ reached, serve percentDecode codec st createAuthenticatedRouter req = .handled handler reached) ↔
      ∃ r ∈ createAuthenticatedRouter, r.handler = handler ∧ r.serves req = true ∧
        Access codec st (r.bind percentDecode req) handler := by
  rw [serve_iff codec st handler req percentDecode createAuthenticatedRouter_unambiguous]
  refine exists_congr fun r => and_congr_right fun member => ?_
  rw [layers_eq r member]
  refine and_congr_right fun same => and_congr_right fun _ => ?_
  subst same
  exact layersOf_iff codec st r.handler _

/-- With authentication configured a request reaches a handler exactly if it is for a route of it and
has access; without it, if it is for a route. -/
theorem handled_iff_access (percentDecode : String → Option String) :
    (∃ reached, serve percentDecode codec st (createRouter st) req = .handled handler reached) ↔
      ∃ r ∈ createRouter st, r.handler = handler ∧ r.serves req = true ∧
        (st.authStore.isSome → Access codec st (r.bind percentDecode req) handler) := by
  unfold createRouter
  split
  next configured =>
    rw [createAuthenticatedRouter_iff]
    simp only [configured, forall_const]
  next disabled =>
    rw [serve_iff codec st handler req percentDecode createOpenRouter_unambiguous]
    refine exists_congr fun r => and_congr_right fun member => ?_
    rw [open_layers_eq r member]
    refine and_congr_right fun same => and_congr_right fun _ => ?_
    exact iff_of_true ⟨_, rfl⟩ fun configured => absurd configured disabled

end H2hcLinker.Http
