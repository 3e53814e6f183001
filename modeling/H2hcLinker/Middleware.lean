import H2hcLinker.AuthStore

/-! The route-layer middleware: a Bearer token checked against the store, then the DNA of the
path checked against the session. Matching a path and decoding its parameters belong to the
web framework. -/
namespace H2hcLinker.Http

inductive Method where
  | get
  | head
  | post
  | delete
  deriving DecidableEq, Repr

structure AuthContext where
  agentPubkey : AgentPubKey
  capabilities : Finset Capability
  registeredDnas : Finset DnaHash
  deriving DecidableEq

def AuthContext.hasDna (ctx : AuthContext) (dna : DnaHash) : Bool := dna ∈ ctx.registeredDnas

structure Request where
  method : Method
  /-- The path's segments as sent. -/
  path : List String
  /-- The bytes of the first `authorization` header. -/
  authorization : Option (List UInt8)
  /-- Set by the router; `none` when a parameter does not percent-decode to UTF-8. -/
  params : Option (List (String × String))
  /-- The request extension that the capability check inserts. -/
  authContext : Option AuthContext
  deriving DecidableEq

/-- The handlers behind the routes. -/
inductive Handler where
  | healthCheck
  | wsHandler
  | testSignal
  | dhtGetRecord
  | dhtGetDetails
  | dhtGetLinks
  | dhtCountLinks
  | dhtGetAgentActivity
  | dhtMustGetAgentActivity
  | dhtPublish
  | zomeCall
  | getNetworkStatus
  | getAllPeers
  | getSpaceStatus
  | getSpacePeers
  | getLocalAgents
  | getTransportStats
  | addAgent
  | removeAgent
  | listAgents
  deriving DecidableEq, Repr

inductive Outcome where
  | handled (handler : Handler) (req : Request)
  | response (status : Nat) (body : String)
  /-- The framework rejects the path before the middleware body runs. -/
  | pathRejected
  /-- No route has this path and method. -/
  | unrouted
  deriving DecidableEq

abbrev Next := Request → Outcome

/-- What the middleware reads of the application state. -/
structure AuthState where
  authStore : Option AuthStore
  adminSecret : Option String

/-- `HeaderValue::to_str`: only visible ASCII, blanks and tabs. -/
def headerToStr (bytes : List UInt8) : Option String :=
  if bytes.all fun b => (32 ≤ b && b < 127) || b = 9 then
    some (.ofList (bytes.map fun b => Char.ofNat b.toNat))
  else none

def stripPrefix (start text : String) : Option String :=
  if start.toList.isPrefixOf text.toList then some (.ofList (text.toList.drop start.length)) else none

def extractBearerToken (req : Request) : Option String := do
  let header ← req.authorization
  let text ← headerToStr header
  stripPrefix "Bearer " text

def checkCapability (st : AuthState) (required : Capability) (req : Request) (next : Next) : Outcome :=
  match st.authStore with
  | none => .response 500 "Auth not configured"
  | some authStore =>
    match extractBearerToken req with
    | none => .response 401 "Missing Authorization header"
    | some token =>
      match authStore.validateSession token with
      | none => .response 401 "Invalid or expired session token"
      | some session =>
        if session.hasCapability required then
          next { req with authContext := some ⟨session.agentPubkey, session.capabilities,
            session.registeredDnas⟩ }
        else .response 403 "Insufficient capabilities for this endpoint"

def requireDhtRead (st : AuthState) : Request → Next → Outcome := checkCapability st .dhtRead

def requireDhtWrite (st : AuthState) : Request → Next → Outcome := checkCapability st .dhtWrite

def requireK2 (st : AuthState) : Request → Next → Outcome := checkCapability st .k2

def requireAdminSecret (st : AuthState) (req : Request) (next : Next) : Outcome :=
  match extractBearerToken req with
  | none => .response 401 "Missing Authorization header"
  | some token =>
    match st.adminSecret with
    | none => .response 500 "Auth not configured"
    | some secret => if token ≠ secret then .response 401 "Invalid admin secret" else next req

/-- `Path<HashMap<..>>` and the body of `require_dna_scope`. -/
def requireDnaScope (codec : HashCodec) (req : Request) (next : Next) : Outcome :=
  match req.params with
  | none => .pathRejected
  | some params =>
    match req.authContext with
    | none =>
      .response 500 "AuthContext not found — ensure capability middleware runs first"
    | some ctx =>
      match params.lookup "dna_hash" with
      | none => .response 400 "Missing DNA hash in path"
      | some text =>
        match codec.dnaOfStr text with
        | .error _ => .response 400 "Invalid DNA hash in path"
        | .ok dna =>
          if ctx.hasDna dna then next req
          else .response 403 "Session not authorized for this DNA"

/-- The DNA that the path's `dna_hash` parses to. -/
def pathDna (codec : HashCodec) (req : Request) : Option DnaHash := do
  let params ← req.params
  let text ← params.lookup "dna_hash"
  (codec.dnaOfStr text).toOption

/-- The capability check passes exactly with a session that has the capability. -/
theorem checkCapability_handled_iff (st : AuthState) (required : Capability) (req req' : Request)
    (next : Next) (handler : Handler) :
    checkCapability st required req next = .handled handler req' ↔
      ∃ store token session, st.authStore = some store ∧ extractBearerToken req = some token ∧
        store.validateSession token = some session ∧ required ∈ session.capabilities ∧
        next { req with authContext := some ⟨session.agentPubkey, session.capabilities,
          session.registeredDnas⟩ } = .handled handler req' := by
  unfold checkCapability
  constructor
  · intro passed
    split at passed
    next => cases passed
    next store configured =>
      split at passed
      next => cases passed
      next token bearer =>
        split at passed
        next => cases passed
        next session valid =>
          split at passed
          next able => 
            exact ⟨store, token, session, configured, bearer, valid,
              by simpa [SessionInfo.hasCapability] using able, passed⟩
          next => cases passed
  · rintro ⟨store, token, session, configured, bearer, valid, able, passed⟩
    simp [configured, bearer, valid, SessionInfo.hasCapability, able, passed]

/-- The DNA check passes exactly when the path names a DNA of the session. -/
theorem requireDnaScope_handled_iff (codec : HashCodec) (req req' : Request) (next : Next)
    (handler : Handler) :
    requireDnaScope codec req next = .handled handler req' ↔
      ∃ ctx dna, req.authContext = some ctx ∧ pathDna codec req = some dna ∧
        dna ∈ ctx.registeredDnas ∧ next req = .handled handler req' := by
  unfold requireDnaScope pathDna
  constructor
  · intro passed
    split at passed
    next => cases passed
    next params decoded =>
      split at passed
      next => cases passed
      next ctx inserted =>
        split at passed
        next => cases passed
        next text named =>
          split at passed
          next => cases passed
          next dna parsed =>
            split at passed
            next registered =>
              exact ⟨ctx, dna, inserted, by simp [decoded, named, parsed, Except.toOption],
                by simpa [AuthContext.hasDna] using registered, passed⟩
            next => cases passed
  · rintro ⟨ctx, dna, inserted, path, registered, passed⟩
    cases decoded : req.params with
    | none => simp [decoded] at path
    | some params =>
      cases named : params.lookup "dna_hash" with
      | none => simp [decoded, named] at path
      | some text =>
        cases parsed : codec.dnaOfStr text with
        | error e => simp [decoded, named, parsed, Except.toOption] at path
        | ok found =>
          have same : found = dna := by
            simpa [decoded, named, parsed, Except.toOption] using path
          subst same
          simp [inserted, named, parsed, AuthContext.hasDna, registered, passed]

end H2hcLinker.Http
