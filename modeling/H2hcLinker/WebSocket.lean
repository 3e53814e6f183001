import H2hcLinker.GatewayKitsune
import H2hcLinker.Messages

/-! The linker as its WebSocket connections drive it: `handle_socket` with its handlers, the admin
calls, incoming signals and signing requests, all cut at their lock sections and await points.
The session backend is the in-memory one. What goes out to other peers is not state here. -/
namespace H2hcLinker.WebSocket

open HashTable Interleaving

inductive Phase where
  | absent
  | open
  | closing
  | closed
  deriving DecidableEq, Repr

/-- A socket: where its loop stands, its state, and its channel of outgoing messages with
whether the task that forwards them is gone. -/
structure Connection where
  phase : Phase
  state : ConnectionState
  queue : List ServerMessage
  receiverGone : Bool

def Connection.absent : Connection := ⟨.absent, .default, [], false⟩

/-- A signing request's channel: who was asked, and what was delivered. -/
structure Oneshot where
  requestId : String
  asked : WsSender
  value : Option SignResult

/-- The application state with the connections; a connection and its channel share a number. -/
structure System where
  agentProxy : AgentProxyManager
  gatewayKitsune : Option Gateway.GatewayKitsune
  authStore : Option AuthStore
  conns : WsSender → Connection
  oneshots : List Oneshot

/-- A linker that has just started, with kitsune2 and authentication configured or not. -/
def System.start (kitsune auth : Bool) : System where
  agentProxy := .new
  gatewayKitsune := if kitsune then some .new else none
  authStore := if auth then some .new else none
  conns _ := .absent
  oneshots := []

/-- What the environment supplies to one section. -/
structure Input where
  /-- The outcome of a kitsune2 call or of serialising. -/
  ok : Bool
  /-- The token `SessionToken::generate` draws. -/
  token : SessionToken
  /-- The 32 random bytes of a challenge. -/
  challenge : List UInt8
  millis : Nat
  peerCount : Nat
  /-- The entry of an agent that iterating the registrations meets first. -/
  pick : AgentRegistration
  timedOut : Bool

inductive Task where
  | conn (c : WsSender)
  | other (n : Nat)
  | sign (n : Nat)
  deriving DecidableEq

inductive Request where
  | connect
  | frame (f : Frame)
  | addAgent (agent : AllowedAgent)
  | removeAgent (agent : AgentPubKey)
  | revokeSession (token : String)
  | revokeSessionsForAgent (agent : AgentPubKey)
  | sendSignal (key : AgentRegistration) (signal : ServerMessage)
  | getOrCreateSpace (dna : DnaHash)
  /-- The send task takes a message off the channel. -/
  | forward (c : WsSender)
  /-- The send task ends because the socket does. -/
  | dropReceiver (c : WsSender)
  | sign (agent : AgentPubKey) (agentInfo : String)

inductive Section where
  | connect (c : WsSender)
  | receive (c : WsSender) (f : Frame)
  | isAgentAllowed (c : WsSender) (agent : AgentPubKey)
  | sessionLookup (c : WsSender) (agent : AgentPubKey)
  | sessionInsert (c : WsSender) (agent : AgentPubKey) (capabilities : Finset Capability)
  | registerWsSender (c : WsSender) (agent : AgentPubKey) (token : SessionToken)
  | register (c : WsSender) (key : AgentRegistration) (dnaText agentText : String)
  | registerDna (key : AgentRegistration)
  | unregister (c : WsSender) (key : AgentRegistration) (dnaText agentText : String)
  | kitsune (act : Gateway.Section)
  | peerCount (c : WsSender)
  | deliverSignature (requestId : String) (result : SignResult)
  | remoteSignals (dna : DnaHash) (signals : List SignedRemoteSignalInput)
  | isRegistered (key : AgentRegistration) (signal : ServerMessage)
  | sendSignal (key : AgentRegistration) (signal : ServerMessage)
  /-- Send the handler's response; the loop breaks if the channel is closed. -/
  | reply (c : WsSender) (message : ServerMessage)
  /-- Send without looking at the outcome. -/
  | notify (c : WsSender) (message : ServerMessage)
  | unregisterAll (c : WsSender)
  | unregisterWsSender (c : WsSender)
  | close (c : WsSender)
  | addAgent (agent : AllowedAgent)
  | removeAgent (agent : AgentPubKey)
  | dropWsSenders (agent : AgentPubKey)
  | revokeSession (token : String)
  | revokeSessionsForAgent (agent : AgentPubKey)
  | forward (c : WsSender)
  | dropReceiver (c : WsSender)
  | signFind (agent : AgentPubKey) (agentInfo : String)
  | signNumber (agent : AgentPubKey) (agentInfo : String) (sender : WsSender)
  | signStore (agent : AgentPubKey) (agentInfo : String) (sender : WsSender) (requestId : String)
  | signSend (sender : WsSender) (requestId : String) (oneshot : Nat) (message : ServerMessage)
  | signWait (requestId : String) (oneshot : Nat)
  | signCleanup (requestId : String) (result : SignResult)

def Request.body : Task → Request → List Section
  | .conn c, .connect => [.connect c]
  | .conn c, .frame f => [.receive c f]
  | .other _, .addAgent agent => [.addAgent agent]
  | .other _, .removeAgent agent => [.removeAgent agent]
  | .other _, .revokeSession token => [.revokeSession token]
  | .other _, .revokeSessionsForAgent agent => [.revokeSessionsForAgent agent]
  | .other _, .sendSignal key signal => [.sendSignal key signal]
  | .other _, .getOrCreateSpace dna => (Gateway.getOrCreateSpace dna .other).map .kitsune
  | .other _, .forward c => [.forward c]
  | .other _, .dropReceiver c => [.dropReceiver c]
  | .sign _, .sign agent agentInfo => [.signFind agent agentInfo]
  | _, _ => []

namespace System

def updateConn (c : WsSender) (f : Connection → Connection) (s : System) : System :=
  { s with conns := Function.update s.conns c (f (s.conns c)) }

def setState (c : WsSender) (state : ConnectionState) (s : System) : System :=
  s.updateConn c fun conn => { conn with state }

/-- The capacity of a connection's channel. -/
def channelCapacity : Nat := 32

def hasRoom (c : WsSender) (s : System) : Bool := (s.conns c).queue.length < channelCapacity

def enqueue (c : WsSender) (message : ServerMessage) (s : System) : System :=
  s.updateConn c fun conn => { conn with queue := conn.queue ++ [message] }

/-- `try_send`: nothing is queued on a full or closed channel. -/
def trySend (c : WsSender) (message : ServerMessage) (s : System) : System :=
  if ¬(s.conns c).receiverGone ∧ s.hasRoom c then s.enqueue c message else s

def sendSignal (key : AgentRegistration) (signal : ServerMessage) (s : System) : System :=
  match s.agentProxy.registrations.lookup key with
  | none => s
  | some c => s.trySend c signal

def mapStore (f : MemoryStore.MemoryStoreInner → MemoryStore.MemoryStoreInner) (s : System) : System :=
  { s with authStore := s.authStore.map fun a => { a with store := f a.store } }

def mapAuth (f : AuthStore → AuthStore) (s : System) : System :=
  { s with authStore := s.authStore.map f }

def mapProxy (f : AgentProxyManager → AgentProxyManager) (s : System) : System :=
  { s with agentProxy := f s.agentProxy }

/-- Hand the result to the request that waits under this id, if any still does. -/
def deliverSignature (requestId : String) (result : SignResult) (s : System) : System :=
  match s.agentProxy.pendingSigns.lookup requestId with
  | none => s
  | some n =>
    { s.mapProxy (·.removePending requestId) with
      oneshots := s.oneshots.modify n fun o => { o with value := some result } }

/-- No pending request holds the sending half of the oneshot. -/
def cancelled (n : Nat) (s : System) : Bool := ∀ id ∈ s.agentProxy.pendingSigns.keys,
  s.agentProxy.pendingSigns.lookup id ≠ some n

end System

variable (libs : Libraries)

/-- The sections of `agent_leave` and of `agent_join`, if kitsune2 is configured. -/
def kitsuneSections (s : System) (sections : List Gateway.Section) : List Section :=
  match s.gatewayKitsune with
  | none => []
  | some _ => sections.map .kitsune

/-- What follows the loop of `handle_socket`. -/
def cleanup (c : WsSender) (s : System) : List Section :=
  .unregisterAll c ::
    (kitsuneSections s ((s.conns c).state.registrations.flatMap Gateway.agentLeave) ++
      [.unregisterWsSender c, .close c])

def beginCleanup (c : WsSender) (s : System) : System × List Section :=
  (s.updateConn c fun conn => { conn with phase := .closing }, cleanup c s)

/-- `handle_auth` up to its first await. -/
def handleAuth (c : WsSender) (agentText : String) (s : System) : System × List Section :=
  match libs.codec.agentOfStr agentText with
  | .error e => (s, [.reply c (.authError ("Invalid agent pubkey: " ++ e))])
  | .ok agent =>
    match s.authStore with
    | none =>
      (s.setState c { (s.conns c).state with authenticated := true, authenticatedAgent := some agent },
        [.reply c (.authOk "")])
    | some _ => (s, [.isAgentAllowed c agent])

/-- The pure part of `handle_auth_challenge_response`. -/
def checkResponse (agent : AgentPubKey) (challenge : List UInt8) (signatureText : String) :
    Except String Unit :=
  match libs.base64Decode signatureText with
  | .error e => .error ("Invalid signature encoding: " ++ e)
  | .ok bytes =>
    match libs.checkSignature bytes with
    | .error e => .error ("Invalid signature format: " ++ e)
    | .ok _ =>
      match libs.checkKey agent with
      | .error e => .error ("Invalid agent public key for verification: " ++ e)
      | .ok _ =>
        if libs.verify agent challenge bytes then .ok () else .error "Signature verification failed"

/-- `handle_auth_challenge_response` up to its first await: the pending challenge is taken
whatever comes of it. -/
def handleAuthChallengeResponse (c : WsSender) (signatureText : String) (s : System) :
    System × List Section :=
  let state := (s.conns c).state
  match state.pendingAuthAgent with
  | none => (s, [.reply c (.authError "No pending auth challenge")])
  | some agent =>
    match state.pendingChallenge with
    | none =>
      (s.setState c { state with pendingAuthAgent := none },
        [.reply c (.authError "No pending auth challenge")])
    | some challenge =>
      (s.setState c { state with pendingAuthAgent := none, pendingChallenge := none },
        match checkResponse libs agent challenge signatureText with
        | .error e => [.reply c (.authError e)]
        | .ok _ => [.sessionLookup c agent])

/-- The two hashes that `Register` and `Unregister` carry. -/
def parseKey (dnaText agentText : String) : Except String AgentRegistration :=
  match libs.codec.dnaOfStr dnaText with
  | .error e => .error ("Invalid DNA hash: " ++ e)
  | .ok dna =>
    match libs.codec.agentOfStr agentText with
    | .error e => .error ("Invalid agent pubkey: " ++ e)
    | .ok agent => .ok (dna, agent)

def handleRegister (c : WsSender) (dnaText agentText : String) (s : System) : System × List Section :=
  let state := (s.conns c).state
  if ¬state.authenticated then (s, [.reply c (.error "Not authenticated")])
  else
    match parseKey libs dnaText agentText with
    | .error e => (s, [.reply c (.error e)])
    | .ok key =>
      if s.authStore.isSome ∧ state.authenticatedAgent.any (· ≠ key.2) then
        (s, [.reply c (.error "Cannot register a different agent than authenticated")])
      else
        (if key ∈ state.registrations then s
          else s.setState c { state with registrations := state.registrations ++ [key] },
          [.register c key dnaText agentText])

def handleUnregister (c : WsSender) (dnaText agentText : String) (s : System) :
    System × List Section :=
  let state := (s.conns c).state
  if ¬state.authenticated then (s, [.reply c (.error "Not authenticated")])
  else
    match parseKey libs dnaText agentText with
    | .error e => (s, [.reply c (.error e)])
    | .ok key =>
      (s.setState c { state with registrations := state.registrations.filter (· ≠ key) },
        [.unregister c key dnaText agentText])

def signResult (signature error : Option String) : SignResult :=
  match signature, error with
  | some text, _ =>
    match libs.base64Decode text with
    | .ok bytes => .ok bytes
    | .error e => .error ("Invalid signature encoding: " ++ e)
  | none, some e => .error e
  | none, none => .error "No signature or error provided"

def handleSendRemoteSignal (c : WsSender) (dnaText : String)
    (signals : List SignedRemoteSignalInput) (s : System) : System × List Section :=
  if ¬(s.conns c).state.authenticated then
    (s, [.reply c (.error "Must authenticate before sending signals")])
  else
    match s.gatewayKitsune with
    | none => (s, [.reply c (.error "Remote signals not available (kitsune2 not enabled)")])
    | some _ =>
      match libs.codec.dnaOfStr dnaText with
      | .error e => (s, [.reply c (.error ("Invalid DNA hash: " ++ e))])
      | .ok dna => (s, [.remoteSignals dna signals])

/-- `handle_client_message` up to its first await. -/
def handleClientMessage (c : WsSender) (message : ClientMessage) (s : System) :
    System × List Section :=
  match message with
  | .auth agentText => handleAuth libs c agentText s
  | .authChallengeResponse signature => handleAuthChallengeResponse libs c signature s
  | .register dnaText agentText => handleRegister libs c dnaText agentText s
  | .unregister dnaText agentText => handleUnregister libs c dnaText agentText s
  | .ping =>
    (s, match s.gatewayKitsune with
      | some _ => [.peerCount c]
      | none => [.reply c (.pong 0)])
  | .signResponse requestId signature error =>
    (s, [.deliverSignature requestId (signResult libs signature error)])
  | .sendRemoteSignal dnaText signals => handleSendRemoteSignal libs c dnaText signals s

/-- One turn of the loop; a socket that is not open receives nothing. -/
def receive (c : WsSender) (f : Frame) (s : System) : System × List Section :=
  if (s.conns c).phase ≠ .open then (s, [])
  else
    match f with
    | .text (.ok message) => handleClientMessage libs c message s
    | .text (.error e) => (s, [.notify c (.error ("Invalid message format: " ++ e))])
    | .close => beginCleanup c s

/-- The message that a browser gets for a signal from the network or from another browser. -/
def signalMessage (key : AgentRegistration) (payload : List UInt8) : ServerMessage :=
  .signal (libs.codec.dnaToStr key.1) (libs.codec.agentToStr key.2) "remote" "recv_remote_signal"
    (libs.base64Encode payload)

/-- The loop of `send_remote_signals`. -/
def remoteSignals (dna : DnaHash) : List SignedRemoteSignalInput → List Section
  | [] => []
  | signal :: rest =>
    match libs.codec.agentOfRaw39 signal.targetAgent with
    | none => [.remoteSignals dna rest]
    | some target =>
      [.isRegistered (dna, target) (signalMessage libs (dna, target) signal.zomeCallParams),
        .remoteSignals dna rest]

/-- `Sender::send` waits for room and fails on a closed channel. -/
def send (c : WsSender) (message : ServerMessage) (sent closed waiting : List Section) (s : System) :
    System × List Section :=
  if (s.conns c).receiverGone then (s, closed)
  else if s.hasRoom c then (s.enqueue c message, sent)
  else (s, waiting)

def reply (c : WsSender) (message : ServerMessage) (s : System) : System × List Section :=
  if (s.conns c).receiverGone then beginCleanup c s
  else if s.hasRoom c then (s.enqueue c message, [])
  else (s, [.reply c message])

/-- The first registration of the agent that iteration meets, as the environment picks it. -/
def signFind (agent : AgentPubKey) (agentInfo : String) (pick : AgentRegistration) (s : System) :
    List Section :=
  if ∃ key ∈ s.agentProxy.registrations.keys, key.2 = agent then
    match s.agentProxy.registrations.lookup pick with
    | some sender =>
      if pick.2 = agent then [.signNumber agent agentInfo sender] else [.signFind agent agentInfo]
    | none => [.signFind agent agentInfo]
  else []

def signStore (agent : AgentPubKey) (agentInfo : String) (sender : WsSender) (requestId : String)
    (ok : Bool) (s : System) : System × List Section :=
  let oneshot := s.oneshots.length
  ({ s.mapProxy (·.storePending requestId oneshot) with
    oneshots := s.oneshots ++ [⟨requestId, sender, none⟩] },
    -- An agent info that does not serialise returns with the request still pending.
    if ok then
      [.signSend sender requestId oneshot
        (.signAgentInfo requestId (libs.codec.agentToStr agent) agentInfo)]
    else [])

def signWait (requestId : String) (oneshot : Nat) (timedOut : Bool) (s : System) : List Section :=
  match (s.oneshots[oneshot]?).bind Oneshot.value with
  | some result => [.signCleanup requestId result]
  | none =>
    if s.cancelled oneshot then [.signCleanup requestId (.error "Sign request cancelled")]
    else if timedOut then [.signCleanup requestId (.error "Sign request timed out after 30s")]
    else [.signWait requestId oneshot]

def perform (act : Section) (input : Input) (s : System) : System × List Section :=
  match act with
  | .connect c =>
    (if (s.conns c).phase = .absent then s.updateConn c fun _ => ⟨.open, .default, [], false⟩ else s,
      [])
  | .receive c f => receive libs c f s
  | .isAgentAllowed c agent =>
    if s.authStore.any (·.isAgentAllowed agent) then
      (s.setState c { (s.conns c).state with
        pendingAuthAgent := some agent, pendingChallenge := some input.challenge },
        [.reply c (.authChallenge (libs.hexEncode input.challenge))])
    else (s, [.reply c (.authError "Agent not allowed")])
  | .sessionLookup c agent =>
    (s, match s.authStore.bind (MemoryStore.sessionCapabilities agent ·.store) with
      | none => [.reply c (.authError "Failed to create session")]
      | some capabilities => [.sessionInsert c agent capabilities])
  | .sessionInsert c agent capabilities =>
    (s.mapStore (MemoryStore.insertSession agent capabilities input.token),
      [.registerWsSender c agent input.token])
  | .registerWsSender c agent token =>
    ((s.mapAuth (·.registerWsSender agent c)).setState c
      { (s.conns c).state with authenticated := true, authenticatedAgent := some agent },
      [.reply c (.authOk token.text)])
  | .register c key dnaText agentText =>
    (s.mapProxy (·.register key c),
      (if s.authStore.isSome then [.registerDna key] else []) ++
        kitsuneSections s (Gateway.agentJoin key) ++ [.reply c (.registered dnaText agentText)])
  | .registerDna key => (s.mapStore (MemoryStore.registerDnaForAgent key.2 key.1), [])
  | .unregister c key dnaText agentText =>
    (s.mapProxy (·.unregister key),
      kitsuneSections s (Gateway.agentLeave key) ++ [.reply c (.unregistered dnaText agentText)])
  | .kitsune act =>
    match s.gatewayKitsune with
    | none => (s, [])
    | some g =>
      let next := Gateway.perform act input.ok g
      ({ s with gatewayKitsune := some next.1 }, next.2.map .kitsune)
  | .peerCount c => (s, [.reply c (.pong input.peerCount)])
  | .deliverSignature requestId result => (s.deliverSignature requestId result, [])
  | .remoteSignals dna signals => (s, remoteSignals libs dna signals)
  | .isRegistered key signal =>
    (s, if s.agentProxy.isRegistered key then [.sendSignal key signal]
      else kitsuneSections s (Gateway.getOrCreateSpace key.1 .other))
  | .sendSignal key signal => (s.sendSignal key signal, [])
  | .reply c message => reply c message s
  | .notify c message => send c message [] [] [.notify c message] s
  | .unregisterAll c => (s.mapProxy (·.unregisterAll c), [])
  | .unregisterWsSender c =>
    (match (s.conns c).state.authenticatedAgent with
      | some agent => s.mapAuth (·.unregisterWsSender agent c)
      | none => s, [])
  | .close c => (s.updateConn c fun conn => { conn with phase := .closed, receiverGone := true }, [])
  | .addAgent agent => (s.mapStore (MemoryStore.addAgent agent), [])
  | .removeAgent agent =>
    (s.mapStore fun store => (MemoryStore.removeAgent agent store).2,
      if s.authStore.any fun a => (MemoryStore.removeAgent agent a.store).1 then
        [.dropWsSenders agent] else [])
  | .dropWsSenders agent => (s.mapAuth (·.dropWsSenders agent), [])
  | .revokeSession token => (s.mapStore fun store => (MemoryStore.revokeSession token store).2, [])
  | .revokeSessionsForAgent agent =>
    (s.mapStore fun store => (MemoryStore.revokeSessionsForAgent agent store).2, [])
  | .forward c =>
    (if (s.conns c).receiverGone then s
      else s.updateConn c fun conn => { conn with queue := conn.queue.tail }, [])
  | .dropReceiver c => (s.updateConn c fun conn => { conn with receiverGone := true }, [])
  | .signFind agent agentInfo => (s, signFind agent agentInfo input.pick s)
  | .signNumber agent agentInfo sender =>
    (s.mapProxy (·.nextRequest),
      [.signStore agent agentInfo sender (s.agentProxy.requestId input.millis)])
  | .signStore agent agentInfo sender requestId =>
    signStore libs agent agentInfo sender requestId input.ok s
  | .signSend sender requestId oneshot message =>
    send sender message [.signWait requestId oneshot]
      [.signCleanup requestId (.error "Failed to send sign request: channel closed")]
      [.signSend sender requestId oneshot message] s
  | .signWait requestId oneshot => (s, signWait requestId oneshot input.timedOut s)
  | .signCleanup requestId _ => (s.mapProxy (·.removePending requestId), [])

/-- Any number of connections, calls and signing requests at once. -/
def program : Program Task Request Section Input System where
  body := Request.body
  perform := perform libs

abbrev Running := Pool Task Section System

abbrev Instant := Moment Task Section Input System

end H2hcLinker.WebSocket
