import H2hcLinker.WebSocket

/-! What each section changes, and which task can run it. -/
namespace H2hcLinker.WebSocket

open HashTable Interleaving

namespace System

variable (c : WsSender) (f : Connection → Connection) (s : System)

@[simp] theorem updateConn_conns_self : (s.updateConn c f).conns c = f (s.conns c) := by
  simp [updateConn]

theorem updateConn_conns_of_ne {c' : WsSender} (different : c' ≠ c) :
    (s.updateConn c f).conns c' = s.conns c' := by
  simp [updateConn, different]

/-- Only the connection may have changed. -/
def OnlyConn (c : WsSender) (s s' : System) : Prop := ∃ conn, s' = s.updateConn c fun _ => conn

theorem OnlyConn.refl : OnlyConn c s s := ⟨s.conns c, by simp [updateConn]⟩

theorem OnlyConn.updateConn : OnlyConn c s (s.updateConn c f) := ⟨f (s.conns c), rfl⟩

theorem OnlyConn.setState (state : ConnectionState) : OnlyConn c s (s.setState c state) :=
  OnlyConn.updateConn c _ s

theorem OnlyConn.enqueue (message : ServerMessage) : OnlyConn c s (s.enqueue c message) :=
  OnlyConn.updateConn c _ s

theorem OnlyConn.trySend (message : ServerMessage) : OnlyConn c s (s.trySend c message) := by
  unfold System.trySend
  split
  · exact OnlyConn.updateConn c _ s
  · exact OnlyConn.refl c s

variable {c s} {s' : System}

theorem OnlyConn.agentProxy (only : OnlyConn c s s') : s'.agentProxy = s.agentProxy := by
  obtain ⟨conn, rfl⟩ := only
  rfl

theorem OnlyConn.gatewayKitsune (only : OnlyConn c s s') :
    s'.gatewayKitsune = s.gatewayKitsune := by
  obtain ⟨conn, rfl⟩ := only
  rfl

theorem OnlyConn.authStore (only : OnlyConn c s s') : s'.authStore = s.authStore := by
  obtain ⟨conn, rfl⟩ := only
  rfl

theorem OnlyConn.oneshots (only : OnlyConn c s s') : s'.oneshots = s.oneshots := by
  obtain ⟨conn, rfl⟩ := only
  rfl

end System

variable {libs : Libraries} {s : System}

/-- The sections that a handler can go on with, by its message and the state of its connection. -/
def Admitted (libs : Libraries) (c : WsSender) (message : ClientMessage) (state : ConnectionState)
    (auth : Bool) : Section → Prop
  | .reply c' _ | .isAgentAllowed c' _ | .sessionLookup c' _ | .peerCount c' => c' = c
  | .register c' key dnaText agentText => c' = c ∧ message = .register dnaText agentText ∧
      state.authenticated = true ∧
      (auth = true → ∀ agent, state.authenticatedAgent = some agent → agent = key.2)
  | .unregister c' _ dnaText agentText =>
    c' = c ∧ message = .unregister dnaText agentText ∧ state.authenticated = true
  | .deliverSignature id result => ∃ signature error,
      message = .signResponse id signature error ∧ signResult libs signature error = result
  | .remoteSignals _ signals =>
    (∃ dnaText, message = .sendRemoteSignal dnaText signals) ∧ state.authenticated = true
  | _ => False

/-- What a handler makes of the state of its connection before its first await, and the section it
goes on with. -/
inductive Handled (libs : Libraries) (s : System) (c : WsSender) :
    ClientMessage → ConnectionState → Section → Prop where
  | passed (message : ClientMessage) (act : Section)
      (admitted : Admitted libs c message (s.conns c).state s.authStore.isSome act)
      (unanswered : ∀ text, message = .authChallengeResponse text →
        (s.conns c).state.pendingAuthAgent = none)
      (stays : (∀ agent, act ≠ .sessionLookup c agent) ∧
        ∀ key dnaText agentText, act ≠ .register c key dnaText agentText ∧
          act ≠ .unregister c key dnaText agentText) :
      Handled libs s c message (s.conns c).state act
  | accepted (agentText : String) (agent : AgentPubKey) (disabled : s.authStore = none) :
      Handled libs s c (.auth agentText)
        { (s.conns c).state with authenticated := true, authenticatedAgent := some agent }
        (.reply c (.authOk ""))
  | refused (text : String) (message : ServerMessage) :
      Handled libs s c (.authChallengeResponse text)
        { (s.conns c).state with pendingAuthAgent := none, pendingChallenge := none }
        (.reply c message)
  | verified (text : String) (agent : AgentPubKey) (nonce : List UInt8)
      (pendingAgent : (s.conns c).state.pendingAuthAgent = some agent)
      (pendingNonce : (s.conns c).state.pendingChallenge = some nonce)
      (accepted : checkResponse libs agent nonce text = .ok ()) :
      Handled libs s c (.authChallengeResponse text)
        { (s.conns c).state with pendingAuthAgent := none, pendingChallenge := none }
        (.sessionLookup c agent)
  | registered (dnaText agentText : String) (key : AgentRegistration)
      (authenticated : (s.conns c).state.authenticated = true)
      (own : s.authStore.isSome = true →
        ∀ agent, (s.conns c).state.authenticatedAgent = some agent → agent = key.2) :
      Handled libs s c (.register dnaText agentText)
        { (s.conns c).state with registrations :=
            if key ∈ (s.conns c).state.registrations then (s.conns c).state.registrations
            else (s.conns c).state.registrations ++ [key] }
        (.register c key dnaText agentText)
  | unregistered (dnaText agentText : String) (key : AgentRegistration)
      (authenticated : (s.conns c).state.authenticated = true) :
      Handled libs s c (.unregister dnaText agentText)
        { (s.conns c).state with registrations := (s.conns c).state.registrations.filter (· ≠ key) }
        (.unregister c key dnaText agentText)

theorem Handled.admitted {c : WsSender} {message : ClientMessage} {state : ConnectionState}
    {act : Section} (handled : Handled libs s c message state act) :
    Admitted libs c message (s.conns c).state s.authStore.isSome act := by
  cases handled with
  | passed message act admitted unanswered stays => exact admitted
  | accepted agentText agent disabled => rfl
  | refused text message => rfl
  | verified text agent nonce pendingAgent pendingNonce accepted => rfl
  | registered dnaText agentText key authenticated own => exact ⟨rfl, rfl, authenticated, own⟩
  | unregistered dnaText agentText key authenticated => exact ⟨rfl, rfl, authenticated⟩

theorem setState_same (c : WsSender) : s.setState c (s.conns c).state = s := by
  simp [System.setState, System.updateConn]

/-- The handler leaves the state as it is and replies. -/
theorem handled_reply (libs : Libraries) (s : System) (c : WsSender) (message : ClientMessage)
    (reply : ServerMessage) (unanswered : ∀ text, message = .authChallengeResponse text →
      (s.conns c).state.pendingAuthAgent = none) :
    Handled libs s c message (s.conns c).state (.reply c reply) :=
  .passed message (.reply c reply) rfl unanswered (by simp)

/-- A handler that only replies. -/
theorem replied_handled (c : WsSender) (message : ClientMessage) (reply : ServerMessage)
    (unanswered : ∀ text, message = .authChallengeResponse text →
      (s.conns c).state.pendingAuthAgent = none) : ∃ state act,
    (s, [Section.reply c reply]) = (s.setState c state, [act]) ∧
      Handled libs s c message state act :=
  ⟨_, _, congrArg (·, _) (setState_same c).symm, handled_reply libs s c message reply unanswered⟩

theorem handleAuth_handled (c : WsSender) (agentText : String) : ∃ state act,
    handleAuth libs c agentText s = (s.setState c state, [act]) ∧
      Handled libs s c (.auth agentText) state act := by
  unfold handleAuth
  split
  next e _ => exact replied_handled c _ _ (by simp)
  next agent _ =>
    split
    next disabled => exact ⟨_, _, rfl, .accepted agentText agent disabled⟩
    next =>
      refine ⟨_, _, congrArg (·, _) (setState_same c).symm, .passed _ _ ?_ (by simp) (by simp)⟩
      rfl

theorem handleAuthChallengeResponse_handled (c : WsSender) (text : String) : ∃ state act,
    handleAuthChallengeResponse libs c text s = (s.setState c state, [act]) ∧
      Handled libs s c (.authChallengeResponse text) state act := by
  unfold handleAuthChallengeResponse
  dsimp only
  split
  next unset => exact replied_handled c _ _ fun _ _ => unset
  next agent pendingAgent =>
    split
    next unset =>
      refine ⟨_, _, ?_, .refused text (.authError "No pending auth challenge")⟩
      rw [← unset]
    next nonce pendingNonce =>
      split
      next e _ => exact ⟨_, _, rfl, .refused text (.authError e)⟩
      next accepted =>
        exact ⟨_, _, rfl, .verified text agent nonce pendingAgent pendingNonce accepted⟩

theorem handleRegister_handled (c : WsSender) (dnaText agentText : String) : ∃ state act,
    handleRegister libs c dnaText agentText s = (s.setState c state, [act]) ∧
      Handled libs s c (.register dnaText agentText) state act := by
  unfold handleRegister
  dsimp only
  split
  next => exact replied_handled c _ _ (by simp)
  next authenticated =>
    split
    next => exact replied_handled c _ _ (by simp)
    next key parsed =>
      split
      next => exact replied_handled c _ _ (by simp)
      next own =>
        refine ⟨_, _, ?_, .registered dnaText agentText key (by simpa using authenticated) ?_⟩
        · by_cases known : key ∈ (s.conns c).state.registrations
          · simp only [if_pos known]
            exact congrArg (·, _) (setState_same c).symm
          · simp only [if_neg known]
        · intro auth agent speaks
          by_contra different
          exact own ⟨auth, by simp [speaks, different]⟩

theorem handleUnregister_handled (c : WsSender) (dnaText agentText : String) : ∃ state act,
    handleUnregister libs c dnaText agentText s = (s.setState c state, [act]) ∧
      Handled libs s c (.unregister dnaText agentText) state act := by
  unfold handleUnregister
  dsimp only
  split
  next => exact replied_handled c _ _ (by simp)
  next authenticated =>
    split
    next => exact replied_handled c _ _ (by simp)
    next key parsed =>
      exact ⟨_, _, rfl, .unregistered dnaText agentText key (by simpa using authenticated)⟩

theorem handleSendRemoteSignal_handled (c : WsSender) (dnaText : String)
    (signals : List SignedRemoteSignalInput) : ∃ state act,
    handleSendRemoteSignal libs c dnaText signals s = (s.setState c state, [act]) ∧
      Handled libs s c (.sendRemoteSignal dnaText signals) state act := by
  unfold handleSendRemoteSignal
  split
  next => exact replied_handled c _ _ (by simp)
  next authenticated =>
    split
    next => exact replied_handled c _ _ (by simp)
    next =>
      split
      next => exact replied_handled c _ _ (by simp)
      next dna parsed =>
        refine ⟨_, _, congrArg (·, _) (setState_same c).symm, .passed _ _ ?_ (by simp) (by simp)⟩
        exact ⟨⟨dnaText, rfl⟩, by simpa using authenticated⟩

/-- Before its first await a handler changes no more than the state of its own connection, and it
goes on with one section. -/
theorem handleClientMessage_handled (libs : Libraries) (c : WsSender) (message : ClientMessage) :
    ∃ state act, handleClientMessage libs c message s = (s.setState c state, [act]) ∧
      Handled libs s c message state act := by
  cases message with
  | auth agentText => exact handleAuth_handled c agentText
  | authChallengeResponse signature => exact handleAuthChallengeResponse_handled c signature
  | register dnaText agentText => exact handleRegister_handled c dnaText agentText
  | unregister dnaText agentText => exact handleUnregister_handled c dnaText agentText
  | ping =>
    simp only [handleClientMessage]
    split
    · refine ⟨_, _, congrArg (·, _) (setState_same c).symm, .passed _ _ ?_ (by simp) (by simp)⟩
      rfl
    · exact ⟨_, _, congrArg (·, _) (setState_same c).symm, handled_reply libs s c _ _ (by simp)⟩
  | signResponse requestId signature error =>
    refine ⟨_, _, congrArg (·, _) (setState_same c).symm, .passed _ _ ?_ (by simp) (by simp)⟩
    exact ⟨signature, error, rfl, rfl⟩
  | sendRemoteSignal dnaText signals => exact handleSendRemoteSignal_handled c dnaText signals

/-- What one turn of the loop does. -/
inductive Received (libs : Libraries) (s : System) (c : WsSender) :
    Frame → System × List Section → Prop where
  | notOpen (f : Frame) (phase : (s.conns c).phase ≠ .open) : Received libs s c f (s, [])
  | handled (message : ClientMessage) (state : ConnectionState) (act : Section)
      (opened : (s.conns c).phase = .open) (handled : Handled libs s c message state act) :
      Received libs s c (.text (.ok message)) (s.setState c state, [act])
  | malformed (e : String) (opened : (s.conns c).phase = .open) : Received libs s c (.text (.error e))
      (s, [.notify c (.error ("Invalid message format: " ++ e))])
  | ended (opened : (s.conns c).phase = .open) : Received libs s c .close (beginCleanup c s)

theorem receive_received (libs : Libraries) (c : WsSender) (f : Frame) :
    Received libs s c f (receive libs c f s) := by
  unfold receive
  split
  next phase => exact .notOpen f phase
  next phase =>
    have opened : (s.conns c).phase = .open := by simpa using phase
    split
    next message =>
      obtain ⟨state, act, does, handled⟩ := handleClientMessage_handled libs (s := s) c message
      rw [does]
      exact .handled message state act opened handled
    next e => exact .malformed e opened
    next => exact .ended opened

theorem beginCleanup_onlyConn (c : WsSender) : System.OnlyConn c s (beginCleanup c s).1 :=
  ⟨{ s.conns c with phase := .closing }, rfl⟩

theorem receive_onlyConn (c : WsSender) (f : Frame) :
    System.OnlyConn c s (receive libs c f s).1 := by
  have turn := receive_received libs (s := s) c f
  generalize receive libs c f s = next at turn ⊢
  cases turn with
  | notOpen f phase => exact .refl c s
  | handled message state act opened handled => exact .setState c s state
  | malformed e opened => exact .refl c s
  | ended opened => exact beginCleanup_onlyConn c

theorem reply_onlyConn (c : WsSender) (message : ServerMessage) :
    System.OnlyConn c s (reply c message s).1 := by
  unfold reply
  split
  · exact beginCleanup_onlyConn c
  · split
    · exact .enqueue c s message
    · exact .refl c s

theorem send_onlyConn (c : WsSender) (message : ServerMessage) (sent closed waiting : List Section) :
    System.OnlyConn c s (send c message sent closed waiting s).1 := by
  unfold send
  split
  · exact .refl c s
  · split
    · exact .enqueue c s message
    · exact .refl c s

theorem sendSignal_onlyConn (key : AgentRegistration) (signal : ServerMessage) :
    ∃ c, System.OnlyConn c s (s.sendSignal key signal) := by
  unfold System.sendSignal
  split
  · exact ⟨0, .refl 0 s⟩
  · exact ⟨_, .trySend _ s _⟩

/-- The sections that at most one connection feels. -/
def Local : Section → Prop
  | .connect _ | .receive _ _ | .isAgentAllowed _ _ | .sessionLookup _ _ | .peerCount _
  | .remoteSignals _ _ | .isRegistered _ _ | .sendSignal _ _ | .reply _ _ | .notify _ _ | .close _
  | .forward _ | .dropReceiver _ | .signFind _ _ | .signSend _ _ _ _ | .signWait _ _ => True
  | _ => False

theorem perform_onlyConn (libs : Libraries) (act : Section) (input : Input) (isLocal : Local act) :
    ∃ c, System.OnlyConn c s (perform libs act input s).1 := by
  cases act with
  | connect c =>
    refine ⟨c, ?_⟩
    simp only [perform]
    split
    · exact .updateConn c _ s
    · exact .refl c s
  | receive c f => exact ⟨c, receive_onlyConn c f⟩
  | isAgentAllowed c agent =>
    refine ⟨c, ?_⟩
    simp only [perform]
    split
    · exact .setState c s _
    · exact .refl c s
  | sendSignal key signal => exact sendSignal_onlyConn key signal
  | reply c message => exact ⟨c, reply_onlyConn c message⟩
  | notify c message => exact ⟨c, send_onlyConn c message _ _ _⟩
  | close c =>
    exact ⟨c, .updateConn c (fun conn => { conn with phase := .closed, receiverGone := true }) s⟩
  | forward c =>
    refine ⟨c, ?_⟩
    simp only [perform]
    split
    · exact .refl c s
    · exact .updateConn c _ s
  | dropReceiver c =>
    exact ⟨c, .updateConn c (fun conn => { conn with receiverGone := true }) s⟩
  | signSend sender requestId oneshot message => exact ⟨sender, send_onlyConn sender message _ _ _⟩
  | sessionLookup c agent => exact ⟨c, .refl c s⟩
  | peerCount c => exact ⟨c, .refl c s⟩
  | remoteSignals dna signals => exact ⟨0, .refl 0 s⟩
  | isRegistered key signal => exact ⟨0, .refl 0 s⟩
  | signFind agent agentInfo => exact ⟨0, .refl 0 s⟩
  | signWait requestId oneshot => exact ⟨0, .refl 0 s⟩
  | _ => cases isLocal

/-- A section that can put a message on the channel of the connection. -/
def Sends (s : System) (c : WsSender) : Section → Prop
  | .reply c' _ | .notify c' _ | .signSend c' _ _ _ => c' = c
  | .sendSignal key _ => s.agentProxy.registrations.lookup key = some c
  | _ => False

/-- A section that leaves the connection as it is. -/
def Spares (s : System) (c : WsSender) : Section → Prop
  | .connect c' => c' = c → (s.conns c).phase ≠ .absent
  | .receive c' f => c' = c → (s.conns c).phase ≠ .open ∨ ∃ e, f = .text (.error e)
  | .isAgentAllowed c' agent => c' = c → s.authStore.any (·.isAgentAllowed agent) = false
  | .registerWsSender c' _ _ => c' ≠ c
  | _ => True

/-- What a section can make of connection `c`. -/
inductive ConnStep (libs : Libraries) (input : Input) (s : System) (c : WsSender) :
    Section → Connection → Prop where
  | kept (act : Section) (spares : Spares s c act) : ConnStep libs input s c act (s.conns c)
  | opened (fresh : (s.conns c).phase = .absent) :
      ConnStep libs input s c (.connect c) ⟨.open, .default, [], false⟩
  | handled (message : ClientMessage) (state : ConnectionState) (next : Section)
      (opened : (s.conns c).phase = .open) (handled : Handled libs s c message state next) :
      ConnStep libs input s c (.receive c (.text (.ok message))) { s.conns c with state }
  | challenged (agent : AgentPubKey) (allowed : s.authStore.any (·.isAgentAllowed agent) = true) :
      ConnStep libs input s c (.isAgentAllowed c agent) { s.conns c with
        state := { (s.conns c).state with
          pendingAuthAgent := some agent, pendingChallenge := some input.challenge } }
  | authenticated (agent : AgentPubKey) (token : SessionToken) :
      ConnStep libs input s c (.registerWsSender c agent token) { s.conns c with
        state := { (s.conns c).state with
          authenticated := true, authenticatedAgent := some agent } }
  | ended (act : Section) (ends : act = .receive c .close ∨ ∃ message, act = .reply c message) :
      ConnStep libs input s c act { s.conns c with phase := .closing }
  | queued (act : Section) (sends : Sends s c act) (message : ServerMessage) :
      ConnStep libs input s c act { s.conns c with queue := (s.conns c).queue ++ [message] }
  | closed : ConnStep libs input s c (.close c)
      { s.conns c with phase := .closed, receiverGone := true }
  | forwarded : ConnStep libs input s c (.forward c)
      { s.conns c with queue := (s.conns c).queue.tail }
  | dropped : ConnStep libs input s c (.dropReceiver c) { s.conns c with receiverGone := true }

/-- A section that updates one connection keeps the others. -/
theorem updateConn_connStep {act : Section} {input : Input} (c c' : WsSender)
    (f : Connection → Connection)
    (other : c ≠ c' → Spares s c act)
    (step : ConnStep libs input s c' act (f (s.conns c'))) :
    ConnStep libs input s c act ((s.updateConn c' f).conns c) := by
  by_cases here : c = c'
  · subst here
    rwa [System.updateConn_conns_self]
  · rw [System.updateConn_conns_of_ne c' f s here]
    exact .kept act (other here)

theorem send_connStep {input : Input} (act : Section) (c c' : WsSender) (sends : Sends s c' act)
    (spares : Spares s c act) (message : ServerMessage) (sent closed waiting : List Section) :
    ConnStep libs input s c act ((send c' message sent closed waiting s).1.conns c) := by
  unfold send
  split
  · exact .kept act spares
  · split
    · exact updateConn_connStep c c' (fun conn => { conn with queue := conn.queue ++ [message] })
        (fun _ => spares) (.queued act sends message)
    · exact .kept act spares

theorem receive_connStep {input : Input} (c c' : WsSender) (f : Frame) :
    ConnStep libs input s c (.receive c' f) ((receive libs c' f s).1.conns c) := by
  have elsewhere (f : Frame) (other : c ≠ c') : Spares s c (.receive c' f) :=
    fun here => absurd here.symm other
  have turn := receive_received libs (s := s) c' f
  generalize receive libs c' f s = next at turn ⊢
  cases turn with
  | notOpen f phase => exact .kept _ fun here => .inl (here ▸ phase)
  | handled message state act opened handled =>
    exact updateConn_connStep c c' (fun conn => { conn with state }) (elsewhere _)
      (.handled message state act opened handled)
  | malformed e opened => exact .kept _ fun _ => .inr ⟨e, rfl⟩
  | ended opened =>
    exact updateConn_connStep c c' (fun conn => { conn with phase := .closing }) (elsewhere _)
      (.ended _ (.inl rfl))

theorem reply_connStep {input : Input} (c c' : WsSender) (message : ServerMessage) :
    ConnStep libs input s c (.reply c' message) ((reply c' message s).1.conns c) := by
  unfold reply
  split
  · exact updateConn_connStep c c' (fun conn => { conn with phase := .closing }) (fun _ => trivial)
      (.ended _ (.inr ⟨message, rfl⟩))
  · split
    · exact updateConn_connStep c c' (fun conn => { conn with queue := conn.queue ++ [message] })
        (fun _ => trivial) (.queued (.reply c' message) rfl message)
    · exact .kept _ trivial

theorem perform_connStep (libs : Libraries) (act : Section) (input : Input) (s : System)
    (c : WsSender) : ConnStep libs input s c act ((perform libs act input s).1.conns c) := by
  cases act with
  | connect c' =>
    simp only [perform]
    split
    next fresh =>
      exact updateConn_connStep c c' (fun _ => ⟨.open, .default, [], false⟩)
        (fun other here => absurd here.symm other) (.opened fresh)
    next started => exact .kept _ fun here => here ▸ started
  | receive c' f => exact receive_connStep c c' f
  | isAgentAllowed c' agent =>
    simp only [perform]
    split
    next allowed =>
      exact updateConn_connStep c c' (fun conn => { conn with state := _ })
        (fun other here => absurd here.symm other) (.challenged agent allowed)
    next refused => exact .kept _ fun _ => by simpa using refused
  | registerWsSender c' agent token =>
    simp only [perform, System.setState]
    by_cases here : c = c'
    · subst here
      rw [System.updateConn_conns_self]
      exact .authenticated agent token
    · rw [System.updateConn_conns_of_ne _ _ _ here]
      exact .kept _ (Ne.symm here)
  | kitsune act =>
    simp only [perform]
    split <;> exact .kept _ trivial
  | deliverSignature requestId result =>
    simp only [perform, System.deliverSignature]
    split <;> exact .kept _ trivial
  | sendSignal key signal =>
    simp only [perform, System.sendSignal, System.trySend]
    split
    next => exact .kept _ trivial
    next c' routed =>
      split
      · exact updateConn_connStep c c' (fun conn => { conn with queue := conn.queue ++ [signal] })
          (fun _ => trivial) (.queued (.sendSignal key signal) routed signal)
      · exact .kept _ trivial
  | reply c' message => exact reply_connStep c c' message
  | notify c' message => exact send_connStep (.notify c' message) c c' rfl trivial message _ _ _
  | unregisterWsSender c' =>
    simp only [perform]
    split <;> exact .kept _ trivial
  | close c' =>
    exact updateConn_connStep c c' (fun conn => { conn with phase := .closed, receiverGone := true })
      (fun _ => trivial) .closed
  | forward c' =>
    simp only [perform]
    split
    · exact .kept _ trivial
    · exact updateConn_connStep c c' (fun conn => { conn with queue := conn.queue.tail })
        (fun _ => trivial) .forwarded
  | dropReceiver c' =>
    exact updateConn_connStep c c' (fun conn => { conn with receiverGone := true })
      (fun _ => trivial) .dropped
  | signSend sender requestId oneshot message =>
    exact send_connStep (.signSend sender requestId oneshot message) c sender rfl trivial message _ _ _
  | _ => exact .kept _ trivial

/-- The agent proxy and the oneshots of its requests after a section. -/
def agentProxyAfter (act : Section) (s : System) : AgentProxyManager × List Oneshot :=
  match act with
  | .register c key _ _ => (s.agentProxy.register key c, s.oneshots)
  | .unregister _ key _ _ => (s.agentProxy.unregister key, s.oneshots)
  | .unregisterAll c => (s.agentProxy.unregisterAll c, s.oneshots)
  | .deliverSignature id result =>
    match s.agentProxy.pendingSigns.lookup id with
    | none => (s.agentProxy, s.oneshots)
    | some n => (s.agentProxy.removePending id,
        s.oneshots.modify n fun o => { o with value := some result })
  | .signNumber _ _ _ => (s.agentProxy.nextRequest, s.oneshots)
  | .signStore _ _ sender id =>
    (s.agentProxy.storePending id s.oneshots.length, s.oneshots ++ [⟨id, sender, none⟩])
  | .signCleanup id _ => (s.agentProxy.removePending id, s.oneshots)
  | _ => (s.agentProxy, s.oneshots)

theorem perform_agentProxy (libs : Libraries) (act : Section) (input : Input) (s : System) :
    ((perform libs act input s).1.agentProxy, (perform libs act input s).1.oneshots) =
      agentProxyAfter act s := by
  by_cases isLocal : Local act
  · obtain ⟨c, only⟩ := perform_onlyConn libs (s := s) act input isLocal
    rw [only.agentProxy, only.oneshots]
    cases act <;> first | rfl | cases isLocal
  · cases act with
    | kitsune act =>
      simp only [perform, agentProxyAfter]
      split <;> rfl
    | deliverSignature id result =>
      cases found : s.agentProxy.pendingSigns.lookup id <;>
        simp [perform, agentProxyAfter, System.deliverSignature, System.mapProxy, found]
    | unregisterWsSender c =>
      simp only [perform, agentProxyAfter]
      split <;> rfl
    | _ => first | rfl | exact absurd trivial isLocal

/-- The routing table after a section. -/
def registrationsAfter (act : Section) (registrations : Table AgentRegistration WsSender) :
    Table AgentRegistration WsSender :=
  match act with
  | .register c key _ _ => registrations.insert key c
  | .unregister _ key _ _ => registrations.erase key
  | .unregisterAll c => retain (fun _ sender => sender ≠ c) registrations
  | _ => registrations

theorem perform_registrations (libs : Libraries) (act : Section) (input : Input) (s : System) :
    (perform libs act input s).1.agentProxy.registrations =
      registrationsAfter act s.agentProxy.registrations := by
  refine (congrArg (·.1.registrations) (perform_agentProxy libs act input s)).trans ?_
  cases act with
  | deliverSignature id result =>
    simp only [agentProxyAfter, registrationsAfter]
    split <;> rfl
  | _ => rfl

theorem lookup_registrationsAfter {act : Section} {registrations : Table AgentRegistration WsSender}
    {key : AgentRegistration} {c : WsSender}
    (found : (registrationsAfter act registrations).lookup key = some c) :
    registrations.lookup key = some c ∨ ∃ dnaText agentText, act = .register c key dnaText agentText := by
  cases act with
  | register c' k dnaText agentText =>
    rw [registrationsAfter, lookup_insert_eq] at found
    split at found
    next same =>
      subst same
      cases found
      exact .inr ⟨dnaText, agentText, rfl⟩
    next => exact .inl found
  | unregister c' k dnaText agentText =>
    rw [registrationsAfter, lookup_erase_eq] at found
    split at found
    next => cases found
    next => exact .inl found
  | unregisterAll c' =>
    rw [registrationsAfter, lookup_retain, Option.filter_eq_some_iff] at found
    exact .inl found.1
  | _ => exact .inl found

/-- kitsune2 and the gateway's tables change in the gateway's own sections only. -/
theorem perform_gatewayKitsune (libs : Libraries) (act : Section) (input : Input) (s : System) :
    (perform libs act input s).1.gatewayKitsune =
      match act with
      | .kitsune act => s.gatewayKitsune.map fun g => (Gateway.perform act input.ok g).1
      | _ => s.gatewayKitsune := by
  by_cases isLocal : Local act
  · obtain ⟨c, only⟩ := perform_onlyConn libs (s := s) act input isLocal
    rw [only.gatewayKitsune]
    cases act <;> first | rfl | cases isLocal
  · cases act with
    | kitsune act =>
      simp only [perform]
      split
      next none => simp [none]
      next g configured => simp [configured]
    | deliverSignature requestId result =>
      simp only [perform, System.deliverSignature]
      split <;> rfl
    | unregisterWsSender c =>
      simp only [perform]
      split <;> rfl
    | _ => first | rfl | exact absurd trivial isLocal

/-- The gateway's sections that join no agent: those of `get_or_create_space` alone. -/
def SpaceOnly : Gateway.Section → Prop
  | .spaceLookup _ use | .spaceCreate _ use | .spaceStore _ use => use = .other
  | _ => False

/-- The tasks that can come to run a section. -/
def Belongs (t : Task) : Section → Prop
  | .connect c | .receive c _ | .isAgentAllowed c _ | .sessionLookup c _ | .sessionInsert c _ _
  | .registerWsSender c _ _ | .register c _ _ _ | .unregister c _ _ _ | .peerCount c | .reply c _
  | .notify c _ | .unregisterAll c | .unregisterWsSender c | .close c => t = .conn c
  | .registerDna _ | .deliverSignature _ _ | .remoteSignals _ _ | .isRegistered _ _ =>
    ∃ c, t = .conn c
  | .kitsune act => (∃ c, t = .conn c) ∨ (∃ n, t = .other n) ∧ SpaceOnly act
  | .sendSignal _ _ => (∃ c, t = .conn c) ∨ ∃ n, t = .other n
  | .addAgent _ | .removeAgent _ | .dropWsSenders _ | .revokeSession _ | .revokeSessionsForAgent _
  | .forward _ | .dropReceiver _ => ∃ n, t = .other n
  | .signFind _ _ | .signNumber _ _ _ | .signStore _ _ _ _ | .signSend _ _ _ _ | .signWait _ _
  | .signCleanup _ _ => ∃ n, t = .sign n

/-- The sections that calls start with. -/
def Starts : Section → Prop
  | .connect _ | .receive _ _ | .addAgent _ | .removeAgent _ | .revokeSession _
  | .revokeSessionsForAgent _ | .sendSignal _ _ | .forward _ | .dropReceiver _ | .signFind _ _ => True
  | .kitsune act => SpaceOnly act
  | _ => False

/-- A call starts with one section, if its task can run it. -/
theorem body_starts {t : Task} {request : Request} {act : Section}
    (first : act ∈ Request.body t request) : Starts act ∧ Request.body t request = [act] := by
  cases t <;> cases request <;>
    simp_all [Request.body, Starts, Gateway.getOrCreateSpace, SpaceOnly]

theorem body_belongs (t : Task) (request : Request) :
    ∀ act ∈ Request.body t request, Belongs t act := by
  intro act member
  cases t <;> cases request <;>
    simp_all [Request.body, Belongs, Gateway.getOrCreateSpace, SpaceOnly]

theorem mem_kitsuneSections {sections : List Gateway.Section} {act : Section}
    (member : act ∈ kitsuneSections s sections) : ∃ inner ∈ sections, act = .kitsune inner := by
  unfold kitsuneSections at member
  split at member
  · cases member
  · obtain ⟨inner, listed, rfl⟩ := List.mem_map.mp member
    exact ⟨inner, listed, rfl⟩

/-- A cleanup unregisters the channel, leaves what the connection registered, and closes it. -/
def Cleans (c : WsSender) (s : System) (act : Section) : Prop :=
  act = .unregisterAll c ∨
    (∃ key ∈ (s.conns c).state.registrations, act = .kitsune (.removeAgent key)) ∨
    act = .unregisterWsSender c ∨ act = .close c

theorem mem_cleanup {c : WsSender} {act : Section} (member : act ∈ cleanup c s) :
    Cleans c s act := by
  simp only [cleanup, List.mem_cons, List.mem_append, List.not_mem_nil, or_false] at member
  rcases member with rfl | leaving | rfl | rfl
  · exact .inl rfl
  · obtain ⟨inner, listed, rfl⟩ := mem_kitsuneSections leaving
    obtain ⟨key, registered, one⟩ := List.mem_flatMap.mp listed
    cases List.mem_singleton.mp one
    exact .inr (.inl ⟨key, registered, rfl⟩)
  · exact .inr (.inr (.inl rfl))
  · exact .inr (.inr (.inr rfl))

/-- What a section can be followed by. -/
def Next (libs : Libraries) (input : Input) (s : System) : Section → Section → Prop
  | .receive c f, new =>
    (∃ message, f = .text (.ok message) ∧ (s.conns c).phase = .open ∧
      Admitted libs c message (s.conns c).state s.authStore.isSome new) ∨
    (∃ message, new = .notify c message) ∨ f = .close ∧ Cleans c s new
  | .isAgentAllowed c _, new | .peerCount c, new => ∃ message, new = .reply c message
  | .sessionLookup c agent, new =>
    (∃ message, new = .reply c message) ∨ ∃ capabilities,
      s.authStore.bind (MemoryStore.sessionCapabilities agent ·.store) = some capabilities ∧
        new = .sessionInsert c agent capabilities
  | .sessionInsert c agent _, new => new = .registerWsSender c agent input.token
  | .registerWsSender c _ token, new => new = .reply c (.authOk token.text)
  | .register c key _ _, new =>
    new = .registerDna key ∨ new = .kitsune (.joinCheck key) ∨ ∃ message, new = .reply c message
  | .unregister c key _ _, new =>
    new = .kitsune (.removeAgent key) ∨ ∃ message, new = .reply c message
  | .kitsune act, new => ∃ g inner, s.gatewayKitsune = some g ∧
      inner ∈ (Gateway.perform act input.ok g).2 ∧ new = .kitsune inner
  | .remoteSignals dna _, new =>
    (∃ rest, new = .remoteSignals dna rest) ∨ ∃ target signal, new = .isRegistered (dna, target) signal
  | .isRegistered key signal, new =>
    new = .sendSignal key signal ∨ new = .kitsune (.spaceLookup key.1 .other)
  | .reply c message, new => new = .reply c message ∨ Cleans c s new
  | .notify c message, new => new = .notify c message
  | .removeAgent agent, new => new = .dropWsSenders agent
  | .signFind agent agentInfo, new =>
    new = .signFind agent agentInfo ∨ ∃ sender, new = .signNumber agent agentInfo sender
  | .signNumber agent agentInfo sender, new => ∃ id, new = .signStore agent agentInfo sender id
  | .signStore _ _ sender id, new => ∃ message, new = .signSend sender id s.oneshots.length message
  | .signSend sender id n message, new =>
    new = .signSend sender id n message ∨ new = .signWait id n ∨ ∃ result, new = .signCleanup id result
  | .signWait id n, new => new = .signWait id n ∨ ∃ result, new = .signCleanup id result
  | _, _ => False

theorem receive_next (c : WsSender) (f : Frame) (input : Input) :
    ∀ new ∈ (receive libs c f s).2, Next libs input s (.receive c f) new := by
  intro new member
  have turn := receive_received libs (s := s) c f
  generalize receive libs c f s = next at turn member
  cases turn with
  | notOpen f phase => cases member
  | handled message state act opened handled =>
    cases List.mem_singleton.mp member
    exact .inl ⟨message, rfl, opened, handled.admitted⟩
  | malformed e opened =>
    cases List.mem_singleton.mp member
    exact .inr (.inl ⟨_, rfl⟩)
  | ended opened => exact .inr (.inr ⟨rfl, mem_cleanup member⟩)

theorem mem_send {c : WsSender} {message : ServerMessage} {sent closed waiting : List Section}
    {act : Section} (member : act ∈ (send c message sent closed waiting s).2) :
    act ∈ sent ∨ act ∈ closed ∨ act ∈ waiting := by
  unfold send at member
  split at member
  · exact .inr (.inl member)
  · split at member
    · exact .inl member
    · exact .inr (.inr member)

theorem perform_next (act : Section) (input : Input) (s : System) :
    ∀ new ∈ (perform libs act input s).2, Next libs input s act new := by
  intro new member
  cases act with
  | receive c f => exact receive_next c f input new member
  | isAgentAllowed c agent =>
    simp only [perform] at member
    split at member
    · exact ⟨_, List.mem_singleton.mp member⟩
    · exact ⟨_, List.mem_singleton.mp member⟩
  | sessionLookup c agent =>
    simp only [perform] at member
    split at member
    next => exact .inl ⟨_, List.mem_singleton.mp member⟩
    next capabilities listed => exact .inr ⟨capabilities, listed, List.mem_singleton.mp member⟩
  | sessionInsert c agent capabilities => exact List.mem_singleton.mp member
  | registerWsSender c agent token => exact List.mem_singleton.mp member
  | register c key dnaText agentText =>
    simp only [perform, List.mem_append, List.mem_singleton] at member
    rcases member with (granting | joining) | replying
    · split at granting
      · exact .inl (List.mem_singleton.mp granting)
      · cases granting
    · obtain ⟨inner, one, rfl⟩ := mem_kitsuneSections joining
      exact .inr (.inl (congrArg Section.kitsune (List.mem_singleton.mp one)))
    · exact .inr (.inr ⟨_, replying⟩)
  | unregister c key dnaText agentText =>
    simp only [perform, List.mem_append, List.mem_singleton] at member
    rcases member with leaving | replying
    · obtain ⟨inner, one, rfl⟩ := mem_kitsuneSections leaving
      exact .inl (congrArg Section.kitsune (List.mem_singleton.mp one))
    · exact .inr ⟨_, replying⟩
  | kitsune act =>
    simp only [perform] at member
    split at member
    next => cases member
    next g configured =>
      obtain ⟨inner, pushed, rfl⟩ := List.mem_map.mp member
      exact ⟨g, inner, configured, pushed, rfl⟩
  | peerCount c => exact ⟨_, List.mem_singleton.mp member⟩
  | remoteSignals dna signals =>
    cases signals with
    | nil => cases member
    | cons signal rest =>
      simp only [perform, remoteSignals] at member
      split at member
      · exact .inl ⟨_, List.mem_singleton.mp member⟩
      · simp only [List.mem_cons, List.not_mem_nil, or_false] at member
        rcases member with routing | going
        · exact .inr ⟨_, _, routing⟩
        · exact .inl ⟨_, going⟩
  | isRegistered key signal =>
    simp only [perform] at member
    split at member
    · exact .inl (List.mem_singleton.mp member)
    · obtain ⟨inner, one, rfl⟩ := mem_kitsuneSections member
      exact .inr (congrArg Section.kitsune (List.mem_singleton.mp one))
  | reply c message =>
    simp only [perform, reply] at member
    split at member
    · exact .inr (mem_cleanup member)
    · split at member
      · cases member
      · exact .inl (List.mem_singleton.mp member)
  | notify c message =>
    rcases mem_send member with sent | closed | waiting
    · cases sent
    · cases closed
    · exact List.mem_singleton.mp waiting
  | removeAgent agent =>
    simp only [perform] at member
    split at member
    · exact List.mem_singleton.mp member
    · cases member
  | signFind agent agentInfo =>
    simp only [perform, signFind] at member
    split at member
    · split at member
      · split at member
        · exact .inr ⟨_, List.mem_singleton.mp member⟩
        · exact .inl (List.mem_singleton.mp member)
      · exact .inl (List.mem_singleton.mp member)
    · cases member
  | signNumber agent agentInfo sender => exact ⟨_, List.mem_singleton.mp member⟩
  | signStore agent agentInfo sender id =>
    simp only [perform, signStore] at member
    split at member
    · exact ⟨_, List.mem_singleton.mp member⟩
    · cases member
  | signSend sender id n message =>
    rcases mem_send member with sent | closed | waiting
    · exact .inr (.inl (List.mem_singleton.mp sent))
    · exact .inr (.inr ⟨_, List.mem_singleton.mp closed⟩)
    · exact .inl (List.mem_singleton.mp waiting)
  | signWait id n =>
    simp only [perform, signWait] at member
    split at member
    · exact .inr ⟨_, List.mem_singleton.mp member⟩
    · split at member
      · exact .inr ⟨_, List.mem_singleton.mp member⟩
      · split at member
        · exact .inr ⟨_, List.mem_singleton.mp member⟩
        · exact .inl (List.mem_singleton.mp member)
  | _ => cases member

theorem spaceOnly_perform (act : Gateway.Section) (ok : Bool) (g : Gateway.GatewayKitsune)
    (spaceOnly : SpaceOnly act) : ∀ new ∈ (Gateway.perform act ok g).2, SpaceOnly new := by
  intro new member
  cases Gateway.perform_follows act ok g new member with
  | missing dna use => exact spaceOnly
  | created dna use => exact spaceOnly
  | _ => cases spaceOnly

theorem Cleans.belongs {c : WsSender} {act : Section} (cleans : Cleans c s act) :
    Belongs (.conn c) act := by
  rcases cleans with rfl | ⟨key, _, rfl⟩ | rfl | rfl
  · rfl
  · exact .inl ⟨c, rfl⟩
  · rfl
  · rfl

theorem perform_belongs (t : Task) (act : Section) (input : Input) (s : System)
    (belongs : Belongs t act) : ∀ new ∈ (perform libs act input s).2, Belongs t new := by
  intro new member
  have next := perform_next act input s new member
  cases act with
  | receive c f =>
    cases belongs
    rcases next with ⟨message, _, _, admitted⟩ | ⟨message, rfl⟩ | ⟨_, cleaning⟩
    · cases new <;> simp_all [Admitted, Belongs]
    · rfl
    · exact cleaning.belongs
  | reply c message =>
    cases belongs
    rcases next with rfl | cleaning
    · rfl
    · exact cleaning.belongs
  | register c key dnaText agentText =>
    rcases next with rfl | rfl | ⟨message, rfl⟩
    · exact ⟨c, belongs⟩
    · exact .inl ⟨c, belongs⟩
    · exact belongs
  | unregister c key dnaText agentText =>
    rcases next with rfl | ⟨message, rfl⟩
    · exact .inl ⟨c, belongs⟩
    · exact belongs
  | kitsune act =>
    obtain ⟨g, inner, _, pushed, rfl⟩ := next
    rcases belongs with conn | ⟨other, spaceOnly⟩
    · exact .inl conn
    · exact .inr ⟨other, spaceOnly_perform act input.ok g spaceOnly inner pushed⟩
  | isRegistered key signal =>
    rcases next with rfl | rfl
    · exact .inl belongs
    · exact .inl belongs
  | isAgentAllowed c agent =>
    obtain ⟨message, rfl⟩ := next
    exact belongs
  | sessionLookup c agent =>
    rcases next with ⟨message, rfl⟩ | ⟨capabilities, _, rfl⟩
    · exact belongs
    · exact belongs
  | peerCount c =>
    obtain ⟨message, rfl⟩ := next
    exact belongs
  | remoteSignals dna signals =>
    rcases next with ⟨rest, rfl⟩ | ⟨target, signal, rfl⟩
    · exact belongs
    · exact belongs
  | signFind agent agentInfo =>
    rcases next with rfl | ⟨sender, rfl⟩
    · exact belongs
    · exact belongs
  | signNumber agent agentInfo sender =>
    obtain ⟨id, rfl⟩ := next
    exact belongs
  | signStore agent agentInfo sender id =>
    obtain ⟨message, rfl⟩ := next
    exact belongs
  | signSend sender id n message =>
    rcases next with rfl | rfl | ⟨result, rfl⟩
    · exact belongs
    · exact belongs
    · exact belongs
  | signWait id n =>
    rcases next with rfl | ⟨result, rfl⟩
    · exact belongs
    · exact belongs
  | sessionInsert c agent capabilities =>
    cases next
    exact belongs
  | registerWsSender c agent token =>
    cases next
    exact belongs
  | notify c message =>
    cases next
    exact belongs
  | removeAgent agent =>
    cases next
    exact belongs
  | _ => cases next

/-- Every task holds sections of its own only. -/
theorem tasks_belong (libs : Libraries) (kitsune auth : Bool) (schedule : List (Event Task Request Input)) :
    ∀ t, ∀ act ∈ ((program libs).execute schedule (.start (.start kitsune auth))).tasks t,
      Belongs t act :=
  execute_kinds Belongs body_belongs perform_belongs schedule _

theorem guarded_belongs (kitsune auth : Bool) (schedule : List (Event Task Request Input)) :
    (program libs).Guarded (OnTurn fun _ t act _ => Belongs t act) schedule
      (.start (.start kitsune auth)) :=
  guarded_kinds Belongs body_belongs perform_belongs schedule _

/-- An environment in which every call to kitsune2 succeeds, with a token for each number. -/
def sampleInput (n : Nat) : Input where
  ok := true
  token := ⟨.ofList (List.replicate 64 (Nat.digitChar n))⟩
  challenge := sampleChallenge
  millis := 0
  peerCount := 0
  pick := (sampleDna, alice)
  timedOut := false

def aliceKey : AgentRegistration := (sampleDna, alice)

def connects (c : WsSender) : List (Event Task Request Input) :=
  [.call (.conn c) .connect, .turn (.conn c) (sampleInput c)]

/-- A frame and the turns that handle it. -/
def frames (c : WsSender) (f : Frame) (turns : Nat) : List (Event Task Request Input) :=
  .call (.conn c) (.frame f) :: List.replicate turns (.turn (.conn c) (sampleInput c))

/-- Without authentication, a browser registers Alice. -/
def registerAlice (c : WsSender) : List (Event Task Request Input) :=
  connects c ++ frames c (.text (.ok (.auth aliceText))) 2 ++
    frames c (.text (.ok (.register sampleDnaText aliceText))) 9

/-- A browser registers Alice and closes, and a second one registers her again. -/
def aliceReconnects : List (Event Task Request Input) :=
  registerAlice 0 ++ frames 0 .close 9 ++ registerAlice 1

/-- An admin call and its turns. -/
def admin (request : Request) (turns : Nat) : List (Event Task Request Input) :=
  .call (.other 0) request :: List.replicate turns (.turn (.other 0) (sampleInput 0))

/-- A browser connects and authenticates. -/
def login (c : WsSender) (agentText signature : String) : List (Event Task Request Input) :=
  connects c ++ frames c (.text (.ok (.auth agentText))) 3 ++
    frames c (.text (.ok (.authChallengeResponse signature))) 5

/-- With authentication, Alice is allowed, logs in and registers. -/
def aliceOnline : List (Event Task Request Input) :=
  admin (.addAgent ⟨alice, ∅, none⟩) 1 ++ login 0 aliceText aliceSignatureText ++
    frames 0 (.text (.ok (.register sampleDnaText aliceText))) 10

end H2hcLinker.WebSocket
