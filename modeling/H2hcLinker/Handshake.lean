import H2hcLinker.Past
import H2hcLinker.Identity

/-! The challenge and its response. Whoever a connection comes to speak for has signed the nonce
that was last sent to it, and was on the allowlist when it was sent and when it was answered. -/
namespace H2hcLinker.WebSocket

open HashTable Interleaving Past

variable {libs : Libraries} {s : System}

/-- The linker sends the nonce, for an agent on the allowlist to sign. -/
def Issues (c : WsSender) (agent : AgentPubKey) (nonce : List UInt8) (m : Instant) : Prop :=
  m.act = .isAgentAllowed c agent ∧ m.input.challenge = nonce ∧
    m.pool.shared.authStore.any (·.isAgentAllowed agent) = true

/-- The loop handles a response to the pending challenge, whatever comes of it. -/
def Responds (c : WsSender) (signatureText : String) (m : Instant) : Prop :=
  m.act = .receive c (.text (.ok (.authChallengeResponse signatureText))) ∧
    (m.pool.shared.conns c).phase = .open

/-- `create_session` finds the agent on the allowlist. -/
def LooksUp (c : WsSender) (agent : AgentPubKey) (m : Instant) : Prop :=
  m.act = .sessionLookup c agent ∧ m.pool.shared.authStore.any (·.isAgentAllowed agent) = true

/-- No challenge goes to the connection and no response is taken from it. -/
def Calm (c : WsSender) (m : Instant) : Prop :=
  (∀ agent nonce, ¬Issues c agent nonce m) ∧ ∀ text, ¬Responds c text m

/-- The nonce is the last challenge of the connection, sent for the agent and not yet answered. -/
def Challenged (c : WsSender) (agent : AgentPubKey) (nonce : List UInt8) : List Instant → Prop :=
  Since (Calm c) fun _ m => Issues c agent nonce m

/-- The last challenge was answered with a signature of it by the agent. -/
def Answered (libs : Libraries) (c : WsSender) (agent : AgentPubKey) : List Instant → Prop :=
  Since (Calm c) fun before m => ∃ nonce text signature, Challenged c agent nonce before ∧
    Responds c text m ∧ libs.base64Decode text = .ok signature ∧
    libs.verify agent nonce signature = true

/-- And after that the agent was found on the allowlist. -/
def LookedUp (libs : Libraries) (c : WsSender) (agent : AgentPubKey) : List Instant → Prop :=
  Since (Calm c) fun before m => Answered libs c agent before ∧ LooksUp c agent m

theorem checkResponse_ok {agent : AgentPubKey} {nonce : List UInt8} {text : String}
    (accepted : checkResponse libs agent nonce text = .ok ()) :
    ∃ signature, libs.base64Decode text = .ok signature ∧ libs.verify agent nonce signature = true := by
  unfold checkResponse at accepted
  split at accepted
  next => cases accepted
  next signature decoded =>
    split at accepted
    next => cases accepted
    next =>
      split at accepted
      next => cases accepted
      next =>
        split at accepted
        next verified => exact ⟨signature, decoded, verified⟩
        next => cases accepted

/-- A challenge is for someone, and an authenticated connection speaks for someone. -/
structure Consistent (state : ConnectionState) : Prop where
  paired : state.pendingAuthAgent.isSome = state.pendingChallenge.isSome
  speaks : state.authenticated = true → state.authenticatedAgent.isSome = true

theorem Handled.consistent {c : WsSender} {message : ClientMessage} {state : ConnectionState}
    {next : Section} (handled : Handled libs s c message state next)
    (consistent : Consistent (s.conns c).state) : Consistent state := by
  cases handled with
  | passed message act admitted unanswered stays => exact consistent
  | accepted agentText agent disabled => exact ⟨consistent.paired, fun _ => rfl⟩
  | refused text message => exact ⟨rfl, consistent.speaks⟩
  | verified text agent nonce pendingAgent pendingNonce accepted => exact ⟨rfl, consistent.speaks⟩
  | registered dnaText agentText key authenticated own => exact ⟨consistent.paired, consistent.speaks⟩
  | unregistered dnaText agentText key authenticated => exact ⟨consistent.paired, consistent.speaks⟩

theorem perform_consistent (libs : Libraries) (act : Section) (input : Input) (c : WsSender)
    (consistent : Consistent (s.conns c).state) :
    Consistent ((perform libs act input s).1.conns c).state := by
  have step := perform_connStep libs act input s c
  generalize (perform libs act input s).1.conns c = conn at step ⊢
  cases step with
  | opened fresh => exact ⟨rfl, fun known => nomatch known⟩
  | handled message state next opened handled => exact handled.consistent consistent
  | challenged agent allowed => exact ⟨rfl, consistent.speaks⟩
  | authenticated agent token => exact ⟨consistent.paired, fun _ => rfl⟩
  | _ => exact consistent

theorem consistent_execute (kitsune auth : Bool) (schedule : List (Event Task Request Input))
    (c : WsSender) : Consistent
      (((program libs).execute schedule (.start (.start kitsune auth))).shared.conns c).state := by
  apply execute_turns (fun p : Running => Consistent (p.shared.conns c).state) (fun _ _ _ _ => True)
    _ _ schedule _ (guarded_trivial schedule _)
  · exact ⟨rfl, fun known => nomatch known⟩
  · intro t request p _ inv
    exact inv
  · intro t input act rest p _ _ inv
    exact perform_consistent libs act input c inv

/-- The challenge that a connection has to answer, and by whom. -/
def Connection.pending (conn : Connection) : Option AgentPubKey × Option (List UInt8) :=
  (conn.state.pendingAuthAgent, conn.state.pendingChallenge)

theorem Consistent.pending_none {c : WsSender} (consistent : Consistent (s.conns c).state)
    (unset : (s.conns c).state.pendingAuthAgent = none) : (s.conns c).pending = (none, none) := by
  have paired := consistent.paired
  cases challenge : (s.conns c).state.pendingChallenge with
  | none => exact Prod.ext unset challenge
  | some nonce => simp [unset, challenge] at paired

theorem calm_of {c : WsSender} {m : Instant} (noChallenge : ∀ agent, m.act ≠ .isAgentAllowed c agent)
    (noResponse : ∀ text, m.act ≠ .receive c (.text (.ok (.authChallengeResponse text)))) :
    Calm c m :=
  ⟨fun agent _ issues => noChallenge agent issues.1, fun text responds => noResponse text responds.1⟩

theorem Spares.calm {p : Running} {t : Task} {act : Section} {input : Input} {c : WsSender}
    (spares : Spares p.shared c act) : Calm c ⟨p, t, act, input⟩ := by
  constructor
  · rintro agent nonce ⟨rfl, _, allowed⟩
    simp [spares rfl] at allowed
  · rintro text ⟨rfl, opened⟩
    rcases spares rfl with phase | ⟨e, other⟩
    · exact phase opened
    · cases other

/-- A calm section keeps the challenge; any other ends it or replaces it. -/
theorem perform_pending (libs : Libraries) (p : Running) (t : Task) (act : Section) (input : Input)
    (c : WsSender) (consistent : Consistent (p.shared.conns c).state) :
    Calm c ⟨p, t, act, input⟩ ∧
        ((perform libs act input p.shared).1.conns c).pending = (p.shared.conns c).pending ∨
      ((perform libs act input p.shared).1.conns c).pending = (none, none) ∨
      ∃ agent, Issues c agent input.challenge ⟨p, t, act, input⟩ ∧
        ((perform libs act input p.shared).1.conns c).pending = (some agent, some input.challenge) := by
  have step := perform_connStep libs act input p.shared c
  generalize (perform libs act input p.shared).1.conns c = conn at step ⊢
  cases step with
  | kept act spares => exact .inl ⟨spares.calm, rfl⟩
  | opened fresh => exact .inr (.inl rfl)
  | handled message state next opened handled =>
    cases handled with
    | passed message next admitted unanswered stays =>
      by_cases response : ∃ text, message = .authChallengeResponse text
      · obtain ⟨text, rfl⟩ := response
        exact .inr (.inl (consistent.pending_none (unanswered text rfl)))
      · exact .inl ⟨calm_of (by simp) fun text same => response ⟨text, by simpa using same⟩, rfl⟩
    | refused text message => exact .inr (.inl rfl)
    | verified text agent nonce pendingAgent pendingNonce accepted => exact .inr (.inl rfl)
    | _ => exact .inl ⟨calm_of (by simp) (by simp), rfl⟩
  | challenged agent allowed => exact .inr (.inr ⟨agent, ⟨rfl, rfl, allowed⟩, rfl⟩)
  | ended act ends =>
    refine .inl ⟨calm_of ?_ ?_, rfl⟩
    · rcases ends with rfl | ⟨message, rfl⟩ <;> simp
    · rcases ends with rfl | ⟨message, rfl⟩ <;> simp
  | queued act sends message =>
    refine .inl ⟨calm_of ?_ ?_, rfl⟩
    · rintro agent rfl
      exact sends
    · rintro text rfl
      exact sends
  | _ => exact .inl ⟨calm_of (by simp) (by simp), rfl⟩

/-- What has been shown when a section of the handshake is about to run. -/
def Proven (libs : Libraries) (past : List Instant) : Section → Prop
  | .sessionLookup c agent => Answered libs c agent past
  | .sessionInsert c agent _ | .registerWsSender c agent _ => LookedUp libs c agent past
  | _ => True

/-- The challenge of every connection is its last, and its handshake as far as it has got. -/
structure Handshaking (libs : Libraries) (past : List Instant) (p : Running) : Prop where
  pending : ∀ c agent nonce, (p.shared.conns c).pending = (some agent, some nonce) →
    Challenged c agent nonce past
  proven : ∀ t, ∀ act ∈ p.tasks t, Proven libs past act

/-- The connection whose handshake the section belongs to. -/
def Proves (c : WsSender) : Section → Prop
  | .sessionLookup c' _ | .sessionInsert c' _ _ | .registerWsSender c' _ _ => c' = c
  | _ => False

theorem Proven.later {past : List Instant} {act : Section} {m : Instant} (proven : Proven libs past act)
    (calm : ∀ c, Proves c act → Calm c m) : Proven libs (past ++ [m]) act := by
  cases act with
  | sessionLookup c agent => exact Since.later proven (calm c rfl)
  | sessionInsert c agent capabilities => exact Since.later proven (calm c rfl)
  | registerWsSender c agent token => exact Since.later proven (calm c rfl)
  | _ => trivial

/-- The verified response is what a session is looked up for. -/
theorem sessionLookup_pushed {act : Section} {input : Input} {c : WsSender} {agent : AgentPubKey}
    (pushed : .sessionLookup c agent ∈ (perform libs act input s).2) :
    ∃ text nonce, act = .receive c (.text (.ok (.authChallengeResponse text))) ∧
      (s.conns c).phase = .open ∧ (s.conns c).pending = (some agent, some nonce) ∧
      checkResponse libs agent nonce text = .ok () := by
  have next := perform_next act input s _ pushed
  cases act with
  | receive c' f =>
    have turn := receive_received libs (s := s) c' f
    simp only [perform] at pushed
    generalize receive libs c' f s = after at turn pushed
    cases turn with
    | notOpen f phase => cases pushed
    | handled message state act opened handled =>
      cases List.mem_singleton.mp pushed
      cases handled with
      | passed message act admitted unanswered stays =>
        cases admitted
        exact absurd rfl (stays.1 agent)
      | verified text agent nonce pendingAgent pendingNonce accepted =>
        exact ⟨text, nonce, rfl, opened, Prod.ext pendingAgent pendingNonce, accepted⟩
    | malformed e opened => cases List.mem_singleton.mp pushed
    | ended opened => rcases mem_cleanup pushed with same | ⟨key, _, same⟩ | same | same <;> cases same
  | _ => simp [Next, Cleans] at next

theorem proven_pushed {past : List Instant} {p : Running} {t : Task} {act new : Section} {input : Input}
    (head : Proven libs past act) (handshaking : Handshaking libs past p)
    (pushed : new ∈ (perform libs act input p.shared).2) :
    Proven libs (past ++ [⟨p, t, act, input⟩]) new := by
  have next := perform_next act input p.shared new pushed
  cases new with
  | sessionLookup c agent =>
    obtain ⟨text, nonce, rfl, opened, pending, accepted⟩ := sessionLookup_pushed pushed
    obtain ⟨signature, decoded, verified⟩ := checkResponse_ok accepted
    exact since_now ⟨nonce, text, signature, handshaking.pending c agent nonce pending, ⟨rfl, opened⟩,
      decoded, verified⟩
  | sessionInsert c agent capabilities =>
    cases act with
    | sessionLookup c' agent' =>
      rcases next with ⟨message, other⟩ | ⟨capabilities', listed, same⟩
      · cases other
      · cases same
        refine since_now ⟨head, rfl, ?_⟩
        obtain ⟨a, stored, listed⟩ := Option.bind_eq_some_iff.mp listed
        obtain ⟨entry, found, _⟩ := Option.map_eq_some_iff.mp listed
        simp [stored, AuthStore.isAgentAllowed, MemoryStore.isAgentAllowed,
          Finmap.mem_of_lookup_eq_some found]
    | _ => simp [Next, Admitted, Cleans] at next
  | registerWsSender c agent token =>
    cases act with
    | sessionInsert c' agent' capabilities =>
      cases next
      exact Since.later head (calm_of (by simp) (by simp))
    | _ => simp [Next, Admitted, Cleans] at next
  | _ => trivial

/-- A connection that is in its handshake gets no challenge and gives no response meanwhile. -/
theorem Identified.calm {p : Running} (identified : Identified p) {t u : Task} {act new : Section}
    {rest : List Section} {input : Input} {c : WsSender} (running : p.tasks t = act :: rest)
    (belongs : Belongs t act) (held : new ∈ p.tasks u) (holds : Belongs u new) (proves : Proves c new) :
    Calm c ⟨p, t, act, input⟩ := by
  have own : u = .conn c := by
    cases new with
    | sessionLookup c' agent => exact proves ▸ holds
    | sessionInsert c' agent capabilities => exact proves ▸ holds
    | registerWsSender c' agent token => exact proves ▸ holds
    | _ => cases proves
  -- What starts or ends a challenge would be the only section of the connection's task.
  have only (alone : Alone act) (here : t = .conn c) : Proves c act := by
    have one := identified.alone t act (by simp [running]) alone
    rw [here, ← own] at one
    rw [one] at held
    exact List.mem_singleton.mp held ▸ proves
  apply calm_of
  · rintro agent rfl
    exact only trivial belongs
  · rintro text rfl
    exact only trivial belongs

/-- What holds before every event of a run. -/
structure Sound (p : Running) : Prop where
  holding : ∀ u, ∀ act ∈ p.tasks u, Belongs u act
  consistent : ∀ c, Consistent (p.shared.conns c).state
  identified : Identified p

theorem guarded_sound (kitsune : Bool) (schedule : List (Event Task Request Input)) :
    (program libs).Guarded (OnTurn fun p _ _ _ => Sound p) schedule (.start (.start kitsune true)) :=
  guarded_of_execute _ Sound schedule _ fun before _ => ⟨tasks_belong libs kitsune true before,
    consistent_execute kitsune true before, identified_execute kitsune before⟩

theorem handshaking_turn (past : List Instant) (t : Task) (input : Input) (act : Section)
    (rest : List Section) (p : Running) (running : p.tasks t = act :: rest)
    (sound : Sound p) (inv : Handshaking libs past p) :
    Handshaking libs (past ++ [⟨p, t, act, input⟩]) ⟨(perform libs act input p.shared).1,
      Function.update p.tasks t ((perform libs act input p.shared).2 ++ rest)⟩ where
  pending c agent nonce pending := by
    rcases perform_pending libs p t act input c (sound.consistent c) with
      ⟨calm, same⟩ | ended | ⟨issued, issues, replaced⟩
    · exact Since.later (inv.pending c agent nonce (same ▸ pending)) calm
    · cases ended.symm.trans pending
    · cases replaced.symm.trans pending
      exact since_now issues
  proven u new member := by
    have head : act ∈ p.tasks t := by simp [running]
    rcases mem_of_turn running member with ⟨rfl, pushed⟩ | old
    · exact proven_pushed (inv.proven u act head) inv pushed
    · exact (inv.proven u new old).later fun c proves =>
        sound.identified.calm running (sound.holding t act head) old (sound.holding u new old) proves

theorem handshaking_call (past : List Instant) (t : Task) (request : Request) (p : Running)
    (inv : Handshaking libs past p) :
    Handshaking libs past ⟨p.shared, Function.update p.tasks t (Request.body t request)⟩ where
  pending := inv.pending
  proven u act member := by
    rcases mem_of_call member with ⟨rfl, first⟩ | old
    · have starts := (body_starts first).1
      cases act <;> trivial
    · exact inv.proven u act old

theorem handshaking_start (s : System) (none : ∀ c, (s.conns c).pending = (none, none)) :
    Handshaking libs [] (.start s) where
  pending c agent nonce pending := by cases (none c).symm.trans pending
  proven t act member := nomatch member

theorem handshaking_execute (kitsune : Bool) (schedule : List (Event Task Request Input)) :
    Handshaking libs ((program libs).moments schedule (.start (.start kitsune true)))
      ((program libs).execute schedule (.start (.start kitsune true))) :=
  execute_moments (Handshaking libs) _ (fun past t request p _ => handshaking_call past t request p)
    (fun past t input act rest p running sound =>
      handshaking_turn past t input act rest p running sound)
    schedule [] _ (guarded_sound kitsune schedule) (handshaking_start _ fun _ => rfl)

/-- The section authenticates the connection, or comes to name another agent as the authenticated. -/
def Authenticates (libs : Libraries) (c : WsSender) (agent : AgentPubKey) (act : Section)
    (input : Input) (s : System) : Prop :=
  (∃ token, act = .registerWsSender c agent token) ∨
    ((perform libs act input s).1.conns c).state.authenticatedAgent = some agent ∧
      (s.conns c).state.authenticatedAgent ≠ some agent

theorem Authenticates.registers {c : WsSender} {agent : AgentPubKey} {act : Section} {input : Input}
    (auth : s.authStore.isSome = true) (authenticates : Authenticates libs c agent act input s) :
    ∃ token, act = .registerWsSender c agent token := by
  rcases authenticates with now | ⟨speaks, other⟩
  · exact now
  · have identity := perform_identity libs act input c auth
    exact (identityAfter_some ((congrArg Prod.snd identity).symm.trans speaks)).resolve_left other

/-- Without authentication no challenge is ever sent. -/
structure Unchallenged (p : Running) : Prop where
  disabled : p.shared.authStore = none
  pending : ∀ c, (p.shared.conns c).pending = (none, none)
  lookup : ∀ t c agent, .sessionLookup c agent ∉ p.tasks t

theorem unchallenged_execute (kitsune : Bool) (schedule : List (Event Task Request Input)) :
    Unchallenged ((program libs).execute schedule (.start (.start kitsune false))) := by
  have known := guarded_of_execute (program libs)
    (fun p : Running => ∀ c, Consistent (p.shared.conns c).state) schedule
    (.start (.start kitsune false)) fun before _ => consistent_execute kitsune false before
  apply execute_turns Unchallenged _ _ _ schedule _ known
  · exact ⟨rfl, fun c => rfl, fun t c agent member => nomatch member⟩
  · intro t request p _ inv
    refine ⟨inv.disabled, inv.pending, fun u c agent member => ?_⟩
    rcases mem_of_call member with ⟨rfl, first⟩ | old
    · cases (body_starts first).1
    · exact inv.lookup u c agent old
  · intro t input act rest p running consistent inv
    constructor
    · change (perform libs act input p.shared).1.authStore = none
      rw [perform_authStore, inv.disabled]
      rfl
    · intro c
      rcases perform_pending libs p t act input c (consistent c) with
        ⟨_, same⟩ | ended | ⟨agent, issues, _⟩
      · exact same.trans (inv.pending c)
      · exact ended
      · simp [Issues, inv.disabled] at issues
    · intro u c agent member
      rcases mem_of_turn running member with ⟨rfl, pushed⟩ | old
      · change _ ∈ (perform libs act input p.shared).2 at pushed
        obtain ⟨text, nonce, _, _, pending, _⟩ := sessionLookup_pushed pushed
        cases (inv.pending c).symm.trans pending
      · exact inv.lookup u c agent old

/-- A connection comes to speak for an agent after the agent's signature of its last challenge, which
no other response had used up, and with the agent on the allowlist when the challenge was sent and
when the session was looked up. What is pending is a challenge for an agent, who is authenticated
is known, and without authentication no response gets as far as the store. -/
theorem handshake_sound (libs : Libraries) (kitsune auth : Bool)
    (schedule : List (Event Task Request Input)) :
    let past := (program libs).moments schedule (.start (.start kitsune auth))
    let p := (program libs).execute schedule (.start (.start kitsune auth))
    (auth = true → ∀ t act rest input c agent, p.tasks t = act :: rest →
      Authenticates libs c agent act input p.shared → LookedUp libs c agent past) ∧
    (∀ c, Consistent (p.shared.conns c).state) ∧
    (auth = false → ∀ t c agent, .sessionLookup c agent ∉ p.tasks t) := by
  refine ⟨?_, consistent_execute kitsune auth schedule, ?_⟩
  · rintro rfl t act rest input c agent running authenticates
    have identified := @identified_execute libs kitsune schedule
    obtain ⟨token, rfl⟩ := authenticates.registers identified.auth
    have inv := @handshaking_execute libs kitsune schedule
    exact inv.proven t (.registerWsSender c agent token) (by simp [running])
  · rintro rfl
    exact (unchallenged_execute kitsune schedule).lookup

/-- Alice is allowed and has answered her challenge; her session is stored. -/
def aliceAnswers : List (Event Task Request Input) :=
  admin (.addAgent ⟨alice, ∅, none⟩) 1 ++ connects 0 ++ frames 0 (.text (.ok (.auth aliceText))) 3 ++
    frames 0 (.text (.ok (.authChallengeResponse aliceSignatureText))) 3

theorem handshake_sound_aliceAnswers : LookedUp sampleLibraries 0 alice
    ((program sampleLibraries).moments aliceAnswers (.start (.start true true))) :=
  (handshake_sound sampleLibraries true true aliceAnswers).1 rfl (.conn 0)
    (.registerWsSender 0 alice (sampleInput 0).token) [] (sampleInput 0) 0 alice (by rfl)
    (.inl ⟨_, rfl⟩)

end H2hcLinker.WebSocket
