import H2hcLinker.WebSocketSteps

/-! Who a connection speaks for. With authentication only a handshake sets the agent, and the
handshake runs alone: nothing that a handler does for one agent is left over for another. -/
namespace H2hcLinker.WebSocket

open HashTable Interleaving

variable {libs : Libraries} {s : System}

/-- The authentication store after a section. -/
def authAfter (act : Section) (input : Input) (s : System) (a : AuthStore) : AuthStore :=
  match act with
  | .sessionInsert _ agent capabilities =>
    { a with store := MemoryStore.insertSession agent capabilities input.token a.store }
  | .registerWsSender c agent _ => a.registerWsSender agent c
  | .registerDna key => { a with store := MemoryStore.registerDnaForAgent key.2 key.1 a.store }
  | .unregisterWsSender c =>
    match (s.conns c).state.authenticatedAgent with
    | some agent => a.unregisterWsSender agent c
    | none => a
  | .addAgent agent => { a with store := MemoryStore.addAgent agent a.store }
  | .removeAgent agent => { a with store := (MemoryStore.removeAgent agent a.store).2 }
  | .dropWsSenders agent => a.dropWsSenders agent
  | .revokeSession token => { a with store := (MemoryStore.revokeSession token a.store).2 }
  | .revokeSessionsForAgent agent =>
    { a with store := (MemoryStore.revokeSessionsForAgent agent a.store).2 }
  | _ => a

theorem perform_authStore (libs : Libraries) (act : Section) (input : Input) (s : System) :
    (perform libs act input s).1.authStore = s.authStore.map (authAfter act input s) := by
  have keeps (same : (perform libs act input s).1.authStore = s.authStore)
      (idle : ∀ a, authAfter act input s a = a) :
      (perform libs act input s).1.authStore = s.authStore.map (authAfter act input s) := by
    rw [same]
    cases s.authStore with
    | none => rfl
    | some a => simp [idle]
  by_cases isLocal : Local act
  · obtain ⟨c, only⟩ := perform_onlyConn libs (s := s) act input isLocal
    cases act <;> first | exact keeps only.authStore fun _ => rfl | cases isLocal
  · cases act with
    | kitsune act =>
      refine keeps ?_ fun _ => rfl
      simp only [perform]
      split <;> rfl
    | deliverSignature id result =>
      refine keeps ?_ fun _ => rfl
      simp only [perform, System.deliverSignature]
      split <;> rfl
    | unregisterWsSender c =>
      cases known : (s.conns c).state.authenticatedAgent with
      | none =>
        apply keeps
        · simp [perform, known]
        · simp [authAfter, known]
      | some agent =>
        simp only [perform, known, System.mapAuth]
        congr 1
        funext a
        simp [authAfter, known]
    | _ => first | rfl | exact keeps rfl fun _ => rfl | exact absurd trivial isLocal

/-- Whether the connection has authenticated, and as whom. -/
def Connection.identity (conn : Connection) : Bool × Option AgentPubKey :=
  (conn.state.authenticated, conn.state.authenticatedAgent)

def identityAfter (act : Section) (c : WsSender) (conn : Connection) : Bool × Option AgentPubKey :=
  match act with
  | .connect c' => if c' = c ∧ conn.phase = .absent then (false, none) else conn.identity
  | .registerWsSender c' agent _ => if c' = c then (true, some agent) else conn.identity
  | _ => conn.identity

theorem identityAfter_same {act : Section} {c : WsSender} {conn : Connection}
    (noHandshake : ∀ agent token, act ≠ .registerWsSender c agent token)
    (noOpening : act = .connect c → conn.phase ≠ .absent) : identityAfter act c conn = conn.identity := by
  cases act with
  | connect c' =>
    simp only [identityAfter]
    split
    next opening =>
      obtain ⟨rfl, fresh⟩ := opening
      exact absurd fresh (noOpening rfl)
    next => rfl
  | registerWsSender c' agent token =>
    have elsewhere : c' ≠ c := by
      rintro rfl
      exact noHandshake agent token rfl
    simp [identityAfter, elsewhere]
  | _ => rfl

theorem identityAfter_agent {act : Section} {c : WsSender} {conn : Connection}
    (known : conn.state.authenticated = conn.state.authenticatedAgent.isSome) :
    (identityAfter act c conn).1 = (identityAfter act c conn).2.isSome := by
  cases act with
  | connect c' =>
    simp only [identityAfter]
    split
    · rfl
    · exact known
  | registerWsSender c' agent token =>
    simp only [identityAfter]
    split
    · rfl
    · exact known
  | _ => exact known

theorem identityAfter_some {act : Section} {c : WsSender} {conn : Connection} {agent : AgentPubKey}
    (speaks : (identityAfter act c conn).2 = some agent) :
    conn.state.authenticatedAgent = some agent ∨ ∃ token, act = .registerWsSender c agent token := by
  cases act with
  | connect c' =>
    simp only [identityAfter] at speaks
    split at speaks
    · cases speaks
    · exact .inl speaks
  | registerWsSender c' a token =>
    simp only [identityAfter] at speaks
    split at speaks
    next here =>
      cases speaks
      subst here
      exact .inr ⟨token, rfl⟩
    next => exact .inl speaks
  | _ => exact .inl speaks

/-- With authentication no handler sets the agent before its first await. -/
theorem Handled.identity {c : WsSender} {message : ClientMessage} {state : ConnectionState}
    {next : Section} (handled : Handled libs s c message state next) (auth : s.authStore.isSome = true) :
    (state.authenticated, state.authenticatedAgent) = (s.conns c).identity := by
  cases handled with
  | accepted agentText agent disabled => simp [disabled] at auth
  | _ => rfl

theorem perform_identity (libs : Libraries) (act : Section) (input : Input) (c : WsSender)
    (auth : s.authStore.isSome = true) :
    ((perform libs act input s).1.conns c).identity = identityAfter act c (s.conns c) := by
  have step := perform_connStep libs act input s c
  generalize (perform libs act input s).1.conns c = conn at step ⊢
  cases step with
  | kept act spares =>
    refine (identityAfter_same ?_ ?_).symm
    · rintro agent token rfl
      exact spares rfl
    · rintro rfl
      exact spares rfl
  | opened fresh => simp [identityAfter, fresh, Connection.identity, ConnectionState.default]
  | handled message state next opened handled => exact handled.identity auth
  | authenticated agent token => simp [identityAfter, Connection.identity]
  | ended act ends => rcases ends with rfl | ⟨message, rfl⟩ <;> rfl
  | queued act sends message => cases act <;> first | rfl | cases sends
  | _ => rfl

/-- The loop of the connection is over. -/
def Ended (conn : Connection) : Prop := conn.phase = .closing ∨ conn.phase = .closed

/-- A phase is left for the end only, and a receiver that is gone stays gone. -/
def Advances (conn conn' : Connection) : Prop :=
  (conn'.phase = conn.phase ∨ Ended conn') ∧ (conn.receiverGone = true → conn'.receiverGone = true)

/-- A socket opens once; after its loop it never opens again. -/
theorem perform_advances (libs : Libraries) (act : Section) (input : Input) (c : WsSender) :
    Advances (s.conns c) ((perform libs act input s).1.conns c) ∨
      act = .connect c ∧ (s.conns c).phase = .absent := by
  have step := perform_connStep libs act input s c
  generalize (perform libs act input s).1.conns c = conn at step ⊢
  cases step with
  | opened fresh => exact .inr ⟨rfl, fresh⟩
  | ended act ends => exact .inl ⟨.inr (.inl rfl), id⟩
  | closed => exact .inl ⟨.inr (.inr rfl), fun _ => rfl⟩
  | dropped => exact .inl ⟨.inl rfl, fun _ => rfl⟩
  | _ => exact .inl ⟨.inl rfl, id⟩

theorem Ended.perform {c : WsSender} (ended : Ended (s.conns c)) (act : Section) (input : Input) :
    Ended ((perform libs act input s).1.conns c) := by
  rcases perform_advances libs act input c with ⟨same | finished, _⟩ | ⟨_, fresh⟩
  · unfold Ended at *
    rwa [same]
  · exact finished
  · simp [Ended, fresh] at ended

/-- The sections of a signing request. -/
def Signs : Section → Prop
  | .signFind _ _ | .signNumber _ _ _ | .signStore _ _ _ _ | .signSend _ _ _ _ | .signWait _ _
  | .signCleanup _ _ => True
  | _ => False

theorem signs_of_pushed {act new : Section} {input : Input} (signs : Signs new)
    (pushed : new ∈ (perform libs act input s).2) : Signs act := by
  have next := perform_next act input s new pushed
  cases new <;> first
    | exact False.elim signs
    | cases act <;> first | trivial | simp [Next, Admitted, Cleans] at next

/-- A signing request goes on with one section at a time. -/
theorem Signs.pushes {act : Section} (signs : Signs act) (input : Input) :
    (perform libs act input s).2.length ≤ 1 := by
  cases act with
  | signFind agent agentInfo =>
    simp only [perform, signFind]
    split
    · split
      · split <;> simp
      · simp
    · simp
  | signNumber agent agentInfo sender => simp [perform]
  | signStore agent agentInfo sender id =>
    simp only [perform, signStore]
    split <;> simp
  | signSend sender id n message =>
    simp only [perform, send]
    split
    · simp
    · split <;> simp
  | signWait id n =>
    simp only [perform, signWait]
    split
    · simp
    · split
      · simp
      · split <;> simp
  | signCleanup id result => simp [perform]
  | _ => cases signs

/-- What a frame starts with, what a handler goes on with, the handshake and a signing request:
nothing of the task waits behind these. -/
def Alone : Section → Prop
  | .connect _ | .receive _ _ | .isAgentAllowed _ _ | .sessionLookup _ _ | .sessionInsert _ _ _
  | .registerWsSender _ _ _ | .register _ _ _ _ | .unregister _ _ _ _ => True
  | act => Signs act

theorem receive_alone {c : WsSender} {f : Frame} {new : Section} (alone : Alone new)
    (pushed : new ∈ (receive libs c f s).2) : (receive libs c f s).2 = [new] := by
  have turn := receive_received libs (s := s) c f
  generalize receive libs c f s = next at turn pushed ⊢
  cases turn with
  | notOpen f phase => cases pushed
  | handled message state act opened handled =>
    cases List.mem_singleton.mp pushed
    rfl
  | malformed e opened =>
    cases List.mem_singleton.mp pushed
    cases alone
  | ended opened => rcases mem_cleanup pushed with rfl | ⟨key, _, rfl⟩ | rfl | rfl <;> cases alone

/-- While a handler goes on its connection is open. -/
theorem receive_open {c : WsSender} {f : Frame} {new : Section} (alone : Alone new)
    (pushed : new ∈ (receive libs c f s).2) : ((receive libs c f s).1.conns c).phase = .open := by
  have turn := receive_received libs (s := s) c f
  generalize receive libs c f s = next at turn pushed ⊢
  cases turn with
  | notOpen f phase => cases pushed
  | handled message state act opened handled => simpa [System.setState] using opened
  | malformed e opened =>
    cases List.mem_singleton.mp pushed
    cases alone
  | ended opened => rcases mem_cleanup pushed with rfl | ⟨key, _, rfl⟩ | rfl | rfl <;> cases alone

theorem pushed_alone {act new : Section} {input : Input} (alone : Alone new)
    (pushed : new ∈ (perform libs act input s).2) :
    Alone act ∧ (perform libs act input s).2 = [new] := by
  by_cases signs : Signs new
  · have signing := signs_of_pushed signs pushed
    refine ⟨?_, ?_⟩
    · cases act <;> first | exact signing | trivial
    · obtain ⟨one, only⟩ := List.length_eq_one_iff.mp (Nat.le_antisymm (signing.pushes input)
        (List.length_pos_of_mem pushed))
      rw [only] at pushed ⊢
      rw [List.mem_singleton.mp pushed]
  have next := perform_next act input s new pushed
  cases new with
  | isAgentAllowed c agent =>
    cases act with
    | receive c' f => exact ⟨trivial, receive_alone alone pushed⟩
    | _ => simp [Next, Cleans] at next
  | sessionLookup c agent =>
    cases act with
    | receive c' f => exact ⟨trivial, receive_alone alone pushed⟩
    | _ => simp [Next, Cleans] at next
  | sessionInsert c agent capabilities =>
    cases act with
    | sessionLookup c' agent' =>
      refine ⟨trivial, ?_⟩
      simp only [perform] at pushed ⊢
      split at pushed <;> cases List.mem_singleton.mp pushed
      rfl
    | _ => simp [Next, Admitted, Cleans] at next
  | registerWsSender c agent token =>
    cases act with
    | sessionInsert c' agent' capabilities =>
      cases List.mem_singleton.mp pushed
      exact ⟨trivial, rfl⟩
    | _ => simp [Next, Admitted, Cleans] at next
  | register c key dnaText agentText =>
    cases act with
    | receive c' f => exact ⟨trivial, receive_alone alone pushed⟩
    | _ => simp [Next, Cleans] at next
  | unregister c key dnaText agentText =>
    cases act with
    | receive c' f => exact ⟨trivial, receive_alone alone pushed⟩
    | _ => simp [Next, Cleans] at next
  | connect c => cases act <;> simp [Next, Admitted, Cleans] at next
  | receive c f => cases act <;> simp [Next, Admitted, Cleans] at next
  | _ => first | exact absurd trivial signs | cases alone

/-- What is done for a registration is done for the connection's agent. -/
def Owned (agent : Option AgentPubKey) : Section → Prop
  | .register _ key _ _ | .registerDna key => agent = some key.2
  | .kitsune act => ∀ key, Gateway.Joins key act → agent = some key.2
  | _ => True

theorem Cleans.not_joins {c : WsSender} {act : Gateway.Section} {key : AgentRegistration}
    (cleans : Cleans c s (.kitsune act)) : ¬Gateway.Joins key act := by
  rcases cleans with other | ⟨k, _, same⟩ | other | other
  · cases other
  · cases same
    exact id
  · cases other
  · cases other

theorem perform_owned {c : WsSender} {act new : Section} {input : Input}
    (auth : s.authStore.isSome = true)
    (known : (s.conns c).state.authenticated = (s.conns c).state.authenticatedAgent.isSome)
    (belongs : Belongs (.conn c) act) (owned : Owned (s.conns c).state.authenticatedAgent act)
    (pushed : new ∈ (perform libs act input s).2) :
    Owned (s.conns c).state.authenticatedAgent new := by
  have next := perform_next act input s new pushed
  cases new with
  | register c' key dnaText agentText =>
    cases act with
    | receive c'' f =>
      cases belongs
      rcases next with ⟨message, rfl, _, rfl, _, authenticated, same⟩ | ⟨message, other⟩ | ⟨_, cleaning⟩
      · rw [authenticated] at known
        obtain ⟨agent, is⟩ := Option.isSome_iff_exists.mp known.symm
        exact is.trans (congrArg some (same auth agent is))
      · cases other
      · simp [Cleans] at cleaning
    | _ => simp [Next, Cleans] at next
  | registerDna key =>
    cases act with
    | register c' k dnaText agentText =>
      have same : key = k := by simpa [Next] using next
      subst same
      exact owned
    | _ => simp [Next, Admitted, Cleans] at next
  | kitsune inner =>
    intro key joins
    cases act with
    | register c' k dnaText agentText =>
      have same : inner = .joinCheck k := by simpa [Next] using next
      subst same
      cases joins
      exact owned
    | kitsune act =>
      obtain ⟨g, inner', _, pushed, same⟩ := next
      cases same
      exact owned key (Gateway.joins_of_pushed pushed joins)
    | unregister c' k dnaText agentText =>
      have same : inner = .removeAgent k := by simpa [Next] using next
      subst same
      cases joins
    | isRegistered k signal =>
      have same : inner = .spaceLookup k.1 .other := by simpa [Next] using next
      subst same
      cases joins.2
    | receive c' f =>
      rcases next with ⟨message, _, _, admitted⟩ | ⟨message, other⟩ | ⟨_, cleaning⟩
      · cases admitted
      · cases other
      · exact absurd joins cleaning.not_joins
    | reply c' message =>
      rcases next with other | cleaning
      · cases other
      · exact absurd joins cleaning.not_joins
    | _ => simp [Next] at next
  | _ => trivial

/-- What the cleanup of a connection does to its channel. -/
def Ends (c : WsSender) : Section → Prop
  | .unregisterAll c' | .close c' => c' = c
  | _ => False

theorem Ends.cases {c : WsSender} {act : Section} (ends : Ends c act) :
    act = .unregisterAll c ∨ act = .close c := by
  cases act with
  | unregisterAll c' => exact .inl (congrArg Section.unregisterAll ends)
  | close c' => exact .inr (congrArg Section.close ends)
  | _ => cases ends

/-- The sections that only the cleanup of a connection has. -/
def Tears (c : WsSender) : Section → Prop
  | .unregisterAll c' | .unregisterWsSender c' | .close c' => c' = c
  | _ => False

theorem cleanup_tears {c c' : WsSender} {new : Section} (tears : Tears c new)
    (pushed : new ∈ cleanup c' s) : c' = c := by
  rcases mem_cleanup pushed with rfl | ⟨key, _, rfl⟩ | rfl | rfl <;> first | exact tears | cases tears

/-- What goes on with a cleanup has begun it. -/
theorem tears_pushed {act new : Section} {input : Input} {c : WsSender} (tears : Tears c new)
    (pushed : new ∈ (perform libs act input s).2) : perform libs act input s = beginCleanup c s := by
  have next := perform_next act input s new pushed
  cases act with
  | receive c' f =>
    have turn := receive_received libs (s := s) c' f
    simp only [perform] at pushed ⊢
    generalize receive libs c' f s = after at turn pushed ⊢
    cases turn with
    | notOpen f phase => cases pushed
    | handled message state act opened handled =>
      cases List.mem_singleton.mp pushed
      have admitted := handled.admitted
      cases new <;> first | exact False.elim tears | cases admitted
    | malformed e opened =>
      cases List.mem_singleton.mp pushed
      cases tears
    | ended opened => rw [cleanup_tears tears pushed]
  | reply c' message =>
    simp only [perform, reply] at pushed ⊢
    split at pushed
    next gone => rw [if_pos gone, cleanup_tears tears pushed]
    next =>
      split at pushed
      · cases pushed
      · cases List.mem_singleton.mp pushed
        cases tears
  | _ => cases new <;> first | exact False.elim tears | simp [Next] at next

theorem beginCleanup_ended (c : WsSender) : Ended ((beginCleanup c s).1.conns c) :=
  .inl (by simp [beginCleanup])

/-- A cleanup starts by ending the connection. -/
theorem ends_pushed {act new : Section} {input : Input} {c : WsSender} (ends : Ends c new)
    (pushed : new ∈ (perform libs act input s).2) : Ended ((perform libs act input s).1.conns c) := by
  have tears : Tears c new := by
    rcases ends.cases with rfl | rfl <;> rfl
  rw [tears_pushed tears pushed]
  exact beginCleanup_ended c

/-- What is known of the handlers, whoever they act for. -/
structure Orderly (p : Running) : Prop where
  alone : ∀ t, ∀ act ∈ p.tasks t, Alone act → p.tasks t = [act]
  ending : ∀ t c, ∀ act ∈ p.tasks t, Ends c act → Ended (p.shared.conns c)

theorem orderly_start (s : System) : Orderly (.start s) where
  alone t act member := by cases member
  ending t c act member := by cases member

theorem orderly_call (t : Task) (request : Request) (p : Running) (_ : p.tasks t = [])
    (inv : Orderly p) : Orderly ⟨p.shared, Function.update p.tasks t (Request.body t request)⟩ where
  alone u act member alone := by
    by_cases same : u = t
    · subst same
      simp only [Function.update_self] at member ⊢
      exact (body_starts member).2
    · simp only [Function.update_of_ne same] at member ⊢
      exact inv.alone u act member alone
  ending u c act member ends := by
    rcases mem_of_call member with ⟨rfl, first⟩ | old
    · have starts := (body_starts first).1
      rcases ends.cases with rfl | rfl <;> cases starts
    · exact inv.ending u c act old ends

/-- What runs alone has nothing behind it. -/
theorem Orderly.lonely {p : Running} {t : Task} {act : Section} {rest : List Section} (inv : Orderly p)
    (running : p.tasks t = act :: rest) (alone : Alone act) : rest = [] := by
  have only := inv.alone t act (by simp [running]) alone
  rw [running] at only
  exact (List.cons.inj only).2

theorem orderly_turn (t : Task) (input : Input) (act : Section) (rest : List Section) (p : Running)
    (running : p.tasks t = act :: rest) (inv : Orderly p) :
    Orderly ⟨(perform libs act input p.shared).1,
      Function.update p.tasks t ((perform libs act input p.shared).2 ++ rest)⟩ where
  alone u other member alone := by
    by_cases here : u = t
    · subst here
      simp only [Function.update_self, List.mem_append] at member ⊢
      rcases member with pushed | waiting
      · obtain ⟨actAlone, one⟩ := pushed_alone alone pushed
        rw [one, inv.lonely running actAlone, List.append_nil]
      · have only := inv.alone u other (by simp [running, waiting]) alone
        rw [running] at only
        rw [(List.cons.inj only).2] at waiting
        cases waiting
    · simp only [Function.update_of_ne here] at member ⊢
      exact inv.alone u other member alone
  ending u c other member ends := by
    rcases mem_of_turn running member with ⟨rfl, pushed⟩ | old
    · exact ends_pushed ends pushed
    · exact (inv.ending u c other old ends).perform act input

theorem orderly_execute (kitsune auth : Bool) (schedule : List (Event Task Request Input)) :
    Orderly ((program libs).execute schedule (.start (.start kitsune auth))) :=
  execute_turns Orderly _ orderly_call
    (fun t input act rest p running _ => orderly_turn t input act rest p running)
    schedule _ (guarded_trivial schedule _) (orderly_start _)

/-- With authentication, what is known of the connections and their handlers. -/
structure Identified (p : Running) : Prop extends Orderly p where
  auth : p.shared.authStore.isSome = true
  agent : ∀ c, (p.shared.conns c).state.authenticated =
    (p.shared.conns c).state.authenticatedAgent.isSome
  owned : ∀ c, ∀ act ∈ p.tasks (.conn c), Owned (p.shared.conns c).state.authenticatedAgent act

theorem identified_start (kitsune : Bool) : Identified (.start (.start kitsune true)) where
  toOrderly := orderly_start _
  auth := rfl
  agent c := rfl
  owned c act member := by cases member

theorem identified_call (t : Task) (request : Request) (p : Running) (idle : p.tasks t = [])
    (inv : Identified p) :
    Identified ⟨p.shared, Function.update p.tasks t (Request.body t request)⟩ where
  toOrderly := orderly_call t request p idle inv.toOrderly
  auth := inv.auth
  agent := inv.agent
  owned c act member := by
    rcases mem_of_call member with ⟨rfl, first⟩ | old
    · cases request <;> simp_all [Request.body, Owned]
    · exact inv.owned c act old

theorem identified_turn (t : Task) (input : Input) (act : Section) (rest : List Section) (p : Running)
    (running : p.tasks t = act :: rest) (belongs : Belongs t act) (inv : Identified p) :
    Identified ⟨(perform libs act input p.shared).1,
      Function.update p.tasks t ((perform libs act input p.shared).2 ++ rest)⟩ := by
  have head : act ∈ p.tasks t := by simp [running]
  have same (c : WsSender) (changed : (∀ agent token, act ≠ .registerWsSender c agent token) ∧
      act ≠ .connect c) : ((perform libs act input p.shared).1.conns c).state.authenticatedAgent =
        (p.shared.conns c).state.authenticatedAgent := by
    have identity := perform_identity libs act input c inv.auth
    rw [identityAfter_same changed.1 (absurd · changed.2)] at identity
    exact congrArg Prod.snd identity
  refine ⟨orderly_turn t input act rest p running inv.toOrderly, ?_, ?_, ?_⟩
  · simp [perform_authStore, inv.auth]
  · intro c
    have identity := perform_identity libs act input c inv.auth
    exact (congrArg Prod.fst identity).trans
      ((identityAfter_agent (inv.agent c)).trans (congrArg (·.2.isSome) identity).symm)
  · intro c other member
    by_cases here : Task.conn c = t
    · subst here
      simp only [Function.update_self, List.mem_append] at member
      by_cases changed : (∃ agent token, act = .registerWsSender c agent token) ∨ act = .connect c
      · -- The agent is new, and no section for an earlier one is left.
        rcases changed with ⟨agent, token, rfl⟩ | rfl
        · rw [inv.lonely running trivial] at member
          have replying : other = .reply c (.authOk token.text) := by simpa [perform] using member
          subst replying
          trivial
        · rw [inv.lonely running trivial] at member
          simp [perform] at member
      · rw [same c (by simpa using changed)]
        rcases member with pushed | waiting
        · exact perform_owned inv.auth (inv.agent c) belongs (inv.owned c act head) pushed
        · exact inv.owned c other (by simp [running, waiting])
    · rw [same c]
      · exact inv.owned c other (by simpa [here] using member)
      · refine ⟨?_, ?_⟩
        · rintro agent token rfl
          exact here belongs.symm
        · rintro rfl
          exact here belongs.symm

theorem identified_execute (kitsune : Bool) (schedule : List (Event Task Request Input)) :
    Identified ((program libs).execute schedule (.start (.start kitsune true))) :=
  execute_turns Identified _ identified_call identified_turn schedule _
    (guarded_belongs kitsune true schedule) (identified_start kitsune)

end H2hcLinker.WebSocket
