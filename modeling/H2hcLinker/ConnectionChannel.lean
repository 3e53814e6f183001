import H2hcLinker.SenderTracking

/-! What goes through the channel of a connection: the handlers, the signals and the signing requests
put messages on it, the send task takes them off. -/
namespace H2hcLinker.WebSocket

open HashTable Interleaving Past

variable {libs : Libraries} {s : System} {p : Running} {c : WsSender} {act : Section} {input : Input}

/-- The channel takes another message. -/
def Accepting (s : System) (c : WsSender) : Prop :=
  (s.conns c).receiverGone = false ∧ s.hasRoom c = true

instance : Decidable (Accepting s c) := inferInstanceAs (Decidable (_ ∧ _))

/-- What a handler puts on the channel of its connection. -/
def answerTo (c : WsSender) (s : System) : Section → Option ServerMessage
  | .reply c' message | .notify c' message =>
    if c' = c ∧ Accepting s c then some message else none
  | _ => none

/-- What any section puts on the channel. -/
def sentTo (c : WsSender) (s : System) : Section → Option ServerMessage
  | .signSend c' _ _ message => if c' = c ∧ Accepting s c then some message else none
  | .sendSignal key message =>
    if s.agentProxy.registrations.lookup key = some c ∧ Accepting s c then some message else none
  | act => answerTo c s act

/-- What the send task takes off the channel. -/
def takenFrom (c : WsSender) (s : System) : Section → Option ServerMessage
  | .forward c' =>
    if c' = c ∧ (s.conns c).receiverGone = false then (s.conns c).queue.head? else none
  | _ => none

/-- The messages put on the channel, oldest first. -/
def sent (c : WsSender) (past : List Instant) : List ServerMessage :=
  past.filterMap fun m => sentTo c m.pool.shared m.act

/-- Those of them that handlers put there. -/
def answers (c : WsSender) (past : List Instant) : List ServerMessage :=
  past.filterMap fun m => answerTo c m.pool.shared m.act

/-- The messages taken off the channel, oldest first. -/
def taken (c : WsSender) (past : List Instant) : List ServerMessage :=
  past.filterMap fun m => takenFrom c m.pool.shared m.act

/-- An answer is something sent. -/
theorem sentTo_of_answerTo {message : ServerMessage} (answered : answerTo c s act = some message) :
    sentTo c s act = some message := by
  cases act with
  | reply c' sent => exact answered
  | notify c' sent => exact answered
  | _ => cases answered

theorem answers_sublist_sent (c : WsSender) (past : List Instant) :
    (answers c past).Sublist (sent c past) := by
  unfold answers sent
  induction past with
  | nil => exact .slnil
  | cons m past ih =>
    simp only [List.filterMap_cons]
    cases answered : answerTo c m.pool.shared m.act with
    | none =>
      cases sentTo c m.pool.shared m.act with
      | none => exact ih
      | some message => exact ih.cons message
    | some message =>
      rw [sentTo_of_answerTo answered]
      exact ih.cons_cons message

theorem updateConn_queue (c' : WsSender) (f : Connection → Connection)
    (keeps : ∀ conn, (f conn).queue = conn.queue) :
    ((s.updateConn c' f).conns c).queue = (s.conns c).queue := by
  by_cases here : c = c'
  · subst here
    rw [System.updateConn_conns_self, keeps]
  · rw [System.updateConn_conns_of_ne c' f s here]

theorem setState_queue (c' : WsSender) (state : ConnectionState) :
    ((s.setState c' state).conns c).queue = (s.conns c).queue :=
  updateConn_queue c' (fun conn => { conn with state }) fun _ => rfl

theorem enqueue_queue (c' : WsSender) (message : ServerMessage) :
    ((s.enqueue c' message).conns c).queue =
      (s.conns c).queue ++ (if c' = c then some message else none).toList := by
  by_cases here : c' = c
  · subst here
    simp [System.enqueue]
  · rw [System.enqueue, System.updateConn_conns_of_ne c' _ s (Ne.symm here)]
    simp [here]

theorem enqueue_accepting (c' : WsSender) (message : ServerMessage) (accepting : Accepting s c') :
    ((s.enqueue c' message).conns c).queue =
      (s.conns c).queue ++ (if c' = c ∧ Accepting s c then some message else none).toList := by
  rw [enqueue_queue]
  by_cases here : c' = c
  · subst here
    simp [accepting]
  · simp [here]

theorem not_accepting_queue (c' : WsSender) (message : ServerMessage) (closed : ¬Accepting s c') :
    (s.conns c).queue =
      (s.conns c).queue ++ (if c' = c ∧ Accepting s c then some message else none).toList := by
  have never : ¬(c' = c ∧ Accepting s c) := by
    rintro ⟨rfl, accepting⟩
    exact closed accepting
  simp [never]

theorem send_queue (c' : WsSender) (message : ServerMessage) (sent closed waiting : List Section) :
    ((send c' message sent closed waiting s).1.conns c).queue =
      (s.conns c).queue ++ (if c' = c ∧ Accepting s c then some message else none).toList := by
  unfold send
  split
  next gone => exact not_accepting_queue c' message (by simp [Accepting, gone])
  next present =>
    split
    next room => exact enqueue_accepting c' message ⟨by simpa using present, room⟩
    next full => exact not_accepting_queue c' message fun accepting => full accepting.2

theorem reply_queue (c' : WsSender) (message : ServerMessage) :
    ((reply c' message s).1.conns c).queue =
      (s.conns c).queue ++ (if c' = c ∧ Accepting s c then some message else none).toList := by
  unfold reply
  split
  next gone =>
    have closed : ¬Accepting s c' := by simp [Accepting, gone]
    exact (updateConn_queue c' (fun conn => { conn with phase := .closing }) fun _ => rfl).trans
      (not_accepting_queue c' message closed)
  next present =>
    split
    next room => exact enqueue_accepting c' message ⟨by simpa using present, room⟩
    next full => exact not_accepting_queue c' message fun accepting => full accepting.2

theorem sendSignal_queue (key : AgentRegistration) (signal : ServerMessage) :
    ((s.sendSignal key signal).conns c).queue =
      (s.conns c).queue ++ (sentTo c s (.sendSignal key signal)).toList := by
  simp only [System.sendSignal, sentTo]
  split
  next unrouted => simp [unrouted]
  next c' routed =>
    simp only [routed, Option.some.injEq, System.trySend]
    split
    next room => exact enqueue_accepting c' signal (by simpa [Accepting] using room)
    next full => exact not_accepting_queue c' signal (by simpa [Accepting] using full)

theorem forward_queue (c' : WsSender) :
    (takenFrom c s (.forward c')).toList ++
      ((perform libs (.forward c') input s).1.conns c).queue = (s.conns c).queue := by
  simp only [perform, takenFrom]
  by_cases here : c' = c
  · subst here
    cases gone : (s.conns c').receiverGone with
    | true => simp
    | false =>
      simp only [Bool.false_eq_true, if_false, and_self, if_true, System.updateConn_conns_self]
      cases (s.conns c').queue <;> rfl
  · rw [if_neg (here ·.1), Option.toList_none, List.nil_append]
    split
    · rfl
    · exact congrArg _ (System.updateConn_conns_of_ne c' _ s (Ne.symm here))

/-- Where it does not open the connection, a section puts what it sends behind the queue, and what
the send task takes is its head. -/
theorem perform_queue (libs : Libraries) (act : Section) (input : Input) (s : System) (c : WsSender)
    (opened : act = .connect c → (s.conns c).phase ≠ .absent) :
    (takenFrom c s act).toList ++ ((perform libs act input s).1.conns c).queue =
      (s.conns c).queue ++ (sentTo c s act).toList := by
  cases act with
  | forward c' => exact (forward_queue c').trans (List.append_nil _).symm
  | reply c' message => exact reply_queue c' message
  | notify c' message => exact send_queue c' message _ _ _
  | signSend c' requestId oneshot message => exact send_queue c' message _ _ _
  | sendSignal key signal => exact sendSignal_queue key signal
  | connect c' =>
    refine Eq.trans ?_ (List.append_nil _).symm
    simp only [perform]
    split
    next fresh =>
      have other : c ≠ c' := by
        rintro rfl
        exact opened rfl fresh
      exact congrArg Connection.queue (System.updateConn_conns_of_ne c' _ s other)
    next => rfl
  | receive c' f =>
    refine Eq.trans ?_ (List.append_nil _).symm
    have turn := receive_received libs (s := s) c' f
    simp only [perform]
    generalize receive libs c' f s = next at turn ⊢
    cases turn with
    | notOpen f phase => rfl
    | handled message state act opened handled => exact setState_queue c' state
    | malformed e opened => rfl
    | ended opened => exact updateConn_queue c' (fun conn => { conn with phase := .closing }) fun _ => rfl
  | isAgentAllowed c' agent =>
    refine Eq.trans ?_ (List.append_nil _).symm
    simp only [perform]
    split
    · exact setState_queue c' _
    · rfl
  | registerWsSender c' agent token =>
    refine Eq.trans ?_ (List.append_nil _).symm
    exact setState_queue (s := s.mapAuth (·.registerWsSender agent c')) c' _
  | close c' =>
    refine Eq.trans ?_ (List.append_nil _).symm
    exact updateConn_queue c' (fun conn => { conn with phase := .closed, receiverGone := true })
      fun _ => rfl
  | dropReceiver c' =>
    refine Eq.trans ?_ (List.append_nil _).symm
    exact updateConn_queue c' (fun conn => { conn with receiverGone := true }) fun _ => rfl
  | kitsune act =>
    refine Eq.trans ?_ (List.append_nil _).symm
    simp only [perform]
    split <;> rfl
  | deliverSignature requestId result =>
    refine Eq.trans ?_ (List.append_nil _).symm
    simp only [perform, System.deliverSignature]
    split <;> rfl
  | unregisterWsSender c' =>
    refine Eq.trans ?_ (List.append_nil _).symm
    simp only [perform]
    split <;> rfl
  | _ => exact (List.append_nil _).symm

/-- Only an accepting channel is sent anything. -/
theorem sentTo_accepting {message : ServerMessage} (sends : sentTo c s act = some message) :
    Accepting s c := by
  cases act with
  | reply c' sent | notify c' sent | signSend c' _ _ sent | sendSignal key sent =>
    simp only [sentTo, answerTo] at sends
    split at sends
    next both => exact both.2
    next => cases sends
  | _ => cases sends

theorem perform_queue_length (opened : act = .connect c → (s.conns c).phase ≠ .absent)
    (short : (s.conns c).queue.length ≤ System.channelCapacity) :
    ((perform libs act input s).1.conns c).queue.length ≤ System.channelCapacity := by
  have lengths := congrArg List.length (perform_queue libs act input s c opened)
  simp only [List.length_append] at lengths
  cases sends : sentTo c s act with
  | none =>
    rw [sends, Option.toList_none, List.length_nil] at lengths
    omega
  | some message =>
    have room := (sentTo_accepting sends).2
    simp only [System.hasRoom, decide_eq_true_eq] at room
    rw [sends, Option.toList_some, List.length_singleton] at lengths
    omega

/-- The sections that only an opened connection gives rise to. -/
def Concerns (c : WsSender) : Section → Prop
  | .isAgentAllowed c' _ | .sessionLookup c' _ | .sessionInsert c' _ _ | .registerWsSender c' _ _
  | .register c' _ _ _ | .unregister c' _ _ _ | .peerCount c' | .reply c' _ | .notify c' _
  | .unregisterAll c' | .unregisterWsSender c' | .close c' | .signNumber _ _ c' | .signStore _ _ c' _
  | .signSend c' _ _ _ => c' = c
  | _ => False

theorem Cleans.concerns {c' : WsSender} (cleans : Cleans c' s act) (concerns : Concerns c act) :
    c' = c := by
  rcases cleans with rfl | ⟨key, _, rfl⟩ | rfl | rfl
  · exact concerns
  · cases concerns
  · exact concerns
  · exact concerns

theorem Admitted.concerns {c' : WsSender} {message : ClientMessage} {state : ConnectionState}
    {auth : Bool} (admitted : Admitted libs c' message state auth act) (concerns : Concerns c act) :
    c' = c := by
  cases act with
  | register c'' key dnaText agentText => exact admitted.1.symm.trans concerns
  | unregister c'' key dnaText agentText => exact admitted.1.symm.trans concerns
  | reply c'' sent | isAgentAllowed c'' agent | sessionLookup c'' agent | peerCount c'' =>
    exact Eq.trans (Eq.symm admitted) concerns
  | deliverSignature requestId result => cases concerns
  | remoteSignals dna signals => cases concerns
  | _ => cases admitted

/-- A signing request asks a channel that the table leads to. -/
theorem signFind_routed {agent : AgentPubKey} {agentInfo : String} {sender : WsSender}
    {other : String} {asked : AgentPubKey} {pick : AgentRegistration}
    (pushed : Section.signNumber asked other sender ∈ signFind agent agentInfo pick s) :
    s.agentProxy.registrations.lookup pick = some sender := by
  unfold signFind at pushed
  split at pushed
  · split at pushed
    next c' routed =>
      split at pushed
      · cases List.mem_singleton.mp pushed
        exact routed
      · cases List.mem_singleton.mp pushed
    next => cases List.mem_singleton.mp pushed
  · cases pushed

/-- What concerns a connection comes from its loop, from a section that does, or by the table. -/
theorem concerns_pushed {new : Section} (concerns : Concerns c new)
    (pushed : new ∈ (perform libs act input s).2) :
    Concerns c act ∨ (s.conns c).phase = .open ∨
      ∃ key, s.agentProxy.registrations.lookup key = some c := by
  have next := perform_next act input s new pushed
  cases act with
  | receive c' f =>
    have opened : (s.conns c').phase = .open := by
      by_contra other
      simp only [perform, receive, if_pos other] at pushed
      cases pushed
    have same : c' = c := by
      rcases next with ⟨message, _, _, admitted⟩ | ⟨message, rfl⟩ | ⟨_, cleans⟩
      · exact admitted.concerns concerns
      · exact concerns
      · exact cleans.concerns concerns
    exact .inr (.inl (same ▸ opened))
  | signFind agent agentInfo =>
    rcases next with rfl | ⟨sender, rfl⟩
    · cases concerns
    · exact .inr (.inr ⟨input.pick, concerns ▸ signFind_routed pushed⟩)
  | reply c' message =>
    rcases next with rfl | cleans
    · exact .inl concerns
    · exact .inl (cleans.concerns concerns)
  | register c' key dnaText agentText =>
    rcases next with rfl | rfl | ⟨message, rfl⟩
    · cases concerns
    · cases concerns
    · exact .inl concerns
  | unregister c' key dnaText agentText =>
    rcases next with rfl | ⟨message, rfl⟩
    · cases concerns
    · exact .inl concerns
  | isAgentAllowed c' agent =>
    obtain ⟨message, rfl⟩ := next
    exact .inl concerns
  | peerCount c' =>
    obtain ⟨message, rfl⟩ := next
    exact .inl concerns
  | sessionLookup c' agent =>
    rcases next with ⟨message, rfl⟩ | ⟨capabilities, _, rfl⟩
    · exact .inl concerns
    · exact .inl concerns
  | sessionInsert c' agent capabilities =>
    cases next
    exact .inl concerns
  | registerWsSender c' agent token =>
    cases next
    exact .inl concerns
  | notify c' message =>
    cases next
    exact .inl concerns
  | kitsune inner =>
    obtain ⟨g, inner', _, _, rfl⟩ := next
    cases concerns
  | remoteSignals dna signals =>
    rcases next with ⟨rest, rfl⟩ | ⟨target, signal, rfl⟩
    · cases concerns
    · cases concerns
  | isRegistered key signal =>
    rcases next with rfl | rfl
    · cases concerns
    · cases concerns
  | removeAgent agent =>
    cases next
    cases concerns
  | signNumber agent agentInfo sender =>
    obtain ⟨id, rfl⟩ := next
    exact .inl concerns
  | signStore agent agentInfo sender id =>
    obtain ⟨message, rfl⟩ := next
    exact .inl concerns
  | signSend sender id n message =>
    rcases next with rfl | rfl | ⟨result, rfl⟩
    · exact .inl concerns
    · cases concerns
    · cases concerns
  | signWait id n =>
    rcases next with rfl | ⟨result, rfl⟩
    · cases concerns
    · cases concerns
  | _ => cases next

/-- Nothing is about a connection before it opens. -/
def Unopened (p : Running) : Prop :=
  ∀ c, (p.shared.conns c).phase = .absent →
    (∀ key, p.shared.agentProxy.registrations.lookup key ≠ some c) ∧
      ∀ t, ∀ act ∈ p.tasks t, ¬Concerns c act

theorem unopened_turn (t : Task) (input : Input) (act : Section) (rest : List Section) (p : Running)
    (running : p.tasks t = act :: rest) (inv : Unopened p) :
    Unopened ⟨(perform libs act input p.shared).1,
      Function.update p.tasks t ((perform libs act input p.shared).2 ++ rest)⟩ := by
  intro c absent
  have before : (p.shared.conns c).phase = .absent := by
    by_contra present
    exact perform_not_absent act input present absent
  obtain ⟨unrouted, unconcerned⟩ := inv c before
  have head : act ∈ p.tasks t := by simp [running]
  refine ⟨?_, ?_⟩
  · intro key found
    rw [perform_registrations] at found
    rcases lookup_registrationsAfter found with old | ⟨dnaText, agentText, rfl⟩
    · exact unrouted key old
    · exact unconcerned t _ head rfl
  · intro u other member concerns
    rcases mem_of_turn running member with ⟨_, pushed⟩ | old
    · rcases concerns_pushed concerns pushed with earlier | opened | ⟨key, routed⟩
      · exact unconcerned t act head earlier
      · rw [before] at opened
        cases opened
      · exact unrouted key routed
    · exact unconcerned u other old concerns

theorem unopened_call (t : Task) (request : Request) (p : Running) (_ : p.tasks t = [])
    (inv : Unopened p) : Unopened ⟨p.shared, Function.update p.tasks t (Request.body t request)⟩ := by
  intro c absent
  obtain ⟨unrouted, unconcerned⟩ := inv c absent
  refine ⟨unrouted, ?_⟩
  intro u act member concerns
  rcases mem_of_call member with ⟨_, first⟩ | old
  · have starts := (body_starts first).1
    cases act <;> first | exact False.elim concerns | exact False.elim starts
  · exact unconcerned u act old concerns

theorem unopened_execute (kitsune auth : Bool) (schedule : List (Event Task Request Input)) :
    Unopened ((program libs).execute schedule (.start (.start kitsune auth))) := by
  apply execute_turns Unopened _ unopened_call
    (fun t input act rest p running _ => unopened_turn t input act rest p running)
    schedule _ (guarded_trivial schedule _)
  intro c _
  refine ⟨fun key => by simp [Pool.start, System.start, AgentProxyManager.new], ?_⟩
  intro t act member
  cases member

/-- What is queued is what was sent and not yet taken, never more than the channel holds. -/
structure Delivers (past : List Instant) (p : Running) (c : WsSender) : Prop where
  order : taken c past ++ (p.shared.conns c).queue = sent c past
  bound : (p.shared.conns c).queue.length ≤ System.channelCapacity
  unused : (p.shared.conns c).phase = .absent → sent c past = []

theorem sentTo_concerns (sends : sentTo c s act ≠ none) :
    Concerns c act ∨ ∃ key, s.agentProxy.registrations.lookup key = some c := by
  cases act with
  | reply c' message | notify c' message | signSend c' _ _ message =>
    simp only [sentTo, answerTo] at sends
    split at sends
    next both => exact .inl both.1
    next => exact absurd rfl sends
  | sendSignal key message =>
    simp only [sentTo] at sends
    split at sends
    next both => exact .inr ⟨key, both.1⟩
    next => exact absurd rfl sends
  | _ => exact absurd rfl sends

theorem Unopened.sends_nothing (inv : Unopened p) (absent : (p.shared.conns c).phase = .absent)
    {t : Task} (head : act ∈ p.tasks t) : sentTo c p.shared act = none := by
  by_contra sends
  obtain ⟨unrouted, unconcerned⟩ := inv c absent
  rcases sentTo_concerns sends with concerns | ⟨key, routed⟩
  · exact unconcerned t act head concerns
  · exact unrouted key routed

theorem sent_snoc (c : WsSender) (past : List Instant) (m : Instant) :
    sent c (past ++ [m]) = sent c past ++ (sentTo c m.pool.shared m.act).toList :=
  filterMap_snoc _ past m

theorem taken_snoc (c : WsSender) (past : List Instant) (m : Instant) :
    taken c (past ++ [m]) = taken c past ++ (takenFrom c m.pool.shared m.act).toList :=
  filterMap_snoc _ past m

theorem delivers_turn (past : List Instant) (t : Task) (input : Input) (act : Section)
    (rest : List Section) (p : Running) (running : p.tasks t = act :: rest) (unopened : Unopened p)
    (inv : Delivers past p c) :
    Delivers (past ++ [⟨p, t, act, input⟩]) ⟨(perform libs act input p.shared).1,
      Function.update p.tasks t ((perform libs act input p.shared).2 ++ rest)⟩ c := by
  have head : act ∈ p.tasks t := by simp [running]
  by_cases opening : act = .connect c ∧ (p.shared.conns c).phase = .absent
  · -- The channel is new, and nothing went through it before.
    obtain ⟨rfl, absent⟩ := opening
    have none := inv.unused absent
    have empty : taken c past = [] := by
      have whole := inv.order.trans none
      exact (List.append_eq_nil_iff.mp whole).1
    have fresh : (perform libs (.connect c) input p.shared).1.conns c = ⟨.open, .default, [], false⟩ := by
      simp [perform, absent]
    refine ⟨?_, ?_, ?_⟩
    · rw [taken_snoc, sent_snoc, none, empty, fresh]
      rfl
    · rw [fresh]
      exact Nat.zero_le _
    · rw [fresh]
      exact fun absent => by cases absent
  · have opened : act = .connect c → (p.shared.conns c).phase ≠ .absent :=
      fun connects absent => opening ⟨connects, absent⟩
    refine ⟨?_, perform_queue_length opened inv.bound, ?_⟩
    · rw [taken_snoc, sent_snoc, List.append_assoc, perform_queue libs act input p.shared c opened,
        ← List.append_assoc, inv.order]
    · intro absent
      have before : (p.shared.conns c).phase = .absent := by
        by_contra present
        exact perform_not_absent act input present absent
      rw [sent_snoc, inv.unused before, unopened.sends_nothing before head]
      rfl

theorem guarded_unopened (kitsune auth : Bool) (schedule : List (Event Task Request Input)) :
    (program libs).Guarded (OnTurn fun p _ _ _ => Unopened p) schedule
      (.start (.start kitsune auth)) :=
  guarded_of_execute (program libs) Unopened schedule _ fun before _ =>
    unopened_execute kitsune auth before

/-- The channel of every connection keeps the order, loses nothing and stays in its bound. -/
theorem delivers_execute (libs : Libraries) (kitsune auth : Bool)
    (schedule : List (Event Task Request Input)) (c : WsSender) :
    Delivers ((program libs).moments schedule (.start (.start kitsune auth)))
      ((program libs).execute schedule (.start (.start kitsune auth))) c := by
  apply execute_moments (fun past p => Delivers past p c) (fun p _ _ _ => Unopened p) _
    (fun past t input act rest p => delivers_turn past t input act rest p) schedule [] _
    (guarded_unopened kitsune auth schedule)
  · exact ⟨rfl, Nat.zero_le _, fun _ => rfl⟩
  · intro past t request p _ inv
    exact ⟨inv.order, inv.bound, inv.unused⟩

end H2hcLinker.WebSocket
