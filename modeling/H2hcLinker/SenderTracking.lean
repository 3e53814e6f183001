import H2hcLinker.Handshake
import H2hcLinker.RoutingTable

/-! The senders that the authentication store keeps for each agent, against the connections. A
handshake lists the channel under its agent; a teardown takes it out for the agent that the
connection is authenticated as by then. -/
namespace H2hcLinker.WebSocket

open HashTable Interleaving Past

variable {libs : Libraries} {s : System} {p : Running} {act : Section} {rest : List Section}
  {input : Input} {t : Task} {c : WsSender} {agent : AgentPubKey} {past : List Instant}

/-- The channels listed for an agent. -/
def System.wsSenders (s : System) (agent : AgentPubKey) : List WsSender :=
  (s.authStore.bind (·.wsSenders.lookup agent)).getD []

def System.wsConnectionCount (s : System) (agent : AgentPubKey) : Nat :=
  (s.authStore.map (·.wsConnectionCount agent)).getD 0

theorem wsConnectionCount_eq (s : System) (agent : AgentPubKey) :
    s.wsConnectionCount agent = (s.wsSenders agent).length := by
  unfold System.wsConnectionCount System.wsSenders
  cases s.authStore <;> rfl

/-- The event lists the channel for the agent. -/
def Enrols (c : WsSender) (agent : AgentPubKey) (m : Instant) : Prop :=
  ∃ token, m.act = .registerWsSender c agent token

/-- A handshake of the connection for the agent, whose list was not deleted since. -/
def Enrolled (c : WsSender) (agent : AgentPubKey) : List Instant → Prop :=
  Since (fun m => m.act ≠ .dropWsSenders agent) fun _ m => Enrols c agent m

/-- The last handshake of the connection was for the agent. -/
def LatestFor (c : WsSender) (agent : AgentPubKey) : List Instant → Prop :=
  Since (fun m => ∀ other, ¬Enrols c other m) fun _ m => Enrols c agent m

/-- The event leaves the agent's list as it is for the channel, or adds to it. -/
def KeepsListed (c : WsSender) (agent : AgentPubKey) (m : Instant) : Prop :=
  m.act ≠ .dropWsSenders agent ∧
    ¬(m.act = .unregisterWsSender c ∧
      (m.pool.shared.conns c).state.authenticatedAgent = some agent)

/-- The loop of the connection is over and its teardown has run. -/
def Returned (p : Running) (c : WsSender) : Prop :=
  Ended (p.shared.conns c) ∧ p.tasks (.conn c) = []

/-- No list holds the channel of a connection that was torn down, and with all of them torn down
the lists are empty. -/
structure NoSenderLeak (p : Running) : Prop where
  returned : ∀ c, Returned p c → ∀ agent, c ∉ p.shared.wsSenders agent
  counts : (∀ c, (p.shared.conns c).phase = .absent ∨ Returned p c) →
    ∀ agent, p.shared.wsConnectionCount agent = 0

theorem senders_registerWsSender (a : AuthStore) (c : WsSender) (agent other : AgentPubKey) :
    ((a.registerWsSender agent c).wsSenders.lookup other).getD [] =
      if other = agent then (a.wsSenders.lookup other).getD [] ++ [c]
      else (a.wsSenders.lookup other).getD [] := by
  rw [AuthStore.registerWsSender, lookup_insert_eq]
  by_cases same : other = agent
  · subst same
    rw [if_pos rfl, if_pos rfl, Option.getD_some]
  · rw [if_neg same, if_neg same]

/-- An empty list and none are the same to a lookup. -/
theorem senders_unregisterWsSender (a : AuthStore) (c : WsSender) (agent other : AgentPubKey) :
    ((a.unregisterWsSender agent c).wsSenders.lookup other).getD [] =
      if other = agent then ((a.wsSenders.lookup other).getD []).filter (· ≠ c)
      else (a.wsSenders.lookup other).getD [] := by
  unfold AuthStore.unregisterWsSender
  split
  next absent =>
    split
    next same => rw [same, absent]; rfl
    next => rfl
  next senders found =>
    split
    next none =>
      rw [lookup_erase_eq]
      split
      next same => rw [same, found, Option.getD_some, none]; rfl
      next => rfl
    next =>
      rw [lookup_insert_eq]
      split
      next same => rw [same, found]; rfl
      next => rfl

theorem mem_wsSenders_perform (libs : Libraries) (p : Running) (t : Task) (act : Section)
    (input : Input) (c : WsSender) (agent : AgentPubKey) (auth : p.shared.authStore.isSome = true) :
    c ∈ (perform libs act input p.shared).1.wsSenders agent ↔
      Enrols c agent ⟨p, t, act, input⟩ ∨
        c ∈ p.shared.wsSenders agent ∧ KeepsListed c agent ⟨p, t, act, input⟩ := by
  obtain ⟨a, configured⟩ := Option.isSome_iff_exists.mp auth
  simp only [System.wsSenders, perform_authStore, configured, Option.map_some, Option.bind_some,
    Enrols, KeepsListed]
  cases act with
  | registerWsSender c' agent' token =>
    simp only [authAfter, senders_registerWsSender]
    by_cases same : agent = agent' <;> by_cases here : c = c' <;> simp [same, here, eq_comm]
  | unregisterWsSender c' =>
    simp only [authAfter]
    cases known : (p.shared.conns c').state.authenticatedAgent with
    | none =>
      by_cases here : c = c'
      · subst here
        simp [known]
      · simp [Ne.symm here]
    | some agent' =>
      simp only [senders_unregisterWsSender]
      by_cases same : agent = agent' <;> by_cases here : c = c' <;> simp [same, here, eq_comm, known]
  | dropWsSenders agent' =>
    simp only [authAfter, AuthStore.dropWsSenders, lookup_erase_eq]
    by_cases same : agent = agent' <;> simp [same, eq_comm]
  | _ => simp [authAfter]

/-- A handshake goes on from its own sections, and starts on an open connection. -/
theorem proves_pushed {new : Section} (proves : Proves c new)
    (pushed : new ∈ (perform libs act input s).2) :
    Proves c act ∨ ((perform libs act input s).1.conns c).phase = .open := by
  have next := perform_next act input s new pushed
  cases new with
  | sessionLookup c' agent =>
    cases proves
    obtain ⟨text, nonce, rfl, _, _⟩ := sessionLookup_pushed pushed
    have alone : Alone (.sessionLookup c agent) := trivial
    exact .inr (receive_open alone pushed)
  | sessionInsert c' agent capabilities =>
    cases act with
    | sessionLookup c'' agent' =>
      rcases next with ⟨message, other⟩ | ⟨capabilities', _, same⟩
      · cases other
      · cases same
        exact .inl proves
    | _ => simp [Next, Admitted, Cleans] at next
  | registerWsSender c' agent token =>
    cases act with
    | sessionInsert c'' agent' capabilities =>
      cases next
      exact .inl proves
    | _ => simp [Next, Admitted, Cleans] at next
  | _ => cases proves

/-- The loop of a connection ends into its teardown. -/
theorem ended_pushes (act : Section) (input : Input) (loops : ¬Ended (s.conns c)) (other : act ≠ .close c)
    (ended : Ended ((perform libs act input s).1.conns c)) :
    .unregisterWsSender c ∈ (perform libs act input s).2 := by
  by_cases drops : Drops c act
  · cases act with
    | receive c' f =>
      cases drops
      have turn := receive_received libs (s := s) c f
      simp only [perform] at ended ⊢
      generalize receive libs c f s = after at turn ended ⊢
      cases turn with
      | notOpen f phase => exact absurd ended loops
      | handled message state next opened handled =>
        exact absurd (by simpa [System.setState, Ended] using ended) loops
      | malformed e opened => exact absurd ended loops
      | ended opened => simp [beginCleanup, cleanup]
    | reply c' message =>
      cases drops
      simp only [perform, reply] at ended ⊢
      split
      next gone => simp [beginCleanup, cleanup]
      next here =>
        rw [if_neg here] at ended
        refine absurd ?_ loops
        split at ended
        · simpa [System.enqueue, Ended] using ended
        · exact ended
    | close c' => exact absurd (congrArg Section.close drops) other
    | _ => cases drops
  · refine absurd ?_ loops
    have step := perform_connStep libs act input s c
    generalize (perform libs act input s).1.conns c = conn at step ended
    cases step with
    | opened fresh => simp [Ended] at ended
    | ended act ends => rcases ends with rfl | ⟨message, rfl⟩ <;> exact absurd rfl drops
    | closed => exact absurd rfl drops
    | _ => exact ended

/-- Handshakes run on open connections, and what is torn down was ended. -/
structure Phased (p : Running) : Prop where
  handshaking : ∀ t c, ∀ act ∈ p.tasks t, Proves c act → (p.shared.conns c).phase = .open
  leaving : ∀ t c, .unregisterWsSender c ∈ p.tasks t → Ended (p.shared.conns c)

theorem Proves.conn (proves : Proves c act) (belongs : Belongs t act) : t = .conn c := by
  cases act with
  | sessionLookup c' agent => exact proves ▸ belongs
  | sessionInsert c' agent capabilities => exact proves ▸ belongs
  | registerWsSender c' agent token => exact proves ▸ belongs
  | _ => cases proves

theorem Proves.alone (proves : Proves c act) : Alone act := by
  cases act <;> trivial

theorem Proves.not_drops (proves : Proves c act) : ¬Drops c act := by
  cases act <;> first | exact id | cases proves

theorem phased_turn (running : p.tasks t = act :: rest) (holding : ∀ u, ∀ new ∈ p.tasks u, Belongs u new)
    (orderly : Orderly p) (inv : Phased p) :
    Phased ⟨(perform libs act input p.shared).1,
      Function.update p.tasks t ((perform libs act input p.shared).2 ++ rest)⟩ where
  handshaking u c new member proves := by
    have head : act ∈ p.tasks t := by simp [running]
    rcases mem_of_turn running member with ⟨rfl, pushed⟩ | old
    · rcases proves_pushed proves pushed with before | opened
      · exact (open_kept libs (inv.handshaking u c act head before) act input before.not_drops).1
      · exact opened
    · have opened := inv.handshaking u c new old proves
      have waiting := old
      rw [proves.conn (holding u new old)] at waiting
      have spared := orderly.not_drops (holding t act head) running waiting proves.alone proves.not_drops
      exact (open_kept libs opened act input spared).1
  leaving u c member := by
    rcases mem_of_turn running member with ⟨rfl, pushed⟩ | old
    · change Ended ((perform libs act input p.shared).1.conns c)
      have tears : Tears c (.unregisterWsSender c) := rfl
      rw [tears_pushed tears pushed]
      exact beginCleanup_ended c
    · exact (inv.leaving u c old).perform act input

theorem phased_execute (kitsune auth : Bool) (schedule : List (Event Task Request Input)) :
    Phased ((program libs).execute schedule (.start (.start kitsune auth))) := by
  apply execute_turns Phased _ _ _ schedule _ (guarded_orderly kitsune auth schedule)
  · exact ⟨fun t c act member => (nomatch member), fun t c member => (nomatch member)⟩
  · intro t request p _ inv
    constructor
    · intro u c act member proves
      rcases mem_of_call member with ⟨rfl, first⟩ | old
      · have starts := (body_starts first).1
        cases act <;> first | exact False.elim starts | cases proves
      · exact inv.handshaking u c act old proves
    · intro u c member
      rcases mem_of_call member with ⟨rfl, first⟩ | old
      · cases (body_starts first).1
      · exact inv.leaving u c old
  · intro t input act rest p running known inv
    exact phased_turn running known.1 known.2 inv

/-- What runs elsewhere or on a connection that is over leaves the agent it speaks for. -/
theorem authenticatedAgent_kept (auth : s.authStore.isSome = true) (act : Section) (input : Input)
    (noHandshake : ∀ agent token, act ≠ .registerWsSender c agent token)
    (noOpening : act = .connect c → (s.conns c).phase ≠ .absent) :
    ((perform libs act input s).1.conns c).state.authenticatedAgent =
      (s.conns c).state.authenticatedAgent := by
  have identity := perform_identity libs act input c auth
  rw [identityAfter_same noHandshake noOpening] at identity
  exact congrArg Prod.snd identity

theorem perform_not_absent (act : Section) (input : Input) (present : (s.conns c).phase ≠ .absent) :
    ((perform libs act input s).1.conns c).phase ≠ .absent := by
  rcases perform_advances libs act input c with ⟨same | ended, _⟩ | ⟨_, fresh⟩
  · rwa [same]
  · intro absent
    simp [Ended, absent] at ended
  · exact absurd fresh present

/-- The agent of a connection is that of its last handshake, and the lists hold what was entered and
not deleted, but for the agents of connections that were torn down. -/
structure Tracked (past : List Instant) (p : Running) : Prop where
  present : ∀ c agent, Once (fun _ m => Enrols c agent m) past → (p.shared.conns c).phase ≠ .absent
  latest : ∀ c agent, (p.shared.conns c).state.authenticatedAgent = some agent ↔ LatestFor c agent past
  listed : ∀ c agent, c ∈ p.shared.wsSenders agent → Enrolled c agent past
  enrolled : ∀ c agent, Enrolled c agent past → c ∈ p.shared.wsSenders agent ∨
    Ended (p.shared.conns c) ∧ (p.shared.conns c).state.authenticatedAgent = some agent
  ended : ∀ c, Ended (p.shared.conns c) → .unregisterWsSender c ∈ p.tasks (.conn c) ∨
    ∀ agent, (p.shared.conns c).state.authenticatedAgent = some agent → c ∉ p.shared.wsSenders agent

theorem tracked_start (kitsune : Bool) : Tracked [] (.start (.start kitsune true)) where
  present c agent once := absurd once not_once_nil
  latest c agent := ⟨fun known => (nomatch known), fun latest => absurd latest not_since_nil⟩
  listed c agent member := by cases member
  enrolled c agent since := absurd since not_since_nil
  ended c finished := by rcases finished with other | other <;> cases other

theorem tracked_call (t : Task) (request : Request) (p : Running) (idle : p.tasks t = [])
    (inv : Tracked past p) :
    Tracked past ⟨p.shared, Function.update p.tasks t (Request.body t request)⟩ where
  present := inv.present
  latest := inv.latest
  listed := inv.listed
  enrolled := inv.enrolled
  ended c finished := by
    refine (inv.ended c finished).imp_left fun leaving => ?_
    have busy : Task.conn c ≠ t := by
      rintro rfl
      rw [idle] at leaving
      cases leaving
    simpa [busy] using leaving

/-- What is known before every section. -/
structure Settled (p : Running) : Prop where
  holding : ∀ u, ∀ act ∈ p.tasks u, Belongs u act
  identified : Identified p
  phased : Phased p

theorem guarded_settled (kitsune : Bool) (schedule : List (Event Task Request Input)) :
    (program libs).Guarded (OnTurn fun p _ _ _ => Settled p) schedule (.start (.start kitsune true)) :=
  guarded_of_execute _ Settled schedule _ fun before _ => ⟨tasks_belong libs kitsune true before,
    identified_execute kitsune before, phased_execute kitsune true before⟩

/-- A connection that is over has no handshake. -/
theorem Settled.not_enrols (settled : Settled p) (running : p.tasks t = act :: rest)
    (finished : Ended (p.shared.conns c)) (input : Input) (agent : AgentPubKey) :
    ¬Enrols c agent ⟨p, t, act, input⟩ := by
  rintro ⟨token, rfl⟩
  have opened := settled.phased.handshaking t c (.registerWsSender c agent token) (by simp [running]) rfl
  simp [Ended, opened] at finished

theorem Settled.agent_kept (settled : Settled p) (running : p.tasks t = act :: rest)
    (finished : Ended (p.shared.conns c)) (input : Input) :
    ((perform libs act input p.shared).1.conns c).state.authenticatedAgent =
      (p.shared.conns c).state.authenticatedAgent := by
  apply authenticatedAgent_kept settled.identified.auth
  · intro agent token same
    exact settled.not_enrols running finished input agent ⟨token, same⟩
  · rintro - fresh
    simp [Ended, fresh] at finished

theorem latest_turn (running : p.tasks t = act :: rest) (settled : Settled p) (inv : Tracked past p)
    (c : WsSender) (agent : AgentPubKey) :
    ((perform libs act input p.shared).1.conns c).state.authenticatedAgent = some agent ↔
      LatestFor c agent (past ++ [⟨p, t, act, input⟩]) := by
  rw [LatestFor, since_snoc, ← LatestFor, ← inv.latest c agent]
  by_cases handshake : ∃ other token, act = .registerWsSender c other token
  · obtain ⟨other, token, rfl⟩ := handshake
    have identity := perform_identity libs (.registerWsSender c other token) input c settled.identified.auth
    have speaks := congrArg Prod.snd identity
    simp only [Connection.identity, identityAfter, if_true] at speaks
    rw [speaks]
    simp [Enrols]
  · have none (other : AgentPubKey) : ¬Enrols c other ⟨p, t, act, input⟩ :=
      fun enrols => handshake ⟨other, enrols⟩
    by_cases opening : act = .connect c ∧ (p.shared.conns c).phase = .absent
    · obtain ⟨rfl, fresh⟩ := opening
      have identity := perform_identity libs (.connect c) input c settled.identified.auth
      have speaks := congrArg Prod.snd identity
      simp only [Connection.identity, identityAfter, fresh, and_self, if_true] at speaks
      rw [speaks]
      constructor
      · intro known
        cases known
      · rintro (enrols | ⟨known, _⟩)
        · exact absurd enrols (none agent)
        · have once := Since.once ((inv.latest c agent).mp known)
          exact absurd fresh (inv.present c agent once)
    · rw [authenticatedAgent_kept settled.identified.auth act input
        (fun other token same => handshake ⟨other, token, same⟩)
        (fun same fresh => opening ⟨same, fresh⟩)]
      constructor
      · exact fun known => .inr ⟨known, none⟩
      · rintro (enrols | ⟨known, _⟩)
        · exact absurd enrols (none agent)
        · exact known

theorem tracked_turn (past : List Instant) (t : Task) (input : Input) (act : Section)
    (rest : List Section) (p : Running) (running : p.tasks t = act :: rest) (settled : Settled p)
    (inv : Tracked past p) :
    Tracked (past ++ [⟨p, t, act, input⟩]) ⟨(perform libs act input p.shared).1,
      Function.update p.tasks t ((perform libs act input p.shared).2 ++ rest)⟩ := by
  have auth := settled.identified.auth
  have head : act ∈ p.tasks t := by simp [running]
  refine ⟨?present, latest_turn running settled inv, ?listed, ?enrolled, ?ended⟩
  case present =>
    intro c agent once
    rcases once_snoc.mp once with old | ⟨token, now⟩
    · exact perform_not_absent act input (inv.present c agent old)
    · have opened := settled.phased.handshaking t c act head (by rw [show act = _ from now]; rfl)
      exact perform_not_absent act input (by simp [opened])
  case listed =>
    intro c agent member
    rcases (mem_wsSenders_perform libs p t act input c agent auth).mp member with now | ⟨old, kept⟩
    · exact since_now now
    · exact (inv.listed c agent old).later kept.1
  case enrolled =>
    intro c agent enrolled
    change c ∈ (perform libs act input p.shared).1.wsSenders agent ∨ _
    rw [mem_wsSenders_perform libs p t act input c agent auth]
    rcases since_snoc.mp enrolled with now | ⟨old, spared⟩
    · exact .inl (.inl now)
    · rcases inv.enrolled c agent old with member | ⟨finished, speaks⟩
      · by_cases leaves : act = .unregisterWsSender c ∧
            (p.shared.conns c).state.authenticatedAgent = some agent
        · obtain ⟨rfl, speaks⟩ := leaves
          have finished := settled.phased.leaving t c head
          refine .inr ⟨finished.perform _ input, ?_⟩
          exact (authenticatedAgent_kept auth _ input (by simp) (by simp)).trans speaks
        · exact .inl (.inr ⟨member, spared, leaves⟩)
      · exact .inr ⟨finished.perform act input, (settled.agent_kept running finished input).trans speaks⟩
  case ended =>
    intro c finished
    change Ended ((perform libs act input p.shared).1.conns c) at finished
    by_cases before : Ended (p.shared.conns c)
    · change _ ∨ ∀ agent, ((perform libs act input p.shared).1.conns c).state.authenticatedAgent =
        some agent → c ∉ (perform libs act input p.shared).1.wsSenders agent
      simp only [settled.agent_kept running before input,
        mem_wsSenders_perform libs p t act input c _ auth, settled.not_enrols running before input, false_or]
      rcases inv.ended c before with leaving | gone
      · by_cases now : act = .unregisterWsSender c
        · exact .inr fun agent speaks listed => listed.2.2 ⟨now, speaks⟩
        · refine .inl ?_
          by_cases here : Task.conn c = t
          · subst here
            rw [running] at leaving
            rcases List.mem_cons.mp leaving with same | waiting
            · exact absurd same.symm now
            · simp [waiting]
          · simpa [here] using leaving
      · exact .inr fun agent speaks listed => gone agent speaks listed.1
    · have ongoing : act ≠ .close c := by
        rintro rfl
        exact before (settled.identified.ending t c _ head rfl)
      have pushed := ended_pushes act input before ongoing finished
      have here : t = .conn c := perform_belongs t act input p.shared (settled.holding t act head) _ pushed
      subst here
      exact .inl (by simp [pushed])

theorem tracked_execute (kitsune : Bool) (schedule : List (Event Task Request Input)) :
    Tracked ((program libs).moments schedule (.start (.start kitsune true)))
      ((program libs).execute schedule (.start (.start kitsune true))) :=
  execute_moments Tracked _ (fun _ t request p idle inv => tracked_call t request p idle inv)
    (fun past t input act rest p running settled inv =>
      tracked_turn past t input act rest p running settled inv)
    schedule [] _ (guarded_settled kitsune schedule) (tracked_start kitsune)

/-- The senders of the connections that were torn down are gone exactly if each such connection
entered none, undeleted since, for another agent than that of its last handshake. -/
theorem senders_tracked_iff (libs : Libraries) (kitsune : Bool)
    (schedule : List (Event Task Request Input)) :
    let past := (program libs).moments schedule (.start (.start kitsune true))
    let p := (program libs).execute schedule (.start (.start kitsune true))
    NoSenderLeak p ↔ ∀ c, Returned p c → ∀ agent, Enrolled c agent past → LatestFor c agent past := by
  intro past p
  have tracked : Tracked past p := tracked_execute kitsune schedule
  constructor
  · intro clean c returned agent enrolled
    rcases tracked.enrolled c agent enrolled with listed | ⟨_, speaks⟩
    · exact absurd listed (clean.returned c returned agent)
    · exact (tracked.latest c agent).mp speaks
  · intro same
    have gone (c : WsSender) (returned : Returned p c) (agent : AgentPubKey) :
        c ∉ p.shared.wsSenders agent := by
      intro listed
      have last := same c returned agent (tracked.listed c agent listed)
      rcases tracked.ended c returned.1 with leaving | unlisted
      · rw [returned.2] at leaving
        cases leaving
      · exact unlisted agent ((tracked.latest c agent).mpr last) listed
    refine ⟨gone, fun finished agent => ?_⟩
    rw [wsConnectionCount_eq, List.length_eq_zero_iff, List.eq_nil_iff_forall_not_mem]
    intro c listed
    rcases finished c with fresh | returned
    · exact tracked.present c agent (Since.once (tracked.listed c agent listed)) fresh
    · exact gone c returned agent listed

/-- Alice's connection authenticates again as Bob and closes. -/
def aliceThenBob : List (Event Task Request Input) :=
  admin (.addAgent ⟨alice, ∅, none⟩) 1 ++ admin (.addAgent ⟨bob, ∅, none⟩) 1 ++
    login 0 aliceText aliceSignatureText ++ frames 0 (.text (.ok (.auth bobText))) 3 ++
    frames 0 (.text (.ok (.authChallengeResponse bobSignatureText))) 5 ++ frames 0 .close 5

theorem senders_not_tracked :
    ¬∀ (libs : Libraries) (kitsune : Bool) (schedule : List (Event Task Request Input)),
      NoSenderLeak ((program libs).execute schedule (.start (.start kitsune true))) := by
  intro always
  have finished : (((program sampleLibraries).execute aliceThenBob
      (.start (.start true true))).shared.conns 0).phase = .closed := by
    decide +kernel
  have idle : ((program sampleLibraries).execute aliceThenBob
      (.start (.start true true))).tasks (.conn 0) = [] := by
    decide +kernel
  have gone := (always sampleLibraries true aliceThenBob).returned 0 ⟨.inr finished, idle⟩ alice
  have kept : 0 ∈ ((program sampleLibraries).execute aliceThenBob
      (.start (.start true true))).shared.wsSenders alice := by
    decide +kernel
  exact gone kept

end H2hcLinker.WebSocket
