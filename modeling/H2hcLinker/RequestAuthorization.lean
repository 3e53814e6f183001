import H2hcLinker.AccessMatrix
import H2hcLinker.DnaScope
import H2hcLinker.Handshake

/-! Where the authority of a request comes from. At any point of a run the sessions are what the
handshakes of the run made them, with the capabilities that an admin call granted and the DNAs that the
agent's connections registered since. -/
namespace H2hcLinker.WebSocket

open HashTable Interleaving Past

variable {libs : Libraries} {s : System} {p : Running} {past : List Instant} {token : String}
  {agent : AgentPubKey} {capabilities : Finset Capability}

/-- The capabilities that `create_session` finds for the agent. -/
def System.granted (agent : AgentPubKey) (s : System) : Option (Finset Capability) :=
  s.authStore.bind (MemoryStore.sessionCapabilities agent ·.store)

def Posts (agent : AgentPubKey) (capabilities : Finset Capability) (m : Instant) : Prop :=
  ∃ entry : AllowedAgent, m.act = .addAgent entry ∧ entry.agentPubkey = agent ∧
    entry.capabilities = capabilities

def Untouched (agent : AgentPubKey) (m : Instant) : Prop :=
  (∀ entry : AllowedAgent, m.act = .addAgent entry → entry.agentPubkey ≠ agent) ∧
    m.act ≠ .removeAgent agent

/-- The agent's last grant is in force. -/
def Posted (agent : AgentPubKey) (capabilities : Finset Capability) : List Instant → Prop :=
  Since (Untouched agent) fun _ m => Posts agent capabilities m

/-- The agent answered the last challenge of the connection, and its grant was looked up after that. -/
def Proposed (libs : Libraries) (c : WsSender) (agent : AgentPubKey) (capabilities : Finset Capability) :
    List Instant → Prop :=
  Since (Calm c) fun before m => Answered libs c agent before ∧ m.act = .sessionLookup c agent ∧
    Posted agent capabilities before

def RegistersOwn (key : AgentRegistration) (m : Instant) : Prop :=
  Registers key m ∧ ∃ c, m.task = .conn c ∧
    (m.pool.shared.conns c).state.authenticatedAgent = some key.2

/-- The token was given to a connection that had proved to be the agent, with the capabilities of the
agent's grant; nothing has revoked it since, and the DNAs are those registered since. -/
def Recorded (libs : Libraries) (token : String) (info : SessionInfo) (past : List Instant) : Prop :=
  ∃ c before m since, past = before ++ m :: since ∧
    m.act = .sessionInsert c info.agentPubkey info.capabilities ∧ m.input.token.text = token ∧
    Proposed libs c info.agentPubkey info.capabilities before ∧
    (∀ m' ∈ since, ¬Draws token m' ∧ ¬Revokes token info.agentPubkey m') ∧
    ∀ dna, dna ∈ info.registeredDnas ↔ ∃ m' ∈ since, RegistersOwn (dna, info.agentPubkey) m'

theorem perform_granted (libs : Libraries) (act : Section) (input : Input) (s : System)
    (agent : AgentPubKey) : (perform libs act input s).1.granted agent =
      s.authStore.bind fun a => MemoryStore.sessionCapabilities agent (authAfter act input s a).store := by
  rw [System.granted, perform_authStore, Option.bind_map]
  rfl

theorem sessionCapabilities_removeAgent (removed : AgentPubKey) (store : MemoryStore.MemoryStoreInner)
    (known : MemoryStore.sessionCapabilities agent (MemoryStore.removeAgent removed store).2 =
      some capabilities) :
    removed ≠ agent ∧ MemoryStore.sessionCapabilities agent store = some capabilities := by
  simp only [MemoryStore.sessionCapabilities] at known ⊢
  rcases MemoryStore.removeAgent_cases removed store with ⟨listed, _, same⟩ | ⟨absent, same⟩
  · rw [same, MemoryStore.dropSessions_allowedAgents, lookup_erase_eq] at known
    split at known
    next => cases known
    next other => exact ⟨Ne.symm other, known⟩
  · rw [same] at known
    refine ⟨?_, known⟩
    rintro rfl
    rw [Finmap.lookup_eq_none.mpr absent] at known
    cases known

theorem granted_posted {m : Instant} (known : (perform libs m.act m.input m.pool.shared).1.granted agent =
    some capabilities) : Posts agent capabilities m ∨
      Untouched agent m ∧ m.pool.shared.granted agent = some capabilities := by
  obtain ⟨p, t, act, input⟩ := m
  rw [perform_granted] at known
  obtain ⟨a, configured, found⟩ := Option.bind_eq_some_iff.mp known
  have before (same : MemoryStore.sessionCapabilities agent a.store = some capabilities) :
      p.shared.granted agent = some capabilities :=
    Option.bind_eq_some_iff.mpr ⟨a, configured, same⟩
  cases act with
  | addAgent entry =>
    simp only [authAfter, MemoryStore.sessionCapabilities, MemoryStore.addAgent, lookup_insert_eq] at found
    split at found
    next own => exact .inl ⟨entry, rfl, own.symm, Option.some.inj found⟩
    next other => exact .inr ⟨⟨fun _ same => by cases same; exact Ne.symm other, by simp⟩, before found⟩
  | removeAgent removed =>
    obtain ⟨other, kept⟩ := sessionCapabilities_removeAgent removed a.store found
    exact .inr ⟨⟨by simp, by simpa using other⟩, before kept⟩
  | unregisterWsSender c =>
    refine .inr ⟨⟨by simp, by simp⟩, before ?_⟩
    simp only [authAfter] at found
    split at found
    · simpa using found
    · exact found
  | _ => exact .inr ⟨⟨by simp, by simp⟩, before found⟩

/-- A session after a section is new and without DNAs, or the one from before that the section leaves
to its agent, with the DNA that it registers for it. -/
theorem session_recorded {m : Instant} {info : SessionInfo}
    (known : sessionAfter m.act m.input m.pool.shared token = some info) :
    (∃ c, m.act = .sessionInsert c info.agentPubkey info.capabilities ∧ m.input.token.text = token) ∧
        info.registeredDnas = ∅ ∨
      ¬Draws token m ∧ ¬Revokes token info.agentPubkey m ∧ ∃ old,
        m.pool.shared.session token = some old ∧ old.agentPubkey = info.agentPubkey ∧
        old.capabilities = info.capabilities ∧ ∀ dna, dna ∈ info.registeredDnas ↔
          dna ∈ old.registeredDnas ∨ Registers (dna, info.agentPubkey) m := by
  obtain ⟨p, t, act, input⟩ := m
  have idle (other : act.drawsToken = false) : ¬Draws token ⟨p, t, act, input⟩ := by
    rintro ⟨draws, _⟩
    cases other.symm.trans draws
  have kept (noDna : ∀ key, act ≠ .registerDna key) (before : p.shared.session token = some info) :
      ∃ old, p.shared.session token = some old ∧ old.agentPubkey = info.agentPubkey ∧
        old.capabilities = info.capabilities ∧ ∀ dna, dna ∈ info.registeredDnas ↔
          dna ∈ old.registeredDnas ∨ Registers (dna, info.agentPubkey) ⟨p, t, act, input⟩ :=
    ⟨info, before, rfl, rfl, fun dna => (or_iff_left (noDna _)).symm⟩
  cases act with
  | sessionInsert c agent capabilities =>
    simp only [sessionAfter] at known
    split at known
    next same =>
      obtain ⟨a, _, rfl⟩ := Option.map_eq_some_iff.mp known
      exact .inl ⟨⟨c, rfl, same.symm⟩, rfl⟩
    next other => exact .inr ⟨fun draws => other draws.2.symm, id, kept (by simp) known⟩
  | registerDna key =>
    obtain ⟨old, before, rfl⟩ := Option.map_eq_some_iff.mp known
    refine .inr ⟨idle rfl, id, old, before, by simp, ?_, fun dna => ?_⟩
    · unfold MemoryStore.grantDna
      split <;> rfl
    · rw [MemoryStore.grantDna_agentPubkey]
      unfold MemoryStore.grantDna Registers
      split
      next own => simp [Prod.ext_iff, own, eq_comm, or_comm]
      next other => simp [Prod.ext_iff, Ne.symm other]
  | removeAgent removed =>
    simp only [sessionAfter] at known
    split at known
    next =>
      obtain ⟨before, other⟩ := Option.filter_eq_some_iff.mp known
      refine .inr ⟨idle rfl, fun revokes => ?_, kept (by simp) before⟩
      obtain ⟨rfl, _⟩ := revokes
      simp at other
    next unlisted =>
      refine .inr ⟨idle rfl, fun revokes => ?_, kept (by simp) known⟩
      obtain ⟨rfl, listed⟩ := revokes
      exact unlisted listed
  | revokeSession text =>
    simp only [sessionAfter] at known
    split at known
    next => cases known
    next other => exact .inr ⟨idle rfl, fun revokes => other revokes.symm, kept (by simp) known⟩
  | revokeSessionsForAgent agent =>
    obtain ⟨before, other⟩ := Option.filter_eq_some_iff.mp known
    refine .inr ⟨idle rfl, fun revokes => ?_, kept (by simp) before⟩
    cases revokes
    simp at other
  | _ => exact .inr ⟨idle rfl, id, kept (by simp) known⟩

structure Authorizing (libs : Libraries) (past : List Instant) (p : Running) : Prop
    extends Handshaking libs past p where
  posted : ∀ agent capabilities, p.shared.granted agent = some capabilities →
    Posted agent capabilities past
  proposed : ∀ t c agent capabilities, .sessionInsert c agent capabilities ∈ p.tasks t →
    Proposed libs c agent capabilities past
  recorded : ∀ token info, p.shared.session token = some info → Recorded libs token info past

theorem posted_turn {m : Instant} (posted : ∀ agent capabilities,
      m.pool.shared.granted agent = some capabilities → Posted agent capabilities past)
    (known : (perform libs m.act m.input m.pool.shared).1.granted agent = some capabilities) :
    Posted agent capabilities (past ++ [m]) := by
  rcases granted_posted known with posts | ⟨untouched, before⟩
  · exact since_now posts
  · exact (posted agent capabilities before).later untouched

theorem proposed_pushed {t : Task} {act : Section} {input : Input} {c : WsSender}
    (head : act ∈ p.tasks t) (inv : Authorizing libs past p)
    (pushed : .sessionInsert c agent capabilities ∈ (perform libs act input p.shared).2) :
    Proposed libs c agent capabilities (past ++ [⟨p, t, act, input⟩]) := by
  have next := perform_next act input p.shared _ pushed
  cases act with
  | sessionLookup c' agent' =>
    rcases next with ⟨message, other⟩ | ⟨capabilities', listed, same⟩
    · cases other
    · cases same
      exact since_now ⟨inv.proven t _ head, rfl, inv.posted agent capabilities listed⟩
  | _ => simp [Next, Admitted, Cleans] at next

theorem registersOwn_of_sound (sound : Sound p) {t : Task} {act : Section} {rest : List Section}
    (running : p.tasks t = act :: rest) (input : Input) (key : AgentRegistration) :
    RegistersOwn key ⟨p, t, act, input⟩ ↔ Registers key ⟨p, t, act, input⟩ := by
  refine ⟨And.left, fun registers => ⟨registers, ?_⟩⟩
  have head : act ∈ p.tasks t := by simp [running]
  have registering : act = .registerDna key := registers
  subst registering
  obtain ⟨c, rfl⟩ := sound.holding t _ head
  exact ⟨c, rfl, sound.identified.owned c _ head⟩

theorem recorded_turn (sound : Sound p) {t : Task} {act : Section} {rest : List Section}
    (running : p.tasks t = act :: rest) (input : Input) (inv : Authorizing libs past p)
    {info : SessionInfo} (known : (perform libs act input p.shared).1.session token = some info) :
    Recorded libs token info (past ++ [⟨p, t, act, input⟩]) := by
  have head : act ∈ p.tasks t := by simp [running]
  rw [perform_session] at known
  rcases session_recorded (m := ⟨p, t, act, input⟩) known with
    ⟨⟨c, inserts, drawn⟩, empty⟩ | ⟨idle, keeps, old, before, sameAgent, sameCapabilities, dnas⟩
  · have inserting : act = .sessionInsert c info.agentPubkey info.capabilities := inserts
    subst inserting
    refine ⟨c, past, _, [], rfl, rfl, drawn, inv.proposed t c _ _ head, by simp, ?_⟩
    simp [empty]
  · obtain ⟨c, earlier, given, since, split, inserts, drawn, proposed, lasts, registered⟩ :=
      inv.recorded token old before
    rw [sameAgent] at lasts registered
    refine ⟨c, earlier, given, since ++ [⟨p, t, act, input⟩], by simp [split], ?_, drawn, ?_, ?_, ?_⟩
    · rw [inserts, sameAgent, sameCapabilities]
    · rw [← sameAgent, ← sameCapabilities]
      exact proposed
    · intro m member
      rcases List.mem_append.mp member with older | now
      · exact lasts m older
      · cases List.mem_singleton.mp now
        exact ⟨idle, keeps⟩
    · intro dna
      rw [dnas, registered, ← registersOwn_of_sound sound running input]
      simp only [List.mem_append, List.mem_singleton, or_and_right, exists_or, exists_eq_left]

theorem authorizing_turn (past : List Instant) (t : Task) (input : Input) (act : Section)
    (rest : List Section) (p : Running) (running : p.tasks t = act :: rest) (sound : Sound p)
    (inv : Authorizing libs past p) :
    Authorizing libs (past ++ [⟨p, t, act, input⟩]) ⟨(perform libs act input p.shared).1,
      Function.update p.tasks t ((perform libs act input p.shared).2 ++ rest)⟩ where
  toHandshaking := handshaking_turn past t input act rest p running sound inv.toHandshaking
  posted agent capabilities known := posted_turn (m := ⟨p, t, act, input⟩) inv.posted known
  proposed u c agent capabilities member := by
    have head : act ∈ p.tasks t := by simp [running]
    rcases mem_of_turn running member with ⟨rfl, pushed⟩ | old
    · exact proposed_pushed head inv pushed
    · exact Since.later (inv.proposed u c agent capabilities old)
        (sound.identified.calm running (sound.holding t act head) old (sound.holding u _ old) rfl)
  recorded token info known := recorded_turn sound running input inv known

theorem authorizing_execute (kitsune : Bool) (schedule : List (Event Task Request Input)) :
    Authorizing libs ((program libs).moments schedule (.start (.start kitsune true)))
      ((program libs).execute schedule (.start (.start kitsune true))) := by
  apply execute_moments (Authorizing libs) _ _ (fun past t input act rest p running sound =>
    authorizing_turn past t input act rest p running sound) schedule [] _
    (guarded_sound kitsune schedule)
  · refine ⟨handshaking_start _ fun _ => rfl, ?_, ?_, ?_⟩
    · intro agent capabilities known
      cases known
    · intro t c agent capabilities member
      cases member
    · intro token info known
      cases known
  · intro past t request p idle inv
    refine ⟨handshaking_call past t request p inv.toHandshaking, inv.posted, ?_, inv.recorded⟩
    intro u c agent capabilities member
    rcases mem_of_call member with ⟨rfl, first⟩ | old
    · cases (body_starts first).1
    · exact inv.proposed u c agent capabilities old

/-- The record of a token is of its last gift. -/
theorem Recorded.unique {info info' : SessionInfo} (one : Recorded libs token info past)
    (other : Recorded libs token info' past) : info = info' := by
  obtain ⟨c, before, m, since, split, inserts, drawn, _, lasts, registered⟩ := one
  obtain ⟨c', before', m', since', split', inserts', drawn', _, lasts', registered'⟩ := other
  have draws (m : Instant) (c : WsSender) (info : SessionInfo) (drawn : m.input.token.text = token)
      (inserts : m.act = .sessionInsert c info.agentPubkey info.capabilities) : Draws token m :=
    ⟨by rw [inserts]; rfl, drawn⟩
  obtain ⟨rfl, rfl, rfl⟩ := last_unique (split.symm.trans split') (draws m c info drawn inserts)
    (draws m' c' info' drawn' inserts') (fun m member => (lasts m member).1)
    fun m member => (lasts' m member).1
  obtain ⟨-, sameAgent, sameCapabilities⟩ := Section.sessionInsert.inj (inserts.symm.trans inserts')
  have sameDnas : info.registeredDnas = info'.registeredDnas := by
    ext dna
    rw [registered, registered', sameAgent]
  cases info
  cases info'
  simp_all

/-- At any point of a run a token is a session's exactly if it was given out for it, has not been
revoked since, and the session's DNAs are those that its agent registered since. -/
theorem session_iff_recorded (kitsune : Bool) (schedule : List (Event Task Request Input))
    (info : SessionInfo) :
    ((program libs).execute schedule (.start (.start kitsune true))).shared.session token = some info ↔
      Recorded libs token info ((program libs).moments schedule (.start (.start kitsune true))) := by
  have authorizing := @authorizing_execute libs kitsune schedule
  refine ⟨authorizing.recorded token info, fun record => ?_⟩
  have ⟨c, before, m, since, split, inserts, drawn, _, lasts, _⟩ := record
  have given : GivenLast token c info.agentPubkey
      ((program libs).moments schedule (.start (.start kitsune true))) since :=
    ⟨⟨before, m, split, drawn, _, inserts⟩, fun m member => (lasts m member).1⟩
  rcases lasting_execute kitsune schedule token c info.agentPubkey since given with
    ⟨⟨m, member, revokes⟩, _⟩ | ⟨_, info', known, _⟩
  · exact absurd revokes (lasts m member).2
  · rw [known, Recorded.unique (authorizing.recorded token info' known) record]

def Given (libs : Libraries) (past : List Instant) (req : Http.Request) (required : Capability)
    (info : SessionInfo) : Prop :=
  ∃ token, Http.extractBearerToken req = some token ∧ Recorded libs token info past ∧
    required ∈ info.capabilities

end H2hcLinker.WebSocket
