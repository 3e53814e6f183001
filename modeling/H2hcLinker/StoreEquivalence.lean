import H2hcLinker.SqliteStore
import Mathlib.Data.Finset.Powerset

/-! The two session backends cannot be told apart: the tables always hold the text of what the
in-memory store holds, and no operation looks at anything else. -/
namespace H2hcLinker

open HashTable MemoryStore SqliteStore SessionStore

/-- Printed hashes are read back. -/
structure HashCodec.Invertible (codec : HashCodec) : Prop where
  agent : ∀ a, codec.agentOfStr (codec.agentToStr a) = .ok a
  dna : ∀ d, codec.dnaOfStr (codec.dnaToStr d) = .ok d

variable {codec : HashCodec} {json : CapabilityJson} {mem : MemoryStoreInner} {db : SqliteTables}

theorem HashCodec.Invertible.agentToStr_inj (codes : codec.Invertible) {a b : AgentPubKey} :
    codec.agentToStr a = codec.agentToStr b ↔ a = b := by
  constructor
  · intro same
    have parsed := codes.agent a
    rw [same, codes.agent b] at parsed
    exact (Except.ok.inj parsed).symm
  · rintro rfl
    rfl

theorem HashCodec.Invertible.dnaToStr_inj (codes : codec.Invertible) {d e : DnaHash} :
    codec.dnaToStr d = codec.dnaToStr e ↔ d = e := by
  constructor
  · intro same
    have parsed := codes.dna d
    rw [same, codes.dna e] at parsed
    exact (Except.ok.inj parsed).symm
  · rintro rfl
    rfl

theorem capsFromJson_toText (lawful : json.Lawful) (caps : Finset Capability) :
    capsFromJson json (json.toText caps) = caps := by
  simp [capsFromJson, lawful.ofText_toText]

def agentRow (json : CapabilityJson) (entry : AllowedAgent) : AgentRow :=
  ⟨json.toText entry.capabilities, entry.label⟩

def sessionRow (codec : HashCodec) (json : CapabilityJson) (info : SessionInfo) : SessionRow :=
  ⟨codec.agentToStr info.agentPubkey, json.toText info.capabilities⟩

/-- The tables hold the text of the store's maps. -/
structure Represents (codec : HashCodec) (json : CapabilityJson) (mem : MemoryStoreInner)
    (db : SqliteTables) : Prop where
  agents : ∀ a, db.allowedAgents.lookup (codec.agentToStr a) =
    (mem.allowedAgents.lookup a).map (agentRow json)
  keys : ∀ key, key ∈ db.allowedAgents → ∃ a, codec.agentToStr a = key
  ownKey : ∀ a entry, mem.allowedAgents.lookup a = some entry → entry.agentPubkey = a
  sessions : ∀ token, db.sessions.lookup token =
    (mem.sessions.lookup token).map (sessionRow codec json)
  dnas : ∀ token text owner, db.sessionDnas.lookup (token, text) = some owner ↔
    ∃ info, mem.sessions.lookup token = some info ∧
      (∃ dna ∈ info.registeredDnas, codec.dnaToStr dna = text) ∧
      codec.agentToStr info.agentPubkey = owner
  owned : Owned mem

theorem represents_init : Represents codec json .default .init where
  agents a := by simp [SqliteTables.init, MemoryStoreInner.default]
  keys key member := absurd member Finmap.notMem_empty
  ownKey a entry found := by simp [MemoryStoreInner.default] at found
  sessions token := by simp [SqliteTables.init, MemoryStoreInner.default]
  dnas token text owner := by simp [SqliteTables.init, MemoryStoreInner.default]
  owned := owned_default

theorem Represents.mem_agents (rep : Represents codec json mem db) (a : AgentPubKey) :
    codec.agentToStr a ∈ db.allowedAgents ↔ a ∈ mem.allowedAgents := by
  rw [← Finmap.lookup_isSome, ← Finmap.lookup_isSome, rep.agents, Option.isSome_map]

theorem Represents.mem_sessions (rep : Represents codec json mem db) (token : String) :
    token ∈ db.sessions ↔ token ∈ mem.sessions := by
  rw [← Finmap.lookup_isSome, ← Finmap.lookup_isSome, rep.sessions, Option.isSome_map]

theorem Represents.addAgent (rep : Represents codec json mem db) (codes : codec.Invertible)
    (entry : AllowedAgent) :
    Represents codec json (MemoryStore.addAgent entry mem) (SqliteStore.addAgent codec json entry db) where
  agents a := by
    simp only [MemoryStore.addAgent, SqliteStore.addAgent, lookup_insert_eq, codes.agentToStr_inj,
      rep.agents]
    split <;> rfl
  keys key member := by
    rcases Finmap.mem_insert.mp member with rfl | old
    · exact ⟨_, rfl⟩
    · exact rep.keys key old
  ownKey a e found := by
    simp only [MemoryStore.addAgent, lookup_insert_eq] at found
    split at found
    next same =>
      cases found
      exact same.symm
    next => exact rep.ownKey a e found
  sessions := rep.sessions
  dnas := rep.dnas
  owned := rep.owned.addAgent entry

/-- A delete of sessions by a predicate that both stores evaluate alike. -/
theorem Represents.deleteSessions (rep : Represents codec json mem db)
    (gone : String → SessionInfo → Bool) (doomed : String → SessionRow → Bool)
    (alike : ∀ token info, mem.sessions.lookup token = some info →
      doomed token (sessionRow codec json info) = gone token info) :
    Represents codec json { mem with sessions := retain (fun token info => !gone token info) mem.sessions }
      (SqliteStore.deleteSessions doomed db).2 where
  agents := rep.agents
  keys := rep.keys
  ownKey := rep.ownKey
  sessions token := by
    simp only [SqliteStore.deleteSessions, lookup_retain, rep.sessions]
    cases found : mem.sessions.lookup token with
    | none => rfl
    | some info =>
      have same := alike token info found
      by_cases dropped : gone token info = true
      · simp [Option.filter, dropped, same]
      · simp [Option.filter, dropped, same]
  dnas token text owner := by
    simp only [SqliteStore.deleteSessions, lookup_retain, Option.filter_eq_some_iff, rep.dnas, rep.sessions]
    constructor
    · rintro ⟨⟨info, found, registered, same⟩, kept⟩
      refine ⟨info, ⟨found, ?_⟩, registered, same⟩
      simpa [found, alike token info found] using kept
    · rintro ⟨info, ⟨found, kept⟩, registered, same⟩
      refine ⟨⟨info, found, registered, same⟩, ?_⟩
      simpa [found, alike token info found] using kept
  owned token info found := by
    simp only [lookup_retain, Option.filter_eq_some_iff] at found
    exact rep.owned token info found.1

/-- It deletes as many rows as there were sessions. -/
theorem Represents.deleteSessions_rows (rep : Represents codec json mem db)
    (gone : String → SessionInfo → Bool) (doomed : String → SessionRow → Bool)
    (alike : ∀ token info, mem.sessions.lookup token = some info →
      doomed token (sessionRow codec json info) = gone token info) :
    (SqliteStore.deleteSessions doomed db).1 = size (retain gone mem.sessions) := by
  apply size_congr
  intro token
  simp only [mem_retain_iff, rep.sessions, Option.map_eq_some_iff]
  constructor
  · rintro ⟨_, ⟨info, found, rfl⟩, dropped⟩
    exact ⟨info, found, by rwa [alike token info found] at dropped⟩
  · rintro ⟨info, found, dropped⟩
    exact ⟨_, ⟨info, found, rfl⟩, by rwa [alike token info found]⟩

theorem Represents.dropSessions (rep : Represents codec json mem db) (codes : codec.Invertible)
    (agent : AgentPubKey) : Represents codec json (dropSessions agent mem)
      (SqliteStore.deleteSessions (fun _ row => row.agentPubkey = codec.agentToStr agent) db).2 := by
  have deleted := rep.deleteSessions (fun _ info => info.agentPubkey = agent)
    (fun _ row => row.agentPubkey = codec.agentToStr agent)
    (fun _ _ _ => by simp [sessionRow, codes.agentToStr_inj])
  simpa [MemoryStore.dropSessions] using deleted

theorem Represents.revokeSessionsForAgent (rep : Represents codec json mem db)
    (codes : codec.Invertible) (agent : AgentPubKey) :
    (MemoryStore.revokeSessionsForAgent agent mem).1 =
      (SqliteStore.revokeSessionsForAgent codec agent db).1 := by
  have rows := rep.deleteSessions_rows (fun _ info => info.agentPubkey = agent)
    (fun _ row => row.agentPubkey = codec.agentToStr agent)
    (fun _ _ _ => by simp [sessionRow, codes.agentToStr_inj])
  have parts := size_retain_add_size_retain_not (fun _ info => decide (info.agentPubkey = agent))
    mem.sessions
  simp only [MemoryStore.revokeSessionsForAgent, MemoryStore.dropSessions, ne_eq, decide_not,
    SqliteStore.revokeSessionsForAgent, rows]
  omega

/-- Removing an agent that is not on the allowlist would drop no session. -/
theorem removeAgent_state (owned : Owned mem) (agent : AgentPubKey) :
    (MemoryStore.removeAgent agent mem).2 =
      MemoryStore.dropSessions agent { mem with allowedAgents := mem.allowedAgents.erase agent } := by
  rcases removeAgent_cases agent mem with ⟨_, _, same⟩ | ⟨absent, same⟩
  · exact same
  · have kept : retain (fun _ info => decide (info.agentPubkey ≠ agent)) mem.sessions = mem.sessions := by
      apply Finmap.ext_lookup
      intro token
      rw [lookup_retain]
      cases found : mem.sessions.lookup token with
      | none => rfl
      | some info =>
        have other : info.agentPubkey ≠ agent := by
          rintro rfl
          exact absent (owned token info found)
        simp [Option.filter, other]
    have listed : mem.allowedAgents.erase agent = mem.allowedAgents := by
      apply Finmap.ext_lookup
      intro a
      rw [lookup_erase_eq]
      split
      next same =>
        subst same
        exact (Finmap.lookup_eq_none.mpr absent).symm
      next => rfl
    rw [same, MemoryStore.dropSessions, listed]
    exact congrArg (MemoryStoreInner.mk mem.allowedAgents) kept.symm

/-- Deleting the agent's rows of `session_dnas` first takes nothing but what the cascade takes. -/
theorem Represents.removeAgent (rep : Represents codec json mem db) (codes : codec.Invertible)
    (agent : AgentPubKey) : Represents codec json (MemoryStore.removeAgent agent mem).2
      (SqliteStore.removeAgent codec agent db).2 := by
  rw [removeAgent_state rep.owned]
  have dropped := rep.dropSessions codes agent
  constructor
  · intro a
    simp only [SqliteStore.removeAgent, SqliteStore.deleteSessions, lookup_retain,
      MemoryStore.dropSessions, lookup_erase_eq, rep.agents, Option.filter, ne_eq, codes.agentToStr_inj]
    by_cases same : a = agent
    · cases mem.allowedAgents.lookup a <;> simp [same]
    · cases mem.allowedAgents.lookup a <;> simp [same]
  · intro key member
    obtain ⟨row, found, _⟩ := mem_retain member
    exact rep.keys key (Finmap.mem_of_lookup_eq_some found)
  · intro a entry found
    simp only [MemoryStore.dropSessions, lookup_erase_eq] at found
    split at found
    · cases found
    · exact rep.ownKey a entry found
  · exact dropped.sessions
  · intro token text owner
    have cascade := dropped.dnas token text owner
    simp only [SqliteStore.deleteSessions, lookup_retain, Option.filter_eq_some_iff] at cascade
    simp only [SqliteStore.removeAgent, SqliteStore.deleteSessions, lookup_retain,
      Option.filter_eq_some_iff]
    constructor
    · rintro ⟨⟨found, _⟩, kept⟩
      exact cascade.mp ⟨found, kept⟩
    · intro live
      obtain ⟨found, kept⟩ := cascade.mpr live
      obtain ⟨info, present, _, rfl⟩ := live
      have other := ((lookup_dropSessions_iff ..).mp present).2
      exact ⟨⟨found, by simpa [codes.agentToStr_inj] using other⟩, kept⟩
  · have owned := rep.owned.removeAgent agent
    rwa [removeAgent_state rep.owned] at owned

theorem Represents.removeAgent_found (rep : Represents codec json mem db) (agent : AgentPubKey) :
    (MemoryStore.removeAgent agent mem).1 = (SqliteStore.removeAgent codec agent db).1 := by
  have rows : (SqliteStore.removeAgent codec agent db).1 = decide (agent ∈ mem.allowedAgents) := by
    simp [SqliteStore.removeAgent, SqliteStore.deleteSessions, size_retain_key_pos, rep.mem_agents]
  rw [rows]
  rcases removeAgent_cases agent mem with ⟨found, removed, _⟩ | ⟨absent, same⟩
  · simp [found, removed]
  · simp [absent, same]

theorem Represents.isAgentAllowed (rep : Represents codec json mem db) (agent : AgentPubKey) :
    MemoryStore.isAgentAllowed agent mem = SqliteStore.isAgentAllowed codec agent db := by
  simp [MemoryStore.isAgentAllowed, SqliteStore.isAgentAllowed, size_retain_key_pos, rep.mem_agents]

theorem Represents.getAgent (rep : Represents codec json mem db) (lawful : json.Lawful)
    (agent : AgentPubKey) : MemoryStore.getAgent agent mem = SqliteStore.getAgent codec json agent db := by
  rw [MemoryStore.getAgent, SqliteStore.getAgent, rep.agents]
  cases found : mem.allowedAgents.lookup agent with
  | none => rfl
  | some entry =>
    have own := rep.ownKey agent entry found
    subst own
    simp [agentRow, capsFromJson_toText lawful]

theorem Represents.listAgents (rep : Represents codec json mem db) (codes : codec.Invertible)
    (lawful : json.Lawful) : (values mem.allowedAgents).toFinset = SqliteStore.listAgents codec json db := by
  have read (entry : AllowedAgent) : readAgent codec json (codec.agentToStr entry.agentPubkey)
      (agentRow json entry) = some entry := by
    simp [readAgent, codes.agent, agentRow, capsFromJson_toText lawful]
  ext entry
  simp only [Multiset.mem_toFinset, mem_values, SqliteStore.listAgents, Multiset.mem_filterMap]
  constructor
  · rintro ⟨a, found⟩
    have own := rep.ownKey a entry found
    subst own
    have row : db.allowedAgents.lookup (codec.agentToStr entry.agentPubkey) = some (agentRow json entry) := by
      rw [rep.agents, found]
      rfl
    exact ⟨⟨_, _⟩, Finmap.lookup_eq_some_iff.mp row, read entry⟩
  · rintro ⟨⟨key, row⟩, member, parsed⟩
    have found := Finmap.lookup_eq_some_iff.mpr member
    obtain ⟨a, rfl⟩ := rep.keys key (Finmap.mem_of_lookup_eq_some found)
    rw [rep.agents] at found
    obtain ⟨stored, there, rfl⟩ := Option.map_eq_some_iff.mp found
    have own := rep.ownKey a stored there
    subst own
    cases (read stored).symm.trans parsed
    exact ⟨_, there⟩

theorem Represents.createSession (rep : Represents codec json mem db) (agent : AgentPubKey)
    (token : SessionToken)
    (fresh : ∀ drawn, (MemoryStore.createSession agent token mem).1 = some drawn →
      drawn.text ∉ mem.sessions) :
    (.ok (MemoryStore.createSession agent token mem).1 : SessionStoreResult (Option SessionToken)) =
        (SqliteStore.createSession codec agent token db).1 ∧
      Represents codec json (MemoryStore.createSession agent token mem).2
        (SqliteStore.createSession codec agent token db).2 := by
  simp only [MemoryStore.createSession, sessionCapabilities, SqliteStore.createSession, rep.agents] at *
  cases found : mem.allowedAgents.lookup agent with
  | none => exact ⟨rfl, rep⟩
  | some entry =>
    rw [found] at fresh
    have unused : token.text ∉ mem.sessions := fresh token rfl
    have noRow : token.text ∉ db.sessions := mt (rep.mem_sessions token.text).mp unused
    simp only [Option.map_some, if_neg noRow, true_and]
    constructor
    · exact rep.agents
    · exact rep.keys
    · exact rep.ownKey
    · intro key
      simp only [insertSession, lookup_insert_eq, rep.sessions]
      split <;> rfl
    · intro key text owner
      rw [rep.dnas]
      simp only [insertSession, lookup_insert_eq]
      by_cases same : key = token.text
      · subst same
        rw [Finmap.lookup_eq_none.mpr unused]
        simp
      · simp [same]
    · exact rep.owned.insertSession (Finmap.mem_of_lookup_eq_some found) entry.capabilities token

/-- The rows of a token name the DNAs of its session. -/
theorem Represents.registeredDnas (rep : Represents codec json mem db) (codes : codec.Invertible)
    {token : String} {info : SessionInfo} (found : mem.sessions.lookup token = some info) :
    SqliteStore.registeredDnas codec token db = info.registeredDnas := by
  ext dna
  simp only [SqliteStore.registeredDnas, Finset.mem_biUnion, Finset.mem_filter, Finmap.mem_keys,
    Finmap.mem_iff]
  constructor
  · rintro ⟨⟨_, text⟩, ⟨⟨owner, row⟩, rfl⟩, parsed⟩
    obtain ⟨session, there, ⟨d, registered, rfl⟩, _⟩ := (rep.dnas _ _ _).mp row
    cases found.symm.trans there
    rw [codes.dna d] at parsed
    rwa [Finset.mem_singleton.mp parsed]
  · intro registered
    refine ⟨(token, codec.dnaToStr dna), ⟨⟨codec.agentToStr info.agentPubkey, ?_⟩, rfl⟩, ?_⟩
    · exact (rep.dnas _ _ _).mpr ⟨info, found, ⟨dna, registered, rfl⟩, rfl⟩
    · simp [codes.dna]

theorem Represents.validateSession (rep : Represents codec json mem db) (codes : codec.Invertible)
    (lawful : json.Lawful) (token : String) :
    MemoryStore.validateSession token mem = SqliteStore.validateSession codec json token db := by
  simp only [MemoryStore.validateSession, SqliteStore.validateSession, rep.sessions]
  cases found : mem.sessions.lookup token with
  | none => rfl
  | some info =>
    simp [sessionRow, codes.agent, capsFromJson_toText lawful, rep.registeredDnas codes found]

theorem Represents.revokeSession (rep : Represents codec json mem db) (token : String) :
    (MemoryStore.revokeSession token mem).1 = (SqliteStore.revokeSession token db).1 ∧
      Represents codec json (MemoryStore.revokeSession token mem).2 (SqliteStore.revokeSession token db).2 := by
  have deleted := rep.deleteSessions (fun key _ => key = token) (fun key _ => key = token)
    (fun _ _ _ => rfl)
  have rows := rep.deleteSessions_rows (fun key _ => key = token) (fun key _ => key = token)
    (fun _ _ _ => rfl)
  have erased : retain (fun key _ => !decide (key = token)) mem.sessions = mem.sessions.erase token := by
    apply Finmap.ext_lookup
    intro key
    rw [lookup_retain, lookup_erase_eq]
    by_cases same : key = token
    · cases mem.sessions.lookup key <;> simp [same]
    · cases mem.sessions.lookup key <;> simp [same]
  rw [erased] at deleted
  refine ⟨?_, deleted⟩
  simp [MemoryStore.revokeSession, SqliteStore.revokeSession, rows, size_retain_key_pos]

/-- The rows that the insert selects. -/
theorem Represents.selected_row (rep : Represents codec json mem db) (codes : codec.Invertible)
    (agent : AgentPubKey) (dna : DnaHash) (token text owner : String) :
    (mapEntries (dnaKey (codec.dnaToStr dna)) (fun _ _ => codec.agentToStr agent)
      (retain (fun _ row => row.agentPubkey = codec.agentToStr agent) db.sessions)).lookup (token, text) =
        some owner ↔
      ∃ info, mem.sessions.lookup token = some info ∧ info.agentPubkey = agent ∧
        codec.dnaToStr dna = text ∧ codec.agentToStr agent = owner := by
  simp only [lookup_mapEntries_eq_some, lookup_retain, Option.filter_eq_some_iff, rep.sessions,
    Option.map_eq_some_iff, decide_eq_true_eq]
  constructor
  · rintro ⟨key, _, ⟨⟨info, found, rfl⟩, own⟩, same, rfl⟩
    obtain ⟨rfl, rfl⟩ := Prod.mk.inj same
    exact ⟨info, found, codes.agentToStr_inj.mp own, rfl, rfl⟩
  · rintro ⟨info, found, rfl, rfl, rfl⟩
    exact ⟨token, _, ⟨⟨info, found, rfl⟩, rfl⟩, rfl, rfl⟩

theorem Represents.registerDnaForAgent (rep : Represents codec json mem db) (codes : codec.Invertible)
    (agent : AgentPubKey) (dna : DnaHash) :
    Represents codec json (MemoryStore.registerDnaForAgent agent dna mem)
      (SqliteStore.registerDnaForAgent codec agent dna db) where
  agents := rep.agents
  keys := rep.keys
  ownKey := rep.ownKey
  sessions token := by
    rw [lookup_registerDnaForAgent]
    change db.sessions.lookup token = _
    rw [rep.sessions]
    cases mem.sessions.lookup token with
    | none => rfl
    | some info =>
      simp only [Option.map_some, sessionRow, grantDna]
      split <;> rfl
  dnas token text owner := by
    simp only [SqliteStore.registerDnaForAgent, lookup_union_eq_some, rep.selected_row codes, rep.dnas,
      lookup_registerDnaForAgent, Option.map_eq_some_iff]
    constructor
    · rintro (⟨info, found, ⟨d, registered, rfl⟩, rfl⟩ | ⟨_, info, found, rfl, rfl, rfl⟩)
      · refine ⟨_, ⟨info, found, rfl⟩, ⟨d, ?_, rfl⟩, by rw [grantDna_agentPubkey]⟩
        unfold grantDna
        split
        · exact Finset.mem_insert_of_mem registered
        · exact registered
      · refine ⟨_, ⟨info, found, rfl⟩, ⟨dna, ?_, rfl⟩, by rw [grantDna_agentPubkey]⟩
        simp [grantDna]
    · rintro ⟨_, ⟨info, found, rfl⟩, ⟨d, registered, rfl⟩, rfl⟩
      rw [grantDna_agentPubkey]
      by_cases held : d ∈ info.registeredDnas
      · exact .inl ⟨info, found, ⟨d, held, rfl⟩, rfl⟩
      · unfold grantDna at registered
        split at registered
        next own =>
          obtain rfl : d = dna := (Finset.mem_insert.mp registered).resolve_right held
          refine .inr ⟨?_, info, found, own, rfl, congrArg codec.agentToStr own.symm⟩
          intro row
          obtain ⟨_, present⟩ := Finmap.mem_iff.mp row
          obtain ⟨session, there, ⟨e, other, same⟩, _⟩ := (rep.dnas _ _ _).mp present
          cases found.symm.trans there
          exact held (codes.dnaToStr_inj.mp same ▸ other)
        next => exact absurd registered held
  owned := rep.owned.registerDnaForAgent agent dna

/-- A session that creation adds has the returned token. -/
theorem drawn_of_new {agent : AgentPubKey} {token : SessionToken} {key : String}
    (member : key ∈ (MemoryStore.createSession agent token mem).2.sessions) (new : key ∉ mem.sessions) :
    (MemoryStore.createSession agent token mem).1 = some ⟨key⟩ := by
  simp only [MemoryStore.createSession] at member ⊢
  cases found : sessionCapabilities agent mem with
  | none =>
    rw [found] at member
    exact absurd member new
  | some capabilities =>
    rw [found] at member
    rcases Finmap.mem_insert.mp member with rfl | old
    · rfl
    · exact absurd old new

/-- The stores hold the same, and every session has a token that was returned before. -/
def Matching (codec : HashCodec) (json : CapabilityJson) (past : List Answer) (mem : MemoryStoreInner)
    (db : SqliteTables) : Prop :=
  Represents codec json mem db ∧ ∀ token ∈ mem.sessions, ⟨token⟩ ∈ past.filterMap Answer.drawn

theorem matching_step (codes : codec.Invertible) (lawful : json.Lawful) (past : List Answer)
    (op : Operation × SessionToken) (mem : MemoryStoreInner) (db : SqliteTables)
    (matching : Matching codec json past mem db)
    (fresh : SessionStore.FreshTokens (past ++ [((machine memorySessionStore).step op mem).1])) :
    ((machine memorySessionStore).step op mem).1 =
        ((machine (sqliteSessionStore codec json)).step op db).1 ∧
      Matching codec json (past ++ [((machine memorySessionStore).step op mem).1])
        ((machine memorySessionStore).step op mem).2
        ((machine (sqliteSessionStore codec json)).step op db).2 := by
  obtain ⟨rep, returned⟩ := matching
  have kept (answer : Answer) (after : MemoryStoreInner)
      (fewer : ∀ token ∈ after.sessions, token ∈ mem.sessions) :
      ∀ token ∈ after.sessions, ⟨token⟩ ∈ (past ++ [answer]).filterMap Answer.drawn := by
    intro token member
    rw [List.filterMap_append]
    exact List.mem_append_left _ (returned token (fewer token member))
  obtain ⟨op, token⟩ := op
  cases op with
  | addAgent entry => exact ⟨rfl, rep.addAgent codes entry, kept _ _ fun _ member => member⟩
  | removeAgent agent =>
    refine ⟨congrArg (fun found => Answer.flag (.ok found)) (rep.removeAgent_found agent),
      rep.removeAgent codes agent, kept _ _ ?_⟩
    intro key member
    change key ∈ (MemoryStore.removeAgent agent mem).2.sessions at member
    rw [removeAgent_state rep.owned] at member
    obtain ⟨info, found, _⟩ := mem_retain member
    exact Finmap.mem_of_lookup_eq_some found
  | listAgents =>
    exact ⟨congrArg (fun agents => Answer.agents (.ok agents)) (rep.listAgents codes lawful), rep,
      kept _ _ fun _ member => member⟩
  | isAgentAllowed agent =>
    exact ⟨congrArg (fun allowed => Answer.flag (.ok allowed)) (rep.isAgentAllowed agent), rep,
      kept _ _ fun _ member => member⟩
  | getAgent agent =>
    exact ⟨congrArg (fun entry => Answer.agent (.ok entry)) (rep.getAgent lawful agent), rep,
      kept _ _ fun _ member => member⟩
  | createSession agent =>
    have unused : ∀ drawn, (MemoryStore.createSession agent token mem).1 = some drawn →
        drawn.text ∉ mem.sessions := by
      intro drawn now before
      unfold SessionStore.FreshTokens at fresh
      rw [List.filterMap_append] at fresh
      have again : drawn ∈ [((machine memorySessionStore).step (.createSession agent, token) mem).1].filterMap
          Answer.drawn :=
        List.mem_filterMap.mpr ⟨_, List.mem_singleton.mpr rfl, now⟩
      exact (List.nodup_append.mp fresh).2.2 _ (returned _ before) _ again rfl
    obtain ⟨same, next⟩ := rep.createSession agent token unused
    refine ⟨congrArg Answer.token same, next, ?_⟩
    intro key member
    by_cases old : key ∈ mem.sessions
    · exact kept (Answer.token _) _ (fun _ member => member) key old
    · rw [List.filterMap_append]
      refine List.mem_append_right _ (List.mem_filterMap.mpr ⟨_, List.mem_singleton.mpr rfl, ?_⟩)
      exact drawn_of_new member old
  | validateSession text =>
    exact ⟨congrArg (fun info => Answer.session (.ok info)) (rep.validateSession codes lawful text), rep,
      kept _ _ fun _ member => member⟩
  | revokeSession text =>
    obtain ⟨same, next⟩ := rep.revokeSession text
    exact ⟨congrArg (fun found => Answer.flag (.ok found)) same, next,
      kept _ _ fun _ member => (Finmap.mem_erase.mp member).2⟩
  | registerDnaForAgent agent dna =>
    refine ⟨rfl, rep.registerDnaForAgent codes agent dna, kept _ _ ?_⟩
    intro key member
    change key ∈ (MemoryStore.registerDnaForAgent agent dna mem).sessions at member
    rwa [← Finmap.lookup_isSome, lookup_registerDnaForAgent, Option.isSome_map, Finmap.lookup_isSome]
      at member
  | revokeSessionsForAgent agent =>
    refine ⟨congrArg (fun removed => Answer.count (.ok removed)) (rep.revokeSessionsForAgent codes agent),
      rep.dropSessions codes agent, kept _ _ ?_⟩
    intro key member
    obtain ⟨info, found, _⟩ := mem_retain member
    exact Finmap.mem_of_lookup_eq_some found
  | sessionCount =>
    exact ⟨congrArg (fun number => Answer.count (.ok number))
      (size_congr fun key => (rep.mem_sessions key).symm), rep, kept _ _ fun _ member => member⟩

/-- Run one after another from empty stores, with printed hashes that are read back and no token
drawn twice, the operations answer the same on both backends. -/
theorem stores_equivalent (codec : HashCodec) (json : CapabilityJson) (codes : codec.Invertible)
    (lawful : json.Lawful) (ops : List (Operation × SessionToken))
    (fresh : SessionStore.FreshTokens ((machine memorySessionStore).answers ops .default)) :
    (machine memorySessionStore).answers ops .default =
      (machine (sqliteSessionStore codec json)).answers ops .init :=
  Observation.answers_eq_of_simulation (Matching codec json) SessionStore.FreshTokens
    (fun _ _ fresh => fresh.earlier) (matching_step codes lawful) ops [] _ _
    ⟨represents_init, fun _ member => absurd member Finmap.notMem_empty⟩ fresh

/-- Bytes as they are, after a mark that no printed hash has. -/
def markBytes (raw : List UInt8) : String :=
  .ofList ('-' :: raw.map fun byte => Char.ofNat byte.toNat)

def unmarkBytes (text : String) : List UInt8 := (text.toList.drop 1).map fun c => UInt8.ofNat c.toNat

/-- Prints the one DNA, Alice and Bob as the hash library does, and marks any other bytes. -/
def markedCodec : HashCodec where
  dnaOfStr text := if text = sampleDnaText then .ok sampleDna else .ok ⟨unmarkBytes text⟩
  agentOfStr text :=
    if text = aliceText then .ok alice
    else if text = bobText then .ok bob
    else .ok ⟨unmarkBytes text⟩
  agentOfRaw39 raw := if raw.length = 39 then some ⟨raw⟩ else none
  dnaToStr dna := if dna = sampleDna then sampleDnaText else markBytes dna.raw
  agentToStr agent :=
    if agent = alice then aliceText
    else if agent = bob then bobText
    else markBytes agent.raw

theorem unmarkBytes_markBytes (raw : List UInt8) : unmarkBytes (markBytes raw) = raw := by
  rw [unmarkBytes, markBytes, String.toList_ofList, List.drop_one, List.tail_cons, List.map_map]
  conv_rhs => rw [← List.map_id raw]
  apply List.map_congr_left
  intro byte _
  have valid : byte.toNat.isValidChar := Or.inl (by have := byte.toNat_lt; omega)
  rw [Function.comp_apply, Char.ofNat, dif_pos valid]
  exact UInt8.ofNat_toNat

theorem markBytes_ne (raw : List UInt8) {text : String} (starts : text.toList.head? = some 'u') :
    markBytes raw ≠ text := by
  rintro rfl
  rw [markBytes, String.toList_ofList] at starts
  simp at starts

theorem markedCodec_invertible : markedCodec.Invertible where
  agent a := by
    by_cases first : a = alice
    · subst first
      decide
    by_cases second : a = bob
    · subst second
      decide
    simp only [markedCodec, if_neg first, if_neg second, unmarkBytes_markBytes,
      if_neg (markBytes_ne a.raw (by decide : aliceText.toList.head? = some 'u')),
      if_neg (markBytes_ne a.raw (by decide : bobText.toList.head? = some 'u'))]
  dna d := by
    by_cases known : d = sampleDna
    · subst known
      decide
    simp only [markedCodec, if_neg known, unmarkBytes_markBytes,
      if_neg (markBytes_ne d.raw (by decide : sampleDnaText.toList.head? = some 'u'))]

def capabilityTexts : List (Finset Capability × String) :=
  [(∅, "[]"), ({.dhtRead}, "[\"dht_read\"]"), ({.dhtWrite}, "[\"dht_write\"]"), ({.k2}, "[\"k2\"]"),
    ({.dhtRead, .dhtWrite}, "[\"dht_read\",\"dht_write\"]"), ({.dhtRead, .k2}, "[\"dht_read\",\"k2\"]"),
    ({.dhtWrite, .k2}, "[\"dht_write\",\"k2\"]"),
    ({.dhtRead, .dhtWrite, .k2}, "[\"dht_read\",\"dht_write\",\"k2\"]")]

def sampleCapabilityJson : CapabilityJson where
  toText caps := ((capabilityTexts.find? (·.1 = caps)).map (·.2)).getD ""
  ofText text := (capabilityTexts.find? (·.2 = text)).map (·.1)

theorem sampleCapabilityJson_lawful : sampleCapabilityJson.Lawful where
  ofText_toText caps := by
    have cases : ∀ caps ∈ ({.dhtRead, .dhtWrite, .k2} : Finset Capability).powerset,
        sampleCapabilityJson.ofText (sampleCapabilityJson.toText caps) = some caps := by
      decide
    apply cases
    rw [Finset.mem_powerset]
    intro capability _
    cases capability <;> decide

/-- Alice and Bob open sessions, Alice joins a DNA, Bob is removed. -/
def removalAfterSessions : List (Operation × SessionToken) :=
  [(.addAgent ⟨alice, {.dhtRead, .k2}, some "alice"⟩, ⟨""⟩), (.addAgent ⟨bob, {.dhtRead}, none⟩, ⟨""⟩),
    (.createSession alice, ⟨"a1"⟩), (.createSession bob, ⟨"b2"⟩),
    (.registerDnaForAgent alice sampleDna, ⟨""⟩), (.validateSession "a1", ⟨""⟩),
    (.removeAgent bob, ⟨""⟩), (.createSession bob, ⟨"c3"⟩), (.sessionCount, ⟨""⟩)]

theorem stores_equivalent_removalAfterSessions :
    (machine memorySessionStore).answers removalAfterSessions .default =
      (machine (sqliteSessionStore markedCodec sampleCapabilityJson)).answers removalAfterSessions .init :=
  stores_equivalent markedCodec sampleCapabilityJson markedCodec_invertible
    sampleCapabilityJson_lawful removalAfterSessions (by unfold SessionStore.FreshTokens; decide)

end H2hcLinker
