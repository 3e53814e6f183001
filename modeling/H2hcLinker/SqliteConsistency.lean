import H2hcLinker.SqliteFaults

/-! The writes of the SQLite backend, any statement of which may fail. Each statement is a
transaction of its own, and the order of those of a removal keeps the tables consistent wherever
it stops. -/
namespace H2hcLinker.SqliteStore

open HashTable Observation SessionStore

/-- A write, with what the database answers to its statements where they fail. -/
inductive Write where
  | addAgent (agent : AllowedAgent) (faults : Faults)
  | removeAgent (agent : AgentPubKey) (faults : Faults)
  /-- With the token that `SessionToken::generate` draws. -/
  | createSession (agent : AgentPubKey) (token : SessionToken) (fault : Option SessionStoreError)
  | revokeSession (token : String) (fault : Option SessionStoreError)
  | registerDnaForAgent (agent : AgentPubKey) (dna : DnaHash) (fault : Option SessionStoreError)
  | revokeSessionsForAgent (agent : AgentPubKey) (fault : Option SessionStoreError)

/-- A statement that fails leaves the tables alone. -/
def unlessFault {α : Type} (fault : Option SessionStoreError)
    (run : SqliteTables → SessionStoreResult α × SqliteTables) (db : SqliteTables) :
    SessionStoreResult α × SqliteTables :=
  match fault with
  | some e => (.error e, db)
  | none => run db

def performWrite (codec : HashCodec) (json : CapabilityJson) (op : Write) (db : SqliteTables) :
    Answer × SqliteTables :=
  match op with
  | .addAgent agent faults => (addAgentStatements codec json faults agent db).map .done id
  | .removeAgent agent faults => (removeAgentStatements codec faults agent db).map .flag id
  | .createSession agent token fault =>
    (unlessFault fault (createSession codec agent token) db).map .token id
  | .revokeSession token fault =>
    (unlessFault fault (fun db => (revokeSession token db).map .ok id) db).map .flag id
  | .registerDnaForAgent agent dna fault =>
    (unlessFault fault (fun db => (.ok (), registerDnaForAgent codec agent dna db)) db).map .done id
  | .revokeSessionsForAgent agent fault =>
    (unlessFault fault (fun db => (revokeSessionsForAgent codec agent db).map .ok id) db).map .count id

def writes (codec : HashCodec) (json : CapabilityJson) : Machine Write Answer SqliteTables where
  step := performWrite codec json

variable {codec : HashCodec} {json : CapabilityJson} {db : SqliteTables} {pk token : String}

/-- What the code relies on between two writes: a session's agent is on the allowlist, and a row
of `session_dnas` has a session, of the agent that it names. -/
structure SqliteTables.Consistent (db : SqliteTables) : Prop where
  listed : ∀ token row, db.sessions.lookup token = some row → row.agentPubkey ∈ db.allowedAgents
  owned : ∀ token text owner, db.sessionDnas.lookup (token, text) = some owner →
    ∃ row, db.sessions.lookup token = some row ∧ row.agentPubkey = owner

theorem consistent_init : SqliteTables.init.Consistent where
  listed token row found := by simp [SqliteTables.init] at found
  owned token text owner found := by simp [SqliteTables.init] at found

theorem SqliteTables.Consistent.addAgent (consistent : db.Consistent) (agent : AllowedAgent) :
    (SqliteStore.addAgent codec json agent db).Consistent where
  listed token row found := Finmap.mem_insert.mpr (.inr (consistent.listed token row found))
  owned := consistent.owned

theorem SqliteTables.Consistent.deleteSessionDnas (consistent : db.Consistent) (pk : String) :
    (SqliteStore.deleteSessionDnas pk db).Consistent where
  listed := consistent.listed
  owned token text owner found := by
    rw [SqliteStore.deleteSessionDnas, lookup_retain, Option.filter_eq_some_iff] at found
    exact consistent.owned token text owner found.1

/-- The cascade leaves no row behind whose session is gone. -/
theorem SqliteTables.Consistent.deleteSessions (consistent : db.Consistent)
    (doomed : String → SessionRow → Bool) : (SqliteStore.deleteSessions doomed db).2.Consistent where
  listed token row found := by
    rw [SqliteStore.deleteSessions, lookup_retain, Option.filter_eq_some_iff] at found
    exact consistent.listed token row found.1
  owned token text owner found := by
    rw [SqliteStore.deleteSessions, lookup_retain, Option.filter_eq_some_iff] at found
    obtain ⟨row, session, own⟩ := consistent.owned token text owner found.1
    refine ⟨row, ?_, own⟩
    rw [SqliteStore.deleteSessions, lookup_retain, Option.filter_eq_some_iff]
    exact ⟨session, by simpa [session] using found.2⟩

/-- The allowlist entry goes last: by then its agent has no session. -/
theorem SqliteTables.Consistent.deleteAgent (consistent : db.Consistent) (none : db.NoSessions pk) :
    (SqliteStore.deleteAgent pk db).2.Consistent where
  listed token row found := by
    have other : row.agentPubkey ≠ pk := none token row found
    obtain ⟨agent, there⟩ := Finmap.mem_iff.mp (consistent.listed token row found)
    exact mem_retain_iff.mpr ⟨agent, there, by simpa using other⟩
  owned := consistent.owned

theorem SqliteTables.Consistent.removeAgent (consistent : db.Consistent) (faults : Faults)
    (agent : AgentPubKey) : (removeAgentStatements codec faults agent db).2.Consistent := by
  have orphans := consistent.deleteSessionDnas (codec.agentToStr agent)
  have sessions := orphans.deleteSessions fun _ row => row.agentPubkey = codec.agentToStr agent
  unfold removeAgentStatements
  split
  · exact consistent
  · split
    · exact orphans
    · split
      · exact sessions
      · exact sessions.deleteAgent noSessions_deleteSessions

theorem SqliteTables.Consistent.createSession (consistent : db.Consistent) (agent : AgentPubKey)
    (token : SessionToken) : (SqliteStore.createSession codec agent token db).2.Consistent := by
  simp only [SqliteStore.createSession]
  cases allowed : db.allowedAgents.lookup (codec.agentToStr agent) with
  | none => exact consistent
  | some row =>
    by_cases used : token.text ∈ db.sessions
    · simpa [used] using consistent
    · simp only [if_neg used]
      refine ⟨?_, ?_⟩
      · intro key session found
        rw [lookup_insert_eq] at found
        split at found
        next =>
          cases found
          exact Finmap.mem_of_lookup_eq_some allowed
        next => exact consistent.listed key session found
      · intro key text owner found
        obtain ⟨session, there, own⟩ := consistent.owned key text owner found
        refine ⟨session, ?_, own⟩
        have other : key ≠ token.text := by
          rintro rfl
          exact used (Finmap.mem_of_lookup_eq_some there)
        rw [lookup_insert_eq, if_neg other]
        exact there

theorem SqliteTables.Consistent.registerDnaForAgent (consistent : db.Consistent)
    (agent : AgentPubKey) (dna : DnaHash) :
    (SqliteStore.registerDnaForAgent codec agent dna db).Consistent where
  listed := consistent.listed
  owned token text owner found := by
    simp only [SqliteStore.registerDnaForAgent, lookup_union_eq_some] at found
    rcases found with old | ⟨_, selected⟩
    · exact consistent.owned token text owner old
    · obtain ⟨key, row, session, same, rfl⟩ := lookup_mapEntries_eq_some.mp selected
      obtain ⟨rfl, rfl⟩ := Prod.mk.inj same
      rw [lookup_retain, Option.filter_eq_some_iff] at session
      exact ⟨row, session.1, by simpa using session.2⟩

theorem SqliteTables.Consistent.write (consistent : db.Consistent) (op : Write) :
    (performWrite codec json op db).2.Consistent := by
  have fails {α : Type} (fault : Option SessionStoreError)
      (run : SqliteTables → SessionStoreResult α × SqliteTables) (ran : (run db).2.Consistent) :
      (unlessFault fault run db).2.Consistent := by
    cases fault with
    | none => exact ran
    | some e => exact consistent
  cases op with
  | addAgent agent faults =>
    change (addAgentStatements codec json faults agent db).2.Consistent
    unfold addAgentStatements
    split
    · exact consistent
    · exact consistent.addAgent agent
  | removeAgent agent faults => exact consistent.removeAgent faults agent
  | createSession agent token fault => exact fails fault _ (consistent.createSession agent token)
  | revokeSession token fault =>
    apply fails fault
    exact consistent.deleteSessions fun key _ => key = token
  | registerDnaForAgent agent dna fault =>
    apply fails fault
    exact consistent.registerDnaForAgent agent dna
  | revokeSessionsForAgent agent fault =>
    apply fails fault
    exact consistent.deleteSessions fun _ row => row.agentPubkey = codec.agentToStr agent

/-- Whatever statements fail along the way, no session outlives its agent's place on the allowlist
and no DNA its session. -/
theorem consistent_after (codec : HashCodec) (json : CapabilityJson) (ops : List Write) :
    ((writes codec json).after ops .init).Consistent :=
  (writes codec json).after_induction SqliteTables.Consistent
    (fun op _ consistent => consistent.write op) ops .init consistent_init

end H2hcLinker.SqliteStore
