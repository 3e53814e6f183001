import H2hcLinker.SqliteConsistency
import H2hcLinker.StoreEquivalence

/-! The sessions of the SQLite backend over any history of writes of which any statement may fail:
they are exactly those that the history opened and did not end, with the DNAs that it registered for
them and did not delete. No token needs to be fresh: a duplicate key is refused. -/
namespace H2hcLinker.SqliteStore

open HashTable Observation SessionStore

variable {codec : HashCodec} {json : CapabilityJson} {db : SqliteTables} {pk token : String}

/-- Everything in the tables was printed by the codecs that read it. -/
structure SqliteTables.Readable (codec : HashCodec) (json : CapabilityJson) (db : SqliteTables) :
    Prop where
  agents : ∀ key row, db.allowedAgents.lookup key = some row → ∃ caps, row.capabilities = json.toText caps
  sessions : ∀ token row, db.sessions.lookup token = some row →
    ∃ agent caps, row = ⟨codec.agentToStr agent, json.toText caps⟩
  dnas : ∀ token text, (token, text) ∈ db.sessionDnas → ∃ dna, codec.dnaToStr dna = text

theorem readable_init : SqliteTables.init.Readable codec json where
  agents key row found := by simp [SqliteTables.init] at found
  sessions token row found := by simp [SqliteTables.init] at found
  dnas token text member := absurd member Finmap.notMem_empty

/-- The tables hold the session. -/
structure SqliteTables.Holds (codec : HashCodec) (json : CapabilityJson) (db : SqliteTables)
    (token : String) (info : SessionInfo) : Prop where
  row : db.sessions.lookup token = some (sessionRow codec json info)
  dnas : ∀ dna, dna ∈ info.registeredDnas ↔ (token, codec.dnaToStr dna) ∈ db.sessionDnas

theorem mem_registeredDnas (readable : db.Readable codec json) (codes : codec.Invertible)
    {dna : DnaHash} : dna ∈ registeredDnas codec token db ↔
      (token, codec.dnaToStr dna) ∈ db.sessionDnas := by
  simp only [registeredDnas, Finset.mem_biUnion, Finset.mem_filter, Finmap.mem_keys]
  constructor
  · rintro ⟨⟨_, text⟩, ⟨there, rfl⟩, parsed⟩
    obtain ⟨printed, rfl⟩ := readable.dnas _ _ there
    rw [codes.dna printed] at parsed
    rwa [Finset.mem_singleton.mp parsed]
  · intro there
    exact ⟨(token, codec.dnaToStr dna), ⟨there, rfl⟩, by simp [codes.dna]⟩

/-- A token is valid for what the tables hold. -/
theorem validateSession_iff_holds (readable : db.Readable codec json) (codes : codec.Invertible)
    (lawful : json.Lawful) {info : SessionInfo} :
    validateSession codec json token db = some info ↔ db.Holds codec json token info := by
  unfold validateSession
  constructor
  · intro valid
    cases found : db.sessions.lookup token with
    | none => simp [found] at valid
    | some row =>
      obtain ⟨agent, caps, rfl⟩ := readable.sessions token row found
      simp only [found, codes.agent, capsFromJson_toText lawful, Option.some.injEq] at valid
      subst valid
      exact ⟨found, fun dna => mem_registeredDnas readable codes⟩
  · rintro ⟨row, dnas⟩
    have same : registeredDnas codec token db = info.registeredDnas :=
      Finset.ext fun dna => (mem_registeredDnas readable codes).trans (dnas dna).symm
    simp [row, sessionRow, codes.agent, capsFromJson_toText lawful, same]

/-- The write ends the agent's session. A removal does with its second statement, whatever becomes
of the third. -/
def Write.Ends (token : String) (agent : AgentPubKey) : Write → Prop
  | .removeAgent removed faults =>
    removed = agent ∧ faults .deleteSessionDnas = none ∧ faults .deleteSessions = none
  | .revokeSession text fault => text = token ∧ fault = none
  | .revokeSessionsForAgent revoked fault => revoked = agent ∧ fault = none
  | _ => False

/-- What the write makes of a session that it does not end: it registers a DNA, or it is a removal
that got no further than its first statement. -/
def Write.change (info : SessionInfo) : Write → SessionInfo
  | .registerDnaForAgent agent dna none => MemoryStore.grantDna agent dna info
  | .removeAgent removed faults =>
    if removed = info.agentPubkey ∧ faults .deleteSessionDnas = none then
      { info with registeredDnas := ∅ }
    else info
  | _ => info

/-- The write opens this session. -/
structure Write.Creates (codec : HashCodec) (json : CapabilityJson) (token : String) (op : Write)
    (db : SqliteTables) (info : SessionInfo) : Prop where
  op : op = .createSession info.agentPubkey ⟨token⟩ none
  unused : token ∉ db.sessions
  allowed : (getAgent codec json info.agentPubkey db).map (·.capabilities) = some info.capabilities
  dnas : info.registeredDnas = ∅

theorem holds_congr {db' : SqliteTables} (sessions : db'.sessions = db.sessions)
    (dnas : db'.sessionDnas = db.sessionDnas) {info : SessionInfo} :
    db'.Holds codec json token info ↔ db.Holds codec json token info := by
  constructor
  · intro holds
    exact ⟨by rw [← sessions]; exact holds.row, fun dna => by rw [← dnas]; exact holds.dnas dna⟩
  · intro holds
    exact ⟨by rw [sessions]; exact holds.row, fun dna => by rw [dnas]; exact holds.dnas dna⟩

/-- The tables hold one session under a token. -/
theorem SqliteTables.Holds.unique (codes : codec.Invertible) (lawful : json.Lawful)
    {a b : SessionInfo} (first : db.Holds codec json token a) (second : db.Holds codec json token b) :
    a = b := by
  have same : sessionRow codec json a = sessionRow codec json b :=
    Option.some.inj (first.row.symm.trans second.row)
  obtain ⟨agent, caps⟩ := SessionRow.mk.inj same
  have agents := codes.agentToStr_inj.mp agent
  have capabilities : a.capabilities = b.capabilities := by
    rw [← capsFromJson_toText lawful a.capabilities, caps, capsFromJson_toText lawful]
  have registered : a.registeredDnas = b.registeredDnas :=
    Finset.ext fun dna => (first.dnas dna).trans (second.dnas dna).symm
  cases a
  cases b
  simp_all

/-- Where the row of a session is, the tables hold the session with the DNAs they name. -/
theorem holds_of_row (readable : db.Readable codec json) (codes : codec.Invertible)
    {info : SessionInfo} (row : db.sessions.lookup token = some (sessionRow codec json info)) :
    db.Holds codec json token { info with registeredDnas := registeredDnas codec token db } :=
  ⟨row, fun _ => mem_registeredDnas readable codes⟩

/-- Tables that keep a session's row and hold a changed session for it hold no other. -/
theorem holds_changed_iff {db' : SqliteTables} (readable : db.Readable codec json)
    (codes : codec.Invertible) (lawful : json.Lawful) {change : SessionInfo → SessionInfo}
    (sessions : db'.sessions = db.sessions)
    (changed : ∀ old, db.Holds codec json token old → db'.Holds codec json token (change old))
    {info : SessionInfo} : db'.Holds codec json token info ↔
      ∃ old, db.Holds codec json token old ∧ change old = info := by
  constructor
  · intro holds
    have before := holds_of_row readable codes (sessions ▸ holds.row)
    exact ⟨_, before, (changed _ before).unique codes lawful holds⟩
  · rintro ⟨old, holds, rfl⟩
    exact changed old holds

/-- The rows of `session_dnas` under a token are its session's agent's. -/
theorem owner_of_holds (consistent : db.Consistent) {info : SessionInfo}
    (holds : db.Holds codec json token info) {text owner : String}
    (found : db.sessionDnas.lookup (token, text) = some owner) :
    owner = codec.agentToStr info.agentPubkey := by
  obtain ⟨row, session, rfl⟩ := consistent.owned token text owner found
  cases holds.row.symm.trans session
  rfl

theorem holds_deleteSessions {doomed : String → SessionRow → Bool} {info : SessionInfo} :
    (deleteSessions doomed db).2.Holds codec json token info ↔
      db.Holds codec json token info ∧ doomed token (sessionRow codec json info) = false := by
  have kept (row : db.sessions.lookup token = some (sessionRow codec json info))
      (spared : doomed token (sessionRow codec json info) = false) (dna : DnaHash) :
      (token, codec.dnaToStr dna) ∈ (deleteSessions doomed db).2.sessionDnas ↔
        (token, codec.dnaToStr dna) ∈ db.sessionDnas := by
    rw [deleteSessions, mem_retain_iff, Finmap.mem_iff]
    simp [row, spared]
  constructor
  · rintro ⟨row, dnas⟩
    rw [deleteSessions, lookup_retain, Option.filter_eq_some_iff] at row
    have spared : doomed token (sessionRow codec json info) = false := by simpa using row.2
    exact ⟨⟨row.1, fun dna => (dnas dna).trans (kept row.1 spared dna)⟩, spared⟩
  · rintro ⟨⟨row, dnas⟩, spared⟩
    refine ⟨?_, fun dna => (dnas dna).trans (kept row spared dna).symm⟩
    rw [deleteSessions, lookup_retain, Option.filter_eq_some_iff]
    exact ⟨row, by simp [spared]⟩

/-- A removal that stops after its first statement takes the DNAs of the agent's sessions. -/
theorem holds_deleteSessionDnas (readable : db.Readable codec json) (consistent : db.Consistent)
    (codes : codec.Invertible) (lawful : json.Lawful) (agent : AgentPubKey) {info : SessionInfo} :
    (deleteSessionDnas (codec.agentToStr agent) db).Holds codec json token info ↔
      ∃ old, db.Holds codec json token old ∧
        (if agent = old.agentPubkey then { old with registeredDnas := ∅ } else old) = info := by
  have sessions : (deleteSessionDnas (codec.agentToStr agent) db).sessions = db.sessions := rfl
  apply holds_changed_iff readable codes lawful sessions
  intro old holds
  have left (dna : DnaHash) :
      (token, codec.dnaToStr dna) ∈ (deleteSessionDnas (codec.agentToStr agent) db).sessionDnas ↔
        dna ∈ old.registeredDnas ∧ agent ≠ old.agentPubkey := by
    rw [deleteSessionDnas, mem_retain_iff, holds.dnas, Finmap.mem_iff]
    simp only [decide_eq_true_eq]
    constructor
    · rintro ⟨owner, found, other⟩
      refine ⟨⟨owner, found⟩, ?_⟩
      rintro rfl
      exact other (owner_of_holds consistent holds found)
    · rintro ⟨⟨owner, found⟩, other⟩
      refine ⟨owner, found, ?_⟩
      rw [owner_of_holds consistent holds found]
      exact fun same => other (codes.agentToStr_inj.mp same.symm)
  split
  next same => exact ⟨holds.row, fun dna => by rw [left]; simp [same]⟩
  next other => exact ⟨holds.row, fun dna => by rw [left]; simp [other]⟩

/-- The insert adds the DNA to the sessions of the agent, where it is not there yet. -/
theorem mem_registerDnaForAgent (codes : codec.Invertible) (agent : AgentPubKey) (dna d : DnaHash)
    {info : SessionInfo} (row : db.sessions.lookup token = some (sessionRow codec json info)) :
    (token, codec.dnaToStr d) ∈ (registerDnaForAgent codec agent dna db).sessionDnas ↔
      (token, codec.dnaToStr d) ∈ db.sessionDnas ∨ info.agentPubkey = agent ∧ d = dna := by
  rw [registerDnaForAgent, Finmap.mem_union]
  refine or_congr_right ?_
  rw [Finmap.mem_iff]
  simp only [lookup_mapEntries_eq_some, lookup_retain, Option.filter_eq_some_iff, decide_eq_true_eq]
  constructor
  · rintro ⟨owner, key, session, ⟨found, own⟩, same, rfl⟩
    obtain ⟨rfl, printed⟩ := Prod.mk.inj same
    cases row.symm.trans found
    exact ⟨codes.agentToStr_inj.mp own, (codes.dnaToStr_inj.mp printed).symm⟩
  · rintro ⟨rfl, rfl⟩
    exact ⟨_, token, _, ⟨row, rfl⟩, rfl, rfl⟩

theorem mem_grantDna (agent : AgentPubKey) (dna d : DnaHash) (old : SessionInfo) :
    d ∈ (MemoryStore.grantDna agent dna old).registeredDnas ↔
      d ∈ old.registeredDnas ∨ old.agentPubkey = agent ∧ d = dna := by
  unfold MemoryStore.grantDna
  by_cases own : old.agentPubkey = agent
  · simp [own, or_comm]
  · simp [own]

theorem sessionRow_grantDna (agent : AgentPubKey) (dna : DnaHash) (old : SessionInfo) :
    sessionRow codec json (MemoryStore.grantDna agent dna old) = sessionRow codec json old := by
  unfold MemoryStore.grantDna
  split <;> rfl

theorem holds_registerDnaForAgent (readable : db.Readable codec json) (codes : codec.Invertible)
    (lawful : json.Lawful) (agent : AgentPubKey) (dna : DnaHash) {info : SessionInfo} :
    (registerDnaForAgent codec agent dna db).Holds codec json token info ↔
      ∃ old, db.Holds codec json token old ∧ MemoryStore.grantDna agent dna old = info := by
  have sessions : (registerDnaForAgent codec agent dna db).sessions = db.sessions := rfl
  apply holds_changed_iff readable codes lawful sessions
  intro old holds
  refine ⟨?_, fun d => ?_⟩
  · rw [sessionRow_grantDna]
    exact holds.row
  · rw [mem_registerDnaForAgent codes agent dna d holds.row, mem_grantDna, holds.dnas]

/-- A new session has the capabilities of the allowlist and no DNA; no other changes. -/
theorem holds_createSession (readable : db.Readable codec json) (consistent : db.Consistent)
    (codes : codec.Invertible) (lawful : json.Lawful) (agent : AgentPubKey) (drawn : SessionToken)
    {info : SessionInfo} :
    (createSession codec agent drawn db).2.Holds codec json token info ↔
      Write.Creates codec json token (.createSession agent drawn none) db info ∨
        db.Holds codec json token info := by
  have unchanged (same : (createSession codec agent drawn db).2 = db)
      (barred : db.allowedAgents.lookup (codec.agentToStr agent) = none ∨ drawn.text ∈ db.sessions) :
      (createSession codec agent drawn db).2.Holds codec json token info ↔
        Write.Creates codec json token (.createSession agent drawn none) db info ∨
          db.Holds codec json token info := by
    rw [same, or_iff_right]
    rintro ⟨op, unused, allowed, _⟩
    cases op
    rcases barred with missing | used
    · simp [getAgent, missing] at allowed
    · exact unused used
  cases listed : db.allowedAgents.lookup (codec.agentToStr agent) with
  | none => exact unchanged (by simp [createSession, listed]) (.inl listed)
  | some row =>
    by_cases used : drawn.text ∈ db.sessions
    · exact unchanged (by simp [createSession, listed, used]) (.inr used)
    · obtain ⟨caps, text⟩ := readable.agents _ row listed
      have after : (createSession codec agent drawn db).2 =
          { db with sessions := db.sessions.insert drawn.text ⟨codec.agentToStr agent, row.capabilities⟩ } := by
        simp [createSession, listed, used]
      rw [after]
      by_cases mine : token = drawn.text
      · subst mine
        have none : ¬db.Holds codec json drawn.text info :=
          fun holds => used (Finmap.mem_of_lookup_eq_some holds.row)
        have noDnas (dna : DnaHash) : (drawn.text, codec.dnaToStr dna) ∉ db.sessionDnas := by
          intro there
          obtain ⟨owner, found⟩ := Finmap.mem_iff.mp there
          obtain ⟨session, holds, _⟩ := consistent.owned _ _ owner found
          exact used (Finmap.mem_of_lookup_eq_some holds)
        rw [or_iff_left none]
        constructor
        · rintro ⟨there, dnas⟩
          obtain ⟨agents, texts⟩ := SessionRow.mk.inj
            (Option.some.inj ((Finmap.lookup_insert _).symm.trans there))
          obtain rfl := codes.agentToStr_inj.mp agents
          refine ⟨rfl, used, ?_, ?_⟩
          · simp [getAgent, listed, texts, capsFromJson_toText lawful]
          · exact Finset.eq_empty_of_forall_notMem fun dna member => noDnas dna ((dnas dna).mp member)
        · rintro ⟨op, _, allowed, dnas⟩
          cases op
          have texts : json.toText info.capabilities = row.capabilities := by
            simp only [getAgent, listed, Option.map_some, Option.some.injEq, text,
              capsFromJson_toText lawful] at allowed
            rw [text, allowed]
          refine ⟨?_, fun dna => ?_⟩
          · simp [sessionRow, texts]
          · simp [dnas, noDnas]
      · have never : ¬Write.Creates codec json token (.createSession agent drawn none) db info := by
          rintro ⟨op, _⟩
          cases op
          exact mine rfl
        rw [or_iff_right never]
        constructor
        · rintro ⟨there, dnas⟩
          rw [lookup_insert_eq, if_neg mine] at there
          exact ⟨there, dnas⟩
        · rintro ⟨there, dnas⟩
          exact ⟨by rw [lookup_insert_eq, if_neg mine]; exact there, dnas⟩

/-- Rows that were there before, in each table, are readable. -/
theorem SqliteTables.Readable.fewer {db' : SqliteTables} (readable : db.Readable codec json)
    (agents : ∀ key row, db'.allowedAgents.lookup key = some row → db.allowedAgents.lookup key = some row)
    (sessions : ∀ token row, db'.sessions.lookup token = some row → db.sessions.lookup token = some row)
    (dnas : ∀ key, key ∈ db'.sessionDnas → key ∈ db.sessionDnas) : db'.Readable codec json where
  agents key row found := readable.agents key row (agents key row found)
  sessions token row found := readable.sessions token row (sessions token row found)
  dnas token text member := readable.dnas token text (dnas _ member)

theorem SqliteTables.Readable.deleteSessionDnas (readable : db.Readable codec json) (pk : String) :
    (SqliteStore.deleteSessionDnas pk db).Readable codec json :=
  readable.fewer (fun _ _ found => found) (fun _ _ found => found) fun _ => mem_of_mem_retain

theorem SqliteTables.Readable.deleteSessions (readable : db.Readable codec json)
    (doomed : String → SessionRow → Bool) :
    (SqliteStore.deleteSessions doomed db).2.Readable codec json :=
  readable.fewer (fun _ _ found => found) (fun _ _ => lookup_of_retain) fun _ => mem_of_mem_retain

theorem SqliteTables.Readable.removeAgent (readable : db.Readable codec json) (faults : Faults)
    (agent : AgentPubKey) : (removeAgentStatements codec faults agent db).2.Readable codec json := by
  have orphans := readable.deleteSessionDnas (codec.agentToStr agent)
  have sessions := orphans.deleteSessions fun _ row => row.agentPubkey = codec.agentToStr agent
  unfold removeAgentStatements
  split
  · exact readable
  · split
    · exact orphans
    · split
      · exact sessions
      · exact sessions.fewer (fun _ _ => lookup_of_retain) (fun _ _ found => found) fun _ there => there

theorem SqliteTables.Readable.createSession (readable : db.Readable codec json) (agent : AgentPubKey)
    (drawn : SessionToken) : (SqliteStore.createSession codec agent drawn db).2.Readable codec json := by
  simp only [SqliteStore.createSession]
  cases listed : db.allowedAgents.lookup (codec.agentToStr agent) with
  | none => exact readable
  | some row =>
    by_cases used : drawn.text ∈ db.sessions
    · simpa [used] using readable
    · simp only [if_neg used]
      refine ⟨readable.agents, ?_, readable.dnas⟩
      intro token session found
      rw [lookup_insert_eq] at found
      split at found
      next =>
        obtain ⟨caps, text⟩ := readable.agents _ row listed
        cases found
        exact ⟨agent, caps, by rw [text]⟩
      next => exact readable.sessions token session found

theorem SqliteTables.Readable.registerDnaForAgent (readable : db.Readable codec json)
    (agent : AgentPubKey) (dna : DnaHash) :
    (SqliteStore.registerDnaForAgent codec agent dna db).Readable codec json where
  agents := readable.agents
  sessions := readable.sessions
  dnas token text member := by
    rcases Finmap.mem_union.mp member with old | new
    · exact readable.dnas token text old
    · obtain ⟨owner, found⟩ := Finmap.mem_iff.mp new
      obtain ⟨key, row, _, same, _⟩ := lookup_mapEntries_eq_some.mp found
      exact ⟨dna, (Prod.mk.inj same).2⟩

theorem SqliteTables.Readable.write (readable : db.Readable codec json) (op : Write) :
    (performWrite codec json op db).2.Readable codec json := by
  have fails {α : Type} (fault : Option SessionStoreError)
      (run : SqliteTables → SessionStoreResult α × SqliteTables)
      (ran : (run db).2.Readable codec json) : (unlessFault fault run db).2.Readable codec json := by
    cases fault with
    | none => exact ran
    | some e => exact readable
  cases op with
  | addAgent agent faults =>
    change (addAgentStatements codec json faults agent db).2.Readable codec json
    unfold addAgentStatements
    split
    · exact readable
    · refine ⟨?_, readable.sessions, readable.dnas⟩
      intro key row found
      rw [SqliteStore.addAgent, lookup_insert_eq] at found
      split at found
      next =>
        cases found
        exact ⟨agent.capabilities, rfl⟩
      next => exact readable.agents key row found
  | removeAgent agent faults => exact readable.removeAgent faults agent
  | createSession agent drawn fault => exact fails fault _ (readable.createSession agent drawn)
  | revokeSession text fault =>
    apply fails fault
    exact readable.deleteSessions fun key _ => key = text
  | registerDnaForAgent agent dna fault =>
    apply fails fault
    exact readable.registerDnaForAgent agent dna
  | revokeSessionsForAgent agent fault =>
    apply fails fault
    exact readable.deleteSessions fun _ row => row.agentPubkey = codec.agentToStr agent

/-- A removal ends the agent's session with its second statement; the third is none of a session's
concern. -/
theorem holds_removeAgent (readable : db.Readable codec json) (consistent : db.Consistent)
    (codes : codec.Invertible) (lawful : json.Lawful) (faults : Faults) (agent : AgentPubKey)
    {info : SessionInfo} :
    (removeAgentStatements codec faults agent db).2.Holds codec json token info ↔
      ∃ old, db.Holds codec json token old ∧
        ¬Write.Ends token old.agentPubkey (.removeAgent agent faults) ∧
        Write.change old (.removeAgent agent faults) = info := by
  have dnas : (deleteSessionDnas (codec.agentToStr agent) db).Holds codec json token info ↔ _ :=
    holds_deleteSessionDnas readable consistent codes lawful agent
  cases first : faults .deleteSessionDnas with
  | some e => simp [removeAgentStatements, first, Write.Ends, Write.change]
  | none =>
    cases second : faults .deleteSessions with
    | some e => simpa [removeAgentStatements, first, second, Write.Ends, Write.change] using dnas
    | none =>
      have sessions : (removeAgentStatements codec faults agent db).2.Holds codec json token info ↔
          (deleteSessions (fun _ row => row.agentPubkey = codec.agentToStr agent)
            (deleteSessionDnas (codec.agentToStr agent) db)).2.Holds codec json token info := by
        cases third : faults .deleteAgent with
        | some e => simp [removeAgentStatements, first, second, third]
        | none =>
          simp only [removeAgentStatements, first, second, third]
          apply holds_congr <;> rfl
      rw [sessions, holds_deleteSessions, dnas]
      simp only [Write.Ends, Write.change, first, second, and_true]
      constructor
      · rintro ⟨⟨old, holds, rfl⟩, spared⟩
        refine ⟨old, holds, ?_, rfl⟩
        rintro rfl
        simp [sessionRow] at spared
      · rintro ⟨old, holds, lasts, rfl⟩
        refine ⟨⟨old, holds, rfl⟩, ?_⟩
        have different : old.agentPubkey ≠ agent := fun same => lasts same.symm
        simp [lasts, sessionRow, codes.agentToStr_inj, different]

/-- How a write changes what the tables hold under a token. -/
theorem holds_write (readable : db.Readable codec json) (consistent : db.Consistent)
    (codes : codec.Invertible) (lawful : json.Lawful) (op : Write) {info : SessionInfo} :
    (performWrite codec json op db).2.Holds codec json token info ↔
      op.Creates codec json token db info ∨
      ∃ old, db.Holds codec json token old ∧ ¬op.Ends token old.agentPubkey ∧ op.change old = info := by
  -- a write that leaves sessions alone
  have other (op : Write) (opens : ∀ agent drawn, op ≠ .createSession agent drawn none) :
      ¬op.Creates codec json token db info := fun creates => opens _ _ creates.op
  have same (op : Write) (opens : ∀ agent drawn, op ≠ .createSession agent drawn none)
      (lasts : ∀ agent, ¬op.Ends token agent) (keeps : ∀ old, op.change old = old) :
      db.Holds codec json token info ↔ op.Creates codec json token db info ∨
        ∃ old, db.Holds codec json token old ∧ ¬op.Ends token old.agentPubkey ∧ op.change old = info := by
    simp [other op opens, lasts, keeps]
  cases op with
  | addAgent agent faults =>
    rw [← same _ (by simp) (by simp [Write.Ends]) (by simp [Write.change])]
    change (addAgentStatements codec json faults agent db).2.Holds codec json token info ↔ _
    cases fault : faults .insertAgent with
    | some e => simp [addAgentStatements, fault]
    | none =>
      simp only [addAgentStatements, fault]
      apply holds_congr <;> rfl
  | createSession agent drawn fault =>
    cases fault with
    | some e => exact same _ (by simp) (by simp [Write.Ends]) (by simp [Write.change])
    | none =>
      refine (holds_createSession readable consistent codes lawful agent drawn).trans
        (or_congr_right ?_)
      simp [Write.Ends, Write.change]
  | revokeSession text fault =>
    cases fault with
    | some e => exact same _ (by simp) (by simp [Write.Ends]) (by simp [Write.change])
    | none =>
      rw [or_iff_right (other _ (by simp))]
      refine holds_deleteSessions.trans ?_
      simp [Write.Ends, Write.change, eq_comm]
  | registerDnaForAgent agent dna fault =>
    cases fault with
    | some e => exact same _ (by simp) (by simp [Write.Ends]) (by simp [Write.change])
    | none =>
      rw [or_iff_right (other _ (by simp))]
      refine (holds_registerDnaForAgent readable codes lawful agent dna).trans ?_
      simp [Write.Ends, Write.change]
  | revokeSessionsForAgent agent fault =>
    cases fault with
    | some e => exact same _ (by simp) (by simp [Write.Ends]) (by simp [Write.change])
    | none =>
      rw [or_iff_right (other _ (by simp))]
      refine holds_deleteSessions.trans ?_
      simp [Write.Ends, Write.change, sessionRow, codes.agentToStr_inj, eq_comm]
  | removeAgent agent faults =>
    rw [or_iff_right (other _ (by simp))]
    exact holds_removeAgent readable consistent codes lawful faults agent

/-- What the write makes of the DNAs of an agent's session. -/
def Write.dnas (agent : AgentPubKey) (dnas : Finset DnaHash) : Write → Finset DnaHash
  | .registerDnaForAgent registering dna none => if agent = registering then insert dna dnas else dnas
  | .removeAgent removed faults =>
    if removed = agent ∧ faults .deleteSessionDnas = none then ∅ else dnas
  | _ => dnas

/-- The DNAs that the writes register for the agent, after the last removal that deleted them. -/
def dnasSince (agent : AgentPubKey) (since : List Write) : Finset DnaHash :=
  since.foldl (Write.dnas agent) ∅

theorem change_eq (info : SessionInfo) (op : Write) :
    op.change info = { info with registeredDnas := op.dnas info.agentPubkey info.registeredDnas } := by
  cases op with
  | registerDnaForAgent agent dna fault =>
    cases fault with
    | none =>
      simp only [Write.change, MemoryStore.grantDna, Write.dnas]
      split <;> rfl
    | some e => rfl
  | removeAgent removed faults =>
    simp only [Write.change, Write.dnas]
    split <;> rfl
  | _ => rfl

theorem foldl_change (since : List Write) (info : SessionInfo) :
    since.foldl Write.change info =
      { info with registeredDnas := since.foldl (Write.dnas info.agentPubkey) info.registeredDnas } := by
  induction since generalizing info with
  | nil => rfl
  | cons op since ih =>
    rw [List.foldl_cons, ih, change_eq]
    rfl

/-- What a session comes to over writes that do not end it. -/
theorem kept_iff {since : List Write} {first last : SessionInfo} :
    Kept (fun op info => op.Ends token info.agentPubkey) (fun op info => op.change info) since first last ↔
      (∀ op ∈ since, ¬op.Ends token first.agentPubkey) ∧ last = since.foldl Write.change first := by
  induction since generalizing first with
  | nil => simp [Kept, eq_comm]
  | cons op since ih =>
    have agent : (op.change first).agentPubkey = first.agentPubkey := by rw [change_eq]
    simp only [Kept, ih, agent, List.forall_mem_cons, List.foldl_cons, and_assoc]

/-- The history opened the session with what the allowlist said then, under a token that no session
had, has not ended it since, and registered its DNAs since. -/
def Opened (codec : HashCodec) (json : CapabilityJson) (ops : List Write) (token : String)
    (info : SessionInfo) : Prop :=
  ∃ before since, ops = before ++ .createSession info.agentPubkey ⟨token⟩ none :: since ∧
    token ∉ ((writes codec json).after before .init).sessions ∧
    (getAgent codec json info.agentPubkey ((writes codec json).after before .init)).map
      (·.capabilities) = some info.capabilities ∧
    (∀ op ∈ since, ¬op.Ends token info.agentPubkey) ∧
    info.registeredDnas = dnasSince info.agentPubkey since

/-- Whatever statements fail, the valid tokens are exactly those of the sessions that the history
opened. -/
theorem validateSession_iff_opened (codec : HashCodec) (json : CapabilityJson)
    (codes : codec.Invertible) (lawful : json.Lawful) (ops : List Write) (token : String)
    (info : SessionInfo) :
    validateSession codec json token ((writes codec json).after ops .init) = some info ↔
      Opened codec json ops token info := by
  have law (op : Write) (db : SqliteTables) (info : SessionInfo)
      (inv : db.Readable codec json ∧ db.Consistent) :
      validateSession codec json token ((writes codec json).step op db).2 = some info ↔
        op.Creates codec json token db info ∨ ∃ old, validateSession codec json token db = some old ∧
          ¬op.Ends token old.agentPubkey ∧ op.change old = info := by
    refine (validateSession_iff_holds (inv.1.write op) codes lawful).trans ?_
    rw [holds_write inv.1 inv.2 codes lawful op]
    simp only [validateSession_iff_holds inv.1 codes lawful]
  rw [slot_after_iff (writes codec json) (fun op db inv => ⟨inv.1.write op, inv.2.write op⟩) law
    ⟨readable_init, consistent_init⟩ rfl ops info]
  constructor
  · rintro ⟨before, op, since, first, rfl, ⟨rfl, unused, allowed, none⟩, kept⟩
    obtain ⟨lasts, rfl⟩ := kept_iff.mp kept
    rw [foldl_change]
    exact ⟨before, since, rfl, unused, allowed, lasts, by rw [none, dnasSince]⟩
  · rintro ⟨before, since, rfl, unused, allowed, lasts, dnas⟩
    refine ⟨before, _, since, { info with registeredDnas := ∅ }, rfl, ⟨rfl, unused, allowed, rfl⟩,
      kept_iff.mpr ⟨lasts, ?_⟩⟩
    rw [foldl_change]
    cases info
    simp_all [dnasSince]

/-- Alice opens a session, joins a DNA, and her removal fails after its first statement. -/
def removalStopped : List Write :=
  [.addAgent ⟨alice, {.dhtRead}, none⟩ fun _ => none, .createSession alice ⟨"a1"⟩ none,
    .registerDnaForAgent alice sampleDna none,
    .removeAgent alice fun
      | .deleteSessions => some (.database "disk I/O error")
      | _ => none]

/-- Her session is still there, without the DNA. -/
theorem validateSession_removalStopped :
    validateSession markedCodec sampleCapabilityJson "a1"
      ((writes markedCodec sampleCapabilityJson).after removalStopped .init) =
        some ⟨alice, {.dhtRead}, ∅⟩ := by
  apply (validateSession_iff_opened markedCodec sampleCapabilityJson markedCodec_invertible
    sampleCapabilityJson_lawful removalStopped "a1" ⟨alice, {.dhtRead}, ∅⟩).mpr
  refine ⟨[.addAgent ⟨alice, {.dhtRead}, none⟩ fun _ => none], _, rfl, by decide, by decide, ?_, ?_⟩
  · simp [Write.Ends]
  · simp [dnasSince, Write.dnas]

end H2hcLinker.SqliteStore
