import H2hcLinker.Grants
import H2hcLinker.StoreEquivalence

/-! What a session may do against what the allowlist says. `create_session` copies the capabilities of
the allowlist into the session; `add_agent` replaces the allowlist entry and no session. -/
namespace H2hcLinker

open HashTable MemoryStore SqliteStore SessionStore Grants

namespace SessionStore

variable {σ : Type}

/-- The capabilities of every session are recorded for its agent in the allowlist. -/
def CapabilitiesRecorded (store : SessionStore σ) (s : σ) : Prop :=
  ∀ token info, store.validateSession token s = .ok (some info) →
    ∃ entry, store.getAgent info.agentPubkey s = .ok (some entry) ∧
      info.capabilities ⊆ entry.capabilities

/-- An `add_agent` that takes no capability from a session that has it. -/
def NarrowsNothing (store : SessionStore σ) (s : σ) : Operation → Prop
  | .addAgent agent => ∀ token info, store.validateSession token s = .ok (some info) →
      info.agentPubkey = agent.agentPubkey → info.capabilities ⊆ agent.capabilities
  | _ => True

/-- The allowlist and the sessions, as far as capabilities go. -/
def ledger (store : SessionStore σ) (s : σ) : Ledger AgentPubKey String (Finset Capability) where
  granted agent :=
    match store.getAgent agent s with
    | .ok (some entry) => some entry.capabilities
    | _ => none
  held token :=
    match store.validateSession token s with
    | .ok (some info) => some (info.agentPubkey, info.capabilities)
    | _ => none

/-- The grant that an operation replaces. -/
def regrant (op : Operation × SessionToken) : Option (AgentPubKey × Finset Capability) :=
  match op.1 with
  | .addAgent agent => some (agent.agentPubkey, agent.capabilities)
  | _ => none

theorem ledger_granted {store : SessionStore σ} {s : σ} {agent : AgentPubKey} {caps : Finset Capability} :
    (ledger store s).granted agent = some caps ↔
      ∃ entry, store.getAgent agent s = .ok (some entry) ∧ entry.capabilities = caps := by
  simp only [ledger]
  split
  next entry found => simp [found]
  next other =>
    constructor
    · intro none
      cases none
    · rintro ⟨entry, found, _⟩
      exact absurd found (other entry)

theorem ledger_held {store : SessionStore σ} {s : σ} {token : String} {agent : AgentPubKey}
    {caps : Finset Capability} : (ledger store s).held token = some (agent, caps) ↔
      ∃ info, store.validateSession token s = .ok (some info) ∧ info.agentPubkey = agent ∧
        info.capabilities = caps := by
  simp only [ledger]
  split
  next info found => simp [found]
  next other =>
    constructor
    · intro none
      cases none
    · rintro ⟨info, found, _⟩
      exact absurd found (other info)

theorem capabilitiesRecorded_iff (store : SessionStore σ) (s : σ) :
    CapabilitiesRecorded store s ↔ (ledger store s).Covered := by
  constructor
  · intro recorded token agent caps held
    obtain ⟨info, found, rfl, rfl⟩ := ledger_held.mp held
    obtain ⟨entry, listed, within⟩ := recorded token info found
    exact ⟨entry.capabilities, ledger_granted.mpr ⟨entry, listed, rfl⟩, within⟩
  · intro covered token info found
    obtain ⟨caps, granted, within⟩ := covered token _ _ (ledger_held.mpr ⟨info, found, rfl, rfl⟩)
    obtain ⟨entry, listed, rfl⟩ := ledger_granted.mp granted
    exact ⟨entry, listed, within⟩

theorem narrowsNothing_iff (store : SessionStore σ) (s : σ) (op : Operation × SessionToken) :
    NarrowsNothing store s op.1 ↔ ∀ agent caps, regrant op = some (agent, caps) →
      (ledger store s).Fits agent caps := by
  obtain ⟨op, token⟩ := op
  cases op with
  | addAgent agent =>
    constructor
    · rintro narrows _ _ ⟨⟩ token caps held
      obtain ⟨info, found, own, rfl⟩ := ledger_held.mp held
      exact narrows token info found own
    · intro fits token info found own
      exact fits _ _ rfl token _ (ledger_held.mpr ⟨info, found, own, rfl⟩)
  | _ => exact ⟨fun _ _ _ kind => (nomatch kind), fun _ => trivial⟩

/-- The equivalence for a backend that keeps the ledger. -/
theorem recorded_iff_of_keeps {store : SessionStore σ} {inv : σ → Prop}
    (keeps : Keeps (machine store) inv (ledger store) regrant) {s : σ} (start : inv s)
    (initial : CapabilitiesRecorded store s) (ops : List (Operation × SessionToken)) :
    (∀ reached, reached <+: ops → CapabilitiesRecorded store ((machine store).after reached s)) ↔
      ∀ before op after, ops = before ++ op :: after →
        NarrowsNothing store ((machine store).after before s) op.1 := by
  simp only [capabilitiesRecorded_iff, narrowsNothing_iff] at *
  rw [keeps.covered_iff start initial]
  constructor
  · intro fits before op after split agent caps kind
    exact fits before op after agent caps split kind
  · intro fits before op after agent caps split kind
    exact fits before op after split agent caps kind

end SessionStore

theorem memory_granted (mem : MemoryStoreInner) (agent : AgentPubKey) :
    (ledger memorySessionStore mem).granted agent =
      (mem.allowedAgents.lookup agent).map AllowedAgent.capabilities := by
  simp only [ledger, memorySessionStore, MemoryStore.getAgent]
  cases mem.allowedAgents.lookup agent <;> rfl

theorem memory_held (mem : MemoryStoreInner) (token : String) :
    (ledger memorySessionStore mem).held token =
      (mem.sessions.lookup token).map fun info => (info.agentPubkey, info.capabilities) := by
  simp only [ledger, memorySessionStore, MemoryStore.validateSession]
  cases mem.sessions.lookup token <;> rfl

/-- Sessions that were there before, of agents whose entries stay. -/
theorem memory_copies_of {mem mem' : MemoryStoreInner}
    (old : ∀ token info, mem'.sessions.lookup token = some info →
      (∃ before, mem.sessions.lookup token = some before ∧ before.agentPubkey = info.agentPubkey ∧
        before.capabilities = info.capabilities) ∧
      mem'.allowedAgents.lookup info.agentPubkey = mem.allowedAgents.lookup info.agentPubkey) :
    Copies (ledger memorySessionStore mem) (ledger memorySessionStore mem') := by
  intro token agent caps held
  rw [memory_held] at held
  obtain ⟨info, found, same⟩ := Option.map_eq_some_iff.mp held
  cases same
  obtain ⟨⟨before, there, own, equal⟩, listed⟩ := old token info found
  simp only [memory_held, memory_granted, there, Option.map_some, own, equal, listed, true_or, and_self]

theorem memory_keeps :
    Keeps (machine memorySessionStore) (fun _ => True) (ledger memorySessionStore) regrant where
  preserved _ _ _ := trivial
  regrants op mem agent caps _ kind := by
    obtain ⟨op, drawn⟩ := op
    cases op with
    | addAgent entry =>
      cases kind
      change Regrants _ _ _ (ledger memorySessionStore (MemoryStore.addAgent entry mem))
      constructor
      · simp [memory_granted, MemoryStore.addAgent]
      · intro other different
        simp [memory_granted, MemoryStore.addAgent, different]
      · funext token
        simp [memory_held]
    | _ => cases kind
  copies op mem _ kind := by
    obtain ⟨op, drawn⟩ := op
    cases op with
    | addAgent entry => cases kind
    | removeAgent agent =>
      change Copies _ (ledger memorySessionStore (MemoryStore.removeAgent agent mem).2)
      rcases removeAgent_cases agent mem with ⟨_, _, same⟩ | ⟨_, same⟩
      · rw [same]
        apply memory_copies_of
        intro token info found
        obtain ⟨before, other⟩ := (lookup_dropSessions_iff ..).mp found
        exact ⟨⟨info, before, rfl, rfl⟩, Finmap.lookup_erase_ne other⟩
      · rw [same]
        exact Copies.refl _
    | createSession agent =>
      change Copies _ (ledger memorySessionStore (MemoryStore.createSession agent drawn mem).2)
      cases allowed : sessionCapabilities agent mem with
      | none =>
        simp only [MemoryStore.createSession, allowed]
        exact Copies.refl _
      | some caps =>
        simp only [MemoryStore.createSession, allowed]
        intro token holder held found
        rw [memory_held, lookup_insertSession] at found
        split at found
        · cases found
          exact ⟨.inr ((memory_granted ..).trans allowed), by simp [memory_granted]⟩
        · exact ⟨.inl ((memory_held ..).trans found), by simp [memory_granted]⟩
    | revokeSession text =>
      apply memory_copies_of
      intro token info found
      change (MemoryStore.revokeSession text mem).2.sessions.lookup token = some info at found
      rw [lookup_revokeSession] at found
      split at found
      · cases found
      · exact ⟨⟨info, found, rfl, rfl⟩, rfl⟩
    | registerDnaForAgent agent dna =>
      apply memory_copies_of
      intro token info found
      change (MemoryStore.registerDnaForAgent agent dna mem).sessions.lookup token = some info at found
      rw [lookup_registerDnaForAgent] at found
      obtain ⟨before, there, rfl⟩ := Option.map_eq_some_iff.mp found
      exact ⟨⟨before, there, by simp, by unfold grantDna; split <;> rfl⟩, rfl⟩
    | revokeSessionsForAgent agent =>
      apply memory_copies_of
      intro token info found
      obtain ⟨before, _⟩ := (lookup_dropSessions_iff ..).mp found
      exact ⟨⟨info, before, rfl, rfl⟩, rfl⟩
    | _ => exact Copies.refl _

variable {codec : HashCodec} {json : CapabilityJson}

/-- Every row of `sessions` is of an agent in printed form. -/
def AgentsPrinted (codec : HashCodec) (db : SqliteTables) : Prop :=
  ∀ token row, db.sessions.lookup token = some row → ∃ agent, row.agentPubkey = codec.agentToStr agent

theorem sqlite_granted (db : SqliteTables) (agent : AgentPubKey) :
    (ledger (sqliteSessionStore codec json) db).granted agent =
      (db.allowedAgents.lookup (codec.agentToStr agent)).map fun row =>
        capsFromJson json row.capabilities := by
  simp only [ledger, sqliteSessionStore, SqliteStore.getAgent]
  cases db.allowedAgents.lookup (codec.agentToStr agent) <;> rfl

theorem sqlite_held (codes : codec.Invertible) {db : SqliteTables} (printed : AgentsPrinted codec db)
    {token : String} {agent : AgentPubKey} {caps : Finset Capability} :
    (ledger (sqliteSessionStore codec json) db).held token = some (agent, caps) ↔
      ∃ text, db.sessions.lookup token = some ⟨codec.agentToStr agent, text⟩ ∧
        capsFromJson json text = caps := by
  rw [ledger_held]
  simp only [sqliteSessionStore, SqliteStore.validateSession, Except.ok.injEq]
  cases found : db.sessions.lookup token with
  | none => simp
  | some row =>
    obtain ⟨pk, text⟩ := row
    obtain ⟨owner, rfl⟩ := printed token _ found
    simp [codes.agent, codes.agentToStr_inj]

/-- A session after an operation was there before, or the operation creates it. -/
theorem sqlite_session (op : Operation × SessionToken) (db : SqliteTables) {token : String}
    {row : SessionRow} (found : ((machine (sqliteSessionStore codec json)).step op db).2.sessions.lookup
      token = some row) :
    db.sessions.lookup token = some row ∨
      ∃ agent entry, op.1 = .createSession agent ∧
        db.allowedAgents.lookup (codec.agentToStr agent) = some entry ∧
        row = ⟨codec.agentToStr agent, entry.capabilities⟩ := by
  obtain ⟨op, drawn⟩ := op
  cases op with
  | createSession agent =>
    change (SqliteStore.createSession codec agent drawn db).2.sessions.lookup token = some row at found
    cases listed : db.allowedAgents.lookup (codec.agentToStr agent) with
    | none =>
      simp only [SqliteStore.createSession, listed] at found
      exact .inl found
    | some entry =>
      simp only [SqliteStore.createSession, listed] at found
      split at found
      · exact .inl found
      · rw [lookup_insert_eq] at found
        split at found
        · cases found
          exact .inr ⟨agent, entry, rfl, listed, rfl⟩
        · exact .inl found
  | removeAgent agent =>
    exact .inl (Option.filter_eq_some_iff.mp ((lookup_retain ..).symm.trans found)).1
  | revokeSession text =>
    exact .inl (Option.filter_eq_some_iff.mp ((lookup_retain ..).symm.trans found)).1
  | revokeSessionsForAgent agent =>
    exact .inl (Option.filter_eq_some_iff.mp ((lookup_retain ..).symm.trans found)).1
  | _ => exact .inl found

theorem AgentsPrinted.step {db : SqliteTables} (printed : AgentsPrinted codec db)
    (op : Operation × SessionToken) :
    AgentsPrinted codec ((machine (sqliteSessionStore codec json)).step op db).2 := by
  intro token row found
  rcases sqlite_session op db found with before | ⟨agent, entry, _, _, rfl⟩
  · exact printed token row before
  · exact ⟨agent, rfl⟩

/-- While a session is left, its agent's entry changes by an `add_agent` only. -/
theorem sqlite_listed {op : Operation × SessionToken} (kind : regrant op = none) (db : SqliteTables)
    {token pk text : String} (found : ((machine (sqliteSessionStore codec json)).step op db).2.sessions.lookup
      token = some ⟨pk, text⟩) :
    ((machine (sqliteSessionStore codec json)).step op db).2.allowedAgents.lookup pk =
      db.allowedAgents.lookup pk := by
  obtain ⟨op, drawn⟩ := op
  cases op with
  | addAgent entry => cases kind
  | removeAgent agent =>
    have kept := (Option.filter_eq_some_iff.mp ((lookup_retain ..).symm.trans found)).2
    have other : pk ≠ codec.agentToStr agent := by simpa using kept
    change (SqliteStore.removeAgent codec agent db).2.allowedAgents.lookup pk = _
    cases listed : db.allowedAgents.lookup pk <;>
      simp [SqliteStore.removeAgent, SqliteStore.deleteSessions, listed, Option.filter, other]
  | createSession agent =>
    change (SqliteStore.createSession codec agent drawn db).2.allowedAgents.lookup pk = _
    cases listed : db.allowedAgents.lookup (codec.agentToStr agent) with
    | none => simp only [SqliteStore.createSession, listed]
    | some entry =>
      simp only [SqliteStore.createSession, listed]
      split <;> rfl
  | _ => rfl

theorem sqlite_keeps (codes : codec.Invertible) (lawful : json.Lawful) :
    Keeps (machine (sqliteSessionStore codec json)) (AgentsPrinted codec)
      (ledger (sqliteSessionStore codec json)) regrant where
  preserved op _ printed := printed.step op
  regrants op db agent caps printed kind := by
    obtain ⟨op, drawn⟩ := op
    cases op with
    | addAgent entry =>
      cases kind
      change Regrants _ _ _ (ledger _ (SqliteStore.addAgent codec json entry db))
      constructor
      · simp [sqlite_granted, SqliteStore.addAgent, capsFromJson_toText lawful]
      · intro other different
        simp [sqlite_granted, SqliteStore.addAgent, codes.agentToStr_inj, different]
      · rfl
    | _ => cases kind
  copies op db printed kind := by
    intro token agent caps held
    obtain ⟨text, found, read⟩ := (sqlite_held codes (printed.step op)).mp held
    constructor
    · rcases sqlite_session op db found with before | ⟨creator, entry, _, listed, same⟩
      · exact .inl ((sqlite_held codes printed).mpr ⟨text, before, read⟩)
      · obtain ⟨own, rfl⟩ := SessionRow.mk.inj same
        obtain rfl := codes.agentToStr_inj.mp own
        exact .inr (by simp [sqlite_granted, listed, read])
    · rw [sqlite_granted, sqlite_granted, sqlite_listed kind db found]

theorem agentsPrinted_init : AgentsPrinted codec .init := by
  intro token row found
  simp [SqliteTables.init] at found

theorem recorded_default : CapabilitiesRecorded memorySessionStore .default :=
  fun _ _ found => nomatch found

theorem recorded_init (codec : HashCodec) (json : CapabilityJson) :
    CapabilitiesRecorded (sqliteSessionStore codec json) .init := by
  intro token info found
  simp [sqliteSessionStore, SqliteStore.validateSession, SqliteTables.init] at found

/-- With either backend the sessions of every state have capabilities of the allowlist only, exactly
if every `add_agent` of the run narrows nothing that a session holds. -/
theorem capabilities_recorded_iff (codec : HashCodec) (json : CapabilityJson) (codes : codec.Invertible)
    (lawful : json.Lawful) (ops : List (Operation × SessionToken)) :
    let memory := machine memorySessionStore
    let sqlite := machine (sqliteSessionStore codec json)
    ((∀ reached, reached <+: ops →
        CapabilitiesRecorded memorySessionStore (memory.after reached .default)) ↔
      ∀ before op after, ops = before ++ op :: after →
        NarrowsNothing memorySessionStore (memory.after before .default) op.1) ∧
    ((∀ reached, reached <+: ops →
        CapabilitiesRecorded (sqliteSessionStore codec json) (sqlite.after reached .init)) ↔
      ∀ before op after, ops = before ++ op :: after →
        NarrowsNothing (sqliteSessionStore codec json) (sqlite.after before .init) op.1) := by
  constructor
  · exact recorded_iff_of_keeps memory_keeps trivial recorded_default ops
  · exact recorded_iff_of_keeps (sqlite_keeps codes lawful) agentsPrinted_init
      (recorded_init codec json) ops

/-- Alice logs in with two capabilities and is then left with one. -/
def narrowedAfterLogin : List (Operation × SessionToken) :=
  [(.addAgent ⟨alice, {.dhtRead, .k2}, none⟩, ⟨""⟩), (.createSession alice, ⟨"a1"⟩),
    (.addAgent ⟨alice, {.dhtRead}, none⟩, ⟨""⟩)]

theorem capabilities_recorded_iff_narrowedAfterLogin :
    (∀ reached, reached <+: narrowedAfterLogin →
        CapabilitiesRecorded (sqliteSessionStore markedCodec sampleCapabilityJson)
          ((machine (sqliteSessionStore markedCodec sampleCapabilityJson)).after reached .init)) ↔
      ∀ before op after, narrowedAfterLogin = before ++ op :: after →
        NarrowsNothing (sqliteSessionStore markedCodec sampleCapabilityJson)
          ((machine (sqliteSessionStore markedCodec sampleCapabilityJson)).after before .init) op.1 :=
  (capabilities_recorded_iff markedCodec sampleCapabilityJson markedCodec_invertible
    sampleCapabilityJson_lawful narrowedAfterLogin).2

theorem capabilities_kept_narrowedAfterLogin :
    ¬∀ ops : List (Operation × SessionToken), CapabilitiesRecorded memorySessionStore
      ((machine memorySessionStore).after ops .default) := by
  intro always
  obtain ⟨entry, listed, within⟩ := always narrowedAfterLogin "a1" ⟨alice, {.dhtRead, .k2}, ∅⟩ rfl
  have narrowed : MemoryStore.getAgent alice
      ((machine memorySessionStore).after narrowedAfterLogin .default) =
        some ⟨alice, {.dhtRead}, none⟩ := by decide
  cases narrowed.symm.trans (Except.ok.inj listed)
  exact absurd within (by decide)

end H2hcLinker
