import H2hcLinker.AuthStore
import H2hcLinker.SqliteFaults
import H2hcLinker.StoreEquivalence

/-! The admin handlers that add and remove agents, over the authentication store and either
backend, and what their answers say of the allowlist. -/
namespace H2hcLinker

open HashTable

/-- The authentication store with the state of any backend. -/
structure BackedAuthStore (σ : Type) where
  store : σ
  wsSenders : Table AgentPubKey (List WsSender)

namespace BackedAuthStore

variable {σ : Type}

/-- An error is logged and otherwise dropped. -/
def addAgent (backend : SessionStore σ) (agent : AllowedAgent) (s : BackedAuthStore σ) :
    BackedAuthStore σ :=
  { s with store := (backend.addAgent agent s.store).2 }

def removeAgent (backend : SessionStore σ) (agent : AgentPubKey) (s : BackedAuthStore σ) :
    Bool × BackedAuthStore σ :=
  match backend.removeAgent agent s.store with
  | (.ok true, store) => (true, { s with store, wsSenders := s.wsSenders.erase agent })
  | (.ok false, store) => (false, { s with store })
  | (.error _, store) => (false, { s with store })

end BackedAuthStore

namespace Admin

variable {σ : Type}

structure AddAgentRequest where
  agentPubkey : String
  capabilities : List Capability
  label : Option String

structure RemoveAgentRequest where
  agentPubkey : String

structure Response where
  status : Nat
  body : String
  deriving DecidableEq, Repr

/-- What both handlers do first: the store, and the key that the body names. -/
def named (codec : HashCodec) (authStore : Option (BackedAuthStore σ)) (text : String) :
    Except Response (BackedAuthStore σ × AgentPubKey) :=
  match authStore with
  | none => .error ⟨500, "Auth not configured"⟩
  | some auth =>
    match codec.agentOfStr text with
    | .error e => .error ⟨400, "Invalid agent_pubkey: " ++ e⟩
    | .ok key => .ok (auth, key)

def addAgent (codec : HashCodec) (backend : SessionStore σ) (authStore : Option (BackedAuthStore σ))
    (body : AddAgentRequest) : Response × Option (BackedAuthStore σ) :=
  match named codec authStore body.agentPubkey with
  | .error response => (response, authStore)
  | .ok (auth, agentPubkey) =>
    let agent := { agentPubkey, capabilities := body.capabilities.toFinset, label := body.label }
    (⟨204, ""⟩, some (auth.addAgent backend agent))

def removeAgent (codec : HashCodec) (backend : SessionStore σ)
    (authStore : Option (BackedAuthStore σ)) (body : RemoveAgentRequest) :
    Response × Option (BackedAuthStore σ) :=
  match named codec authStore body.agentPubkey with
  | .error response => (response, authStore)
  | .ok (auth, agentPubkey) =>
    let (removed, auth) := auth.removeAgent backend agentPubkey
    (if removed then ⟨204, ""⟩ else ⟨404, "Agent not found"⟩, some auth)

inductive AdminRequest where
  | addAgent (body : AddAgentRequest)
  | removeAgent (body : RemoveAgentRequest)

def AdminRequest.agentPubkey : AdminRequest → String
  | .addAgent body => body.agentPubkey
  | .removeAgent body => body.agentPubkey

def handle (codec : HashCodec) (backend : SessionStore σ) (authStore : Option (BackedAuthStore σ)) :
    AdminRequest → Response × Option (BackedAuthStore σ)
  | .addAgent body => addAgent codec backend authStore body
  | .removeAgent body => removeAgent codec backend authStore body

/-- A backend for one request: what its store says of an agent, which of the two writes fails, and
what each leaves. A failed write leaves the allowlist alone. -/
structure AllowlistBackend (σ : Type) where
  store : SessionStore σ
  granted : AgentPubKey → σ → Option (Finset Capability)
  HasSession : AgentPubKey → σ → Prop
  addFault : Option SessionStoreError
  removeFault : Option SessionStoreError
  add_fault : ∀ e, addFault = some e → ∀ agent s, store.addAgent agent s = (.error e, s)
  add_fine : addFault = none → ∀ agent s, (store.addAgent agent s).1 = .ok () ∧
    granted agent.agentPubkey (store.addAgent agent s).2 = some agent.capabilities
  remove_fault : ∀ e, removeFault = some e → ∀ agent s,
    (store.removeAgent agent s).1 = .error e ∧
      granted agent (store.removeAgent agent s).2 = granted agent s
  remove_fine : removeFault = none → ∀ agent s,
    (store.removeAgent agent s).1 = .ok (granted agent s).isSome ∧
      granted agent (store.removeAgent agent s).2 = none ∧
      ((granted agent s).isSome → ¬HasSession agent (store.removeAgent agent s).2)

theorem memory_remove (agent : AgentPubKey) (s : MemoryStore.MemoryStoreInner) :
    (MemoryStore.removeAgent agent s).1 = (s.allowedAgents.lookup agent).isSome ∧
      (MemoryStore.removeAgent agent s).2.allowedAgents.lookup agent = none ∧
      ((s.allowedAgents.lookup agent).isSome → ∀ token info,
        (MemoryStore.removeAgent agent s).2.sessions.lookup token = some info →
          info.agentPubkey ≠ agent) := by
  unfold MemoryStore.removeAgent
  split
  next member =>
    obtain ⟨entry, found⟩ := Finmap.mem_iff.mp member
    refine ⟨?_, ?_, ?_⟩
    · rw [found, Option.isSome_some]
    · exact Finmap.lookup_erase _ _
    · intro _ token info left
      rw [MemoryStore.dropSessions, lookup_retain, Option.filter_eq_some_iff] at left
      exact of_decide_eq_true left.2
  next absent =>
    rw [Finmap.lookup_eq_none.mpr absent]
    exact ⟨rfl, rfl, fun known => absurd known Bool.false_ne_true⟩

/-- The in-memory store never fails. -/
def memoryBackend : AllowlistBackend MemoryStore.MemoryStoreInner where
  store := memorySessionStore
  granted agent s := (s.allowedAgents.lookup agent).map (·.capabilities)
  HasSession agent s := ∃ token info, s.sessions.lookup token = some info ∧ info.agentPubkey = agent
  addFault := none
  removeFault := none
  add_fault := nofun
  add_fine := by
    intro _ agent s
    exact ⟨rfl, by simp [memorySessionStore, MemoryStore.addAgent]⟩
  remove_fault := nofun
  remove_fine := by
    intro _ agent s
    obtain ⟨existed, gone, sessions⟩ := memory_remove agent s
    refine ⟨?_, ?_, ?_⟩
    · rw [Option.isSome_map]
      exact congrArg Except.ok existed
    · exact congrArg (Option.map (·.capabilities)) gone
    · rw [Option.isSome_map]
      rintro present ⟨token, info, found, owner⟩
      exact sessions present token info found owner

section Sqlite

open SqliteStore

variable (codec : HashCodec) (json : CapabilityJson)

/-- The SQLite store while these statements fail. -/
def faultySqliteStore (faults : Faults) : SessionStore SqliteTables :=
  { sqliteSessionStore codec json with
    addAgent := addAgentStatements codec json faults
    removeAgent := removeAgentStatements codec faults }

def capabilitiesOf (agent : AgentPubKey) (db : SqliteTables) : Option (Finset Capability) :=
  (getAgent codec json agent db).map (·.capabilities)

theorem capabilitiesOf_eq (agent : AgentPubKey) (db : SqliteTables) : capabilitiesOf codec json agent db =
    (db.allowedAgents.lookup (codec.agentToStr agent)).map fun row =>
      capsFromJson json row.capabilities := by
  rw [capabilitiesOf, getAgent, Option.map_map]
  rfl

variable {json}

/-- The SQLite store while these statements fail, with the sessions that the rows name. -/
def sqliteBackend (lawful : json.Lawful) (codec : HashCodec) (faults : Faults) :
    AllowlistBackend SqliteTables where
  store := faultySqliteStore codec json faults
  granted := capabilitiesOf codec json
  HasSession agent db := ∃ token row,
    db.sessions.lookup token = some row ∧ row.agentPubkey = codec.agentToStr agent
  addFault := faults .insertAgent
  removeFault := removalFault faults
  add_fault := by
    intro e fault agent db
    simp only [faultySqliteStore, addAgentStatements, fault]
  add_fine := by
    intro fine agent db
    simp only [faultySqliteStore, addAgentStatements, fine, true_and, capabilitiesOf_eq,
      SqliteStore.addAgent, Finmap.lookup_insert, Option.map_some, capsFromJson_toText lawful]
  remove_fault := by
    intro e fault agent db
    obtain ⟨error, same⟩ := removeAgentStatements_error codec fault agent db
    exact ⟨error, by simp only [capabilitiesOf_eq, faultySqliteStore, same]⟩
  remove_fine := by
    intro fine agent db
    have outcome : (faultySqliteStore codec json faults).removeAgent agent db =
        (SqliteStore.removeAgent codec agent db).map .ok id :=
      removeAgentStatements_ok codec fine agent db
    have without := removeAgent_without codec agent db
    rw [outcome]
    refine ⟨?_, ?_, ?_⟩
    · rw [capabilitiesOf_eq, Option.isSome_map]
      exact congrArg Except.ok (removeAgent_existed codec agent db)
    · rw [capabilitiesOf_eq, Option.map_eq_none_iff]
      exact Finmap.lookup_eq_none.mpr without.agents
    · rintro _ ⟨token, row, found, owner⟩
      exact without.sessions token row found owner

end Sqlite

/-- What a 204 or a 404 says of the agent that the body names is so after the request. -/
def Truthful (b : AllowlistBackend σ) (codec : HashCodec) :
    AdminRequest → Response × Option (BackedAuthStore σ) → Prop
  | .addAgent body, (response, left) =>
    response.status = 204 → ∃ key auth, codec.agentOfStr body.agentPubkey = .ok key ∧
      left = some auth ∧ b.granted key auth.store = some body.capabilities.toFinset
  | .removeAgent body, (response, left) =>
    (response.status = 204 → ∃ key auth, codec.agentOfStr body.agentPubkey = .ok key ∧
      left = some auth ∧ b.granted key auth.store = none ∧ ¬b.HasSession key auth.store) ∧
    (response.status = 404 → ∃ key auth, codec.agentOfStr body.agentPubkey = .ok key ∧
      left = some auth ∧ b.granted key auth.store = none)

/-- The write goes through, or the allowlist is already as the request wants it. -/
def Settled (b : AllowlistBackend σ) (s : σ) (key : AgentPubKey) : AdminRequest → Prop
  | .addAgent body => b.addFault = none ∨ b.granted key s = some body.capabilities.toFinset
  | .removeAgent _ => b.removeFault = none ∨ b.granted key s = none

section Answers

variable {b : AllowlistBackend σ} {codec : HashCodec} {authStore : Option (BackedAuthStore σ)}
  {auth : BackedAuthStore σ} {key : AgentPubKey}

theorem named_ok {text : String} (found : named codec authStore text = .ok (auth, key)) :
    authStore = some auth ∧ codec.agentOfStr text = .ok key := by
  unfold named at found
  split at found
  · cases found
  · split at found
    · cases found
    next key parsed => cases found; exact ⟨rfl, parsed⟩

theorem named_error {text : String} {response : Response}
    (refused : named codec authStore text = .error response) :
    response.status = 500 ∨ response.status = 400 := by
  unfold named at refused
  split at refused
  · cases refused
    exact .inl rfl
  · split at refused
    · cases refused
      exact .inr rfl
    · cases refused

theorem AllowlistBackend.granted_addAgent (b : AllowlistBackend σ) (agent : AllowedAgent) (s : σ) :
    b.granted agent.agentPubkey (b.store.addAgent agent s).2 = some agent.capabilities ↔
      b.addFault = none ∨ b.granted agent.agentPubkey s = some agent.capabilities := by
  cases fault : b.addFault with
  | none => exact iff_of_true (b.add_fine fault agent s).2 (.inl rfl)
  | some e => simp only [b.add_fault e fault, reduceCtorEq, false_or]

theorem addAgent_truthful_iff {body : AddAgentRequest}
    (found : named codec authStore body.agentPubkey = .ok (auth, key)) :
    Truthful b codec (.addAgent body) (addAgent codec b.store authStore body) ↔
      Settled b auth.store key (.addAgent body) := by
  obtain ⟨rfl, parsed⟩ := named_ok found
  let agent : AllowedAgent := ⟨key, body.capabilities.toFinset, body.label⟩
  have answered : addAgent codec b.store (some auth) body =
      (⟨204, ""⟩, some (auth.addAgent b.store agent)) := by
    simp only [addAgent, found, agent]
  rw [answered, Settled, ← b.granted_addAgent agent auth.store]
  constructor
  · intro truthful
    obtain ⟨key', after, parsed', ⟨⟩, granted⟩ := truthful rfl
    rw [parsed] at parsed'
    cases parsed'
    exact granted
  · intro granted _
    exact ⟨key, _, parsed, rfl, granted⟩

theorem removeAgent_truthful_iff {body : RemoveAgentRequest}
    (found : named codec authStore body.agentPubkey = .ok (auth, key)) :
    Truthful b codec (.removeAgent body) (removeAgent codec b.store authStore body) ↔
      Settled b auth.store key (.removeAgent body) := by
  obtain ⟨rfl, parsed⟩ := named_ok found
  rcases removal : b.store.removeAgent key auth.store with ⟨result, store⟩
  cases fault : b.removeFault with
  | some e =>
    -- The failure is answered as if the agent had not been there.
    obtain ⟨error, same⟩ := b.remove_fault e fault key auth.store
    rw [removal] at error same
    obtain rfl : result = .error e := error
    have answered : removeAgent codec b.store (some auth) body =
        (⟨404, "Agent not found"⟩, some { auth with store }) := by
      simp only [removeAgent, found, BackedAuthStore.removeAgent, removal,
        Bool.false_eq_true, if_false]
    rw [answered, Settled, fault]
    constructor
    · rintro ⟨_, notFound⟩
      obtain ⟨key', after, parsed', ⟨⟩, absent⟩ := notFound rfl
      rw [parsed] at parsed'
      cases parsed'
      exact .inr (same.symm.trans absent)
    · rintro (⟨⟨⟩⟩ | absent)
      exact ⟨nofun, fun _ => ⟨key, _, parsed, rfl, same.trans absent⟩⟩
  | none =>
    obtain ⟨existed, gone, sessionless⟩ := b.remove_fine fault key auth.store
    rw [removal] at existed gone sessionless
    obtain rfl : result = .ok (b.granted key auth.store).isSome := existed
    refine iff_of_true ?_ (.inl fault)
    cases before : (b.granted key auth.store).isSome with
    | true =>
      have answered : removeAgent codec b.store (some auth) body = (⟨204, ""⟩,
          some { auth with store, wsSenders := auth.wsSenders.erase key }) := by
        simp only [removeAgent, found, BackedAuthStore.removeAgent, removal, before, if_true]
      rw [answered]
      exact ⟨fun _ => ⟨key, _, parsed, rfl, gone, sessionless before⟩, nofun⟩
    | false =>
      have answered : removeAgent codec b.store (some auth) body =
          (⟨404, "Agent not found"⟩, some { auth with store }) := by
        simp only [removeAgent, found, BackedAuthStore.removeAgent, removal, before,
          Bool.false_eq_true, if_false]
      rw [answered]
      exact ⟨nofun, fun _ => ⟨key, _, parsed, rfl, gone⟩⟩

/-- Answers are truthful exactly where each request that reaches the store is settled. -/
theorem truthful_iff (b : AllowlistBackend σ) (codec : HashCodec)
    (authStore : Option (BackedAuthStore σ)) (request : AdminRequest) :
    Truthful b codec request (handle codec b.store authStore request) ↔
      ∀ auth key, named codec authStore request.agentPubkey = .ok (auth, key) →
        Settled b auth.store key request := by
  cases found : named codec authStore request.agentPubkey with
  | ok target =>
    obtain ⟨auth, key⟩ := target
    have settled : Truthful b codec request (handle codec b.store authStore request) ↔
        Settled b auth.store key request := by
      cases request with
      | addAgent body => exact addAgent_truthful_iff found
      | removeAgent body => exact removeAgent_truthful_iff found
    rw [settled]
    constructor
    · rintro holds _ _ ⟨⟩
      exact holds
    · intro all
      exact all auth key rfl
  | error response =>
    refine iff_of_true ?_ nofun
    have status := named_error found
    cases request with
    | addAgent body =>
      have answered : addAgent codec b.store authStore body = (response, authStore) := by
        simp only [addAgent, show named codec authStore body.agentPubkey = _ from found]
      rw [handle, answered]
      intro accepted
      omega
    | removeAgent body =>
      have answered : removeAgent codec b.store authStore body = (response, authStore) := by
        simp only [removeAgent, show named codec authStore body.agentPubkey = _ from found]
      rw [handle, answered]
      constructor <;>
      · intro accepted
        omega

end Answers

open SqliteStore

/-- Over the in-memory store the admin answers are always truthful; over SQLite where no statement
of the request fails, or the allowlist already stands as the request wants it. -/
theorem adminAnswers_truthful_iff (codec : HashCodec) {json : CapabilityJson} (lawful : json.Lawful)
    (request : AdminRequest) :
    (∀ authStore, Truthful memoryBackend codec request
      (handle codec memorySessionStore authStore request)) ∧
    ∀ (faults : Faults) authStore, Truthful (sqliteBackend lawful codec faults) codec request
        (handle codec (faultySqliteStore codec json faults) authStore request) ↔
      ∀ auth key, named codec authStore request.agentPubkey = .ok (auth, key) →
        match request with
        | .addAgent body => faults .insertAgent = none ∨
            capabilitiesOf codec json key auth.store = some body.capabilities.toFinset
        | .removeAgent _ => removalFault faults = none ∨
            capabilitiesOf codec json key auth.store = none := by
  constructor
  · intro authStore
    refine (truthful_iff memoryBackend codec authStore request).mpr ?_
    intro auth key _
    cases request <;> exact .inl rfl
  · intro faults authStore
    refine (truthful_iff (sqliteBackend lawful codec faults) codec authStore request).trans ?_
    cases request <;> rfl

/-- The database cannot be written. -/
def readOnly : Faults := fun _ => some (.database "attempt to write a readonly database")

def addAlice : AdminRequest := .addAgent ⟨aliceText, [.dhtRead], none⟩

def removeAlice : AdminRequest := .removeAgent ⟨aliceText⟩

def emptyAuth : BackedAuthStore SqliteTables := ⟨.init, ∅⟩

/-- There is no Alice to remove, and the answer is that. -/
theorem adminAnswers_truthful_absent :
    Truthful (sqliteBackend sampleCapabilityJson_lawful sampleCodec readOnly) sampleCodec removeAlice
      (handle sampleCodec (faultySqliteStore sampleCodec sampleCapabilityJson readOnly)
        (some emptyAuth) removeAlice) :=
  ((adminAnswers_truthful_iff sampleCodec sampleCapabilityJson_lawful removeAlice).2 readOnly
    (some emptyAuth)).mpr fun auth key found => by
      obtain ⟨same, _⟩ := named_ok found
      cases same
      exact .inr rfl

/-- Alice is answered as added while the database refuses the row. -/
theorem adminAnswers_not_truthful :
    ¬∀ (codec : HashCodec) (json : CapabilityJson) (lawful : json.Lawful) (faults : Faults)
      (authStore : Option (BackedAuthStore SqliteTables)) (request : AdminRequest),
      Truthful (sqliteBackend lawful codec faults) codec request
        (handle codec (faultySqliteStore codec json faults) authStore request) := by
  intro always
  have truthful := always sampleCodec sampleCapabilityJson sampleCapabilityJson_lawful readOnly
    (some emptyAuth) addAlice
  obtain ⟨key, after, _, ⟨⟩, granted⟩ := truthful rfl
  cases granted

end Admin

end H2hcLinker
