import H2hcLinker.Interleaving
import H2hcLinker.Types

/-! The in-memory session store. Each operation is one critical section of the store's lock,
except `create_session`: it copies the capabilities under the read lock, drops it, and inserts
the session under the write lock. -/
namespace H2hcLinker.MemoryStore

open HashTable Interleaving

structure MemoryStoreInner where
  allowedAgents : Table AgentPubKey AllowedAgent
  /-- Keyed by the token's text. -/
  sessions : Table String SessionInfo

def MemoryStoreInner.default : MemoryStoreInner := ⟨∅, ∅⟩

def addAgent (agent : AllowedAgent) (s : MemoryStoreInner) : MemoryStoreInner :=
  { s with allowedAgents := s.allowedAgents.insert agent.agentPubkey agent }

def dropSessions (agent : AgentPubKey) (s : MemoryStoreInner) : MemoryStoreInner :=
  { s with sessions := retain (fun _ info => info.agentPubkey ≠ agent) s.sessions }

def removeAgent (agent : AgentPubKey) (s : MemoryStoreInner) : Bool × MemoryStoreInner :=
  if agent ∈ s.allowedAgents then
    (true, dropSessions agent { s with allowedAgents := s.allowedAgents.erase agent })
  else (false, s)

def isAgentAllowed (agent : AgentPubKey) (s : MemoryStoreInner) : Bool := agent ∈ s.allowedAgents

def getAgent (agent : AgentPubKey) (s : MemoryStoreInner) : Option AllowedAgent :=
  s.allowedAgents.lookup agent

/-- `create_session` under the read lock. -/
def sessionCapabilities (agent : AgentPubKey) (s : MemoryStoreInner) : Option (Finset Capability) :=
  (s.allowedAgents.lookup agent).map AllowedAgent.capabilities

/-- `create_session` under the write lock. -/
def insertSession (agent : AgentPubKey) (capabilities : Finset Capability) (token : SessionToken)
    (s : MemoryStoreInner) : MemoryStoreInner :=
  { s with sessions := s.sessions.insert token.text ⟨agent, capabilities, ∅⟩ }

/-- A whole `create_session` with no other operation between its two sections. -/
def createSession (agent : AgentPubKey) (token : SessionToken) (s : MemoryStoreInner) :
    Option SessionToken × MemoryStoreInner :=
  match sessionCapabilities agent s with
  | none => (none, s)
  | some capabilities => (some token, insertSession agent capabilities token s)

def validateSession (token : String) (s : MemoryStoreInner) : Option SessionInfo :=
  s.sessions.lookup token

def revokeSession (token : String) (s : MemoryStoreInner) : Bool × MemoryStoreInner :=
  (token ∈ s.sessions, { s with sessions := s.sessions.erase token })

def grantDna (agent : AgentPubKey) (dna : DnaHash) (info : SessionInfo) : SessionInfo :=
  if info.agentPubkey = agent then
    { info with registeredDnas := insert dna info.registeredDnas }
  else info

def registerDnaForAgent (agent : AgentPubKey) (dna : DnaHash) (s : MemoryStoreInner) :
    MemoryStoreInner :=
  { s with sessions := mapValues (grantDna agent dna) s.sessions }

def revokeSessionsForAgent (agent : AgentPubKey) (s : MemoryStoreInner) : Nat × MemoryStoreInner :=
  let after := dropSessions agent s
  (size s.sessions - size after.sessions, after)

def sessionCount (s : MemoryStoreInner) : Nat := size s.sessions

inductive Section where
  | addAgent (agent : AllowedAgent)
  | removeAgent (agent : AgentPubKey)
  | sessionLookup (agent : AgentPubKey)
  | sessionInsert (agent : AgentPubKey) (capabilities : Finset Capability)
  | revokeSession (token : String)
  | revokeSessionsForAgent (agent : AgentPubKey)
  | registerDnaForAgent (agent : AgentPubKey) (dna : DnaHash)
  deriving DecidableEq

/-- The environment supplies the token `SessionToken::generate` draws. -/
def perform (act : Section) (token : SessionToken) (s : MemoryStoreInner) :
    MemoryStoreInner × List Section :=
  match act with
  | .addAgent agent => (addAgent agent s, [])
  | .removeAgent agent => ((removeAgent agent s).2, [])
  | .sessionLookup agent =>
    (s, match sessionCapabilities agent s with
      | none => []
      | some capabilities => [.sessionInsert agent capabilities])
  | .sessionInsert agent capabilities => (insertSession agent capabilities token s, [])
  | .revokeSession token => ((revokeSession token s).2, [])
  | .revokeSessionsForAgent agent => ((revokeSessionsForAgent agent s).2, [])
  | .registerDnaForAgent agent dna => (registerDnaForAgent agent dna s, [])

inductive Call where
  | addAgent (agent : AllowedAgent)
  | removeAgent (agent : AgentPubKey)
  | createSession (agent : AgentPubKey)
  | revokeSession (token : String)
  | revokeSessionsForAgent (agent : AgentPubKey)
  | registerDnaForAgent (agent : AgentPubKey) (dna : DnaHash)
  deriving DecidableEq

def Call.body : Call → List Section
  | .addAgent agent => [.addAgent agent]
  | .removeAgent agent => [.removeAgent agent]
  | .createSession agent => [.sessionLookup agent]
  | .revokeSession token => [.revokeSession token]
  | .revokeSessionsForAgent agent => [.revokeSessionsForAgent agent]
  | .registerDnaForAgent agent dna => [.registerDnaForAgent agent dna]

/-- Any number of concurrent calls, numbered by their task. -/
def program : Program Nat Call Section SessionToken MemoryStoreInner where
  body _ call := call.body
  perform := perform

@[simp] theorem addAgent_sessions (agent : AllowedAgent) (s : MemoryStoreInner) :
    (addAgent agent s).sessions = s.sessions := rfl

@[simp] theorem mem_addAgent (agent : AllowedAgent) (s : MemoryStoreInner) (a : AgentPubKey) :
    a ∈ (addAgent agent s).allowedAgents ↔ a = agent.agentPubkey ∨ a ∈ s.allowedAgents :=
  Finmap.mem_insert

@[simp] theorem dropSessions_allowedAgents (agent : AgentPubKey) (s : MemoryStoreInner) :
    (dropSessions agent s).allowedAgents = s.allowedAgents := rfl

@[simp] theorem insertSession_allowedAgents (agent : AgentPubKey) (caps : Finset Capability)
    (token : SessionToken) (s : MemoryStoreInner) :
    (insertSession agent caps token s).allowedAgents = s.allowedAgents := rfl

@[simp] theorem revokeSession_allowedAgents (token : String) (s : MemoryStoreInner) :
    (revokeSession token s).2.allowedAgents = s.allowedAgents := rfl

@[simp] theorem registerDnaForAgent_allowedAgents (agent : AgentPubKey) (dna : DnaHash)
    (s : MemoryStoreInner) : (registerDnaForAgent agent dna s).allowedAgents = s.allowedAgents := rfl

@[simp] theorem revokeSessionsForAgent_state (agent : AgentPubKey) (s : MemoryStoreInner) :
    (revokeSessionsForAgent agent s).2 = dropSessions agent s := rfl

/-- Dropping an agent's sessions leaves exactly the others. -/
theorem lookup_dropSessions_iff (agent : AgentPubKey) (s : MemoryStoreInner) (token : String)
    (info : SessionInfo) : (dropSessions agent s).sessions.lookup token = some info ↔
      s.sessions.lookup token = some info ∧ info.agentPubkey ≠ agent := by
  simp [dropSessions, Option.filter_eq_some_iff]

theorem lookup_insertSession (agent : AgentPubKey) (caps : Finset Capability)
    (token : SessionToken) (s : MemoryStoreInner) (key : String) :
    (insertSession agent caps token s).sessions.lookup key =
      if key = token.text then some ⟨agent, caps, ∅⟩ else s.sessions.lookup key :=
  lookup_insert_eq _ _ _ _

theorem lookup_revokeSession (token : String) (s : MemoryStoreInner) (key : String) :
    (revokeSession token s).2.sessions.lookup key =
      if key = token then none else s.sessions.lookup key :=
  lookup_erase_eq _ _ _

theorem lookup_registerDnaForAgent (agent : AgentPubKey) (dna : DnaHash) (s : MemoryStoreInner)
    (key : String) : (registerDnaForAgent agent dna s).sessions.lookup key =
      (s.sessions.lookup key).map (grantDna agent dna) :=
  lookup_mapValues _ _ _

@[simp] theorem grantDna_agentPubkey (agent : AgentPubKey) (dna : DnaHash) (info : SessionInfo) :
    (grantDna agent dna info).agentPubkey = info.agentPubkey := by
  unfold grantDna
  split <;> rfl

/-- Removal either finds the agent and drops it with its sessions, or changes nothing. -/
theorem removeAgent_cases (agent : AgentPubKey) (s : MemoryStoreInner) :
    (agent ∈ s.allowedAgents ∧ (removeAgent agent s).1 = true ∧
      (removeAgent agent s).2 =
        dropSessions agent { s with allowedAgents := s.allowedAgents.erase agent }) ∨
    (agent ∉ s.allowedAgents ∧ removeAgent agent s = (false, s)) := by
  by_cases found : agent ∈ s.allowedAgents
  · exact .inl ⟨found, by simp [removeAgent, found], by simp [removeAgent, found]⟩
  · exact .inr ⟨found, by simp [removeAgent, found]⟩

theorem mem_of_mem_removeAgent {agent a : AgentPubKey} {s : MemoryStoreInner}
    (listed : a ∈ (removeAgent agent s).2.allowedAgents) : a ∈ s.allowedAgents := by
  rcases removeAgent_cases agent s with ⟨_, _, eq⟩ | ⟨_, eq⟩
  · rw [eq] at listed
    exact (Finmap.mem_erase.mp listed).2
  · rwa [eq] at listed

/-- A session is created for an agent of the allowlist only. -/
theorem mem_of_sessionCapabilities {s : MemoryStoreInner} {agent : AgentPubKey}
    {caps : Finset Capability} (found : sessionCapabilities agent s = some caps) :
    agent ∈ s.allowedAgents := by
  obtain ⟨entry, looked, _⟩ := Option.map_eq_some_iff.mp found
  exact Finmap.mem_of_lookup_eq_some looked

/-- Every session belongs to an agent of the allowlist. -/
def Owned (s : MemoryStoreInner) : Prop :=
  ∀ token info, s.sessions.lookup token = some info → info.agentPubkey ∈ s.allowedAgents

theorem owned_default : Owned .default := by
  intro token info found
  simp [MemoryStoreInner.default] at found

theorem Owned.addAgent {s : MemoryStoreInner} (owned : Owned s) (agent : AllowedAgent) :
    Owned (addAgent agent s) := by
  intro token info found
  exact (mem_addAgent agent s _).mpr (.inr (owned token info found))

theorem Owned.removeAgent {s : MemoryStoreInner} (owned : Owned s) (agent : AgentPubKey) :
    Owned (removeAgent agent s).2 := by
  rcases removeAgent_cases agent s with ⟨_, _, eq⟩ | ⟨_, eq⟩
  · rw [eq]
    intro token info found
    obtain ⟨before, other⟩ := (lookup_dropSessions_iff ..).mp found
    exact Finmap.mem_erase.mpr ⟨other, owned token info before⟩
  · rw [eq]
    exact owned

theorem Owned.insertSession {s : MemoryStoreInner} (owned : Owned s) {agent : AgentPubKey}
    (allowed : agent ∈ s.allowedAgents) (caps : Finset Capability) (token : SessionToken) :
    Owned (insertSession agent caps token s) := by
  intro key info found
  rw [lookup_insertSession] at found
  split at found
  · cases found
    exact allowed
  · exact owned key info found

theorem Owned.dropSessions {s : MemoryStoreInner} (owned : Owned s) (agent : AgentPubKey) :
    Owned (dropSessions agent s) := by
  intro token info found
  exact owned token info ((lookup_dropSessions_iff ..).mp found).1

theorem Owned.revokeSession {s : MemoryStoreInner} (owned : Owned s) (token : String) :
    Owned (revokeSession token s).2 := by
  intro key info found
  rw [lookup_revokeSession] at found
  split at found
  · cases found
  · exact owned key info found

theorem Owned.registerDnaForAgent {s : MemoryStoreInner} (owned : Owned s) (agent : AgentPubKey)
    (dna : DnaHash) : Owned (registerDnaForAgent agent dna s) := by
  intro key info found
  rw [lookup_registerDnaForAgent] at found
  obtain ⟨before, atKey, rfl⟩ := Option.map_eq_some_iff.mp found
  have same := owned key before atKey
  rw [grantDna_agentPubkey]
  exact same

/-- The write section of a `create_session` finds its agent still in the allowlist. -/
def StillAllowed (p : Pool Nat Section MemoryStoreInner) : Section → Prop
  | .sessionInsert agent _ => agent ∈ p.shared.allowedAgents
  | _ => True

theorem owned_turn (act : Section) (token : SessionToken) (p : Pool Nat Section MemoryStoreInner)
    (allowed : StillAllowed p act) (owned : Owned p.shared) :
    Owned (perform act token p.shared).1 := by
  cases act with
  | addAgent agent => exact owned.addAgent agent
  | removeAgent agent => exact owned.removeAgent agent
  | sessionLookup agent => exact owned
  | sessionInsert agent caps => exact owned.insertSession allowed caps token
  | revokeSession token => exact owned.revokeSession token
  | revokeSessionsForAgent agent => exact owned.dropSessions agent
  | registerDnaForAgent agent dna => exact owned.registerDnaForAgent agent dna

theorem owned_execute (schedule : List (Event Nat Call SessionToken))
    (guarded : program.Guarded (OnSection StillAllowed) schedule (.start .default)) :
    Owned (program.execute schedule (.start .default)).shared :=
  execute_sections (fun p => Owned p.shared) StillAllowed (fun _ _ _ _ owned => owned)
    (fun _ token act _ p _ allowed owned => owned_turn act token p allowed owned)
    schedule _ guarded owned_default

/-- A session inserted for an agent outside the allowlist has no owner. -/
theorem not_owned_of_insert {s : MemoryStoreInner} {agent : AgentPubKey}
    (gone : agent ∉ s.allowedAgents) (caps : Finset Capability) (token : SessionToken) :
    ¬Owned (insertSession agent caps token s) := by
  intro owned
  have inserted : (insertSession agent caps token s).sessions.lookup token.text =
      some ⟨agent, caps, ∅⟩ := by
    rw [lookup_insertSession, if_pos rfl]
  exact gone (owned _ _ inserted)

/-- Every state a run passes through has only sessions of allowed agents exactly when no
`create_session` inserts after its agent was removed. -/
theorem sessions_owned_iff (schedule : List (Event Nat Call SessionToken)) :
    (∀ reached, reached <+: schedule → Owned (program.execute reached (.start .default)).shared) ↔
      program.Guarded (OnSection StillAllowed) schedule (.start .default) := by
  constructor
  · intro always
    apply guarded_of_turns
    intro before task token after act rest split running
    have owned := always (before ++ [.turn task token]) ⟨after, by simp [split]⟩
    rw [execute_append, Program.execute, advance_turn running] at owned
    cases act with
    | sessionInsert agent caps =>
      by_contra gone
      exact not_owned_of_insert gone caps token owned
    | _ => trivial
  · intro guarded reached before
    obtain ⟨rest, rfl⟩ := before
    exact owned_execute reached ((guarded_append ..).mp guarded).1

def sampleAgent : AgentPubKey := ⟨[1]⟩

/-- A session is being created while its agent is removed. -/
def removeDuringCreate : List (Event Nat Call SessionToken) :=
  [.call 0 (.addAgent ⟨sampleAgent, ∅, none⟩), .turn 0 ⟨""⟩,
    .call 1 (.createSession sampleAgent), .turn 1 ⟨""⟩,
    .call 2 (.removeAgent sampleAgent), .turn 2 ⟨""⟩, .turn 1 ⟨"late"⟩]

theorem orphan_session_removeDuringCreate :
    ¬∀ schedule : List (Event Nat Call SessionToken),
      (program.execute schedule (.start .default)).Quiescent →
        Owned (program.execute schedule (.start .default)).shared := by
  intro always
  have quiet : (program.execute removeDuringCreate (.start .default)).Quiescent :=
    quiescent_execute_start _ _ (by decide)
  have left : (program.execute removeDuringCreate (.start .default)).shared.sessions.lookup "late" =
      some ⟨sampleAgent, ∅, ∅⟩ := by
    decide
  have gone : sampleAgent ∉
      (program.execute removeDuringCreate (.start .default)).shared.allowedAgents := by
    decide
  exact gone (always removeDuringCreate quiet _ _ left)

end H2hcLinker.MemoryStore
