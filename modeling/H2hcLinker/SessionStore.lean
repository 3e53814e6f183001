import H2hcLinker.MemoryStore
import H2hcLinker.Observation

/-! The operations of a session backend, and the in-memory store as one backend. -/
namespace H2hcLinker

open HashTable

inductive SessionStoreError where
  | database (message : String)
  deriving DecidableEq, Repr

abbrev SessionStoreResult (α : Type) := Except SessionStoreError α

/-- The trait: what a method answers and the store it leaves. A list of agents comes in the order
of the backend's table, so it is a set here. -/
structure SessionStore (σ : Type) where
  addAgent : AllowedAgent → σ → SessionStoreResult Unit × σ
  removeAgent : AgentPubKey → σ → SessionStoreResult Bool × σ
  listAgents : σ → SessionStoreResult (Finset AllowedAgent)
  isAgentAllowed : AgentPubKey → σ → SessionStoreResult Bool
  getAgent : AgentPubKey → σ → SessionStoreResult (Option AllowedAgent)
  /-- With the token that `SessionToken::generate` would draw. -/
  createSession : AgentPubKey → SessionToken → σ → SessionStoreResult (Option SessionToken) × σ
  validateSession : String → σ → SessionStoreResult (Option SessionInfo)
  revokeSession : String → σ → SessionStoreResult Bool × σ
  registerDnaForAgent : AgentPubKey → DnaHash → σ → SessionStoreResult Unit × σ
  revokeSessionsForAgent : AgentPubKey → σ → SessionStoreResult Nat × σ
  sessionCount : σ → SessionStoreResult Nat

namespace SessionStore

inductive Operation where
  | addAgent (agent : AllowedAgent)
  | removeAgent (agent : AgentPubKey)
  | listAgents
  | isAgentAllowed (agent : AgentPubKey)
  | getAgent (agent : AgentPubKey)
  | createSession (agent : AgentPubKey)
  | validateSession (token : String)
  | revokeSession (token : String)
  | registerDnaForAgent (agent : AgentPubKey) (dna : DnaHash)
  | revokeSessionsForAgent (agent : AgentPubKey)
  | sessionCount
  deriving DecidableEq

inductive Answer where
  | done (result : SessionStoreResult Unit)
  | flag (result : SessionStoreResult Bool)
  | agents (result : SessionStoreResult (Finset AllowedAgent))
  | agent (result : SessionStoreResult (Option AllowedAgent))
  | token (result : SessionStoreResult (Option SessionToken))
  | session (result : SessionStoreResult (Option SessionInfo))
  | count (result : SessionStoreResult Nat)

/-- One operation after another, each with the token it would draw. -/
def machine {σ : Type} (store : SessionStore σ) :
    Observation.Machine (Operation × SessionToken) Answer σ where
  step op s :=
    match op.1 with
    | .addAgent agent => (store.addAgent agent s).map .done id
    | .removeAgent agent => (store.removeAgent agent s).map .flag id
    | .listAgents => (.agents (store.listAgents s), s)
    | .isAgentAllowed agent => (.flag (store.isAgentAllowed agent s), s)
    | .getAgent agent => (.agent (store.getAgent agent s), s)
    | .createSession agent => (store.createSession agent op.2 s).map .token id
    | .validateSession token => (.session (store.validateSession token s), s)
    | .revokeSession token => (store.revokeSession token s).map .flag id
    | .registerDnaForAgent agent dna => (store.registerDnaForAgent agent dna s).map .done id
    | .revokeSessionsForAgent agent => (store.revokeSessionsForAgent agent s).map .count id
    | .sessionCount => (.count (store.sessionCount s), s)

/-- The token that an operation returned. -/
def Answer.drawn : Answer → Option SessionToken
  | .token (.ok drawn) => drawn
  | _ => none

/-- No two operations returned the same token. -/
def FreshTokens (answers : List Answer) : Prop := (answers.filterMap Answer.drawn).Nodup

theorem FreshTokens.earlier {past later : List Answer} (fresh : FreshTokens (past ++ later)) :
    FreshTokens past := by
  unfold FreshTokens at fresh
  rw [List.filterMap_append] at fresh
  exact fresh.of_append_left

end SessionStore

/-- The in-memory backend never fails. -/
def memorySessionStore : SessionStore MemoryStore.MemoryStoreInner where
  addAgent agent s := (.ok (), MemoryStore.addAgent agent s)
  removeAgent agent s := (MemoryStore.removeAgent agent s).map .ok id
  listAgents s := .ok (values s.allowedAgents).toFinset
  isAgentAllowed agent s := .ok (MemoryStore.isAgentAllowed agent s)
  getAgent agent s := .ok (MemoryStore.getAgent agent s)
  createSession agent token s := (MemoryStore.createSession agent token s).map .ok id
  validateSession token s := .ok (MemoryStore.validateSession token s)
  revokeSession token s := (MemoryStore.revokeSession token s).map .ok id
  registerDnaForAgent agent dna s := (.ok (), MemoryStore.registerDnaForAgent agent dna s)
  revokeSessionsForAgent agent s := (MemoryStore.revokeSessionsForAgent agent s).map .ok id
  sessionCount s := .ok (MemoryStore.sessionCount s)

end H2hcLinker
