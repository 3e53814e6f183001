import H2hcLinker.MemoryStore

/-! The authentication store: the in-memory session backend and the WebSocket senders of each
agent, behind a lock of its own. -/
namespace H2hcLinker

open HashTable MemoryStore

/-- A channel by its identity, which is all that `same_channel` compares. -/
abbrev WsSender := Nat

structure AuthStore where
  store : MemoryStoreInner
  wsSenders : Table AgentPubKey (List WsSender)

namespace AuthStore

def new : AuthStore := ⟨.default, ∅⟩

def validateSession (token : String) (s : AuthStore) : Option SessionInfo :=
  MemoryStore.validateSession token s.store

def isAgentAllowed (agent : AgentPubKey) (s : AuthStore) : Bool :=
  MemoryStore.isAgentAllowed agent s.store

def registerWsSender (agent : AgentPubKey) (sender : WsSender) (s : AuthStore) : AuthStore :=
  { s with wsSenders := s.wsSenders.insert agent ((s.wsSenders.lookup agent).getD [] ++ [sender]) }

def unregisterWsSender (agent : AgentPubKey) (sender : WsSender) (s : AuthStore) : AuthStore :=
  match s.wsSenders.lookup agent with
  | none => s
  | some senders =>
    match senders.filter (· ≠ sender) with
    | [] => { s with wsSenders := s.wsSenders.erase agent }
    | kept => { s with wsSenders := s.wsSenders.insert agent kept }

@[simp] theorem unregisterWsSender_store (agent : AgentPubKey) (sender : WsSender) (s : AuthStore) :
    (s.unregisterWsSender agent sender).store = s.store := by
  unfold unregisterWsSender
  split
  · rfl
  · split <;> rfl

/-- What `remove_agent` does once the backend has removed the agent. -/
def dropWsSenders (agent : AgentPubKey) (s : AuthStore) : AuthStore :=
  { s with wsSenders := s.wsSenders.erase agent }

def wsConnectionCount (agent : AgentPubKey) (s : AuthStore) : Nat :=
  ((s.wsSenders.lookup agent).getD []).length

end AuthStore

end H2hcLinker
