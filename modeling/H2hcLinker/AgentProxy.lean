import H2hcLinker.AuthStore

/-! The agent proxy manager: which channel gets an agent's signals, and the signing requests
that wait for a browser. -/
namespace H2hcLinker

open HashTable

abbrev AgentRegistration := DnaHash × AgentPubKey

abbrev SignResult := Except String (List UInt8)

structure AgentProxyManager where
  registrations : Table AgentRegistration WsSender
  /-- An `AtomicU64`. -/
  requestCounter : Nat
  /-- Request id to the number of the request's oneshot channel. -/
  pendingSigns : Table String Nat

namespace AgentProxyManager

def new : AgentProxyManager := ⟨∅, 0, ∅⟩

def register (key : AgentRegistration) (sender : WsSender) (m : AgentProxyManager) :
    AgentProxyManager :=
  { m with registrations := m.registrations.insert key sender }

def unregister (key : AgentRegistration) (m : AgentProxyManager) : AgentProxyManager :=
  { m with registrations := m.registrations.erase key }

def unregisterAll (sender : WsSender) (m : AgentProxyManager) : AgentProxyManager :=
  { m with registrations := retain (fun _ s => s ≠ sender) m.registrations }

def isRegistered (key : AgentRegistration) (m : AgentProxyManager) : Bool := key ∈ m.registrations

/-- `fetch_add`, which wraps. -/
def nextRequest (m : AgentProxyManager) : AgentProxyManager :=
  { m with requestCounter := (m.requestCounter + 1) % 2 ^ 64 }

def requestId (m : AgentProxyManager) (millis : Nat) : String :=
  "sign-" ++ toString m.requestCounter ++ "-" ++ toString millis

def storePending (id : String) (oneshot : Nat) (m : AgentProxyManager) : AgentProxyManager :=
  { m with pendingSigns := m.pendingSigns.insert id oneshot }

def removePending (id : String) (m : AgentProxyManager) : AgentProxyManager :=
  { m with pendingSigns := m.pendingSigns.erase id }

def pendingSignCount (m : AgentProxyManager) : Nat := size m.pendingSigns

end AgentProxyManager

end H2hcLinker
