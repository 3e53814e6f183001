import H2hcLinker.Interleaving
import H2hcLinker.Types

/-! Space and agent lifecycle of the gateway. `agent_join`, `agent_leave` and
`get_or_create_space` are cut at their await points; kitsune2 itself is the set of pairs whose
local join succeeded and that have not been told to leave since. -/
namespace H2hcLinker.Gateway

open HashTable Interleaving

abbrev Key := DnaHash × AgentPubKey

/-- The handle of a DNA's space in the running kitsune2 instance. -/
structure DynSpace where
  deriving DecidableEq, Repr

structure ProxyAgent where
  agentPubkey : AgentPubKey
  deriving DecidableEq, Repr

structure GatewayKitsune where
  spaces : Table DnaHash DynSpace
  agents : Table Key ProxyAgent
  /-- kitsune2's local agents, by space. -/
  localAgents : Finset Key

def GatewayKitsune.new : GatewayKitsune := ⟨∅, ∅, ∅⟩

/-- What the caller of `get_or_create_space` does with the space. -/
inductive SpaceUse where
  | join (agent : AgentPubKey)
  | other
  deriving DecidableEq, Repr

inductive Section where
  | joinCheck (key : Key)
  | spaceLookup (dna : DnaHash) (use : SpaceUse)
  | spaceCreate (dna : DnaHash) (use : SpaceUse)
  | spaceStore (dna : DnaHash) (use : SpaceUse)
  | localAgentJoin (key : Key)
  | storeAgent (key : Key)
  | removeAgent (key : Key)
  | leaveSpace (key : Key)
  | localAgentLeave (key : Key)
  | cleanupCheck (dna : DnaHash)
  | cleanupRemove (dna : DnaHash)
  deriving DecidableEq, Repr

def SpaceUse.sections (dna : DnaHash) : SpaceUse → List Section
  | .join agent => [.localAgentJoin (dna, agent)]
  | .other => []

def getOrCreateSpace (dna : DnaHash) (use : SpaceUse) : List Section := [.spaceLookup dna use]
def agentJoin (key : Key) : List Section := [.joinCheck key]
def agentLeave (key : Key) : List Section := [.removeAgent key]
def maybeCleanupSpace (dna : DnaHash) : List Section := [.cleanupCheck dna]

/-- One lock section or one awaited kitsune2 call. `ok` is the outcome of the two calls that
can fail, `Kitsune::space` and `Space::local_agent_join`; an error returns from the join. -/
def perform (act : Section) (ok : Bool) (g : GatewayKitsune) : GatewayKitsune × List Section :=
  match act with
  | .joinCheck key =>
    (g, if key ∈ g.agents then [] else getOrCreateSpace key.1 (.join key.2))
  | .spaceLookup dna use =>
    (g, if dna ∈ g.spaces then use.sections dna else [.spaceCreate dna use])
  | .spaceCreate dna use => (g, if ok then [.spaceStore dna use] else [])
  | .spaceStore dna use => ({ g with spaces := g.spaces.insert dna ⟨⟩ }, use.sections dna)
  | .localAgentJoin key =>
    if ok then ({ g with localAgents := insert key g.localAgents }, [.storeAgent key]) else (g, [])
  | .storeAgent key => ({ g with agents := g.agents.insert key ⟨key.2⟩ }, [])
  | .removeAgent key =>
    ({ g with agents := g.agents.erase key }, if key ∈ g.agents then [.leaveSpace key] else [])
  | .leaveSpace key =>
    (g, if key.1 ∈ g.spaces then [.localAgentLeave key] else maybeCleanupSpace key.1)
  | .localAgentLeave key =>
    ({ g with localAgents := g.localAgents.erase key }, maybeCleanupSpace key.1)
  | .cleanupCheck dna =>
    (g, if ∃ key ∈ g.agents.keys, key.1 = dna then [] else [.cleanupRemove dna])
  | .cleanupRemove dna => ({ g with spaces := g.spaces.erase dna }, [])

inductive Call where
  | agentJoin (key : Key)
  | agentLeave (key : Key)
  | getOrCreateSpace (dna : DnaHash)
  deriving DecidableEq, Repr

def Call.body : Call → List Section
  | .agentJoin key => Gateway.agentJoin key
  | .agentLeave key => Gateway.agentLeave key
  | .getOrCreateSpace dna => Gateway.getOrCreateSpace dna .other

/-- Any number of concurrent calls, numbered by their task. -/
def program : Program Nat Call Section Bool GatewayKitsune where
  body _ call := call.body
  perform := perform

/-- What a section can be followed by. -/
inductive Follows (g : GatewayKitsune) : Section → Section → Prop where
  | unjoined (key : Key) : Follows g (.joinCheck key) (.spaceLookup key.1 (.join key.2))
  | found (dna : DnaHash) (agent : AgentPubKey) (there : dna ∈ g.spaces) :
      Follows g (.spaceLookup dna (.join agent)) (.localAgentJoin (dna, agent))
  | missing (dna : DnaHash) (use : SpaceUse) : Follows g (.spaceLookup dna use) (.spaceCreate dna use)
  | created (dna : DnaHash) (use : SpaceUse) : Follows g (.spaceCreate dna use) (.spaceStore dna use)
  | stored (dna : DnaHash) (agent : AgentPubKey) :
      Follows g (.spaceStore dna (.join agent)) (.localAgentJoin (dna, agent))
  | joined (key : Key) : Follows g (.localAgentJoin key) (.storeAgent key)
  | tracked (key : Key) : Follows g (.removeAgent key) (.leaveSpace key)
  | leaving (key : Key) : Follows g (.leaveSpace key) (.localAgentLeave key)
  | spaceless (key : Key) : Follows g (.leaveSpace key) (.cleanupCheck key.1)
  | left (key : Key) : Follows g (.localAgentLeave key) (.cleanupCheck key.1)
  | unused (dna : DnaHash) : Follows g (.cleanupCheck dna) (.cleanupRemove dna)

theorem perform_follows (act : Section) (ok : Bool) (g : GatewayKitsune) :
    ∀ new ∈ (perform act ok g).2, Follows g act new := by
  intro new pushed
  cases act with
  | joinCheck key =>
    simp only [perform] at pushed
    split at pushed
    · cases pushed
    · cases List.mem_singleton.mp pushed
      exact .unjoined key
  | spaceLookup dna use =>
    simp only [perform] at pushed
    split at pushed
    next there =>
      cases use with
      | join agent =>
        cases List.mem_singleton.mp pushed
        exact .found dna agent there
      | other => cases pushed
    next =>
      cases List.mem_singleton.mp pushed
      exact .missing dna use
  | spaceCreate dna use =>
    simp only [perform] at pushed
    split at pushed
    · cases List.mem_singleton.mp pushed
      exact .created dna use
    · cases pushed
  | spaceStore dna use =>
    cases use with
    | join agent =>
      cases List.mem_singleton.mp pushed
      exact .stored dna agent
    | other => cases pushed
  | localAgentJoin key =>
    simp only [perform] at pushed
    split at pushed
    · cases List.mem_singleton.mp pushed
      exact .joined key
    · cases pushed
  | removeAgent key =>
    simp only [perform] at pushed
    split at pushed
    · cases List.mem_singleton.mp pushed
      exact .tracked key
    · cases pushed
  | leaveSpace key =>
    simp only [perform] at pushed
    split at pushed
    · cases List.mem_singleton.mp pushed
      exact .leaving key
    · cases List.mem_singleton.mp pushed
      exact .spaceless key
  | localAgentLeave key =>
    cases List.mem_singleton.mp pushed
    exact .left key
  | cleanupCheck dna =>
    simp only [perform] at pushed
    split at pushed
    · cases pushed
    · cases List.mem_singleton.mp pushed
      exact .unused dna
  | _ => cases pushed

/-- A section of an `agent_join` of the pair. -/
def Joins (key : Key) : Section → Prop
  | .joinCheck k | .localAgentJoin k | .storeAgent k => k = key
  | .spaceLookup dna use | .spaceCreate dna use | .spaceStore dna use =>
    dna = key.1 ∧ use = .join key.2
  | _ => False

/-- A section that joins the pair comes from one that does. -/
theorem joins_of_pushed {key : Key} {act new : Section} {ok : Bool} {g : GatewayKitsune}
    (pushed : new ∈ (perform act ok g).2) (joins : Joins key new) : Joins key act := by
  cases perform_follows act ok g new pushed with
  | unjoined k =>
    obtain ⟨dna, agent⟩ := joins
    exact Prod.ext dna (SpaceUse.join.inj agent)
  | found dna agent there =>
    cases joins
    exact ⟨rfl, rfl⟩
  | stored dna agent =>
    cases joins
    exact ⟨rfl, rfl⟩
  | missing dna use => exact joins
  | created dna use => exact joins
  | joined k => exact joins
  | _ => cases joins

end H2hcLinker.Gateway
