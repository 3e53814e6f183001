import H2hcLinker.DhtQuery
import H2hcLinker.TempOpStore

/-! Telling the peers near a location of ops, and how these peers compare with the ones that a
query for that location asks. -/
namespace H2hcLinker.Publish

open Dht

/-- What kitsune2 does during one call of `publish_ops`. -/
structure PublishNetwork where
  getOrCreateSpace : DnaHash → Except String Unit
  allPeers : DnaHash → Except String (List RemoteAgent)
  localAgents : DnaHash → Except String (List AgentPubKey)
  /-- `get_responsive_remote_agents_near_location`, without a limit. -/
  nearLocation : DnaHash → Nat → Except String (List RemoteAgent)
  /-- `publish_ops` of the space's publish module. -/
  publish : DnaHash → List OpId → String → Except String Unit

/-- The urls that op ids are sent to, and what the call returns. -/
structure Publication where
  sent : Finset String
  result : Except String Nat

/-- `map_err` with a text in front of the error. -/
def mapErr {α : Type} (text : String) : Except String α → Except String α
  | .ok value => .ok value
  | .error e => .error (text ++ e)

/-- The peers that a publication starts from. The two stores are only read for the log. -/
def PublishNetwork.lookup (net : PublishNetwork) (dna : DnaHash) (basisLoc : Nat) :
    Except String (List RemoteAgent) := do
  net.getOrCreateSpace dna
  let _ ← mapErr "Failed to get all peers: " (net.allPeers dna)
  let _ ← mapErr "Failed to get local agents: " (net.localAgents dna)
  mapErr "Failed to find peers: " (net.nearLocation dna basisLoc)

def publishUrl (info : RemoteAgent) : Option String :=
  if info.isTombstone then none
  else match info.url with
    | none => none
    | some url => some url

/-- Unique urls, in the order of no list. -/
def publishUrls (agents : List RemoteAgent) : Finset String :=
  (agents.filterMap publishUrl).toFinset

def PublishNetwork.accepts (net : PublishNetwork) (dna : DnaHash) (opIds : List OpId)
    (url : String) : Bool :=
  match net.publish dna opIds url with
  | .ok () => true
  | .error _ => false

def publishOps (net : PublishNetwork) (dna : DnaHash) (opIds : List OpId) (basisLoc : Nat) :
    Publication :=
  match net.lookup dna basisLoc with
  | .error e => ⟨∅, .error e⟩
  | .ok agents =>
    let urls := publishUrls agents
    if urls = ∅ then ⟨∅, .ok 0⟩
    else ⟨urls, .ok (urls.filter fun url => net.accepts dna opIds url).card⟩

/-- An authority for the location that can be reached at `url`. -/
structure Authority (loc : Nat) (url : String) (info : RemoteAgent) : Prop where
  reachable : info.url = some url
  current : info.isTombstone = false
  covers : info.storageArc loc = true

instance (loc : Nat) (url : String) (info : RemoteAgent) : Decidable (Authority loc url info) :=
  decidable_of_iff (info.url = some url ∧ info.isTombstone = false ∧ info.storageArc loc = true)
    ⟨fun ⟨reachable, current, covers⟩ => ⟨reachable, current, covers⟩,
      fun authority => ⟨authority.reachable, authority.current, authority.covers⟩⟩

theorem publishUrl_eq_some_iff (info : RemoteAgent) (url : String) :
    publishUrl info = some url ↔ info.isTombstone = false ∧ info.url = some url := by
  unfold publishUrl
  cases info.isTombstone <;> cases info.url <;> simp

theorem mem_publishUrls_iff (agents : List RemoteAgent) (url : String) :
    url ∈ publishUrls agents ↔
      ∃ info ∈ agents, info.isTombstone = false ∧ info.url = some url := by
  simp only [publishUrls, List.mem_toFinset, List.mem_filterMap, publishUrl_eq_some_iff]

/-- The same lookup on the query side keeps the authorities. -/
theorem getPeersForLocation_urls {q : DhtQuery} {dna : DnaHash} {loc : Nat}
    {agents : List RemoteAgent} (near : q.nearLocation dna loc = .ok agents) :
    ∃ peers, getPeersForLocation q dna loc = .ok peers ∧
      ∀ url, (∃ agent, (agent, url) ∈ peers) ↔ ∃ info ∈ agents, Authority loc url info := by
  refine ⟨_, by rw [getPeersForLocation, near], fun url => ?_⟩
  simp only [List.mem_filterMap]
  constructor
  · rintro ⟨agent, info, member, kept⟩
    split at kept
    next => cases kept
    next reachable =>
      split at kept
      next => cases kept
      next current =>
        split at kept
        next => cases kept
        next covers =>
          cases kept
          exact ⟨info, member, reachable, by simpa using current, by simpa using covers⟩
  · rintro ⟨info, member, authority⟩
    refine ⟨info.agent, info, member, ?_⟩
    simp [authority.reachable, authority.current, authority.covers]

variable {net : PublishNetwork} {dna : DnaHash} {opIds : List OpId} {loc : Nat}
  {agents : List RemoteAgent}

/-- Whatever was found is told. -/
theorem publishOps_sent (found : net.lookup dna loc = .ok agents) :
    (publishOps net dna opIds loc).sent = publishUrls agents := by
  simp only [publishOps, found]
  split
  next none => exact none.symm
  next => rfl

/-- A positive count means that some url of the lookup accepted the ops. -/
theorem publishOps_result_pos {count : Nat} (found : net.lookup dna loc = .ok agents)
    (returned : (publishOps net dna opIds loc).result = .ok count) (positive : 0 < count) :
    ∃ url ∈ publishUrls agents, net.accepts dna opIds url = true := by
  simp only [publishOps, found] at returned
  split at returned
  next =>
    cases returned
    exact absurd positive (Nat.lt_irrefl 0)
  next =>
    cases returned
    obtain ⟨url, accepted⟩ := Finset.card_pos.mp positive
    exact ⟨url, Finset.mem_filter.mp accepted⟩

/-- Ops go to authorities only exactly when each url that the lookup finds with a current agent is
also the url of an authority. -/
theorem publishOps_authorities_iff (net : PublishNetwork) (dna : DnaHash) (opIds : List OpId)
    (loc : Nat) (agents : List RemoteAgent) (found : net.lookup dna loc = .ok agents) :
    ((∀ url ∈ (publishOps net dna opIds loc).sent, ∃ info ∈ agents, Authority loc url info) ∧
      ∀ count, (publishOps net dna opIds loc).result = .ok count → 0 < count →
        ∃ url, net.accepts dna opIds url = true ∧ ∃ info ∈ agents, Authority loc url info) ↔
    ∀ info ∈ agents, info.isTombstone = false → ∀ url, info.url = some url →
      ∃ authority ∈ agents, Authority loc url authority := by
  rw [publishOps_sent found]
  constructor
  · rintro ⟨sent, _⟩ info member current url reachable
    exact sent url ((mem_publishUrls_iff agents url).mpr ⟨info, member, current, reachable⟩)
  · intro covered
    have sent : ∀ url ∈ publishUrls agents, ∃ info ∈ agents, Authority loc url info := by
      intro url told
      obtain ⟨info, member, current, reachable⟩ := (mem_publishUrls_iff agents url).mp told
      exact covered info member current url reachable
    refine ⟨sent, fun count returned positive => ?_⟩
    obtain ⟨url, told, accepted⟩ := publishOps_result_pos found returned positive
    exact ⟨url, accepted, sent url told⟩

/-- Finds one agent, whose arc has these locations and who accepts everything. -/
def oneAgentNetwork (arc : Nat → Bool) : PublishNetwork where
  getOrCreateSpace _ := .ok ()
  allPeers _ := .ok []
  localAgents _ := .ok []
  nearLocation _ _ := .ok [⟨bob, some "wss://bob", false, arc⟩]
  publish _ _ _ := .ok ()

theorem publishOps_authorities_fullArc :
    (∀ url ∈ (publishOps (oneAgentNetwork fun _ => true) sampleDna [] 7).sent,
        ∃ info ∈ [⟨bob, some "wss://bob", false, fun _ => true⟩], Authority 7 url info) ∧
      ∀ count, (publishOps (oneAgentNetwork fun _ => true) sampleDna [] 7).result = .ok count →
        0 < count → ∃ url, (oneAgentNetwork fun _ => true).accepts sampleDna [] url = true ∧
          ∃ info ∈ [⟨bob, some "wss://bob", false, fun _ => true⟩], Authority 7 url info := by
  refine (publishOps_authorities_iff (oneAgentNetwork fun _ => true) sampleDna [] 7 _ rfl).mpr ?_
  intro info member current url reachable
  obtain rfl := List.mem_singleton.mp member
  exact ⟨_, List.mem_singleton.mpr rfl, reachable, rfl, rfl⟩

/-- An agent whose arc is from 0 to 10 is told of ops at 100, and counted. -/
theorem publishOps_sent_missedArc :
    ¬∀ (net : PublishNetwork) (dna : DnaHash) (opIds : List OpId) (loc : Nat)
      (agents : List RemoteAgent), net.lookup dna loc = .ok agents →
      (∀ url ∈ (publishOps net dna opIds loc).sent, ∃ info ∈ agents, Authority loc url info) ∧
        ∀ count, (publishOps net dna opIds loc).result = .ok count → 0 < count →
          ∃ url, net.accepts dna opIds url = true ∧
            ∃ info ∈ agents, Authority loc url info := by
  intro always
  have told := (always (oneAgentNetwork (· ≤ 10)) sampleDna [] 100 _ rfl).1 "wss://bob" (by decide)
  obtain ⟨info, member, authority⟩ := told
  obtain rfl := List.mem_singleton.mp member
  exact absurd authority.covers (by decide)

end H2hcLinker.Publish
