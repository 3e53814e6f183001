import H2hcLinker.DhtQuery

/-! The other four queries of the DHT: links, their number, and an agent's activity. -/
namespace H2hcLinker.Dht

/-- Which zomes and link types a request is about. -/
inductive LinkTypeFilter where
  | types (types : List (UInt8 × List UInt8))
  | dependencies (zomes : List UInt8)
  deriving DecidableEq

structure WireLinkKey where
  base : AnyLinkableHash
  typeQuery : LinkTypeFilter
  tag : Option (List UInt8)
  after : Option Int
  before : Option Int
  author : Option AgentPubKey
  deriving DecidableEq

structure WireLinkQuery where
  base : AnyLinkableHash
  linkType : LinkTypeFilter
  tagPrefix : Option (List UInt8)
  before : Option Int
  after : Option Int
  author : Option AgentPubKey
  deriving DecidableEq

structure WireCreateLink where
  author : AgentPubKey
  timestamp : Int
  actionSeq : Nat
  prevAction : ActionHash
  targetAddress : AnyLinkableHash
  zomeIndex : UInt8
  linkType : UInt8
  tag : Option (List UInt8)
  signature : Signature
  validationStatus : ValidationStatus
  weight : Weight
  deriving DecidableEq

structure WireDeleteLink where
  author : AgentPubKey
  timestamp : Int
  actionSeq : Nat
  prevAction : ActionHash
  linkAddAddress : ActionHash
  signature : Signature
  validationStatus : ValidationStatus
  deriving DecidableEq

structure WireLinkOps where
  creates : List WireCreateLink
  deletes : List WireDeleteLink
  deriving DecidableEq

structure CountLinksResponse where
  createLinks : List ActionHash
  deriving DecidableEq

/-- What an activity query is narrowed by and asks for is only passed on, by its encoding. -/
structure ActivityRequest where
  encoded : List UInt8
  deriving DecidableEq

/-- The other statuses carry the chain's head or fork. -/
inductive ChainStatus where
  | empty
  | other (encoded : List UInt8)
  deriving DecidableEq

structure AgentActivityResponse where
  status : ChainStatus
  activity : List UInt8
  deriving DecidableEq

/-- The variants besides `Activity` say why there is none. -/
inductive MustGetAgentActivityResponse where
  | activity (encoded : List UInt8)
  | other (encoded : List UInt8)
  deriving DecidableEq

def MustGetAgentActivityResponse.isActivity : MustGetAgentActivityResponse → Bool
  | .activity _ => true
  | .other _ => false

/-- The locations of the hashes that the other queries are about. -/
structure LocationCodec extends DhtHashCodec where
  linkableLoc : AnyLinkableHash → Nat
  agentLoc : AgentPubKey → Nat

/-- The network, with the other requests to a peer. -/
structure DhtQueries extends DhtQuery where
  sendGetLinksRequest : DnaHash → AgentPubKey × String → WireLinkKey → PeerOutcome WireLinkOps
  sendCountLinksRequest :
    DnaHash → AgentPubKey × String → WireLinkQuery → PeerOutcome CountLinksResponse
  sendGetAgentActivityRequest :
    DnaHash → AgentPubKey × String → AgentPubKey → ActivityRequest → PeerOutcome AgentActivityResponse
  sendMustGetAgentActivityRequest :
    DnaHash → AgentPubKey × String → AgentPubKey → ActivityRequest →
      PeerOutcome MustGetAgentActivityResponse

/-- What the queries have in common: `send` is the request to one peer. -/
def DhtQuery.overPeers {α : Type} (q : DhtQuery) (dna : DnaHash) (loc : Nat) (decisive : α → Bool)
    (send : AgentPubKey × String → PeerOutcome α) : Except LinkerError (Option α) :=
  match q.getOrCreateSpace dna with
  | .error e => .error (.internal e)
  | .ok _ =>
    match getPeersForLocation q dna loc with
    | .error e => .error e
    | .ok peers =>
      if peers.isEmpty then .ok none
      else awaitFirst decisive ((peers.take parallelGetAgentsCount).map send) none

theorem DhtQuery.get_eq_overPeers (codec : DhtHashCodec) (q : DhtQuery) (dna : DnaHash)
    (hash : AnyDhtHash) :
    q.get codec dna hash = q.overPeers dna (codec.getLoc hash) (fun ops => ¬isWireOpsEmpty ops)
      fun peer => q.sendGetRequest dna peer hash := rfl

def DhtQueries.getLinks (codec : LocationCodec) (q : DhtQueries) (dna : DnaHash)
    (linkKey : WireLinkKey) : Except LinkerError (Option WireLinkOps) :=
  q.overPeers dna (codec.linkableLoc linkKey.base) (fun ops => ¬ops.creates.isEmpty)
    fun peer => q.sendGetLinksRequest dna peer linkKey

def DhtQueries.countLinks (codec : LocationCodec) (q : DhtQueries) (dna : DnaHash)
    (query : WireLinkQuery) : Except LinkerError (Option CountLinksResponse) :=
  q.overPeers dna (codec.linkableLoc query.base) (fun _ => true)
    fun peer => q.sendCountLinksRequest dna peer query

def DhtQueries.getAgentActivity (codec : LocationCodec) (q : DhtQueries) (dna : DnaHash)
    (agent : AgentPubKey) (request : ActivityRequest) :
    Except LinkerError (Option AgentActivityResponse) :=
  q.overPeers dna (codec.agentLoc agent) (fun response => response.status ≠ .empty)
    fun peer => q.sendGetAgentActivityRequest dna peer agent request

def DhtQueries.mustGetAgentActivity (codec : LocationCodec) (q : DhtQueries) (dna : DnaHash)
    (agent : AgentPubKey) (request : ActivityRequest) :
    Except LinkerError (Option MustGetAgentActivityResponse) :=
  -- The source tests the variant inside the arm; what fails it becomes the last result as elsewhere.
  q.overPeers dna (codec.agentLoc agent) (·.isActivity)
    fun peer => q.sendMustGetAgentActivityRequest dna peer agent request

end H2hcLinker.Dht
