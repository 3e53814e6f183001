import H2hcLinker.DhtRender

/-! Parallel DHT queries and the record endpoint over them. What the network does during one
request is the `DhtQuery` it runs against; a peer may answer anything. -/
namespace H2hcLinker.Dht

/-- The parsers of the hash library for the kinds of hash a DHT address can be. -/
structure DhtHashCodec extends HashCodec where
  entryOfStr : String → Except String EntryHash
  actionOfStr : String → Except String ActionHash
  /-- `AnyDhtHash::get_loc`. -/
  getLoc : AnyDhtHash → Nat

/-- An agent info of the peer store: its arc by the membership test of locations. -/
structure RemoteAgent where
  agent : AgentPubKey
  url : Option String
  isTombstone : Bool
  storageArc : Nat → Bool

/-- What awaiting one peer's task yields. -/
inductive PeerOutcome (α : Type) where
  | reply (result : Option α)
  | failed (error : LinkerError)
  | joinError

structure DhtQuery where
  getOrCreateSpace : DnaHash → Except String Unit
  /-- `get_responsive_remote_agents_near_location` in the DNA's space. -/
  nearLocation : DnaHash → Nat → Except String (List RemoteAgent)
  sendGetRequest : DnaHash → AgentPubKey × String → AnyDhtHash → PeerOutcome WireOps

def parallelGetAgentsCount : Nat := 3

def getPeersForLocation (q : DhtQuery) (dna : DnaHash) (loc : Nat) :
    Except LinkerError (List (AgentPubKey × String)) :=
  match q.nearLocation dna loc with
  | .error e => .error (.internal ("Failed to get peers: " ++ e))
  | .ok agents => .ok (agents.filterMap fun a =>
      match a.url with
      | none => none
      | some url =>
        if a.isTombstone then none
        else if ¬a.storageArc loc then none
        else some (a.agent, url))

def isWireOpsEmpty : WireOps → Bool
  | .entry ops =>
    ops.creates.isEmpty && ops.deletes.isEmpty && ops.updates.isEmpty && ops.entry.isNone
  | .record ops =>
    ops.action.isNone && ops.deletes.isEmpty && ops.updates.isEmpty && ops.entry.isNone
  | .warrant _ => false

/-- The loop that awaits the tasks in peer order; `last` is `last_result`. -/
def awaitFirst {α : Type} (decisive : α → Bool) :
    List (PeerOutcome α) → Option (Except LinkerError (Option α)) → Except LinkerError (Option α)
  | [], last => last.getD (.ok none)
  | .reply (some answer) :: rest, _ =>
    if decisive answer then .ok (some answer)
    else awaitFirst decisive rest (some (.ok (some answer)))
  | .reply none :: rest, _ => awaitFirst decisive rest (some (.ok none))
  | .failed e :: rest, last => awaitFirst decisive rest (if last.isNone then some (.error e) else last)
  | .joinError :: rest, last => awaitFirst decisive rest last

/-- The outcomes of the peers that are asked. -/
def DhtQuery.outcomes (q : DhtQuery) (dna : DnaHash) (hash : AnyDhtHash)
    (peers : List (AgentPubKey × String)) : List (PeerOutcome WireOps) :=
  (peers.take parallelGetAgentsCount).map fun peer => q.sendGetRequest dna peer hash

def DhtQuery.get (codec : DhtHashCodec) (q : DhtQuery) (dna : DnaHash) (hash : AnyDhtHash) :
    Except LinkerError (Option WireOps) :=
  match q.getOrCreateSpace dna with
  | .error e => .error (.internal e)
  | .ok _ =>
    match getPeersForLocation q dna (codec.getLoc hash) with
    | .error e => .error e
    | .ok peers =>
      if peers.isEmpty then .ok none
      else awaitFirst (fun ops => ¬isWireOpsEmpty ops) (q.outcomes dna hash peers) none

def parseDnaHash (codec : DhtHashCodec) (s : String) : Except LinkerError DnaHash :=
  match codec.dnaOfStr s with
  | .ok dna => .ok dna
  | .error _ => .error (.requestMalformed ("Invalid DNA hash: " ++ s))

def parseAnyDhtHash (codec : DhtHashCodec) (s : String) : Except LinkerError AnyDhtHash :=
  match codec.entryOfStr s with
  | .ok hash => .ok (.entry hash)
  | .error _ =>
    match codec.actionOfStr s with
    | .ok hash => .ok (.action hash)
    | .error _ => .error (.requestMalformed ("Invalid DHT hash: " ++ s))

/-- The two endpoints that answer a hash, by what they render a reply to; `query` is the state's
`dht_query`, the texts are the path's. -/
def dhtGetRendered (render : WireOps → Json) (codec : DhtHashCodec) (query : Option DhtQuery)
    (dnaText hashText : String) : Except LinkerError Json :=
  match query with
  | none => .error (.internal "DHT queries not available")
  | some q =>
    match parseDnaHash codec dnaText with
    | .error e => .error e
    | .ok dna =>
      match parseAnyDhtHash codec hashText with
      | .error e => .error e
      | .ok hash =>
        match q.get codec dna hash with
        | .error e => .error e
        | .ok (some ops) => .ok (render ops)
        | .ok none => .ok .null

def dhtGetRecord (H : Hashing) (serde : Serde) (codec : DhtHashCodec) (query : Option DhtQuery)
    (dnaText hashText : String) : Except LinkerError Json :=
  dhtGetRendered (wireOpsToRecordJson H serde) codec query dnaText hashText

def dhtGetDetails (H : Hashing) (serde : Serde) (codec : DhtHashCodec) (query : Option DhtQuery)
    (dnaText hashText : String) : Except LinkerError Json :=
  dhtGetRendered (wireOpsToDetailsJson H serde) codec query dnaText hashText

/-- An answer of the loop was a peer's reply. -/
theorem awaitFirst_eq_some {α : Type} {decisive : α → Bool} {outcomes : List (PeerOutcome α)}
    {last : Option (Except LinkerError (Option α))} {answer : α}
    (awaited : awaitFirst decisive outcomes last = .ok (some answer)) :
    .reply (some answer) ∈ outcomes ∨ last = some (.ok (some answer)) := by
  induction outcomes generalizing last with
  | nil =>
    cases last with
    | none => cases awaited
    | some result => exact .inr (congrArg some awaited)
  | cons outcome rest ih =>
    match outcome with
    | .reply (some other) =>
      unfold awaitFirst at awaited
      split at awaited
      · cases awaited
        exact .inl List.mem_cons_self
      · cases ih awaited with
        | inl later => exact .inl (List.mem_cons_of_mem _ later)
        | inr same =>
          cases same
          exact .inl List.mem_cons_self
    | .reply none =>
      cases ih awaited with
      | inl later => exact .inl (List.mem_cons_of_mem _ later)
      | inr same => cases same
    | .failed e =>
      cases ih awaited with
      | inl later => exact .inl (List.mem_cons_of_mem _ later)
      | inr same =>
        split at same
        · cases same
        · exact .inr same
    | .joinError =>
      cases ih awaited with
      | inl later => exact .inl (List.mem_cons_of_mem _ later)
      | inr same => exact .inr same

/-- What a query answers is a reply of one of the peers it asked. -/
theorem get_eq_some {codec : DhtHashCodec} {q : DhtQuery} {dna : DnaHash} {hash : AnyDhtHash}
    {ops : WireOps} (answered : q.get codec dna hash = .ok (some ops)) :
    ∃ peers, getPeersForLocation q dna (codec.getLoc hash) = .ok peers ∧
      ∃ peer ∈ peers.take parallelGetAgentsCount,
        q.sendGetRequest dna peer hash = .reply (some ops) := by
  unfold DhtQuery.get at answered
  split at answered
  next => cases answered
  next =>
    split at answered
    next => cases answered
    next peers found =>
      split at answered
      next => cases answered
      next =>
        cases awaitFirst_eq_some answered with
        | inl replied =>
          obtain ⟨peer, asked, outcome⟩ := List.mem_map.mp replied
          exact ⟨peers, found, peer, asked, outcome⟩
        | inr same => cases same

/-- An answer that is not null comes from one reply, rendered. -/
theorem dhtGetRendered_eq_ok {render : WireOps → Json} {codec : DhtHashCodec}
    {query : Option DhtQuery} {dnaText hashText : String} {json : Json}
    (answered : dhtGetRendered render codec query dnaText hashText = .ok json)
    (found : json ≠ .null) :
    ∃ q dna hash ops, query = some q ∧ parseDnaHash codec dnaText = .ok dna ∧
      parseAnyDhtHash codec hashText = .ok hash ∧ q.get codec dna hash = .ok (some ops) ∧
      render ops = json := by
  unfold dhtGetRendered at answered
  split at answered
  next => cases answered
  next q =>
    split at answered
    next => cases answered
    next dna dnaParsed =>
      split at answered
      next => cases answered
      next hash hashParsed =>
        split at answered
        next => cases answered
        next ops got =>
          exact ⟨q, dna, hash, ops, rfl, dnaParsed, hashParsed, got, Except.ok.inj answered⟩
        next => exact absurd (Except.ok.inj answered).symm found

end H2hcLinker.Dht
