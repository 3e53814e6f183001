import H2hcLinker.DhtContent
import H2hcLinker.DhtQueries

/-! Which of the peers' outcomes a parallel query answers with, and what that does to a record that
one of them has. -/
namespace H2hcLinker.Dht

/-- The replies in peer order; a reply may be that there is nothing. -/
def replies {α : Type} (outcomes : List (PeerOutcome α)) : List (Option α) :=
  outcomes.filterMap fun
    | .reply result => some result
    | _ => none

def errors {α : Type} (outcomes : List (PeerOutcome α)) : List LinkerError :=
  outcomes.filterMap fun
    | .failed error => some error
    | _ => none

/-- The first decisive reply, or else the last reply, or else the first error, or else nothing. -/
def selected {α : Type} (decisive : α → Bool) (outcomes : List (PeerOutcome α)) :
    Except LinkerError (Option α) :=
  match (replies outcomes).find? (·.any decisive) with
  | some reply => .ok reply
  | none =>
    match (replies outcomes).getLast? with
    | some reply => .ok reply
    | none =>
      match (errors outcomes).head? with
      | some error => .error error
      | none => .ok none

/-- The last reply, or else what the loop had, or else the first error. -/
def undecided {α : Type} (outcomes : List (PeerOutcome α))
    (last : Option (Except LinkerError (Option α))) : Option (Except LinkerError (Option α)) :=
  ((replies outcomes).getLast?.map .ok).or (last.or ((errors outcomes).head?.map .error))

theorem undecided_reply {α : Type} (reply : Option α) (rest : List (PeerOutcome α))
    (last : Option (Except LinkerError (Option α))) :
    undecided (.reply reply :: rest) last = undecided rest (some (.ok reply)) := by
  have head : replies (.reply reply :: rest) = reply :: replies rest := rfl
  unfold undecided
  rw [head, List.getLast?_cons]
  cases (replies rest).getLast? <;> rfl

theorem undecided_failed {α : Type} (error : LinkerError) (rest : List (PeerOutcome α))
    (last : Option (Except LinkerError (Option α))) :
    undecided (.failed error :: rest) last =
      undecided rest (if last.isNone then some (.error error) else last) := by
  have kept : replies (.failed error :: rest) = replies rest := rfl
  have head : errors (.failed error :: rest) = error :: errors rest := rfl
  unfold undecided
  rw [kept, head]
  cases last <;> rfl

/-- The loop, started with any last result. -/
theorem awaitFirst_eq {α : Type} (decisive : α → Bool) (outcomes : List (PeerOutcome α))
    (last : Option (Except LinkerError (Option α))) :
    awaitFirst decisive outcomes last =
      match (replies outcomes).find? (·.any decisive) with
      | some reply => .ok reply
      | none => (undecided outcomes last).getD (.ok none) := by
  induction outcomes generalizing last with
  | nil => cases last <;> rfl
  | cons outcome rest ih =>
    match outcome with
    | .reply (some answer) =>
      have head : replies (.reply (some answer) :: rest) = some answer :: replies rest := rfl
      unfold awaitFirst
      split
      next decides =>
        rw [head, List.find?_cons_of_pos (by simpa using decides)]
      next undecided =>
        rw [head, List.find?_cons_of_neg (by simpa using undecided), undecided_reply]
        exact ih _
    | .reply none =>
      rw [undecided_reply]
      exact ih _
    | .failed error =>
      rw [undecided_failed]
      exact ih _
    | .joinError => exact ih last

theorem awaitFirst_eq_selected {α : Type} (decisive : α → Bool) (outcomes : List (PeerOutcome α)) :
    awaitFirst decisive outcomes none = selected decisive outcomes := by
  rw [awaitFirst_eq, selected, undecided]
  cases (replies outcomes).find? (·.any decisive) with
  | some reply => rfl
  | none =>
    cases (replies outcomes).getLast? with
    | some reply => rfl
    | none => cases (errors outcomes).head? <;> rfl

/-- The peers that a query asks. -/
def DhtQuery.asked (q : DhtQuery) (dna : DnaHash) (loc : Nat) :
    Except LinkerError (List (AgentPubKey × String)) :=
  match q.getOrCreateSpace dna with
  | .error e => .error (.internal e)
  | .ok _ => (getPeersForLocation q dna loc).map (·.take parallelGetAgentsCount)

/-- The selection among what the asked peers' tasks yield, in peer order. -/
def DhtQuery.selects {α : Type} (q : DhtQuery) (dna : DnaHash) (loc : Nat) (decisive : α → Bool)
    (send : AgentPubKey × String → PeerOutcome α) : Except LinkerError (Option α) :=
  (q.asked dna loc).bind fun peers => selected decisive (peers.map send)

theorem DhtQuery.overPeers_eq_selects {α : Type} (q : DhtQuery) (dna : DnaHash) (loc : Nat)
    (decisive : α → Bool) (send : AgentPubKey × String → PeerOutcome α) :
    q.overPeers dna loc decisive send = q.selects dna loc decisive send := by
  unfold DhtQuery.overPeers DhtQuery.selects DhtQuery.asked
  cases q.getOrCreateSpace dna with
  | error e => rfl
  | ok _ =>
    cases getPeersForLocation q dna loc with
    | error e => rfl
    | ok peers =>
      cases peers with
      | nil => rfl
      | cons peer rest => exact awaitFirst_eq_selected decisive _

/-- Where nobody replied, the answer is an error if there is one. -/
theorem selected_error {α : Type} (decisive : α → Bool) {outcomes : List (PeerOutcome α)}
    (none : replies outcomes = []) (some : errors outcomes ≠ []) :
    ∃ error ∈ errors outcomes, selected decisive outcomes = .error error := by
  obtain ⟨error, rest, split⟩ := List.exists_cons_of_ne_nil some
  refine ⟨error, split ▸ List.mem_cons_self, ?_⟩
  rw [selected, none, split]
  rfl

/-- Where somebody replied, the answer is a reply. -/
theorem selected_reply {α : Type} (decisive : α → Bool) {outcomes : List (PeerOutcome α)}
    (some : replies outcomes ≠ []) :
    ∃ reply ∈ replies outcomes, selected decisive outcomes = .ok reply := by
  unfold selected
  split
  next reply found => exact ⟨reply, List.mem_of_find?_eq_some found, rfl⟩
  next =>
    split
    next reply last => exact ⟨reply, List.mem_of_getLast? last, rfl⟩
    next none => exact absurd (List.getLast?_eq_none_iff.mp none) some

/-- The five queries select alike, each with its own test of a decisive reply. -/
theorem queries_select (codec : LocationCodec) (q : DhtQueries) (dna : DnaHash) :
    (∀ hash, q.get codec.toDhtHashCodec dna hash =
      q.selects dna (codec.getLoc hash) (fun ops => ¬isWireOpsEmpty ops)
        fun peer => q.sendGetRequest dna peer hash) ∧
    (∀ linkKey, q.getLinks codec dna linkKey =
      q.selects dna (codec.linkableLoc linkKey.base) (fun ops => ops.creates ≠ [])
        fun peer => q.sendGetLinksRequest dna peer linkKey) ∧
    (∀ query, q.countLinks codec dna query =
      q.selects dna (codec.linkableLoc query.base) (fun _ => true)
        fun peer => q.sendCountLinksRequest dna peer query) ∧
    (∀ agent request, q.getAgentActivity codec dna agent request =
      q.selects dna (codec.agentLoc agent) (fun response => response.status ≠ .empty)
        fun peer => q.sendGetAgentActivityRequest dna peer agent request) ∧
    (∀ agent request, q.mustGetAgentActivity codec dna agent request =
      q.selects dna (codec.agentLoc agent) (·.isActivity)
        fun peer => q.sendMustGetAgentActivityRequest dna peer agent request) ∧
    ∀ (α : Type) (decisive : α → Bool) (outcomes : List (PeerOutcome α)),
      awaitFirst decisive outcomes none = selected decisive outcomes ∧
      (replies outcomes = [] → errors outcomes ≠ [] →
        ∃ error ∈ errors outcomes, awaitFirst decisive outcomes none = .error error) ∧
      (replies outcomes ≠ [] →
        ∃ reply ∈ replies outcomes, awaitFirst decisive outcomes none = .ok reply) := by
  refine ⟨?get, ?links, ?count, ?activity, ?mustGet, ?loop⟩
  case get => exact fun hash => q.overPeers_eq_selects ..
  case links =>
    intro linkKey
    have same : (fun ops : WireLinkOps => decide (¬ops.creates.isEmpty)) =
        fun ops => decide (ops.creates ≠ []) := by
      funext ops
      simp
    rw [DhtQueries.getLinks, same]
    exact q.overPeers_eq_selects ..
  case count => exact fun query => q.overPeers_eq_selects ..
  case activity => exact fun agent request => q.overPeers_eq_selects ..
  case mustGet => exact fun agent request => q.overPeers_eq_selects ..
  case loop =>
    intro α decisive outcomes
    rw [awaitFirst_eq_selected]
    exact ⟨rfl, selected_error decisive, selected_reply decisive⟩

/-- What a peer's task yields where it has no record: no reply, or one without the action or without
the entry's payload. -/
inductive WithoutRecord : PeerOutcome WireOps → Prop
  | failed (error : LinkerError) : WithoutRecord (.failed error)
  | joinError : WithoutRecord .joinError
  | noAction {ops : WireRecordOps} : ops.action = none → WithoutRecord (.reply (some (.record ops)))
  | noPayload {ops : WireEntryOps} : ops.entry = none → WithoutRecord (.reply (some (.entry ops)))

variable {H : Hashing} {serde : Serde}

theorem WithoutRecord.null {ops : WireOps} (without : WithoutRecord (.reply (some ops))) :
    wireOpsToRecordJson H serde ops = .null := by
  cases without with
  | noAction none => simp [wireOpsToRecordJson, wireRecordOpsToRecord, none]
  | noPayload none => simp [wireOpsToRecordJson, wireEntryOpsToRecord, none]

/-- A reply that renders to a record is decisive. -/
theorem rendered_nonempty {ops : WireOps} (found : wireOpsToRecordJson H serde ops ≠ .null) :
    isWireOpsEmpty ops = false := by
  cases ops with
  | record ops =>
    cases reply : ops.action with
    | none => exact absurd (WithoutRecord.null (.noAction reply)) found
    | some judged => simp [isWireOpsEmpty, reply]
  | entry ops =>
    cases payload : ops.entry with
    | none => exact absurd (WithoutRecord.null (.noPayload payload)) found
    | some data => simp [isWireOpsEmpty, payload]
  | warrant encoded => rfl

/-- A decisive reply is the answer unless an earlier one is. -/
theorem selected_append {α : Type} {decisive : α → Bool} (before after : List (PeerOutcome α))
    {answer : α} (decides : decisive answer = true) :
    selected decisive (before ++ .reply (some answer) :: after) =
      .ok (((replies before).find? (·.any decisive)).getD (some answer)) := by
  have split : replies (before ++ .reply (some answer) :: after) =
      replies before ++ some answer :: replies after := List.filterMap_append
  unfold selected
  rw [split, List.find?_append, List.find?_cons_of_pos (by simpa using decides)]
  cases (replies before).find? (·.any decisive) <;> rfl

theorem mem_replies {α : Type} {outcomes : List (PeerOutcome α)} {reply : Option α} :
    reply ∈ replies outcomes ↔ .reply reply ∈ outcomes := by
  unfold replies
  rw [List.mem_filterMap]
  constructor
  · rintro ⟨outcome, member, same⟩
    cases outcome with
    | reply result => cases same; exact member
    | failed error => cases same
    | joinError => cases same
  · exact fun member => ⟨_, member, rfl⟩

/-- What the endpoint makes of the result of its query. -/
def recordAnswer (H : Hashing) (serde : Serde) :
    Except LinkerError (Option WireOps) → Except LinkerError Json
  | .error e => .error e
  | .ok (some ops) => .ok (wireOpsToRecordJson H serde ops)
  | .ok none => .ok .null

theorem dhtGetRecord_eq {codec : DhtHashCodec} {q : DhtQuery} {dnaText hashText : String}
    {dna : DnaHash} {hash : AnyDhtHash} {peers : List (AgentPubKey × String)}
    (dnaParsed : parseDnaHash codec dnaText = .ok dna)
    (hashParsed : parseAnyDhtHash codec hashText = .ok hash)
    (asked : q.asked dna (codec.getLoc hash) = .ok peers) :
    dhtGetRecord H serde codec (some q) dnaText hashText =
      recordAnswer H serde (selected (fun ops => ¬isWireOpsEmpty ops)
        (peers.map fun peer => q.sendGetRequest dna peer hash)) := by
  have got : q.get codec dna hash = selected (fun ops => ¬isWireOpsEmpty ops)
      (peers.map fun peer => q.sendGetRequest dna peer hash) := by
    rw [q.get_eq_overPeers, q.overPeers_eq_selects, DhtQuery.selects, asked]
    rfl
  simp only [dhtGetRecord, dhtGetRendered, dnaParsed, hashParsed, got]
  rfl

/-- Where a peer has a record and those before it have none, the record is the answer exactly when
every reply before it is empty. -/
theorem record_found_iff (H : Hashing) (serde : Serde) (codec : DhtHashCodec) (q : DhtQuery)
    (dnaText hashText : String) (dna : DnaHash) (hash : AnyDhtHash)
    (peers : List (AgentPubKey × String)) (before after : List (PeerOutcome WireOps)) (ops : WireOps)
    (dnaParsed : parseDnaHash codec dnaText = .ok dna)
    (hashParsed : parseAnyDhtHash codec hashText = .ok hash)
    (asked : q.asked dna (codec.getLoc hash) = .ok peers)
    (outcomes : (peers.map fun peer => q.sendGetRequest dna peer hash) =
      before ++ .reply (some ops) :: after)
    (found : wireOpsToRecordJson H serde ops ≠ .null)
    (without : ∀ outcome ∈ before, WithoutRecord outcome) :
    dhtGetRecord H serde codec (some q) dnaText hashText = .ok (wireOpsToRecordJson H serde ops) ↔
      ∀ earlier, .reply (some earlier) ∈ before → isWireOpsEmpty earlier = true := by
  have decides : decide (¬isWireOpsEmpty ops = true) = true := by simp [rendered_nonempty found]
  rw [dhtGetRecord_eq dnaParsed hashParsed asked, outcomes, selected_append before after decides]
  cases first : (replies before).find? (·.any fun ops => ¬isWireOpsEmpty ops) with
  | none =>
    refine iff_of_true rfl fun earlier member => ?_
    have passed := List.find?_eq_none.mp first _ (mem_replies.mpr member)
    simpa using passed
  | some reply =>
    obtain ⟨earlier, rfl, nonempty⟩ : ∃ earlier, reply = some earlier ∧ ¬isWireOpsEmpty earlier := by
      simpa [Option.any_eq_true] using List.find?_some first
    have member := mem_replies.mp (List.mem_of_find?_eq_some first)
    have null : wireOpsToRecordJson H serde earlier = .null := (without _ member).null
    refine iff_of_false ?_ fun empty => nonempty (empty earlier member)
    intro answered
    exact found ((Except.ok.inj answered).symm.trans null)

/-- Two peers: the first answers with this, the second has the sample action. -/
def twoPeersQuery (first : WireOps) : DhtQuery where
  getOrCreateSpace _ := .ok ()
  nearLocation _ _ := .ok [⟨⟨[6]⟩, some "wss://first", false, fun _ => true⟩,
    ⟨⟨[7]⟩, some "wss://second", false, fun _ => true⟩]
  sendGetRequest _ peer _ :=
    if peer.2 = "wss://first" then .reply (some first)
    else .reply (some (.record ⟨some ⟨⟨sampleAction, [170]⟩, some .valid⟩, [], [], none⟩))

/-- The second peer's reply. -/
def sampleReply : WireOps := .record ⟨some ⟨⟨sampleAction, [170]⟩, some .valid⟩, [], [], none⟩

def emptyReply : WireOps := .record ⟨none, [], [], none⟩

/-- A delete without the action it deletes. -/
def deleteReply (deleted : ActionHash) : WireOps :=
  .record ⟨none, [⟨⟨⟨⟨[1]⟩, 2000000, 6, ⟨[2]⟩, deleted, ⟨[3]⟩, []⟩, [187]⟩, some .valid⟩], [], none⟩

theorem sampleReply_found (H : Hashing) : wireOpsToRecordJson H everySerde sampleReply ≠ .null :=
  fun null => nomatch null

theorem record_found_emptyReply :
    dhtGetRecord numberedHashing everySerde (oneActionCodec (numberedHashing.action sampleAction))
        (some (twoPeersQuery emptyReply)) "dna" "action" =
      .ok (wireOpsToRecordJson numberedHashing everySerde sampleReply) := by
  refine (record_found_iff numberedHashing everySerde _ _ "dna" "action" _ _
    [(⟨[6]⟩, "wss://first"), (⟨[7]⟩, "wss://second")] [.reply (some emptyReply)] [] sampleReply
    rfl rfl rfl rfl (sampleReply_found _) ?without).mpr ?empty
  case without =>
    intro outcome member
    obtain rfl := List.mem_singleton.mp member
    exact .noAction rfl
  case empty =>
    intro earlier member
    obtain rfl : earlier = emptyReply := by simpa using member
    rfl

/-- The first peer knows of a delete only, and the record of the second is not found. -/
theorem record_hidden_deleteReply :
    ¬∀ (H : Hashing) (serde : Serde) (codec : DhtHashCodec) (q : DhtQuery)
      (dnaText hashText : String) (dna : DnaHash) (hash : AnyDhtHash)
      (peers : List (AgentPubKey × String)) (before after : List (PeerOutcome WireOps))
      (ops : WireOps), H.CollisionFree → serde.Total → parseDnaHash codec dnaText = .ok dna →
      parseAnyDhtHash codec hashText = .ok hash →
      q.asked dna (codec.getLoc hash) = .ok peers →
      (peers.map fun peer => q.sendGetRequest dna peer hash) =
        before ++ .reply (some ops) :: after →
      wireOpsToRecordJson H serde ops ≠ .null →
      (∀ outcome ∈ before ++ after, WithoutRecord outcome) →
      dhtGetRecord H serde codec (some q) dnaText hashText =
        .ok (wireOpsToRecordJson H serde ops) := by
  intro always
  let deleted := deleteReply (numberedHashing.action sampleAction)
  have answered := always numberedHashing everySerde
    (oneActionCodec (numberedHashing.action sampleAction)) (twoPeersQuery deleted) "dna" "action" _ _
    [(⟨[6]⟩, "wss://first"), (⟨[7]⟩, "wss://second")] [.reply (some deleted)] [] sampleReply
    numberedHashing_collisionFree everySerde_total rfl rfl rfl rfl (sampleReply_found _) (by
      intro outcome member
      obtain rfl := List.mem_singleton.mp member
      exact .noAction rfl)
  cases answered

end H2hcLinker.Dht
