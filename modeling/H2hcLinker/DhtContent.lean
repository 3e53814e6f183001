import H2hcLinker.DhtLiveness
import H2hcLinker.DhtQuery

/-! What a record answer says about the hash that was asked for. Replies are not checked against
the request, so it says as much as the rendered reply does. -/
namespace H2hcLinker.Dht

variable {H : Hashing} {serde : Serde}

/-- The action is the one that was asked for, or one of the entry that was asked for. -/
def Addressed (H : Hashing) (hash : AnyDhtHash) (action : Action) : Prop :=
  match hash with
  | .action h => H.action action = h
  | .entry h => ∃ entryType, action.entryData = some (h, entryType)

/-- The reply is about the hash: its action is, or its entry payload and creates are. -/
def Concerns (H : Hashing) (hash : AnyDhtHash) : WireOps → Prop
  | .record ops => ∀ judged, ops.action = some judged → Addressed H hash judged.data.data
  | .entry ops => ∀ data, ops.entry = some data →
      match hash with
      | .entry h => H.entry data.entry = h
      | .action h => ∀ judged ∈ ops.creates, judged.isValid = true →
          H.action (fullAction data.entryType (H.entry data.entry) judged.data).1 = h
  | .warrant _ => True

theorem Serde.recordValue_eq_record {value record : Record}
    (rendered : serde.recordValue value = .record record) : value = record := by
  unfold Serde.recordValue at rendered
  split at rendered
  · exact Json.record.inj rendered
  · cases rendered

/-- Every create of an entry reply stands for an action of the payload's entry. -/
theorem fullAction_entryData (entryType : EntryType) (entryHash : EntryHash)
    (wire : WireNewEntryAction) :
    (fullAction entryType entryHash wire).1.entryData = some (entryHash, entryType) := by
  cases wire <;> rfl

theorem rebuild_addressed {ops : WireEntryOps} {data : EntryData} {hash : AnyDhtHash}
    {judged : Judged WireNewEntryAction} (payload : ops.entry = some data)
    (member : judged ∈ ops.creates) (valid : judged.isValid = true)
    (concerns : Concerns H hash (.entry ops)) :
    Addressed H hash (rebuild H data judged.data).hashed.content := by
  have about := concerns data payload
  cases hash with
  | action h => exact about judged member valid
  | entry h =>
    have same : H.entry data.entry = h := about
    exact ⟨data.entryType, same ▸ fullAction_entryData ..⟩

/-- Rendering hashes the action it shows, and shows an action the reply is about. -/
theorem rendered_addressed {ops : WireOps} {record : Record} (hash : AnyDhtHash)
    (rendered : wireOpsToRecordJson H serde ops = .record record) :
    record.signedAction.hashed.hash = H.action record.signedAction.hashed.content ∧
      (Concerns H hash ops → Addressed H hash record.signedAction.hashed.content) := by
  cases ops with
  | record ops =>
    simp only [wireOpsToRecordJson, wireRecordOpsToRecord] at rendered
    split at rendered
    next => cases rendered
    next judged reply =>
      obtain rfl := Serde.recordValue_eq_record rendered
      exact ⟨rfl, fun concerns => concerns judged reply⟩
  | entry ops =>
    simp only [wireOpsToRecordJson, wireEntryOpsToRecord] at rendered
    split at rendered
    next => cases rendered
    next data payload =>
      split at rendered
      next => cases rendered
      next signed selected =>
        obtain rfl := Serde.recordValue_eq_record rendered
        obtain ⟨judged, member, valid, rfl, _⟩ := selectCreate_eq_some selected
        exact ⟨rfl, rebuild_addressed payload member valid⟩
  | warrant encoded => cases rendered

/-- An answer that is not null is the rendering of a reply of one of the asked peers. -/
theorem rendered_from_queried_peer {render : WireOps → Json} {codec : DhtHashCodec}
    {query : Option DhtQuery} {dnaText hashText : String} {json : Json}
    (answered : dhtGetRendered render codec query dnaText hashText = .ok json)
    (found : json ≠ .null) :
    ∃ q dna hash peers peer ops, query = some q ∧ codec.dnaOfStr dnaText = .ok dna ∧
      parseAnyDhtHash codec hashText = .ok hash ∧
      getPeersForLocation q dna (codec.getLoc hash) = .ok peers ∧
      peer ∈ peers.take parallelGetAgentsCount ∧
      q.sendGetRequest dna peer hash = .reply (some ops) ∧ render ops = json := by
  obtain ⟨q, dna, hash, ops, available, dnaParsed, hashParsed, got, rendered⟩ :=
    dhtGetRendered_eq_ok answered found
  obtain ⟨peers, known, peer, asked, replied⟩ := get_eq_some got
  have dnaRead : codec.dnaOfStr dnaText = .ok dna := by
    unfold parseDnaHash at dnaParsed
    split at dnaParsed
    next read => exact Except.ok.inj dnaParsed ▸ read
    next => cases dnaParsed
  exact ⟨q, dna, hash, peers, peer, ops, available, dnaRead, hashParsed, known, asked, replied,
    rendered⟩

/-- A record answer is the rendering of a reply of one of the asked peers, with its action's own
hash; where that reply is about the hash asked for, so is the record. -/
theorem record_from_queried_peer (H : Hashing) (serde : Serde) (codec : DhtHashCodec)
    (query : Option DhtQuery) (dnaText hashText : String) (record : Record)
    (answered : dhtGetRecord H serde codec query dnaText hashText = .ok (.record record)) :
    record.signedAction.hashed.hash = H.action record.signedAction.hashed.content ∧
    ∃ q dna hash peers peer ops, query = some q ∧ codec.dnaOfStr dnaText = .ok dna ∧
      parseAnyDhtHash codec hashText = .ok hash ∧
      getPeersForLocation q dna (codec.getLoc hash) = .ok peers ∧
      peer ∈ peers.take parallelGetAgentsCount ∧
      q.sendGetRequest dna peer hash = .reply (some ops) ∧
      wireOpsToRecordJson H serde ops = .record record ∧
      (Concerns H hash ops → Addressed H hash record.signedAction.hashed.content) := by
  obtain ⟨q, dna, hash, peers, peer, ops, available, dnaRead, hashParsed, known, asked, replied,
    rendered⟩ := rendered_from_queried_peer answered (by simp)
  obtain ⟨hashed, addressed⟩ := rendered_addressed hash rendered
  exact ⟨hashed, q, dna, hash, peers, peer, ops, available, dnaRead, hashParsed, known, asked,
    replied, rendered, addressed⟩

/-- Every action that the details show. -/
def Details.signedActions : Details → List SignedActionHashed
  | .record details => details.record.signedAction :: (details.deletes ++ details.updates)
  | .entry details =>
    details.actions ++ details.rejectedActions ++ (details.deletes ++ details.updates)

theorem Serde.detailsValue_eq_details {value details : Details}
    (rendered : serde.detailsValue value = .details details) : value = details := by
  unfold Serde.detailsValue at rendered
  split at rendered
  · exact Json.details.inj rendered
  · cases rendered

/-- Rendering hashes every action that it shows. -/
theorem rendered_details_hashed {ops : WireOps} {details : Details}
    (rendered : wireOpsToDetailsJson H serde ops = .details details) :
    ∀ signed ∈ details.signedActions, signed.hashed.hash = H.action signed.hashed.content := by
  cases ops with
  | record ops =>
    simp only [wireOpsToDetailsJson, wireRecordOpsToDetails] at rendered
    split at rendered
    next => cases rendered
    next judged reply =>
      obtain rfl := Serde.detailsValue_eq_details rendered
      simp only [Details.signedActions, List.forall_mem_cons, List.forall_mem_append,
        List.forall_mem_map]
      refine ⟨rfl, fun _ _ => rfl, fun signed member => ?_⟩
      obtain ⟨update, _, shown⟩ := List.mem_filterMap.mp member
      obtain ⟨_, _, rfl⟩ := Option.map_eq_some_iff.mp shown
      rfl
  | entry ops =>
    simp only [wireOpsToDetailsJson, wireEntryOpsToDetails] at rendered
    split at rendered
    next => cases rendered
    next data payload =>
      obtain rfl := Serde.detailsValue_eq_details rendered
      simp only [Details.signedActions, List.forall_mem_append, List.forall_mem_map]
      exact ⟨⟨fun _ _ => rfl, fun _ _ => rfl⟩, fun _ _ => rfl, fun _ _ => rfl⟩
  | warrant encoded => cases rendered

/-- Details are the rendering of a reply of one of the asked peers, each action under its own
hash. -/
theorem details_from_queried_peer {codec : DhtHashCodec} {query : Option DhtQuery}
    {dnaText hashText : String} {details : Details}
    (answered : dhtGetDetails H serde codec query dnaText hashText = .ok (.details details)) :
    (∀ signed ∈ details.signedActions, signed.hashed.hash = H.action signed.hashed.content) ∧
      ∃ q dna hash peers peer ops, query = some q ∧ codec.dnaOfStr dnaText = .ok dna ∧
        parseAnyDhtHash codec hashText = .ok hash ∧
        getPeersForLocation q dna (codec.getLoc hash) = .ok peers ∧
        peer ∈ peers.take parallelGetAgentsCount ∧
        q.sendGetRequest dna peer hash = .reply (some ops) ∧
        wireOpsToDetailsJson H serde ops = .details details := by
  obtain ⟨q, dna, hash, peers, peer, ops, available, dnaRead, hashParsed, known, asked, replied,
    rendered⟩ := rendered_from_queried_peer answered (by simp)
  exact ⟨rendered_details_hashed rendered, q, dna, hash, peers, peer, ops, available, dnaRead,
    hashParsed, known, asked, replied, rendered⟩

def sampleAction : Action := .create ⟨⟨[1]⟩, 1000000, 5, ⟨[2]⟩, ⟨[8]⟩, ⟨[9]⟩, []⟩

/-- Reads one DNA and one action hash. -/
def oneActionCodec (hash : ActionHash) : DhtHashCodec where
  dnaOfStr text := if text = "dna" then .ok ⟨[4]⟩ else .error "BadPrefix"
  agentOfStr _ := .error "BadPrefix"
  agentOfRaw39 _ := none
  dnaToStr _ := "dna"
  agentToStr _ := ""
  entryOfStr _ := .error "BadPrefix"
  actionOfStr text := if text = "action" then .ok hash else .error "BadPrefix"
  getLoc _ := 0

/-- One peer, which answers every request with the same signed action. -/
def oneActionQuery (action : Action) : DhtQuery where
  getOrCreateSpace _ := .ok ()
  nearLocation _ _ := .ok [⟨⟨[6]⟩, some "wss://peer", false, fun _ => true⟩]
  sendGetRequest _ _ _ := .reply (some (.record ⟨some ⟨⟨action, [170]⟩, some .valid⟩, [], [], none⟩))

theorem oneActionQuery_answers (hash : ActionHash) (action : Action) :
    dhtGetRecord numberedHashing everySerde (oneActionCodec hash) (some (oneActionQuery action))
      "dna" "action" = .ok (.record ⟨.presigned numberedHashing action [170], none⟩) := rfl

theorem record_from_queried_peer_sampleAction :
    ∃ q dna hash peers peer ops, some (oneActionQuery sampleAction) = some q ∧
      (oneActionCodec (numberedHashing.action sampleAction)).dnaOfStr "dna" = .ok dna ∧
      parseAnyDhtHash (oneActionCodec (numberedHashing.action sampleAction)) "action" = .ok hash ∧
      getPeersForLocation q dna 0 = .ok peers ∧ peer ∈ peers.take parallelGetAgentsCount ∧
      q.sendGetRequest dna peer hash = .reply (some ops) ∧
      wireOpsToRecordJson numberedHashing everySerde ops =
        .record ⟨.presigned numberedHashing sampleAction [170], none⟩ ∧
      (Concerns numberedHashing hash ops → Addressed numberedHashing hash sampleAction) :=
  (record_from_queried_peer numberedHashing everySerde _ _ _ _ _
    (oneActionQuery_answers (numberedHashing.action sampleAction) sampleAction)).2

/-- A peer answers a request for one action with another. -/
theorem record_unrelated_reply :
    ¬∀ (H : Hashing) (serde : Serde) (codec : DhtHashCodec) (query : Option DhtQuery)
      (dnaText hashText : String) (hash : AnyDhtHash) (record : Record), H.CollisionFree →
      parseAnyDhtHash codec hashText = .ok hash →
      dhtGetRecord H serde codec query dnaText hashText = .ok (.record record) →
      Addressed H hash record.signedAction.hashed.content := by
  intro always
  let asked := numberedHashing.action (.other [])
  have parsed : parseAnyDhtHash (oneActionCodec asked) "action" = .ok (.action asked) := rfl
  have addressed := always _ _ _ _ _ _ _ _ numberedHashing_collisionFree parsed
    (oneActionQuery_answers asked sampleAction)
  cases numberedHashing_collisionFree.action addressed

end H2hcLinker.Dht
