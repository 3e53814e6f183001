import H2hcLinker.Grouping
import H2hcLinker.Publish

/-! What a publish response counts. The stored ops are grouped by location in a hash map, so the
peers are told in any order of the locations. -/
namespace H2hcLinker.Publish

open Grouping HashTable Interleaving

/-- One round of the first loop. -/
def Progress.step (acc : Progress) : Except LinkerError ProcessedOp → Progress
  | .ok op => acc.stored op
  | .error e => acc.refused e

/-- The first loop over what `process_signed_op` made of each op. -/
def storeAll (outcomes : List (Except LinkerError ProcessedOp)) : Progress :=
  outcomes.foldl Progress.step .start

/-- `ops_by_loc`. -/
def opsByLoc (processedOps : List ProcessedOp) : Table Nat (List OpId) :=
  collect ProcessedOp.basisLoc ProcessedOp.opId processedOps

/-- The state of the second loop: its counter, and the calls of `publish_ops` it made. -/
structure Announced where
  published : Nat
  passed : List (Nat × List OpId)
  deriving DecidableEq

/-- The peers near this location took the op ids. -/
def reached (publishOps : List OpId → Nat → Except String Nat) (basisLoc : Nat)
    (opIds : List OpId) : Bool :=
  match publishOps opIds basisLoc with
  | .ok peerCount => peerCount > 0
  | .error _ => false

/-- One round of the second loop. -/
def Announced.step (publishOps : List OpId → Nat → Except String Nat) (acc : Announced)
    (group : Nat × List OpId) : Announced :=
  ⟨if reached publishOps group.1 group.2 then acc.published + group.2.length else acc.published,
    acc.passed ++ [group]⟩

/-- The second loop in this order of the groups. -/
def announceAll (publishOps : List OpId → Nat → Except String Nat) (processedOps : List ProcessedOp)
    (order : List (Nat × List OpId)) : Announced :=
  if processedOps.isEmpty then ⟨0, []⟩ else order.foldl (Announced.step publishOps) ⟨0, []⟩

def responseOf (acc : Progress) (published : Nat) : PublishResponse :=
  ⟨acc.failed = 0 ∧ (acc.queued = 0 ∨ published > 0), acc.queued, acc.failed, published, acc.results⟩

/-- What `dht_publish` answers once the DNA is read, and the calls of `publish_ops` it made. -/
def dhtPublish (publishOps : List OpId → Nat → Except String Nat)
    (outcomes : List (Except LinkerError ProcessedOp)) (order : List (Nat × List OpId)) :
    PublishResponse × List (Nat × List OpId) :=
  let acc := storeAll outcomes
  let announced := announceAll publishOps acc.processedOps order
  (responseOf acc announced.published, announced.passed)

/-- The element of the results for one op. -/
def opResult : Except LinkerError ProcessedOp → OpPublishResult
  | .ok _ => ⟨true, none⟩
  | .error e => ⟨false, some e.display⟩

/-- The stored ops, in the order of the request. -/
def storedOps (outcomes : List (Except LinkerError ProcessedOp)) : List ProcessedOp :=
  outcomes.filterMap Except.toOption

/-- The op's location has peers that took its group. -/
def opReached (publishOps : List OpId → Nat → Except String Nat) (processedOps : List ProcessedOp)
    (op : ProcessedOp) : Bool :=
  reached publishOps op.basisLoc
    (valuesAt ProcessedOp.basisLoc ProcessedOp.opId processedOps op.basisLoc)

/-- The first loop's books after these outcomes. -/
structure Accounted (outcomes : List (Except LinkerError ProcessedOp)) (acc : Progress) : Prop where
  results : acc.results = outcomes.map opResult
  processed : acc.processedOps = storedOps outcomes
  queued : acc.queued = acc.processedOps.length
  total : acc.queued + acc.failed = outcomes.length

theorem storedOps_snoc (outcomes : List (Except LinkerError ProcessedOp))
    (outcome : Except LinkerError ProcessedOp) :
    storedOps (outcomes ++ [outcome]) = storedOps outcomes ++ outcome.toOption.toList := by
  rw [storedOps, List.filterMap_append]
  cases outcome <;> rfl

theorem Accounted.step {outcomes : List (Except LinkerError ProcessedOp)} {acc : Progress}
    (books : Accounted outcomes acc) (outcome : Except LinkerError ProcessedOp) :
    Accounted (outcomes ++ [outcome]) (acc.step outcome) := by
  obtain ⟨results, processed, queued, total⟩ := books
  cases outcome with
  | ok op =>
    constructor
    case results => simp [Progress.step, Progress.stored, results, opResult]
    case processed => rw [storedOps_snoc, ← processed]; rfl
    case queued => simp [Progress.step, Progress.stored, queued]
    case total => simp only [Progress.step, Progress.stored, List.length_append, ← total]; simp; omega
  | error e =>
    constructor
    case results => simp [Progress.step, Progress.refused, results, opResult]
    case processed => rw [storedOps_snoc, ← processed]; simp [Progress.step, Progress.refused, Except.toOption]
    case queued => simpa [Progress.step, Progress.refused] using queued
    case total => simp only [Progress.step, Progress.refused, List.length_append, ← total]; simp; omega

theorem storeAll_accounted (outcomes : List (Except LinkerError ProcessedOp)) :
    Accounted outcomes (storeAll outcomes) := by
  induction outcomes using List.reverseRecOn with
  | nil => exact ⟨rfl, rfl, rfl, rfl⟩
  | append_singleton outcomes outcome ih =>
    rw [storeAll, List.foldl_append]
    exact ih.step outcome

/-- The second loop adds up the groups whose peers were reached, and passes on every group. -/
theorem foldl_announced (publishOps : List OpId → Nat → Except String Nat)
    (order : List (Nat × List OpId)) (acc : Announced) :
    order.foldl (Announced.step publishOps) acc =
      ⟨acc.published + (order.map fun group =>
          if reached publishOps group.1 group.2 then group.2.length else 0).sum,
        acc.passed ++ order⟩ := by
  induction order generalizing acc with
  | nil => simp
  | cons group rest ih =>
    rw [List.foldl_cons, ih, List.map_cons, List.sum_cons]
    simp only [Announced.step, List.append_assoc, List.singleton_append]
    split
    · rw [Nat.add_assoc]
    · rw [Nat.zero_add]

variable {publishOps : List OpId → Nat → Except String Nat} {processedOps : List ProcessedOp}
  {order : List (Nat × List OpId)}

theorem announceAll_eq (enumerates : Enumerates order (opsByLoc processedOps)) :
    announceAll publishOps processedOps order =
      ⟨(order.map fun group =>
          if reached publishOps group.1 group.2 then group.2.length else 0).sum, order⟩ := by
  unfold announceAll
  split
  next empty =>
    obtain rfl : processedOps = [] := List.isEmpty_iff.mp empty
    have none : order = [] := by
      rw [List.eq_nil_iff_forall_not_mem]
      rintro ⟨k, vs⟩ member
      exact List.not_mem_nil ((mem_order_iff enumerates k vs).mp member).1
    rw [none]
    rfl
  next => simp [foldl_announced]

/-- Each stored occurrence of an op goes out once, with its location. -/
theorem passed_perm (publishOps : List OpId → Nat → Except String Nat)
    (enumerates : Enumerates order (opsByLoc processedOps)) :
    ((announceAll publishOps processedOps order).passed.flatMap pairs).Perm
      (processedOps.map fun op => (op.basisLoc, op.opId)) := by
  rw [announceAll_eq enumerates]
  exact enumerates.flatMap_perm

theorem published_eq (publishOps : List OpId → Nat → Except String Nat)
    (enumerates : Enumerates order (opsByLoc processedOps)) :
    (announceAll publishOps processedOps order).published =
      (processedOps.filter (opReached publishOps processedOps)).length := by
  have groups : ∀ group ∈ order, (if reached publishOps group.1 group.2 then group.2.length else 0) =
      if reached publishOps group.1
          (valuesAt ProcessedOp.basisLoc ProcessedOp.opId processedOps group.1)
        then group.2.length else 0 := by
    rintro ⟨loc, opIds⟩ member
    rw [((mem_order_iff enumerates loc opIds).mp member).2]
  rw [announceAll_eq enumerates, List.map_congr_left groups]
  exact enumerates.sum_length fun loc =>
    reached publishOps loc (valuesAt ProcessedOp.basisLoc ProcessedOp.opId processedOps loc)

/-- Whatever became of the ops and of the calls, and in every order of the groups: one result for
each op, each stored op passed on once with its location, and counters that add up. -/
theorem dhtPublish_accounts (publishOps : List OpId → Nat → Except String Nat)
    (outcomes : List (Except LinkerError ProcessedOp)) (order : List (Nat × List OpId))
    (enumerates : Enumerates order (opsByLoc (storedOps outcomes))) :
    let response := (dhtPublish publishOps outcomes order).1
    let passed := (dhtPublish publishOps outcomes order).2
    response.results = outcomes.map opResult ∧
    response.queued + response.failed = outcomes.length ∧
    (passed.flatMap pairs).Perm ((storedOps outcomes).map fun op => (op.basisLoc, op.opId)) ∧
    (passed.map Prod.fst).Nodup ∧
    response.queued = (storedOps outcomes).length ∧
    response.published =
      ((storedOps outcomes).filter (opReached publishOps (storedOps outcomes))).length ∧
    response.published ≤ response.queued ∧
    (response.success = true ↔
      response.failed = 0 ∧ (outcomes = [] ∨ 0 < response.published)) := by
  obtain ⟨results, processed, queued, total⟩ := storeAll_accounted outcomes
  rw [← processed] at enumerates
  have count := published_eq publishOps enumerates
  have calls := passed_perm publishOps enumerates
  have distinct : ((announceAll publishOps (storeAll outcomes).processedOps order).passed.map
      Prod.fst).Nodup := by
    rw [announceAll_eq enumerates]
    exact enumerates.distinct
  rw [← processed]
  refine ⟨results, total, calls, distinct, queued, count, ?_, ?_⟩
  · change (announceAll publishOps (storeAll outcomes).processedOps order).published ≤
      (storeAll outcomes).queued
    rw [count, queued]
    exact List.length_filter_le _ _
  · change decide ((storeAll outcomes).failed = 0 ∧ ((storeAll outcomes).queued = 0 ∨
      (announceAll publishOps (storeAll outcomes).processedOps order).published > 0)) = true ↔ _
    rw [decide_eq_true_eq]
    apply and_congr_right
    intro none
    change (storeAll outcomes).failed = 0 at none
    apply or_congr_left
    rw [← List.length_eq_zero_iff, ← total, none, Nat.add_zero]

/-- One op twice, one that is not stored, and one at another location. -/
def sampleOutcomes : List (Except LinkerError ProcessedOp) :=
  [.ok ⟨⟨[1]⟩, 3⟩, .error .upstreamUnavailable, .ok ⟨⟨[1]⟩, 3⟩, .ok ⟨⟨[2]⟩, 5⟩]

/-- Nobody is near the second location. -/
def samplePublishOps (_ : List OpId) (basisLoc : Nat) : Except String Nat :=
  if basisLoc = 3 then .ok 2 else .ok 0

theorem dhtPublish_accounts_sampleOutcomes :
    ((dhtPublish samplePublishOps sampleOutcomes [(3, [⟨[1]⟩, ⟨[1]⟩]), (5, [⟨[2]⟩])]).2.flatMap
      pairs).Perm [(3, ⟨[1]⟩), (3, ⟨[1]⟩), (5, ⟨[2]⟩)] ∧
    (dhtPublish samplePublishOps sampleOutcomes [(3, [⟨[1]⟩, ⟨[1]⟩]), (5, [⟨[2]⟩])]).1.published = 2 := by
  have accounts := dhtPublish_accounts samplePublishOps sampleOutcomes
    [(3, [⟨[1]⟩, ⟨[1]⟩]), (5, [⟨[2]⟩])]
    (enumerates_dedup ProcessedOp.basisLoc ProcessedOp.opId (storedOps sampleOutcomes))
  exact ⟨accounts.2.2.1, accounts.2.2.2.2.2.1⟩

/-- The sum over the locations is what the second loop counts, whatever the order. -/
theorem publishedOps_eq (enumerates : Enumerates order (opsByLoc processedOps)) :
    publishedOps publishOps processedOps =
      (announceAll publishOps processedOps order).published := by
  have canonical := enumerates_dedup ProcessedOp.basisLoc ProcessedOp.opId processedOps
  rw [published_eq publishOps enumerates, ← published_eq publishOps canonical,
    announceAll_eq canonical, List.map_map]
  unfold publishedOps
  congr 1
  apply List.map_congr_left
  intro loc _
  unfold reached
  simp only [Function.comp_apply, valuesAt]
  cases publishOps _ loc with
  | ok peerCount => simp
  | error e => simp

/-- What a section of a request carries is the progress of its first loop, and its response is that
of the two loops. -/
def Carries : Section → Prop
  | .process _ _ acc => ∃ outcomes, acc = storeAll outcomes
  | .insert _ _ _ acc => ∃ outcomes, acc = storeAll outcomes
  | .publish acc => ∃ outcomes, acc = storeAll outcomes
  | .respond (.ok response) => ∃ publishOps outcomes order,
      Enumerates order (opsByLoc (storedOps outcomes)) ∧
        response = (dhtPublish publishOps outcomes order).1
  | _ => True

theorem storeAll_snoc (outcomes : List (Except LinkerError ProcessedOp))
    (outcome : Except LinkerError ProcessedOp) :
    (storeAll outcomes).step outcome = storeAll (outcomes ++ [outcome]) := by
  rw [storeAll, storeAll, List.foldl_append]
  rfl

theorem carries_nextOp (ops : List SignedDhtOp) (outcomes : List (Except LinkerError ProcessedOp)) :
    Carries (nextOp ops (storeAll outcomes)) := by
  cases ops <;> exact ⟨outcomes, rfl⟩

variable {codec : HashCodec} {lib : OpLibrary} {state : AppState}

theorem perform_carries (configured : state.gatewayKitsune = true) (act : Section) (input : Input)
    (inner : TempOpStoreInner) (carried : Carries act) :
    ∀ new ∈ (perform lib state act input inner).2, Carries new := by
  intro new member
  cases perform_follows member with
  | refused signedOp later acc e =>
    obtain ⟨outcomes, rfl⟩ := carried
    have refused := storeAll_snoc outcomes (.error e)
    rw [Progress.step] at refused
    rw [refused]
    exact carries_nextOp later _
  | processed signedOp later acc record op => exact carried
  | stored record op later acc =>
    obtain ⟨outcomes, rfl⟩ := carried
    have stored := storeAll_snoc outcomes (.ok op)
    rw [Progress.step] at stored
    rw [stored]
    exact carries_nextOp later _
  | published acc =>
    obtain ⟨outcomes, rfl⟩ := carried
    have order := enumerates_dedup ProcessedOp.basisLoc ProcessedOp.opId (storedOps outcomes)
    refine ⟨input.publishOps, outcomes, _, order, ?_⟩
    have processed := (storeAll_accounted outcomes).processed
    simp only [publishResponse, configured, if_true, dhtPublish, responseOf, processed,
      publishedOps_eq order]

/-- However requests and cleanups interleave, a request is answered with what `dhtPublish` accounts
for. -/
theorem response_accounted (configured : state.gatewayKitsune = true)
    (es : List (Event Task Request Input)) (s : TempOpStoreInner) (t : Task)
    (response : PublishResponse)
    (responding : .respond (.ok response) ∈ ((program codec lib state).execute es (.start s)).tasks t) :
    ∃ publishOps outcomes order, Enumerates order (opsByLoc (storedOps outcomes)) ∧
      response = (dhtPublish publishOps outcomes order).1 := by
  apply execute_kinds (fun _ => Carries) _ _ es s t _ responding
  · intro t request act member
    rcases mem_body member with ⟨path, n, rfl, ⟨e, rfl⟩ | ⟨ops, rfl⟩⟩ | ⟨rfl, rfl⟩
    · trivial
    · exact carries_nextOp ops []
    · trivial
  · intro _ act input inner
    exact perform_carries configured act input inner

end H2hcLinker.Publish
