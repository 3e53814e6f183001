import H2hcLinker.DhtRender

/-! When the record of an entry and its details agree on whether the entry is live. -/
namespace H2hcLinker.Dht

variable {H : Hashing} {serde : Serde}

def WireEntryOps.acceptedCreates (ops : WireEntryOps) : List (Judged WireNewEntryAction) :=
  ops.creates.filter (·.isValid)

/-- The actions that the accepted creates stand for. -/
def acceptedActions (H : Hashing) (data : EntryData) (ops : WireEntryOps) : Finset ActionHash :=
  (ops.acceptedCreates.map fun judged => (rebuild H data judged.data).hashed.hash).toFinset

/-- The actions that the deletes name. -/
def WireEntryOps.deletedActions (ops : WireEntryOps) : Finset ActionHash :=
  (ops.deletes.map (·.data.delete.deletesAddress)).toFinset

/-- The accepted actions that no delete names. -/
def survivors (H : Hashing) (data : EntryData) (ops : WireEntryOps) : Finset ActionHash :=
  acceptedActions H data ops \ ops.deletedActions

/-- How many accepted creates repeat another one. -/
def repeatedCreates (H : Hashing) (data : EntryData) (ops : WireEntryOps) : Nat :=
  ops.acceptedCreates.length - (acceptedActions H data ops).card

/-- How many deletes repeat another one or name no accepted action. -/
def idleDeletes (H : Hashing) (data : EntryData) (ops : WireEntryOps) : Nat :=
  ops.deletes.length - (acceptedActions H data ops ∩ ops.deletedActions).card

/-- Where an action survives, the idle deletes do not make up for it; where none does, they make
up for the repeated creates. -/
def CountTells (H : Hashing) (data : EntryData) (ops : WireEntryOps) : Prop :=
  if survivors H data ops = ∅ then repeatedCreates H data ops ≤ idleDeletes H data ops
  else idleDeletes H data ops < (survivors H data ops).card + repeatedCreates H data ops

def ReportsLive (answer : Json) : Prop :=
  ∃ details, answer = .details (.entry details) ∧ details.entryDhtStatus = .live

theorem acceptedActions_card_le (data : EntryData) (ops : WireEntryOps) :
    (acceptedActions H data ops).card ≤ ops.acceptedCreates.length := by
  have card := List.toFinset_card_le
    (ops.acceptedCreates.map fun judged => (rebuild H data judged.data).hashed.hash)
  rwa [List.length_map] at card

theorem deletedActions_card_le (ops : WireEntryOps) : ops.deletedActions.card ≤ ops.deletes.length := by
  have card := List.toFinset_card_le (ops.deletes.map (·.data.delete.deletesAddress))
  rwa [List.length_map] at card

/-- What the two counts are made of. -/
theorem fewer_deletes_iff (data : EntryData) (ops : WireEntryOps) :
    ops.deletes.length < ops.acceptedCreates.length ↔
      idleDeletes H data ops < (survivors H data ops).card + repeatedCreates H data ops := by
  have creates := acceptedActions_card_le (H := H) data ops
  have deletes := deletedActions_card_le ops
  have named : (acceptedActions H data ops ∩ ops.deletedActions).card ≤ ops.deletedActions.card :=
    Finset.card_le_card Finset.inter_subset_right
  have parts : (acceptedActions H data ops ∩ ops.deletedActions).card + (survivors H data ops).card =
      (acceptedActions H data ops).card := Finset.card_inter_add_card_sdiff _ _
  unfold idleDeletes repeatedCreates
  omega

/-- The record looks at which actions the deletes name. -/
theorem record_eq_null_iff (total : serde.Total) {ops : WireEntryOps} {data : EntryData}
    (payload : ops.entry = some data) :
    wireEntryOpsToRecord H serde ops = .null ↔ survivors H data ops = ∅ := by
  rw [wireEntryOpsToRecord_eq_null_iff total payload, survivors,
    Finset.sdiff_eq_empty_iff_subset]
  constructor
  · intro targeted hash accepted
    obtain ⟨judged, member, rfl⟩ := List.mem_map.mp (List.mem_toFinset.mp accepted)
    exact List.mem_toFinset.mpr (targeted _ (List.mem_map.mpr ⟨judged, member, rfl⟩))
  · intro named action created
    obtain ⟨judged, member, rfl⟩ := List.mem_map.mp created
    exact List.mem_toFinset.mp (named (List.mem_toFinset.mpr (List.mem_map.mpr ⟨judged, member, rfl⟩)))

/-- The details only count. -/
theorem reportsLive_iff (total : serde.Total) {ops : WireEntryOps} {data : EntryData}
    (payload : ops.entry = some data) (accepted : ops.acceptedCreates ≠ []) :
    ReportsLive (wireEntryOpsToDetails H serde ops) ↔
      ops.deletes.length < ops.acceptedCreates.length := by
  have created : 0 < (createdActions H data ops).length := by
    rw [createdActions, List.length_map]
    exact List.length_pos_iff.mpr accepted
  simp only [wireEntryOpsToDetails_eq total payload, ReportsLive, Json.details.injEq,
    Details.entry.injEq, exists_eq_left', entryDetails, entryDhtStatus_eq_live_iff, created,
    forall_const]
  simp only [createdActions, List.length_map, WireEntryOps.acceptedCreates]

/-- The two answers agree exactly when the surplus among creates and deletes does not turn the
comparison of their numbers around. -/
theorem liveness_agrees_iff (H : Hashing) (serde : Serde) (total : serde.Total) (ops : WireEntryOps)
    (data : EntryData) (payload : ops.entry = some data)
    (accepted : ∃ judged ∈ ops.creates, judged.isValid = true) :
    (wireEntryOpsToRecord H serde ops ≠ .null ↔ ReportsLive (wireEntryOpsToDetails H serde ops)) ↔
      CountTells H data ops := by
  have nonempty : ops.acceptedCreates ≠ [] := by
    obtain ⟨judged, member, valid⟩ := accepted
    exact List.ne_nil_of_mem (List.mem_filter.mpr ⟨member, valid⟩)
  rw [ne_eq, record_eq_null_iff total payload, reportsLive_iff total payload nonempty,
    fewer_deletes_iff (H := H) data, CountTells]
  by_cases dead : survivors H data ops = ∅
  · simp [dead]
  · simp [dead]

def everySerde : Serde := ⟨fun _ => true, fun _ => true⟩

theorem everySerde_total : everySerde.Total := ⟨fun _ => rfl, fun _ => rfl⟩

def sampleCreate : WireCreate := ⟨1000000, ⟨[1]⟩, 5, ⟨[2]⟩, [170], []⟩

def sampleData : EntryData := ⟨⟨[7]⟩, ⟨[8]⟩⟩

/-- A valid create and one delete of the action with this hash. -/
def createWithDelete (address : ActionHash) : WireEntryOps where
  creates := [⟨.create sampleCreate, some .valid⟩]
  deletes := [⟨⟨⟨⟨[1]⟩, 2000000, 6, ⟨[2]⟩, address, ⟨[3]⟩, []⟩, [187]⟩, some .valid⟩]
  updates := []
  entry := some sampleData

/-- The action that the create stands for. -/
def sampleHash : ActionHash := (rebuild numberedHashing sampleData (.create sampleCreate)).hashed.hash

theorem acceptedActions_createWithDelete (address : ActionHash) :
    acceptedActions numberedHashing sampleData (createWithDelete address) = {sampleHash} := rfl

theorem survivors_createWithDelete (address : ActionHash) :
    survivors numberedHashing sampleData (createWithDelete address) = {sampleHash} \ {address} := rfl

theorem repeatedCreates_createWithDelete (address : ActionHash) :
    repeatedCreates numberedHashing sampleData (createWithDelete address) = 0 := by
  rw [repeatedCreates, acceptedActions_createWithDelete, Finset.card_singleton]
  rfl

theorem createWithDelete_accepted (address : ActionHash) :
    ∃ judged ∈ (createWithDelete address).creates, judged.isValid = true :=
  ⟨_, List.mem_singleton.mpr rfl, rfl⟩

theorem liveness_agrees_deletedCreate :
    wireEntryOpsToRecord numberedHashing everySerde (createWithDelete sampleHash) ≠ .null ↔
      ReportsLive (wireEntryOpsToDetails numberedHashing everySerde (createWithDelete sampleHash)) := by
  apply (liveness_agrees_iff numberedHashing everySerde everySerde_total _ sampleData rfl
    (createWithDelete_accepted _)).mpr
  have dead : survivors numberedHashing sampleData (createWithDelete sampleHash) = ∅ := by
    rw [survivors_createWithDelete, Finset.sdiff_self]
  rw [CountTells, if_pos dead, repeatedCreates_createWithDelete]
  exact Nat.zero_le _

/-- A delete of an action that is not among the creates. -/
def unrelatedDelete : WireEntryOps := createWithDelete (numberedHashing.action (.other []))

theorem liveness_disagrees_unrelatedDelete :
    ¬∀ (H : Hashing) (serde : Serde) (ops : WireEntryOps) (data : EntryData), H.CollisionFree →
      serde.Total → ops.entry = some data → (∃ judged ∈ ops.creates, judged.isValid = true) →
      (wireEntryOpsToRecord H serde ops ≠ .null ↔
        ReportsLive (wireEntryOpsToDetails H serde ops)) := by
  intro always
  have other : sampleHash ≠ numberedHashing.action (.other []) := by
    intro same
    cases numberedHashing_collisionFree.action same
  have lives : survivors numberedHashing sampleData unrelatedDelete ≠ ∅ := by
    rw [unrelatedDelete, survivors_createWithDelete,
      Finset.sdiff_eq_self_of_disjoint (Finset.disjoint_singleton.mpr other)]
    exact Finset.singleton_ne_empty _
  have found : wireEntryOpsToRecord numberedHashing everySerde unrelatedDelete ≠ .null :=
    mt (record_eq_null_iff everySerde_total rfl).mp lives
  have live := (always numberedHashing everySerde unrelatedDelete sampleData
    numberedHashing_collisionFree everySerde_total rfl (createWithDelete_accepted _)).mp found
  have accepted : unrelatedDelete.acceptedCreates ≠ [] := List.cons_ne_nil _ _
  have fewer := (reportsLive_iff everySerde_total rfl accepted).mp live
  exact absurd fewer (by decide)

end H2hcLinker.Dht
