import H2hcLinker.DhtTypes

/-! Peer replies rendered as records and as details. -/
namespace H2hcLinker.Dht

inductive EntryDhtStatus where
  | live
  | dead
  deriving DecidableEq

structure RecordDetails where
  record : Record
  validationStatus : ValidationStatus
  deletes : List SignedActionHashed
  updates : List SignedActionHashed
  deriving DecidableEq

structure EntryDetails where
  entry : Entry
  actions : List SignedActionHashed
  rejectedActions : List SignedActionHashed
  deletes : List SignedActionHashed
  updates : List SignedActionHashed
  entryDhtStatus : EntryDhtStatus
  deriving DecidableEq

inductive Details where
  | record (details : RecordDetails)
  | entry (details : EntryDetails)
  deriving DecidableEq

/-- A JSON answer, by the value it serialises. -/
inductive Json where
  | null
  | record (value : Record)
  | details (value : Details)
  deriving DecidableEq

/-- Whether `serde_json::to_value` succeeds on a value. -/
structure Serde where
  record : Record → Bool
  details : Details → Bool

structure Serde.Total (serde : Serde) : Prop where
  record : ∀ value, serde.record value = true
  details : ∀ value, serde.details value = true

def Serde.recordValue (serde : Serde) (value : Record) : Json :=
  if serde.record value then .record value else .null

def Serde.detailsValue (serde : Serde) (value : Details) : Json :=
  if serde.details value then .details value else .null

variable (H : Hashing) (serde : Serde)

def wireRecordOpsToRecord (ops : WireRecordOps) : Json :=
  match ops.action with
  | none => .null
  | some judged =>
    serde.recordValue ⟨.presigned H judged.data.data judged.data.signature, ops.entry⟩

/-- The full action of a condensed create, with its signature. The record and the details each have
this match, arm for arm the same. -/
def fullAction (entryType : EntryType) (entryHash : EntryHash) :
    WireNewEntryAction → Action × Signature
  | .create wire =>
    (.create {
      author := wire.author
      timestamp := wire.timestamp
      actionSeq := wire.actionSeq
      prevAction := wire.prevAction
      entryType := entryType
      entryHash := entryHash
      weight := wire.weight }, wire.signature)
  | .update wire =>
    (.update {
      author := wire.author
      timestamp := wire.timestamp
      actionSeq := wire.actionSeq
      prevAction := wire.prevAction
      originalEntryAddress := wire.originalEntryAddress
      originalActionAddress := wire.originalActionAddress
      entryType := entryType
      entryHash := entryHash
      weight := wire.weight }, wire.signature)

/-- The signed action that a create of this entry stands for. -/
def rebuild (data : EntryData) (wire : WireNewEntryAction) : SignedActionHashed :=
  let full := fullAction data.entryType (H.entry data.entry) wire
  .presigned H full.1 full.2

/-- The loop over the creates: the first valid one that no delete targets. -/
def selectCreate (data : EntryData) (deleted : List ActionHash) :
    List (Judged WireNewEntryAction) → Option SignedActionHashed
  | [] => none
  | judged :: rest =>
    if ¬judged.isValid then selectCreate data deleted rest
    else if (rebuild H data judged.data).hashed.hash ∈ deleted then selectCreate data deleted rest
    else some (rebuild H data judged.data)

def wireEntryOpsToRecord (ops : WireEntryOps) : Json :=
  match ops.entry with
  | none => .null
  | some data =>
    let deleted := ops.deletes.map (·.data.delete.deletesAddress)
    match selectCreate H data deleted ops.creates with
    | none => .null
    | some signed => serde.recordValue ⟨signed, some data.entry⟩

def wireOpsToRecordJson : WireOps → Json
  | .record ops => wireRecordOpsToRecord H serde ops
  | .entry ops => wireEntryOpsToRecord H serde ops
  | .warrant _ => .null

def renderDelete (judged : Judged WireDelete) : SignedActionHashed :=
  .presigned H (.delete judged.data.delete) judged.data.signature

def renderUpdate (originalEntryAddress : EntryHash) (judged : Judged WireUpdateRelationship) :
    SignedActionHashed :=
  .presigned H (.update {
    author := judged.data.author
    timestamp := judged.data.timestamp
    actionSeq := judged.data.actionSeq
    prevAction := judged.data.prevAction
    originalActionAddress := judged.data.originalActionAddress
    originalEntryAddress := originalEntryAddress
    entryType := judged.data.newEntryType
    entryHash := judged.data.newEntryAddress
    weight := judged.data.weight }) judged.data.signature

def wireRecordOpsToDetails (ops : WireRecordOps) : Json :=
  match ops.action with
  | none => .null
  | some judged =>
    let action := judged.data.data
    serde.detailsValue (.record {
      record := ⟨.presigned H action judged.data.signature, ops.entry⟩
      validationStatus := judged.status.getD .valid
      deletes := ops.deletes.map (renderDelete H)
      -- Updates of an action without entry data are dropped.
      updates := ops.updates.filterMap fun u => action.entryData.map fun d => renderUpdate H d.1 u })

/-- Live with fewer deletes than accepted creates, dead otherwise; live by default when no create
is accepted. -/
def entryDhtStatus (actions deletes : List SignedActionHashed) : EntryDhtStatus :=
  if ¬actions.isEmpty ∧ deletes.length < actions.length then .live
  else if ¬actions.isEmpty then .dead
  else .live

def wireEntryOpsToDetails (ops : WireEntryOps) : Json :=
  match ops.entry with
  | none => .null
  | some data =>
    let accepted := ops.creates.filter (·.isValid)
    let rejected := ops.creates.filter (¬·.isValid)
    let actions := accepted.map fun judged => rebuild H data judged.data
    let deletes := ops.deletes.map (renderDelete H)
    serde.detailsValue (.entry {
      entry := data.entry
      actions := actions
      rejectedActions := rejected.map fun judged => rebuild H data judged.data
      deletes := deletes
      updates := ops.updates.map (renderUpdate H (H.entry data.entry))
      entryDhtStatus := entryDhtStatus actions deletes })

def wireOpsToDetailsJson : WireOps → Json
  | .record ops => wireRecordOpsToDetails H serde ops
  | .entry ops => wireEntryOpsToDetails H serde ops
  | .warrant _ => .null

variable {H serde}

/-- The actions that the accepted creates stand for, in the order of the reply. -/
def createdActions (H : Hashing) (data : EntryData) (ops : WireEntryOps) :
    List SignedActionHashed :=
  (ops.creates.filter (·.isValid)).map fun judged => rebuild H data judged.data

/-- The targets of the deletes. -/
def WireEntryOps.deletesAddresses (ops : WireEntryOps) : List ActionHash :=
  ops.deletes.map (·.data.delete.deletesAddress)

/-- The early exit of the record's loop finds what a search of the created actions finds. -/
theorem selectCreate_eq_find? (data : EntryData) (deleted : List ActionHash)
    (creates : List (Judged WireNewEntryAction)) :
    selectCreate H data deleted creates =
      ((creates.filter (·.isValid)).map fun judged => rebuild H data judged.data).find?
        (·.hashed.hash ∉ deleted) := by
  induction creates with
  | nil => rfl
  | cons head rest ih =>
    unfold selectCreate
    split
    next rejected => rw [ih, List.filter_cons_of_neg rejected]
    next valid =>
      rw [List.filter_cons_of_pos (not_not.mp valid), List.map_cons]
      split
      next targeted => rw [ih, List.find?_cons_of_neg (by simpa using targeted)]
      next untargeted => rw [List.find?_cons_of_pos (by simpa using untargeted)]

/-- A selected create is accepted and no delete targets it. -/
theorem selectCreate_eq_some {data : EntryData} {deleted : List ActionHash}
    {creates : List (Judged WireNewEntryAction)} {signed : SignedActionHashed}
    (selected : selectCreate H data deleted creates = some signed) :
    ∃ judged ∈ creates, judged.isValid = true ∧ signed = rebuild H data judged.data ∧
      signed.hashed.hash ∉ deleted := by
  rw [selectCreate_eq_find?] at selected
  obtain ⟨judged, accepted, rfl⟩ := List.mem_map.mp (List.mem_of_find?_eq_some selected)
  obtain ⟨member, valid⟩ := List.mem_filter.mp accepted
  have untargeted := List.find?_some selected
  exact ⟨judged, member, valid, rfl, by simpa using untargeted⟩

theorem selectCreate_eq_none_iff (data : EntryData) (deleted : List ActionHash)
    (creates : List (Judged WireNewEntryAction)) :
    selectCreate H data deleted creates = none ↔
      ∀ judged ∈ creates, judged.isValid = true →
        (rebuild H data judged.data).hashed.hash ∈ deleted := by
  rw [selectCreate_eq_find?, List.find?_eq_none]
  constructor
  · intro targeted judged member valid
    have accepted := List.mem_map_of_mem (f := fun judged => rebuild H data judged.data)
      (List.mem_filter.mpr ⟨member, valid⟩)
    simpa using targeted _ accepted
  · intro targeted action accepted
    obtain ⟨judged, kept, rfl⟩ := List.mem_map.mp accepted
    obtain ⟨member, valid⟩ := List.mem_filter.mp kept
    simpa using targeted judged member valid

/-- What the record's loop makes of the action it found. -/
def recordOfFound (data : EntryData) : Option SignedActionHashed → Json
  | none => .null
  | some action => .record ⟨action, some data.entry⟩

theorem recordOfFound_injective (data : EntryData) : Function.Injective (recordOfFound data) := by
  intro a b same
  cases a with
  | none => cases b with
    | none => rfl
    | some b => cases same
  | some a => cases b with
    | none => cases same
    | some b => cases same; rfl

theorem wireEntryOpsToRecord_eq_find? (total : serde.Total) {ops : WireEntryOps} {data : EntryData}
    (payload : ops.entry = some data) :
    wireEntryOpsToRecord H serde ops = recordOfFound data
      ((createdActions H data ops).find? (·.hashed.hash ∉ ops.deletesAddresses)) := by
  simp only [wireEntryOpsToRecord, payload, selectCreate_eq_find?, Serde.recordValue, total.record,
    if_true]
  rfl

/-- There is no record where the deletes target every created action. -/
theorem wireEntryOpsToRecord_eq_null_iff (total : serde.Total) {ops : WireEntryOps}
    {data : EntryData} (payload : ops.entry = some data) :
    wireEntryOpsToRecord H serde ops = .null ↔
      ∀ action ∈ createdActions H data ops, action.hashed.hash ∈ ops.deletesAddresses := by
  have null : recordOfFound data none = .null := rfl
  rw [wireEntryOpsToRecord_eq_find? total payload, ← null, (recordOfFound_injective data).eq_iff,
    List.find?_eq_none]
  simp only [decide_eq_true_eq, not_not]

/-- The details of an entry with this payload. -/
def entryDetails (H : Hashing) (data : EntryData) (ops : WireEntryOps) : EntryDetails where
  entry := data.entry
  actions := createdActions H data ops
  rejectedActions := (ops.creates.filter (¬·.isValid)).map fun judged => rebuild H data judged.data
  deletes := ops.deletes.map (renderDelete H)
  updates := ops.updates.map (renderUpdate H (H.entry data.entry))
  entryDhtStatus := entryDhtStatus (createdActions H data ops) (ops.deletes.map (renderDelete H))

theorem wireEntryOpsToDetails_eq (total : serde.Total) {ops : WireEntryOps} {data : EntryData}
    (payload : ops.entry = some data) :
    wireEntryOpsToDetails H serde ops = .details (.entry (entryDetails H data ops)) := by
  simp only [wireEntryOpsToDetails, payload, Serde.detailsValue, total.details, if_true]
  rfl

theorem entryDhtStatus_eq_dead_iff (actions deletes : List SignedActionHashed) :
    entryDhtStatus actions deletes = .dead ↔
      0 < actions.length ∧ actions.length ≤ deletes.length := by
  unfold entryDhtStatus
  split
  next live => simpa using fun _ => live.2
  next =>
    split
    next created =>
      have created : 0 < actions.length := by simpa [List.length_pos_iff] using created
      simp_all
    next none => simp_all

theorem entryDhtStatus_eq_live_iff (actions deletes : List SignedActionHashed) :
    entryDhtStatus actions deletes = .live ↔
      (0 < actions.length → deletes.length < actions.length) := by
  have other : entryDhtStatus actions deletes = .live ↔ ¬entryDhtStatus actions deletes = .dead := by
    cases entryDhtStatus actions deletes <;> simp
  rw [other, entryDhtStatus_eq_dead_iff, not_and, Nat.not_le]

end H2hcLinker.Dht
