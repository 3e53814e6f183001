import H2hcLinker.EntryRecord

/-! The condensed form that peers send, over the actions it stands for: what rendering restores, and
when the two replies about one action agree. -/
namespace H2hcLinker.Dht

/-- An action that creates an entry. -/
inductive NewEntryAction where
  | create (action : Create)
  | update (action : Update)
  deriving DecidableEq

def NewEntryAction.toAction : NewEntryAction → Action
  | .create action => .create action
  | .update action => .update action

def NewEntryAction.entryHash : NewEntryAction → EntryHash
  | .create action => action.entryHash
  | .update action => action.entryHash

def NewEntryAction.entryType : NewEntryAction → EntryType
  | .create action => action.entryType
  | .update action => action.entryType

/-- A signed action that creates this entry with this type. -/
structure Creation (H : Hashing) (data : EntryData) where
  action : NewEntryAction
  signature : Signature
  entryHash : action.entryHash = H.entry data.entry
  entryType : action.entryType = data.entryType

/-- A signed update of the entry with this hash. -/
structure UpdateOf (entryHash : EntryHash) where
  update : Update
  signature : Signature
  original : update.originalEntryAddress = entryHash

structure SignedDelete where
  delete : Delete
  signature : Signature
  deriving DecidableEq

variable {H : Hashing} {serde : Serde} {data : EntryData} {entryHash : EntryHash}

def Creation.signed (c : Creation H data) : SignedActionHashed :=
  .presigned H c.action.toAction c.signature

def UpdateOf.signed (H : Hashing) (u : UpdateOf entryHash) : SignedActionHashed :=
  .presigned H (.update u.update) u.signature

def SignedDelete.signed (H : Hashing) (d : SignedDelete) : SignedActionHashed :=
  .presigned H (.delete d.delete) d.signature

/-- The entry's hash and type are left out. -/
def Creation.condense (c : Creation H data) : WireNewEntryAction :=
  match c.action with
  | .create action => .create {
      timestamp := action.timestamp
      author := action.author
      actionSeq := action.actionSeq
      prevAction := action.prevAction
      signature := c.signature
      weight := action.weight }
  | .update action => .update {
      timestamp := action.timestamp
      author := action.author
      actionSeq := action.actionSeq
      prevAction := action.prevAction
      originalEntryAddress := action.originalEntryAddress
      originalActionAddress := action.originalActionAddress
      signature := c.signature
      weight := action.weight }

/-- The address of the updated entry is left out. -/
def UpdateOf.condense (u : UpdateOf entryHash) : WireUpdateRelationship where
  author := u.update.author
  timestamp := u.update.timestamp
  actionSeq := u.update.actionSeq
  prevAction := u.update.prevAction
  originalActionAddress := u.update.originalActionAddress
  newEntryAddress := u.update.entryHash
  newEntryType := u.update.entryType
  signature := u.signature
  weight := u.update.weight

def SignedDelete.condense (d : SignedDelete) : WireDelete := ⟨d.delete, d.signature⟩

def Judged.map {α β : Type} (f : α → β) (judged : Judged α) : Judged β :=
  ⟨f judged.data, judged.status⟩

@[simp] theorem Judged.isValid_map {α β : Type} (f : α → β) (judged : Judged α) :
    (judged.map f).isValid = judged.isValid := rfl

/-- Judged valid, or not judged. -/
def Judged.Accepted {α : Type} (judged : Judged α) : Prop :=
  judged.status = some .valid ∨ judged.status = none

instance {α : Type} (judged : Judged α) : Decidable judged.Accepted :=
  inferInstanceAs (Decidable (_ ∨ _))

theorem Judged.isValid_iff {α : Type} (judged : Judged α) :
    judged.isValid = true ↔ judged.Accepted := by
  unfold Judged.isValid Judged.Accepted
  cases judged.status with
  | none => simp
  | some status => simp

/-- Rebuilding a create puts the entry's hash and type back. -/
theorem rebuild_condense (c : Creation H data) : rebuild H data c.condense = c.signed := by
  obtain ⟨action, signature, hash, type⟩ := c
  cases action with
  | create action =>
    cases action
    cases hash
    cases type
    rfl
  | update action =>
    cases action
    cases hash
    cases type
    rfl

theorem renderUpdate_condense (u : UpdateOf entryHash) (status : Option ValidationStatus) :
    renderUpdate H entryHash ⟨u.condense, status⟩ = u.signed H := by
  obtain ⟨update, signature, original⟩ := u
  cases update
  cases original
  rfl

/-- The reply that has these creates, deletes and updates of an entry in wire form. -/
def condenseEntry (data : EntryData) (creates : List (Judged (Creation H data)))
    (deletes : List (Judged SignedDelete)) (updates : List (Judged (UpdateOf entryHash))) :
    WireEntryOps where
  creates := creates.map (.map Creation.condense)
  deletes := deletes.map (.map SignedDelete.condense)
  updates := updates.map (.map UpdateOf.condense)
  entry := some data

/-- The reply about one action, with its deletes and updates in wire form. -/
def condenseRecord (action : Judged SignedAction) (entry : Option Entry)
    (deletes : List (Judged SignedDelete)) (updates : List (Judged (UpdateOf entryHash))) :
    WireRecordOps where
  action := some action
  deletes := deletes.map (.map SignedDelete.condense)
  updates := updates.map (.map UpdateOf.condense)
  entry := entry

/-- Selecting creates by their status and rebuilding them gives the selected originals. -/
theorem rebuilt_creates (creates : List (Judged (Creation H data)))
    (keep : Judged WireNewEntryAction → Bool) (kept : Judged (Creation H data) → Bool)
    (same : ∀ judged, keep (judged.map Creation.condense) = kept judged) :
    ((creates.map (Judged.map Creation.condense)).filter keep).map
        (fun judged => rebuild H data judged.data) =
      (creates.filter kept).map fun judged => judged.data.signed := by
  have selected : keep ∘ Judged.map Creation.condense = kept := funext same
  rw [List.filter_map, List.map_map, selected]
  apply List.map_congr_left
  intro judged _
  exact rebuild_condense judged.data

theorem rendered_deletes (deletes : List (Judged SignedDelete)) :
    (deletes.map (Judged.map SignedDelete.condense)).map (renderDelete H) =
      deletes.map fun judged => judged.data.signed H := by
  rw [List.map_map]
  rfl

theorem rendered_updates (updates : List (Judged (UpdateOf entryHash))) :
    (updates.map (Judged.map UpdateOf.condense)).map (renderUpdate H entryHash) =
      updates.map fun judged => judged.data.signed H := by
  rw [List.map_map]
  apply List.map_congr_left
  intro judged _
  exact renderUpdate_condense judged.data judged.status

theorem Creation.entryData (c : Creation H data) :
    c.action.toAction.entryData = some (H.entry data.entry, data.entryType) := by
  obtain ⟨action, signature, hash, type⟩ := c
  rw [← hash, ← type]
  cases action <;> rfl

/-- Details give back the actions that were condensed, each where it belongs, in order. -/
theorem details_undo_condensing (H : Hashing) (serde : Serde) (data : EntryData)
    (deletes : List (Judged SignedDelete)) (updates : List (Judged (UpdateOf (H.entry data.entry)))) :
    (∀ creates : List (Judged (Creation H data)),
      wireEntryOpsToDetails H serde (condenseEntry data creates deletes updates) =
        serde.detailsValue (.entry {
          entry := data.entry
          actions := (creates.filter (·.Accepted)).map fun judged => judged.data.signed
          rejectedActions := (creates.filter (¬·.Accepted)).map fun judged => judged.data.signed
          deletes := deletes.map fun judged => judged.data.signed H
          updates := updates.map fun judged => judged.data.signed H
          entryDhtStatus := entryDhtStatus
            ((creates.filter (·.Accepted)).map fun judged => judged.data.signed)
            (deletes.map fun judged => judged.data.signed H) })) ∧
    ∀ (entryType : EntryType) (c : Creation H ⟨data.entry, entryType⟩)
      (status : Option ValidationStatus) (entry : Option Entry),
      wireRecordOpsToDetails H serde
          (condenseRecord ⟨⟨c.action.toAction, c.signature⟩, status⟩ entry deletes updates) =
        serde.detailsValue (.record {
          record := ⟨c.signed, entry⟩
          validationStatus := status.getD .valid
          deletes := deletes.map fun judged => judged.data.signed H
          updates := updates.map fun judged => judged.data.signed H }) := by
  constructor
  case left =>
    intro creates
    have accepted := rebuilt_creates creates (·.isValid) (·.Accepted) fun judged => by
      rw [Bool.eq_iff_iff, decide_eq_true_iff]
      exact (judged.map Creation.condense).isValid_iff
    have rejected := rebuilt_creates creates (¬·.isValid) (¬·.Accepted) fun judged => by
      rw [Bool.eq_iff_iff, decide_eq_true_iff, decide_eq_true_iff]
      exact not_congr (judged.map Creation.condense).isValid_iff
    simp only [wireEntryOpsToDetails, condenseEntry, accepted, rejected, rendered_deletes,
      rendered_updates]
  case right =>
    intro entryType c status entry
    have updated : (updates.map (Judged.map UpdateOf.condense)).filterMap
        (fun u => c.action.toAction.entryData.map fun d => renderUpdate H d.1 u) =
          updates.map fun judged => judged.data.signed H := by
      rw [c.entryData, ← rendered_updates]
      exact congrFun (List.filterMap_eq_map ..) _
    simp only [wireRecordOpsToDetails, condenseRecord, updated, rendered_deletes]
    rfl

def sampleCreation : Creation numberedHashing sampleData where
  action := .create ⟨⟨[1]⟩, 1000000, 5, ⟨[2]⟩, ⟨[8]⟩, numberedHashing.entry ⟨[7]⟩, []⟩
  signature := [170]
  entryHash := rfl
  entryType := rfl

def sampleUpdate : UpdateOf (numberedHashing.entry sampleData.entry) where
  update := ⟨⟨[1]⟩, 2000000, 6, ⟨[2]⟩, sampleCreation.signed.hashed.hash,
    numberedHashing.entry sampleData.entry, ⟨[8]⟩, ⟨[9]⟩, []⟩
  signature := [171]
  original := rfl

/-- A delete of an action of another kind. -/
def otherDelete : SignedDelete :=
  ⟨⟨⟨[1]⟩, 3000000, 7, ⟨[2]⟩, numberedHashing.action (.other []), ⟨[3]⟩, []⟩, [187]⟩

theorem details_undo_condensing_sampleUpdate :
    wireRecordOpsToDetails numberedHashing everySerde
        (condenseRecord ⟨⟨sampleCreation.action.toAction, sampleCreation.signature⟩, none⟩
          (some sampleData.entry) [⟨otherDelete, some .rejected⟩] [⟨sampleUpdate, some .valid⟩]) =
      .details (.record {
        record := ⟨sampleCreation.signed, some sampleData.entry⟩
        validationStatus := .valid
        deletes := [otherDelete.signed numberedHashing]
        updates := [sampleUpdate.signed numberedHashing] }) :=
  (details_undo_condensing numberedHashing everySerde sampleData [⟨otherDelete, some .rejected⟩]
    [⟨sampleUpdate, some .valid⟩]).2 sampleData.entryType sampleCreation none (some sampleData.entry)

/-- The reply to a get by action hash. -/
def recordReply (judged : Judged (Creation H data)) (deletes : List (Judged WireDelete))
    (updates : List (Judged WireUpdateRelationship)) : WireOps :=
  .record {
    action := some ⟨⟨judged.data.action.toAction, judged.data.signature⟩, judged.status⟩
    deletes := deletes
    updates := updates
    entry := some data.entry }

/-- The reply to a get by entry hash, with the same action as its only create. -/
def entryReply (judged : Judged (Creation H data)) (deletes : List (Judged WireDelete))
    (updates : List (Judged WireUpdateRelationship)) : WireOps :=
  .entry {
    creates := [judged.map Creation.condense]
    deletes := deletes
    updates := updates
    entry := some data }

def Targets (judged : Judged WireDelete) (c : Creation H data) : Prop :=
  judged.data.delete.deletesAddress = c.signed.hashed.hash

/-- Rejected, or the target of a valid delete. -/
def Withdrawn (judged : Judged (Creation H data)) (deletes : List (Judged WireDelete)) : Prop :=
  ¬judged.Accepted ∨ ∃ delete ∈ deletes, delete.Accepted ∧ Targets delete judged.data

/-- Neither rejected nor the target of a delete, however that is judged. -/
def Standing (judged : Judged (Creation H data)) (deletes : List (Judged WireDelete)) : Prop :=
  judged.Accepted ∧ ∀ delete ∈ deletes, ¬Targets delete judged.data

theorem recordReply_rendered (total : serde.Total) (judged : Judged (Creation H data))
    (deletes : List (Judged WireDelete)) (updates : List (Judged WireUpdateRelationship)) :
    wireOpsToRecordJson H serde (recordReply judged deletes updates) =
      .record ⟨judged.data.signed, some data.entry⟩ := by
  simp only [wireOpsToRecordJson, recordReply, wireRecordOpsToRecord, Serde.recordValue,
    total.record, if_true]
  rfl

theorem entryReply_rendered (total : serde.Total) {judged : Judged (Creation H data)}
    {deletes : List (Judged WireDelete)} (updates : List (Judged WireUpdateRelationship))
    (standing : Standing judged deletes) :
    wireOpsToRecordJson H serde (entryReply judged deletes updates) =
      .record ⟨judged.data.signed, some data.entry⟩ := by
  obtain ⟨accepted, untargeted⟩ := standing
  have valid : (judged.map Creation.condense).isValid = true := judged.isValid_iff.mpr accepted
  have live : judged.data.signed.hashed.hash ∉ deletes.map (·.data.delete.deletesAddress) := by
    intro targeted
    obtain ⟨delete, member, same⟩ := List.mem_map.mp targeted
    exact untargeted delete member same
  have selected : selectCreate H data (deletes.map (·.data.delete.deletesAddress))
      [judged.map Creation.condense] = some judged.data.signed := by
    unfold selectCreate
    rw [if_neg (not_not.mpr valid)]
    simp only [Judged.map, rebuild_condense]
    exact if_neg live
  simp only [wireOpsToRecordJson, entryReply, wireEntryOpsToRecord, selected, Serde.recordValue,
    total.record, if_true]

theorem entryReply_null {judged : Judged (Creation H data)} {deletes : List (Judged WireDelete)}
    (updates : List (Judged WireUpdateRelationship)) (fallen : ¬Standing judged deletes) :
    wireOpsToRecordJson H serde (entryReply judged deletes updates) = .null := by
  have none : selectCreate H data (deletes.map (·.data.delete.deletesAddress))
      [judged.map Creation.condense] = none := by
    apply (selectCreate_eq_none_iff ..).mpr
    rintro _ member valid
    obtain rfl := List.mem_singleton.mp member
    by_contra live
    apply fallen
    refine ⟨judged.isValid_iff.mp valid, fun delete member target => live ?_⟩
    simp only [Judged.map, rebuild_condense]
    exact List.mem_map.mpr ⟨delete, member, target⟩
  simp only [wireOpsToRecordJson, entryReply, wireEntryOpsToRecord, none]

/-- The two replies about one action render the same, and to nothing where it is withdrawn, exactly
when it is accepted and no delete targets it. -/
theorem replies_agree_iff (H : Hashing) (serde : Serde) (total : serde.Total) (data : EntryData)
    (judged : Judged (Creation H data)) (deletes : List (Judged WireDelete))
    (updates updates' : List (Judged WireUpdateRelationship)) :
    (wireOpsToRecordJson H serde (recordReply judged deletes updates) =
        wireOpsToRecordJson H serde (entryReply judged deletes updates') ∧
      (Withdrawn judged deletes →
        wireOpsToRecordJson H serde (recordReply judged deletes updates) = .null ∧
        wireOpsToRecordJson H serde (entryReply judged deletes updates') = .null)) ↔
      Standing judged deletes := by
  rw [recordReply_rendered total]
  by_cases standing : Standing judged deletes
  · rw [entryReply_rendered total updates' standing]
    have kept : ¬Withdrawn judged deletes := by
      rintro (rejected | ⟨delete, member, _, target⟩)
      · exact rejected standing.1
      · exact standing.2 delete member target
    simp [standing, kept]
  · rw [entryReply_null updates' standing]
    simp [standing]

theorem otherDelete_spares : ¬Targets ⟨otherDelete.condense, some .valid⟩ sampleCreation :=
  fun target => nomatch numberedHashing_collisionFree.action target

theorem replies_agree_sampleCreation :
    wireOpsToRecordJson numberedHashing everySerde
        (recordReply ⟨sampleCreation, some .valid⟩ [⟨otherDelete.condense, some .valid⟩] []) =
      wireOpsToRecordJson numberedHashing everySerde
        (entryReply ⟨sampleCreation, some .valid⟩ [⟨otherDelete.condense, some .valid⟩] []) := by
  have standing : Standing ⟨sampleCreation, some .valid⟩ [⟨otherDelete.condense, some .valid⟩] := by
    refine ⟨.inl rfl, fun delete member => ?_⟩
    obtain rfl := List.mem_singleton.mp member
    exact otherDelete_spares
  exact ((replies_agree_iff numberedHashing everySerde everySerde_total sampleData
    ⟨sampleCreation, some .valid⟩ [⟨otherDelete.condense, some .valid⟩] [] []).mpr standing).1

/-- A rejected create is shown to who asks for it by its action hash. -/
theorem replies_disagree_rejected :
    ¬∀ (H : Hashing) (serde : Serde) (data : EntryData) (judged : Judged (Creation H data))
      (deletes : List (Judged WireDelete)) (updates updates' : List (Judged WireUpdateRelationship)),
      H.CollisionFree → serde.Total →
      wireOpsToRecordJson H serde (recordReply judged deletes updates) =
          wireOpsToRecordJson H serde (entryReply judged deletes updates') ∧
        (Withdrawn judged deletes →
          wireOpsToRecordJson H serde (recordReply judged deletes updates) = .null ∧
          wireOpsToRecordJson H serde (entryReply judged deletes updates') = .null) := by
  intro always
  let judged : Judged (Creation numberedHashing sampleData) := ⟨sampleCreation, some .rejected⟩
  have rejected : ¬judged.Accepted := by decide
  have null := ((always numberedHashing everySerde sampleData judged [] [] []
    numberedHashing_collisionFree everySerde_total).2 (.inl rejected)).1
  rw [recordReply_rendered everySerde_total] at null
  cases null

end H2hcLinker.Dht
