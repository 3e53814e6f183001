import H2hcLinker.DhtLiveness

/-! The record of an entry against its details: the first live action, and what the deletes that
failed validation do to both. -/
namespace H2hcLinker.Dht

variable {H : Hashing} {serde : Serde}

/-- What a search for an action that is not deleted finds. -/
theorem find?_undeleted_iff (actions : List SignedActionHashed) (deleted : List ActionHash)
    (action : SignedActionHashed) :
    actions.find? (·.hashed.hash ∉ deleted) = some action ↔
      ∃ before after, actions = before ++ action :: after ∧
        (∀ earlier ∈ before, earlier.hashed.hash ∈ deleted) ∧ action.hashed.hash ∉ deleted := by
  rw [List.find?_eq_some_iff_append]
  constructor
  · rintro ⟨live, before, after, split, passed⟩
    exact ⟨before, after, split, fun earlier member => by simpa using passed earlier member,
      by simpa using live⟩
  · rintro ⟨before, after, split, passed, live⟩
    exact ⟨by simpa using live, before, after, split,
      fun earlier member => by simpa using passed earlier member⟩

/-- The record of an entry is the first of the details' actions that no delete targets. -/
theorem record_first_live_action (H : Hashing) (serde : Serde) (total : serde.Total)
    (ops : WireEntryOps) (data : EntryData) (payload : ops.entry = some data) :
    ∃ details, wireEntryOpsToDetails H serde ops = .details (.entry details) ∧
      (wireEntryOpsToRecord H serde ops = .null ↔
        ∀ action ∈ details.actions, action.hashed.hash ∈ ops.deletesAddresses) ∧
      ∀ before action after, details.actions = before ++ action :: after →
        (∀ earlier ∈ before, earlier.hashed.hash ∈ ops.deletesAddresses) →
        action.hashed.hash ∉ ops.deletesAddresses →
        wireEntryOpsToRecord H serde ops = .record ⟨action, some data.entry⟩ := by
  refine ⟨entryDetails H data ops, wireEntryOpsToDetails_eq total payload, ?targeted, ?first⟩
  case targeted => exact wireEntryOpsToRecord_eq_null_iff total payload
  case first =>
    intro before action after split passed live
    have found := (find?_undeleted_iff ..).mpr ⟨before, after, split, passed, live⟩
    rw [wireEntryOpsToRecord_eq_find? total payload]
    exact congrArg (recordOfFound data) found

/-- An accepted create, and a delete of an action that is not among the creates. -/
theorem record_first_live_action_unrelatedDelete :
    ∃ details, wireEntryOpsToDetails numberedHashing everySerde unrelatedDelete =
        .details (.entry details) ∧
      (wireEntryOpsToRecord numberedHashing everySerde unrelatedDelete = .null ↔
        ∀ action ∈ details.actions, action.hashed.hash ∈ unrelatedDelete.deletesAddresses) ∧
      ∀ before action after, details.actions = before ++ action :: after →
        (∀ earlier ∈ before, earlier.hashed.hash ∈ unrelatedDelete.deletesAddresses) →
        action.hashed.hash ∉ unrelatedDelete.deletesAddresses →
        wireEntryOpsToRecord numberedHashing everySerde unrelatedDelete =
          .record ⟨action, some sampleData.entry⟩ :=
  record_first_live_action numberedHashing everySerde everySerde_total unrelatedDelete sampleData rfl

/-- The reply without the deletes that are judged and not valid. -/
def WireEntryOps.withoutRejectedDeletes (ops : WireEntryOps) : WireEntryOps where
  creates := ops.creates
  deletes := ops.deletes.filter (·.isValid)
  updates := ops.updates
  entry := ops.entry

def WireEntryOps.acceptedAddresses (ops : WireEntryOps) : List ActionHash :=
  (ops.deletes.filter (·.isValid)).map (·.data.delete.deletesAddress)

/-- The targets of the deletes that are judged and not valid. -/
def WireEntryOps.rejectedAddresses (ops : WireEntryOps) : List ActionHash :=
  (ops.deletes.filter (¬·.isValid)).map (·.data.delete.deletesAddress)

def reportedStatus : Json → Option EntryDhtStatus
  | .details (.entry details) => some details.entryDhtStatus
  | _ => none

/-- The first created action that no accepted delete targets is no rejected delete's target. -/
def FirstSpared (H : Hashing) (data : EntryData) (ops : WireEntryOps) : Prop :=
  ∀ before action after, createdActions H data ops = before ++ action :: after →
    (∀ earlier ∈ before, earlier.hashed.hash ∈ ops.acceptedAddresses) →
    action.hashed.hash ∉ ops.acceptedAddresses →
    action.hashed.hash ∉ ops.rejectedAddresses

/-- The rejected deletes do not bring the number of deletes up to that of the accepted creates. -/
def CountSpared (ops : WireEntryOps) : Prop :=
  ops.withoutRejectedDeletes.deletes.length < ops.acceptedCreates.length →
    ops.deletes.length < ops.acceptedCreates.length

theorem mem_deletesAddresses (ops : WireEntryOps) (hash : ActionHash) :
    hash ∈ ops.deletesAddresses ↔
      hash ∈ ops.acceptedAddresses ∨ hash ∈ ops.rejectedAddresses := by
  simp only [WireEntryOps.deletesAddresses, WireEntryOps.acceptedAddresses,
    WireEntryOps.rejectedAddresses, List.mem_map, List.mem_filter]
  constructor
  · rintro ⟨judged, member, rfl⟩
    by_cases valid : judged.isValid
    · exact .inl ⟨judged, ⟨member, valid⟩, rfl⟩
    · exact .inr ⟨judged, ⟨member, by simpa using valid⟩, rfl⟩
  · rintro (⟨judged, ⟨member, _⟩, rfl⟩ | ⟨judged, ⟨member, _⟩, rfl⟩)
    · exact ⟨judged, member, rfl⟩
    · exact ⟨judged, member, rfl⟩

/-- A narrower search finds the same exactly when what the wider one finds passes it. -/
theorem find?_eq_find?_iff {α : Type} {narrow wide : α → Bool}
    (narrower : ∀ a, narrow a = true → wide a = true) (xs : List α) :
    xs.find? narrow = xs.find? wide ↔ ∀ a, xs.find? wide = some a → narrow a = true := by
  constructor
  · intro same a found
    exact List.find?_some (same.trans found)
  · intro passes
    cases found : xs.find? wide with
    | none =>
      apply List.find?_eq_none.mpr
      intro a member narrowed
      exact List.find?_eq_none.mp found a member (narrower a narrowed)
    | some a =>
      obtain ⟨_, before, after, split, skipped⟩ := List.find?_eq_some_iff_append.mp found
      refine List.find?_eq_some_iff_append.mpr ⟨passes a found, before, after, split, ?_⟩
      intro earlier member
      have missed := skipped earlier member
      cases narrowed : narrow earlier with
      | false => rfl
      | true => rw [narrower earlier narrowed] at missed; cases missed

theorem record_spared_iff (total : serde.Total) {ops : WireEntryOps} {data : EntryData}
    (payload : ops.entry = some data) :
    wireEntryOpsToRecord H serde ops = wireEntryOpsToRecord H serde ops.withoutRejectedDeletes ↔
      FirstSpared H data ops := by
  have same : createdActions H data ops.withoutRejectedDeletes = createdActions H data ops := rfl
  have left : ops.withoutRejectedDeletes.deletesAddresses = ops.acceptedAddresses := rfl
  have without : ops.withoutRejectedDeletes.entry = some data := payload
  rw [wireEntryOpsToRecord_eq_find? total payload, wireEntryOpsToRecord_eq_find? total without, same, left,
    (recordOfFound_injective data).eq_iff, find?_eq_find?_iff]
  case narrower =>
    intro action untargeted
    simp only [decide_eq_true_eq, mem_deletesAddresses] at untargeted ⊢
    exact fun accepted => untargeted (.inl accepted)
  constructor
  · intro passes before action after split passed live
    have found := passes action ((find?_undeleted_iff ..).mpr ⟨before, after, split, passed, live⟩)
    simp only [decide_eq_true_eq, mem_deletesAddresses] at found
    exact fun rejected => found (.inr rejected)
  · intro spared action found
    obtain ⟨before, after, split, passed, live⟩ := (find?_undeleted_iff ..).mp found
    have unrejected := spared before action after split passed live
    simp only [decide_eq_true_eq, mem_deletesAddresses]
    exact fun targeted => targeted.elim live unrejected

/-- More deletes make a difference to the status where they make up the number of the actions. -/
theorem entryDhtStatus_eq_iff (actions : List SignedActionHashed)
    {deletes fewer : List SignedActionHashed} (le : fewer.length ≤ deletes.length) :
    entryDhtStatus actions deletes = entryDhtStatus actions fewer ↔
      (fewer.length < actions.length → deletes.length < actions.length) := by
  have same : entryDhtStatus actions deletes = entryDhtStatus actions fewer ↔
      (entryDhtStatus actions deletes = .dead ↔ entryDhtStatus actions fewer = .dead) := by
    cases entryDhtStatus actions deletes <;> cases entryDhtStatus actions fewer <;> simp
  rw [same, entryDhtStatus_eq_dead_iff, entryDhtStatus_eq_dead_iff]
  omega

theorem status_spared_iff (total : serde.Total) {ops : WireEntryOps} {data : EntryData}
    (payload : ops.entry = some data) :
    reportedStatus (wireEntryOpsToDetails H serde ops) =
        reportedStatus (wireEntryOpsToDetails H serde ops.withoutRejectedDeletes) ↔
      CountSpared ops := by
  have fewer : (ops.withoutRejectedDeletes.deletes.map (renderDelete H)).length ≤
      (ops.deletes.map (renderDelete H)).length := by
    rw [List.length_map, List.length_map]
    exact List.length_filter_le ..
  have same : createdActions H data ops.withoutRejectedDeletes = createdActions H data ops := rfl
  have without : ops.withoutRejectedDeletes.entry = some data := payload
  rw [wireEntryOpsToDetails_eq total payload, wireEntryOpsToDetails_eq total without]
  simp only [reportedStatus, entryDetails, same, Option.some.injEq]
  rw [entryDhtStatus_eq_iff _ fewer]
  simp only [createdActions, List.length_map, CountSpared, WireEntryOps.acceptedCreates]

/-- Rejected deletes change neither the record nor the reported status exactly when they target no
action that would be the record and are too few to outnumber the creates. -/
theorem rejected_deletes_idle_iff (H : Hashing) (serde : Serde) (total : serde.Total)
    (ops : WireEntryOps) :
    (wireEntryOpsToRecord H serde ops = wireEntryOpsToRecord H serde ops.withoutRejectedDeletes ∧
        reportedStatus (wireEntryOpsToDetails H serde ops) =
          reportedStatus (wireEntryOpsToDetails H serde ops.withoutRejectedDeletes)) ↔
      ∀ data, ops.entry = some data → FirstSpared H data ops ∧ CountSpared ops := by
  cases payload : ops.entry with
  | none =>
    have without : ops.withoutRejectedDeletes.entry = none := payload
    simp [wireEntryOpsToRecord, wireEntryOpsToDetails, payload, without]
  | some data =>
    rw [record_spared_iff total payload, status_spared_iff total payload]
    constructor
    · rintro spared _ same
      cases same
      exact spared
    · exact fun spared => spared data rfl

/-- Two creates, and a delete judged like this. -/
def deleteOf (address : ActionHash) (status : ValidationStatus) : WireEntryOps where
  creates := [⟨.create sampleCreate, some .valid⟩, ⟨.create sampleCreate, none⟩]
  deletes := [⟨⟨⟨⟨[1]⟩, 2000000, 6, ⟨[2]⟩, address, ⟨[3]⟩, []⟩, [187]⟩, some status⟩]
  updates := []
  entry := some sampleData

theorem createdActions_deleteOf {address : ActionHash} {status : ValidationStatus}
    {action : SignedActionHashed}
    (member : action ∈ createdActions numberedHashing sampleData (deleteOf address status)) :
    action.hashed.hash = sampleHash := by
  have two : createdActions numberedHashing sampleData (deleteOf address status) =
      [rebuild numberedHashing sampleData (.create sampleCreate),
        rebuild numberedHashing sampleData (.create sampleCreate)] := rfl
  rw [two] at member
  have same : action = rebuild numberedHashing sampleData (.create sampleCreate) := by
    simpa using member
  rw [same, sampleHash]

theorem otherHash_ne_sampleHash : numberedHashing.action (.other []) ≠ sampleHash := by
  intro same
  cases numberedHashing_collisionFree.action same

theorem rejected_deletes_idle_iff_strayDelete :
    let ops := deleteOf (numberedHashing.action (.other [])) .rejected
    wireEntryOpsToRecord numberedHashing everySerde ops =
        wireEntryOpsToRecord numberedHashing everySerde ops.withoutRejectedDeletes ∧
      reportedStatus (wireEntryOpsToDetails numberedHashing everySerde ops) =
        reportedStatus
          (wireEntryOpsToDetails numberedHashing everySerde ops.withoutRejectedDeletes) := by
  apply (rejected_deletes_idle_iff numberedHashing everySerde everySerde_total _).mpr
  rintro data payload
  obtain rfl : data = sampleData := (Option.some.inj payload).symm
  refine ⟨?first, fun _ => by decide⟩
  case first =>
    rintro before action after split - - rejected
    have member := createdActions_deleteOf (split ▸ List.mem_append_cons_self)
    rw [member] at rejected
    exact otherHash_ne_sampleHash (List.mem_singleton.mp rejected).symm

/-- An agent's delete is rejected, and the entry's record is gone. -/
theorem rejected_deletes_not_idle :
    ¬∀ (H : Hashing) (serde : Serde) (ops : WireEntryOps), H.CollisionFree → serde.Total →
      wireEntryOpsToRecord H serde ops = wireEntryOpsToRecord H serde ops.withoutRejectedDeletes ∧
        reportedStatus (wireEntryOpsToDetails H serde ops) =
          reportedStatus (wireEntryOpsToDetails H serde ops.withoutRejectedDeletes) := by
  intro always
  have same := (always numberedHashing everySerde (deleteOf sampleHash .rejected)
    numberedHashing_collisionFree everySerde_total).1
  have spared := (record_spared_iff everySerde_total rfl).mp same
  exact spared [] _ [_] rfl (fun _ none => nomatch none) List.not_mem_nil List.mem_cons_self

end H2hcLinker.Dht
