import H2hcLinker.TempOpStore
import Mathlib.Data.List.Induction

/-! How long a published op can be fetched: a run of stores and cleanups, and what it leaves for the
lookups. -/
namespace H2hcLinker.Publish

open HashTable

/-- `store_op`; the instant is the one that it draws. -/
def TempOpStoreInner.storeOp (lib : OpLibrary) (opBytes : List UInt8) (now : Nat)
    (inner : TempOpStoreInner) : Except String OpId × TempOpStoreInner :=
  match storedRecord lib opBytes now with
  | .error e => (.error e, inner)
  | .ok record => (.ok record.opId, inner.insert record)

inductive StoreEvent where
  | storeOp (opBytes : List UInt8) (now : Nat)
  | cleanup (now : Nat)
  deriving DecidableEq

namespace StoreEvent

def time : StoreEvent → Nat
  | storeOp _ now => now
  | cleanup now => now

def apply (lib : OpLibrary) (inner : TempOpStoreInner) : StoreEvent → TempOpStoreInner
  | storeOp opBytes now => (inner.storeOp lib opBytes now).2
  | cleanup now => inner.cleanupExpired now

/-- The record that the event puts into the table. -/
def record (lib : OpLibrary) : StoreEvent → Option StoredOpRecord
  | storeOp opBytes now => (storedRecord lib opBytes now).toOption
  | cleanup _ => none

def cleanupTime : StoreEvent → Option Nat
  | storeOp _ _ => none
  | cleanup now => some now

end StoreEvent

def afterEvents (lib : OpLibrary) (events : List StoreEvent) : TempOpStoreInner :=
  events.foldl (StoreEvent.apply lib) .default

/-- The record of the last store under this id, whatever became of it. -/
def latestStore (lib : OpLibrary) (id : OpId) (events : List StoreEvent) : Option StoredOpRecord :=
  ((events.filterMap (·.record lib)).filter (·.opId = id)).getLast?

def cleanupTimes (events : List StoreEvent) : List Nat := events.filterMap (·.cleanupTime)

/-- The record's age was below the limit at every cleanup since it was stored. -/
def InWindow (times : List Nat) (record : StoredOpRecord) : Prop :=
  ∀ now ∈ times, record.storedAt ≤ now → now - record.storedAt < opTtl

instance (times : List Nat) : DecidablePred (InWindow times) :=
  fun record => inferInstanceAs
    (Decidable (∀ now ∈ times, record.storedAt ≤ now → now - record.storedAt < opTtl))

variable {lib : OpLibrary} {events : List StoreEvent} {event : StoreEvent} {id : OpId}
  {record : StoredOpRecord}

theorem storedAt_of_record (stores : event.record lib = some record) : record.storedAt = event.time := by
  cases event with
  | cleanup now => cases stores
  | storeOp opBytes now =>
    simp only [StoreEvent.record, storedRecord] at stores
    split at stores
    · cases stores
    · cases stores
      rfl

theorem afterEvents_snoc (lib : OpLibrary) (events : List StoreEvent) (event : StoreEvent) :
    afterEvents lib (events ++ [event]) = event.apply lib (afterEvents lib events) := by
  rw [afterEvents, List.foldl_append]
  rfl

theorem latestStore_of_record (stores : event.record lib = some record) (id : OpId)
    (events : List StoreEvent) : latestStore lib id (events ++ [event]) =
      if record.opId = id then some record else latestStore lib id events := by
  rw [latestStore, List.filterMap_append, List.filter_append, List.getLast?_append, latestStore]
  by_cases same : record.opId = id <;> simp [stores, same]

theorem latestStore_of_none (none : event.record lib = none) (id : OpId) (events : List StoreEvent) :
    latestStore lib id (events ++ [event]) = latestStore lib id events := by
  simp only [latestStore, List.filterMap_append, List.filterMap_cons_none none, List.filterMap_nil,
    List.append_nil]

theorem cleanupTimes_snoc (events : List StoreEvent) (event : StoreEvent) :
    cleanupTimes (events ++ [event]) = cleanupTimes events ++ event.cleanupTime.toList := by
  rw [cleanupTimes, List.filterMap_append]
  cases event <;> rfl

theorem cleanupTimes_mem {now : Nat} (member : now ∈ cleanupTimes events) :
    StoreEvent.cleanup now ∈ events := by
  obtain ⟨event, among, time⟩ := List.mem_filterMap.mp member
  cases event with
  | storeOp opBytes now => cases time
  | cleanup now => cases time; exact among

/-- A run in the order of time. -/
def Chronological (events : List StoreEvent) : Prop := events.Pairwise (·.time ≤ ·.time)

theorem Chronological.earlier (ordered : Chronological (events ++ [event])) : Chronological events :=
  (List.pairwise_append.mp ordered).1

theorem Chronological.last (ordered : Chronological (events ++ [event])) {past : StoreEvent}
    (member : past ∈ events) : past.time ≤ event.time :=
  (List.pairwise_append.mp ordered).2.2 past member event (List.mem_singleton_self event)

/-- What is just stored has seen no later cleanup. -/
theorem Chronological.inWindow (ordered : Chronological (events ++ [event]))
    (stores : event.record lib = some record) : InWindow (cleanupTimes events) record := by
  intro now member _
  have past : now ≤ event.time := ordered.last (cleanupTimes_mem member)
  have stored := storedAt_of_record stores
  have limit : 0 < opTtl := by decide
  omega

theorem inWindow_snoc (times : List Nat) (now : Nat) (record : StoredOpRecord) :
    InWindow (times ++ [now]) record ↔
      InWindow times record ∧ now - record.storedAt < opTtl := by
  have limit : 0 < opTtl := by decide
  constructor
  · intro window
    refine ⟨fun past member => window past (List.mem_append_left _ member), ?_⟩
    by_cases later : record.storedAt ≤ now
    · exact window now (by simp) later
    · omega
  · rintro ⟨window, young⟩ past member later
    rcases List.mem_append.mp member with earlier | last
    · exact window past earlier later
    · rwa [List.mem_singleton.mp last]

/-- The table holds, under each id, the latest store that has stayed within its window. -/
theorem lookup_afterEvents (lib : OpLibrary) (ordered : Chronological events) (id : OpId) :
    (afterEvents lib events).ops.lookup id =
      (latestStore lib id events).filter fun record => InWindow (cleanupTimes events) record := by
  induction events using List.reverseRecOn with
  | nil => rfl
  | append_singleton events event ih =>
    have before := ih ordered.earlier
    rw [afterEvents_snoc, cleanupTimes_snoc]
    cases event with
    | cleanup now =>
      rw [StoreEvent.apply, lookup_cleanupExpired, before, Option.filter_filter,
        latestStore_of_none rfl]
      simp only [StoreEvent.cleanupTime, Option.toList_some, inWindow_snoc, Bool.decide_and]
    | storeOp opBytes now =>
      have times : cleanupTimes events ++ (StoreEvent.storeOp opBytes now).cleanupTime.toList =
        cleanupTimes events := List.append_nil _
      rw [times]
      cases stored : storedRecord lib opBytes now with
      | error e =>
        have nothing : (StoreEvent.storeOp opBytes now).record lib = none := by
          rw [StoreEvent.record, stored]
          rfl
        rw [latestStore_of_none nothing]
        simp only [StoreEvent.apply, TempOpStoreInner.storeOp, stored, before]
      | ok record =>
        have stores : (StoreEvent.storeOp opBytes now).record lib = some record := by
          rw [StoreEvent.record, stored]
          rfl
        rw [latestStore_of_record stores]
        simp only [StoreEvent.apply, TempOpStoreInner.storeOp, stored, lookup_insert]
        by_cases same : record.opId = id
        · have window := ordered.inWindow stores
          rw [if_pos same.symm, if_pos same]
          symm
          rw [Option.filter_eq_some_iff]
          exact ⟨rfl, decide_eq_true window⟩
        · rw [if_neg (Ne.symm same), if_neg same, before]

/-- What a lookup of these ids finds after a run. -/
structure Availability (lib : OpLibrary) (events : List StoreEvent) (store : TempOpStore)
    (opIds : List OpId) : Prop where
  retrieved : store.retrieveOps opIds (afterEvents lib events) = opIds.filterMap fun id =>
    ((latestStore lib id events).filter fun record => InWindow (cleanupTimes events) record).map
      fun record => ⟨id, record.opData⟩
  /-- Less than a minute after a store nothing has dropped its id. -/
  fresh (now : Nat) (passed : ∀ event ∈ events, event.time ≤ now) (event : StoreEvent)
    (member : event ∈ events) (record : StoredOpRecord) (stores : event.record lib = some record)
    (young : now - event.time < opTtl) (asked : record.opId ∈ opIds) :
    ∃ opData, ⟨record.opId, opData⟩ ∈ store.retrieveOps opIds (afterEvents lib events)
  /-- A cleanup a minute after the latest store has dropped it. -/
  expired (record : StoredOpRecord) (id : OpId) (latest : latestStore lib id events = some record)
    (now : Nat) (cleaned : now ∈ cleanupTimes events) (old : record.storedAt + opTtl ≤ now)
    (opData : List UInt8) : ⟨id, opData⟩ ∉ store.retrieveOps opIds (afterEvents lib events)
  filtered : store.filterOutExistingOps opIds (afterEvents lib events) = opIds.filter fun id =>
    id ∉ (store.retrieveOps opIds (afterEvents lib events)).map (·.opId)

theorem mem_retrieveOps (store : TempOpStore) {opIds : List OpId} {inner : TempOpStoreInner}
    {opData : List UInt8} : ⟨id, opData⟩ ∈ store.retrieveOps opIds inner ↔
      id ∈ opIds ∧ ∃ record, inner.ops.lookup id = some record ∧ record.opData = opData := by
  rw [TempOpStore.retrieveOps, List.mem_filterMap]
  simp only [Option.map_eq_some_iff, MetaOp.mk.injEq]
  constructor
  · rintro ⟨_, asked, record, found, rfl, data⟩
    exact ⟨asked, record, found, data⟩
  · rintro ⟨asked, record, found, data⟩
    exact ⟨id, asked, record, found, rfl, data⟩

/-- Whatever the run, the two lookups split the requested ids between them. -/
theorem filterOutExistingOps_eq (store : TempOpStore) (opIds : List OpId) (inner : TempOpStoreInner) :
    store.filterOutExistingOps opIds inner = opIds.filter fun id =>
      id ∉ (store.retrieveOps opIds inner).map (·.opId) := by
  apply List.filter_congr
  intro id asked
  have served : id ∈ (store.retrieveOps opIds inner).map (·.opId) ↔ id ∈ inner.ops := by
    rw [List.mem_map, Finmap.mem_iff]
    constructor
    · rintro ⟨op, member, rfl⟩
      obtain ⟨_, record, found, _⟩ := (mem_retrieveOps store).mp member
      exact ⟨record, found⟩
    · rintro ⟨record, found⟩
      exact ⟨⟨id, record.opData⟩, (mem_retrieveOps store).mpr ⟨asked, record, found, rfl⟩, rfl⟩
  simp only [served]

/-- In a chronological run the latest store is the one of the greatest time. -/
theorem Chronological.storedAt_le (ordered : Chronological events) (member : event ∈ events)
    (stores : event.record lib = some record) :
    ∃ latest, latestStore lib record.opId events = some latest ∧ event.time ≤ latest.storedAt := by
  induction events using List.reverseRecOn with
  | nil => cases member
  | append_singleton events last ih =>
    rcases List.mem_append.mp member with earlier | now
    · obtain ⟨latest, found, older⟩ := ih ordered.earlier earlier
      cases stored : last.record lib with
      | none => exact ⟨latest, by rw [latestStore_of_none stored, found], older⟩
      | some newest =>
        rw [latestStore_of_record stored]
        by_cases same : newest.opId = record.opId
        · refine ⟨newest, if_pos same, ?_⟩
          rw [storedAt_of_record stored]
          exact ordered.last earlier
        · exact ⟨latest, by rw [if_neg same, found], older⟩
    · obtain rfl := List.mem_singleton.mp now
      refine ⟨record, ?_, (storedAt_of_record stores).ge⟩
      rw [latestStore_of_record stores, if_pos rfl]

/-- Ops of one byte, which is also their id. -/
def oneByteOps : OpLibrary where
  base64Decode _ := .error ""
  externDecode bytes := .ok (.chainOp 0 bytes)
  decode bytes := if bytes.length = 1 then .ok (.chainOp 0 bytes) else .error "trailing bytes"
  opId
    | .chainOp _ encoded | .warrantOp _ encoded => ⟨encoded⟩
  basisLoc _ := 0

/-- The second op is stored again before the first cleanup that would have dropped it. -/
def storedAgain : List StoreEvent :=
  [.storeOp [1] 0, .storeOp [2] 0, .storeOp [2] (30 * 10 ^ 9), .storeOp [] (40 * 10 ^ 9),
    .cleanup (60 * 10 ^ 9)]

end H2hcLinker.Publish
