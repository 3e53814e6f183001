import H2hcLinker.HashTable
import H2hcLinker.Types

/-! The store of ops that wait to be fetched: one table behind a lock, shared by the stores that the
factory creates for the spaces and by the handle that the publish endpoint stores through. An
`Instant` is a number of nanoseconds. -/
namespace H2hcLinker.Publish

open HashTable

/-- The hash of an op with its location. -/
structure OpId where
  raw : List UInt8
  deriving DecidableEq, Repr

/-- An op by its kind, the timestamp of its action or warrant in microseconds, and its encoding. -/
inductive DhtOp where
  | chainOp (timestamp : Int) (encoded : List UInt8)
  | warrantOp (timestamp : Int) (encoded : List UInt8)
  deriving DecidableEq, Repr

def DhtOp.timestamp : DhtOp → Int
  | .chainOp timestamp _ => timestamp
  | .warrantOp timestamp _ => timestamp

/-- What the libraries read ops with; an error is its text. -/
structure OpLibrary where
  base64Decode : String → Except String (List UInt8)
  /-- `ExternIO::decode`. -/
  externDecode : List UInt8 → Except String DhtOp
  /-- `holochain_serialized_bytes::decode`. -/
  decode : List UInt8 → Except String DhtOp
  /-- `to_located_k2_op_id` of the op's hash at its basis. -/
  opId : DhtOp → OpId
  /-- The location of the op's basis. -/
  basisLoc : DhtOp → Nat

structure StoredOpRecord where
  opId : OpId
  opData : List UInt8
  storedAt : Nat
  createdAt : Int
  deriving DecidableEq

structure TempOpStoreInner where
  ops : Table OpId StoredOpRecord

def TempOpStoreInner.default : TempOpStoreInner := ⟨∅⟩

def opTtl : Nat := 60 * 10 ^ 9

/-- `duration_since` of a later instant is zero. -/
def TempOpStoreInner.cleanupExpired (now : Nat) (inner : TempOpStoreInner) : TempOpStoreInner :=
  { inner with ops := retain (fun _ record => now - record.storedAt < opTtl) inner.ops }

/-- `store_op` up to the lock. -/
def storedRecord (lib : OpLibrary) (opBytes : List UInt8) (now : Nat) : Except String StoredOpRecord :=
  match lib.decode opBytes with
  | .error e => .error ("Failed to decode DhtOp: " ++ e)
  | .ok op => .ok ⟨lib.opId op, opBytes, now, op.timestamp⟩

/-- `store_op` under the lock. -/
def TempOpStoreInner.insert (record : StoredOpRecord) (inner : TempOpStoreInner) : TempOpStoreInner :=
  { inner with ops := inner.ops.insert record.opId record }

/-- The store of a space: beside the shared table it has the space's id, which nothing reads. -/
structure TempOpStore where
  spaceId : DnaHash

/-- `TempOpStoreFactory::create`. -/
def createStore (spaceId : DnaHash) : TempOpStore := ⟨spaceId⟩

structure MetaOp where
  opId : OpId
  opData : List UInt8
  deriving DecidableEq, Repr

namespace TempOpStore

def retrieveOps (_store : TempOpStore) (opIds : List OpId) (inner : TempOpStoreInner) : List MetaOp :=
  opIds.filterMap fun id => (inner.ops.lookup id).map fun record => ⟨id, record.opData⟩

def filterOutExistingOps (_store : TempOpStore) (opIds : List OpId) (inner : TempOpStoreInner) :
    List OpId :=
  opIds.filter fun id => id ∉ inner.ops

/-- Both lookups read the table at the given ids only. -/
theorem retrieveOps_congr (store : TempOpStore) {opIds : List OpId} {left right : TempOpStoreInner}
    (same : ∀ id ∈ opIds, left.ops.lookup id = right.ops.lookup id) :
    store.retrieveOps opIds left = store.retrieveOps opIds right := by
  apply List.filterMap_congr
  intro id member
  rw [same id member]

theorem filterOutExistingOps_congr (store : TempOpStore) {opIds : List OpId}
    {left right : TempOpStoreInner} (same : ∀ id ∈ opIds, left.ops.lookup id = right.ops.lookup id) :
    store.filterOutExistingOps opIds left = store.filterOutExistingOps opIds right := by
  apply List.filter_congr
  intro id member
  have alike : id ∈ left.ops ↔ id ∈ right.ops := by
    rw [← Finmap.lookup_isSome, ← Finmap.lookup_isSome, same id member]
  simp [alike]

end TempOpStore

theorem lookup_insert (record : StoredOpRecord) (inner : TempOpStoreInner) (id : OpId) :
    (inner.insert record).ops.lookup id =
      if id = record.opId then some record else inner.ops.lookup id :=
  lookup_insert_eq _ _ _ _

/-- A record outlives a cleanup or not by its own age. -/
theorem lookup_cleanupExpired (now : Nat) (inner : TempOpStoreInner) (id : OpId) :
    (inner.cleanupExpired now).ops.lookup id =
      (inner.ops.lookup id).filter fun record => now - record.storedAt < opTtl :=
  lookup_retain _ _ _

end H2hcLinker.Publish
