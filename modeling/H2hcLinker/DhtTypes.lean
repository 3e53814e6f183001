import H2hcLinker.Numbering
import H2hcLinker.Types

/-! Actions, entries and the condensed replies of DHT peers. Hashing is a parameter: `Hashing`
is the hash library's content hash of an action and of an entry. -/
namespace H2hcLinker.Dht

structure ActionHash where
  raw : List UInt8
  deriving DecidableEq, Encodable

structure EntryHash where
  raw : List UInt8
  deriving DecidableEq, Encodable

inductive AnyDhtHash where
  | entry (hash : EntryHash)
  | action (hash : ActionHash)
  deriving DecidableEq

/-- A hash of any kind that a link can start or end at, with its kind's three bytes. -/
structure AnyLinkableHash where
  raw : List UInt8
  deriving DecidableEq, Encodable

deriving instance Encodable for AgentPubKey

/-- An entry by its encoding; nothing here looks inside. -/
structure Entry where
  encoded : List UInt8
  deriving DecidableEq, Encodable

structure EntryType where
  encoded : List UInt8
  deriving DecidableEq, Encodable

abbrev Signature := List UInt8

/-- Rate weights are carried, never read. -/
abbrev Weight := List UInt8

structure Create where
  author : AgentPubKey
  timestamp : Int
  actionSeq : Nat
  prevAction : ActionHash
  entryType : EntryType
  entryHash : EntryHash
  weight : Weight
  deriving DecidableEq, Encodable

structure Update where
  author : AgentPubKey
  timestamp : Int
  actionSeq : Nat
  prevAction : ActionHash
  originalActionAddress : ActionHash
  originalEntryAddress : EntryHash
  entryType : EntryType
  entryHash : EntryHash
  weight : Weight
  deriving DecidableEq, Encodable

structure Delete where
  author : AgentPubKey
  timestamp : Int
  actionSeq : Nat
  prevAction : ActionHash
  deletesAddress : ActionHash
  deletesEntryAddress : EntryHash
  weight : Weight
  deriving DecidableEq, Encodable

structure CreateLink where
  author : AgentPubKey
  timestamp : Int
  actionSeq : Nat
  prevAction : ActionHash
  baseAddress : AnyLinkableHash
  targetAddress : AnyLinkableHash
  zomeIndex : UInt8
  linkType : UInt8
  tag : List UInt8
  weight : Weight
  deriving DecidableEq, Encodable

inductive Action where
  | create (action : Create)
  | update (action : Update)
  | delete (action : Delete)
  | createLink (action : CreateLink)
  /-- The kinds that are only passed through, by their encoding. -/
  | other (encoded : List UInt8)
  deriving DecidableEq, Encodable

/-- The entry a new-entry action is about. -/
def Action.entryData : Action → Option (EntryHash × EntryType)
  | .create action => some (action.entryHash, action.entryType)
  | .update action => some (action.entryHash, action.entryType)
  | _ => none

structure Hashing where
  action : Action → ActionHash
  entry : Entry → EntryHash

structure Hashing.CollisionFree (H : Hashing) : Prop where
  action : Function.Injective H.action
  entry : Function.Injective H.entry

/-- A hashing without collisions: the hash is the content's numbering. -/
def numberedHashing : Hashing where
  action a := ⟨Numbering.toBytes a⟩
  entry e := ⟨Numbering.toBytes e⟩

theorem numberedHashing_collisionFree : numberedHashing.CollisionFree where
  action _ _ same := Numbering.toBytes_injective (ActionHash.mk.inj same)
  entry _ _ same := Numbering.toBytes_injective (EntryHash.mk.inj same)

structure SignedAction where
  data : Action
  signature : Signature
  deriving DecidableEq

structure ActionHashed where
  content : Action
  hash : ActionHash
  deriving DecidableEq

def ActionHashed.fromContentSync (H : Hashing) (content : Action) : ActionHashed :=
  ⟨content, H.action content⟩

structure SignedActionHashed where
  hashed : ActionHashed
  signature : Signature
  deriving DecidableEq

/-- `with_presigned` on the hashed content. -/
def SignedActionHashed.presigned (H : Hashing) (content : Action) (signature : Signature) :
    SignedActionHashed :=
  ⟨.fromContentSync H content, signature⟩

/-- The two arguments of `Record::new`. -/
structure Record where
  signedAction : SignedActionHashed
  entry : Option Entry
  deriving DecidableEq

inductive ValidationStatus where
  | valid
  | rejected
  | abandoned
  deriving DecidableEq

structure Judged (α : Type) where
  data : α
  status : Option ValidationStatus
  deriving DecidableEq

/-- Absent counts as valid. -/
def Judged.isValid {α : Type} (j : Judged α) : Bool :=
  match j.status with
  | some status => status = .valid
  | none => true

structure WireCreate where
  timestamp : Int
  author : AgentPubKey
  actionSeq : Nat
  prevAction : ActionHash
  signature : Signature
  weight : Weight
  deriving DecidableEq

structure WireUpdate where
  timestamp : Int
  author : AgentPubKey
  actionSeq : Nat
  prevAction : ActionHash
  originalEntryAddress : EntryHash
  originalActionAddress : ActionHash
  signature : Signature
  weight : Weight
  deriving DecidableEq

inductive WireNewEntryAction where
  | create (action : WireCreate)
  | update (action : WireUpdate)
  deriving DecidableEq

structure WireDelete where
  delete : Delete
  signature : Signature
  deriving DecidableEq

structure WireUpdateRelationship where
  author : AgentPubKey
  timestamp : Int
  actionSeq : Nat
  prevAction : ActionHash
  originalActionAddress : ActionHash
  newEntryAddress : EntryHash
  newEntryType : EntryType
  signature : Signature
  weight : Weight
  deriving DecidableEq

structure EntryData where
  entry : Entry
  entryType : EntryType
  deriving DecidableEq

structure WireEntryOps where
  creates : List (Judged WireNewEntryAction)
  deletes : List (Judged WireDelete)
  updates : List (Judged WireUpdateRelationship)
  entry : Option EntryData
  deriving DecidableEq

structure WireRecordOps where
  action : Option (Judged SignedAction)
  deletes : List (Judged WireDelete)
  updates : List (Judged WireUpdateRelationship)
  entry : Option Entry
  deriving DecidableEq

inductive WireOps where
  | entry (ops : WireEntryOps)
  | record (ops : WireRecordOps)
  | warrant (encoded : List UInt8)
  deriving DecidableEq

end H2hcLinker.Dht
