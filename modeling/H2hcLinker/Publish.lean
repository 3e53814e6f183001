import H2hcLinker.Interleaving
import H2hcLinker.TempOpStore
import Mathlib.Algebra.Ring.Nat

/-! The publish endpoint. A request stores its ops one after another, each in a lock section of its
own, and then tells the peers near each location; requests and the cleanup task interleave. -/
namespace H2hcLinker

/-- What `Display` writes. -/
def LinkerError.display : LinkerError → String
  | .config message => "Configuration error: " ++ message
  | .network message => "Network error: " ++ message
  | .serialization message => "Serialization error: " ++ message
  | .notFound message => "Not found: " ++ message
  | .invalidRequest message => "Invalid request: " ++ message
  | .internal message => "Internal error: " ++ message
  | .holochainError message => "Holochain error: " ++ message
  | .upstreamUnavailable => "Upstream unavailable"
  | .authenticationFailed message => "Authentication failed: " ++ message
  | .forbidden message => "Forbidden: " ++ message
  | .requestMalformed message => "Request malformed: " ++ message

namespace Publish

open Interleaving

structure SignedDhtOp where
  opData : String
  signature : String
  deriving DecidableEq, Repr

structure OpPublishResult where
  success : Bool
  error : Option String
  deriving DecidableEq, Repr

structure PublishResponse where
  success : Bool
  queued : Nat
  failed : Nat
  published : Nat
  results : List OpPublishResult
  deriving DecidableEq, Repr

structure ProcessedOp where
  opId : OpId
  basisLoc : Nat
  deriving DecidableEq, Repr

/-- Which optional parts of the application state are configured. -/
structure AppState where
  tempOpStore : Bool
  gatewayKitsune : Bool

/-- What `dht_publish` has collected so far. -/
structure Progress where
  results : List OpPublishResult
  queued : Nat
  failed : Nat
  processedOps : List ProcessedOp

def Progress.start : Progress := ⟨[], 0, 0, []⟩

def Progress.stored (op : ProcessedOp) (acc : Progress) : Progress :=
  ⟨acc.results ++ [⟨true, none⟩], acc.queued + 1, acc.failed, acc.processedOps ++ [op]⟩

def Progress.refused (e : LinkerError) (acc : Progress) : Progress :=
  ⟨acc.results ++ [⟨false, some e.display⟩], acc.queued, acc.failed + 1, acc.processedOps⟩

/-- What the environment supplies to one section. -/
structure Input where
  /-- `Instant::now`. -/
  now : Nat
  /-- `GatewayKitsune::publish_ops` for the request's DNA. -/
  publishOps : List OpId → Nat → Except String Nat

/-- A request is named by the DNA of its path and a number. -/
inductive Task where
  | request (path : String) (n : Nat)
  | cleaner
  deriving DecidableEq, Repr

inductive Request where
  | publish (ops : List SignedDhtOp)
  /-- The interval of the cleanup task has passed. -/
  | cleanup

inductive Section where
  | process (signedOp : SignedDhtOp) (later : List SignedDhtOp) (acc : Progress)
  | insert (record : StoredOpRecord) (processed : ProcessedOp) (later : List SignedDhtOp) (acc : Progress)
  | publish (acc : Progress)
  | respond (response : Except LinkerError PublishResponse)
  | cleanup

variable (codec : HashCodec) (lib : OpLibrary) (state : AppState)

/-- `process_signed_op` up to the lock of `store_op`. -/
def processSignedOp (signedOp : SignedDhtOp) (now : Nat) :
    Except LinkerError (StoredOpRecord × ProcessedOp) :=
  match lib.base64Decode signedOp.opData with
  | .error e => .error (.requestMalformed ("Invalid op_data base64: " ++ e))
  | .ok opBytes =>
    match lib.base64Decode signedOp.signature with
    | .error e => .error (.requestMalformed ("Invalid signature base64: " ++ e))
    | .ok sigBytes =>
      if sigBytes.length ≠ 64 then
        .error (.requestMalformed
          ("Invalid signature length: expected 64 bytes, got " ++ toString sigBytes.length))
      else
        match lib.externDecode opBytes with
        | .error e => .error (.requestMalformed ("Failed to decode DhtOp: " ++ e))
        | .ok (.warrantOp _ _) => .error (.requestMalformed
            "WarrantOps are not supported for browser extension publishing")
        | .ok op =>
          if ¬state.tempOpStore then
            .error (.internal "TempOpStore not configured - publishing not available")
          else
            match storedRecord lib opBytes now with
            | .error e => .error (.internal ("Failed to store op: " ++ e))
            | .ok record => .ok (record, ⟨record.opId, lib.basisLoc op⟩)

/-- The loop over the request's ops. -/
def nextOp : List SignedDhtOp → Progress → Section
  | [], acc => .publish acc
  | signedOp :: later, acc => .process signedOp later acc

/-- The ops that a peer was told of, location by location. -/
def publishedOps (publishOps : List OpId → Nat → Except String Nat) (processedOps : List ProcessedOp) : Nat :=
  ((processedOps.map ProcessedOp.basisLoc).dedup.map fun basisLoc =>
    let opIds := (processedOps.filter (·.basisLoc = basisLoc)).map ProcessedOp.opId
    match publishOps opIds basisLoc with
    | .ok peerCount => if peerCount > 0 then opIds.length else 0
    | .error _ => 0).sum

def publishResponse (publishOps : List OpId → Nat → Except String Nat) (acc : Progress) : PublishResponse :=
  let published := if state.gatewayKitsune then publishedOps publishOps acc.processedOps else 0
  ⟨acc.failed = 0 ∧ (acc.queued = 0 ∨ published > 0), acc.queued, acc.failed, published, acc.results⟩

/-- `dht_publish` and the loop of the cleanup task. -/
def Request.body : Task → Request → List Section
  | .request path _, .publish ops =>
    match codec.dnaOfStr path with
    | .error _ => [.respond (.error (.requestMalformed "Invalid DNA hash"))]
    | .ok _ => [nextOp ops .start]
  | .cleaner, .cleanup => [.cleanup]
  | _, _ => []

def perform (act : Section) (input : Input) (inner : TempOpStoreInner) :
    TempOpStoreInner × List Section :=
  match act with
  | .process signedOp later acc =>
    (inner, match processSignedOp lib state signedOp input.now with
      | .error e => [nextOp later (acc.refused e)]
      | .ok (record, processed) => [.insert record processed later acc])
  | .insert record processed later acc => (inner.insert record, [nextOp later (acc.stored processed)])
  | .publish acc => (inner, [.respond (.ok (publishResponse state input.publishOps acc))])
  | .respond _ => (inner, [])
  | .cleanup => (inner.cleanupExpired input.now, [])

/-- Any number of requests and the cleanup task at once. -/
def program : Program Task Request Section Input TempOpStoreInner where
  body := Request.body codec
  perform := perform lib state

variable {codec lib state}

/-- How a request starts, and the cleanup task. -/
theorem mem_body {t : Task} {request : Request} {act : Section}
    (member : act ∈ Request.body codec t request) :
    (∃ path n, t = .request path n ∧
      ((∃ e, act = .respond (.error e)) ∨ ∃ ops, act = nextOp ops .start)) ∨
    t = .cleaner ∧ act = .cleanup := by
  cases t with
  | request path n =>
    cases request with
    | publish ops =>
      simp only [Request.body] at member
      split at member
      · exact .inl ⟨path, n, rfl, .inl ⟨_, List.mem_singleton.mp member⟩⟩
      · exact .inl ⟨path, n, rfl, .inr ⟨ops, List.mem_singleton.mp member⟩⟩
    | cleanup => cases member
  | cleaner =>
    cases request with
    | publish ops => cases member
    | cleanup => exact .inr ⟨rfl, List.mem_singleton.mp member⟩

/-- What follows a section. -/
inductive Follows (state : AppState) (input : Input) : Section → Section → Prop
  | refused (signedOp : SignedDhtOp) (later : List SignedDhtOp) (acc : Progress) (e : LinkerError) :
    Follows state input (.process signedOp later acc) (nextOp later (acc.refused e))
  | processed (signedOp : SignedDhtOp) (later : List SignedDhtOp) (acc : Progress)
      (record : StoredOpRecord) (op : ProcessedOp) :
    Follows state input (.process signedOp later acc) (.insert record op later acc)
  | stored (record : StoredOpRecord) (op : ProcessedOp) (later : List SignedDhtOp) (acc : Progress) :
    Follows state input (.insert record op later acc) (nextOp later (acc.stored op))
  | published (acc : Progress) : Follows state input (.publish acc)
      (.respond (.ok (publishResponse state input.publishOps acc)))

theorem perform_follows {act new : Section} {input : Input} {inner : TempOpStoreInner}
    (pushed : new ∈ (perform lib state act input inner).2) : Follows state input act new := by
  cases act with
  | process signedOp later acc =>
    simp only [perform] at pushed
    split at pushed
    · cases List.mem_singleton.mp pushed
      exact .refused signedOp later acc _
    · cases List.mem_singleton.mp pushed
      exact .processed signedOp later acc _ _
  | insert record op later acc =>
    cases List.mem_singleton.mp pushed
    exact .stored record op later acc
  | publish acc =>
    cases List.mem_singleton.mp pushed
    exact .published acc
  | respond response => cases pushed
  | cleanup => cases pushed

end Publish

end H2hcLinker
