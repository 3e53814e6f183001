import H2hcLinker.HashTable
import Mathlib.Data.List.Perm.Basic

/-! The registration client: signed heartbeats to the joining service, and the loop that sends
them. The HTTP exchange of each heartbeat is an input of the loop. -/
namespace H2hcLinker.Registration

open HashTable

structure RegistrationConfig where
  joiningServiceUrl : String
  inviteToken : Option String
  publicUrl : String
  initialHeartbeatIntervalSecs : Nat

/-- The scheme swapped; a url with neither scheme is used as it is. -/
def RegistrationConfig.adminUrl (config : RegistrationConfig) : String :=
  match "wss://".toList.isPrefixOf? config.publicUrl.toList with
  | some rest => "https://" ++ String.ofList rest
  | none =>
    match "ws://".toList.isPrefixOf? config.publicUrl.toList with
    | some rest => "http://" ++ String.ofList rest
    | none => config.publicUrl

/-- The linker's key: its public half in base64, and the base64 signature of a text. -/
structure LinkerIdentity where
  publicKeyBase64 : String
  signBase64 : String → String

structure RegistrationClient where
  identity : LinkerIdentity
  config : RegistrationConfig
  adminSecret : String
  isRegistered : Bool

def RegistrationClient.new (identity : LinkerIdentity) (config : RegistrationConfig)
    (adminSecret : String) : RegistrationClient :=
  ⟨identity, config, adminSecret, false⟩

structure HeartbeatResponse where
  registered : Bool
  ttlSeconds : Nat
  heartbeatIntervalSeconds : Option Nat
  deriving DecidableEq

/-- What becomes of one request: an error of sending it, a status that is no success, a body that
does not parse, or a response. -/
inductive Exchange where
  | unsent (error : String)
  | rejected (status text : String)
  | unparsable (error : String)
  | response (resp : HeartbeatResponse)
  deriving DecidableEq

inductive JsonValue where
  | string (value : String)
  | bool (value : Bool)
  deriving DecidableEq

abbrev JsonMap := Table String JsonValue

/-- `insert` of a string. -/
def JsonMap.string (body : JsonMap) (key value : String) : JsonMap :=
  Finmap.insert key (.string value) body

def JsonMap.bool (body : JsonMap) (key : String) (value : Bool) : JsonMap :=
  Finmap.insert key (.bool value) body

structure HeartbeatRequest where
  url : String
  body : JsonMap

structure DeregisterRequest where
  url : String
  timestamp : String
  signature : String
  deriving DecidableEq

/-- `quote` is the JSON text of a string. -/
def canonicalJson (quote : String → String) (fields : List (String × String)) : String :=
  "\x7b" ++ ",".intercalate ((Std.TreeMap.ofList fields).toList.map fun entry =>
    quote entry.1 ++ ":" ++ quote entry.2) ++ "\x7d"

def signCanonical (quote : String → String) (identity : LinkerIdentity)
    (fields : List (String × String)) : String :=
  identity.signBase64 (canonicalJson quote fields)

/-- The byte stands for itself in a path segment. -/
def isUnreserved (byte : UInt8) : Bool :=
  let c := Char.ofNat byte.toNat
  byte < 128 ∧ (c.isAlphanum ∨ c = '-' ∨ c = '.' ∨ c = '_' ∨ c = '~')

def upperHexDigit (n : Nat) : Char := if n < 10 then Char.ofNat (48 + n) else Char.ofNat (55 + n)

def urlEncodePathSegment (s : String) : String :=
  .ofList (s.toUTF8.toList.flatMap fun byte =>
    if isUnreserved byte then [Char.ofNat byte.toNat]
    else ['%', upperHexDigit (byte.toNat / 16), upperHexDigit (byte.toNat % 16)])

variable (quote : String → String)

namespace RegistrationClient

def heartbeatSignature (client : RegistrationClient) (isFirst : Bool) (timestamp : String) : String :=
  if isFirst then
    signCanonical quote client.identity [("admin_secret", client.adminSecret),
      ("admin_url", client.config.adminUrl), ("linker_url", client.config.publicUrl),
      ("pubkey", client.identity.publicKeyBase64), ("timestamp", timestamp)]
  else
    signCanonical quote client.identity [("admin_url", client.config.adminUrl),
      ("linker_url", client.config.publicUrl), ("pubkey", client.identity.publicKeyBase64),
      ("timestamp", timestamp)]

def heartbeatBody (client : RegistrationClient) (isFirst : Bool) (timestamp : String) : JsonMap :=
  let body := JsonMap.string ∅ "pubkey" client.identity.publicKeyBase64
  let body := match client.config.inviteToken with
    | some token => body.string "invite_token" token
    | none => body
  let body := body.string "linker_url" client.config.publicUrl
  let body := body.string "admin_url" client.config.adminUrl
  let body := if isFirst then body.string "admin_secret" client.adminSecret else body
  let body := body.bool "rotate_secret" false
  let body := body.string "timestamp" timestamp
  body.string "signature" (client.heartbeatSignature quote isFirst timestamp)

def heartbeatRequest (client : RegistrationClient) (timestamp : String) : HeartbeatRequest where
  url := client.config.joiningServiceUrl ++ "/v1/linkers/heartbeat"
  body := client.heartbeatBody quote (!client.isRegistered) timestamp

def deregisterRequest (client : RegistrationClient) (timestamp : String) : DeregisterRequest where
  url := client.config.joiningServiceUrl ++ "/v1/linkers/" ++
    urlEncodePathSegment client.identity.publicKeyBase64
  timestamp := timestamp
  signature := signCanonical quote client.identity
    [("pubkey", client.identity.publicKeyBase64), ("timestamp", timestamp)]

end RegistrationClient

/-- What `send_heartbeat` makes of the exchange. -/
def heartbeatResult : Exchange → Except String HeartbeatResponse
  | .unsent error => .error ("Heartbeat request failed: " ++ error)
  | .rejected status text => .error ("Heartbeat rejected: " ++ status ++ " " ++ text)
  | .unparsable error => .error ("Failed to parse heartbeat response: " ++ error)
  | .response resp =>
    if ¬resp.registered then .error "Heartbeat response: registered=false" else .ok resp

/-- One heartbeat that is not cut short: the time of its request and its exchange. -/
structure Turn where
  timestamp : String
  exchange : Exchange
  deriving DecidableEq

def Turn.succeeded (turn : Turn) : Bool := (heartbeatResult turn.exchange).isOk

/-- The state of `run`. -/
structure Loop where
  client : RegistrationClient
  intervalSecs : Nat

def Loop.start (client : RegistrationClient) : Loop :=
  ⟨client, client.config.initialHeartbeatIntervalSecs⟩

/-- The interval that is slept next, and with which the loop goes on. -/
def nextInterval (intervalSecs : Nat) : Except String HeartbeatResponse → Nat
  | .ok resp =>
    match resp.heartbeatIntervalSeconds with
    | some serverInterval => if serverInterval > 0 then serverInterval else intervalSecs
    | none => intervalSecs
  | .error _ => 30

/-- One round of the loop. -/
def Loop.step (l : Loop) (turn : Turn) : Loop where
  client := { l.client with isRegistered := turn.succeeded }
  intervalSecs := nextInterval l.intervalSecs (heartbeatResult turn.exchange)

def Loop.after (l : Loop) (turns : List Turn) : Loop := turns.foldl Loop.step l

/-- A heartbeat and the sleep that follows it. -/
structure Beat where
  request : HeartbeatRequest
  sleepSecs : Nat

/-- The heartbeats of the run, and how long each is slept on. -/
def Loop.beats (l : Loop) : List Turn → List Beat
  | [] => []
  | turn :: rest =>
    ⟨l.client.heartbeatRequest quote turn.timestamp, (l.step turn).intervalSecs⟩ ::
      (l.step turn).beats rest

variable {quote} {l : Loop}

@[simp] theorem after_append (l : Loop) (turns more : List Turn) :
    l.after (turns ++ more) = (l.after turns).after more := List.foldl_append

theorem after_singleton (l : Loop) (turn : Turn) : l.after [turn] = l.step turn := rfl

theorem beats_getElem? (l : Loop) (turns : List Turn) (k : Nat) :
    (l.beats quote turns)[k]? = turns[k]?.map fun turn =>
      ⟨(l.after (turns.take k)).client.heartbeatRequest quote turn.timestamp,
        ((l.after (turns.take k)).step turn).intervalSecs⟩ := by
  induction turns generalizing l k with
  | nil => rfl
  | cons turn rest ih =>
    cases k with
    | zero => rfl
    | succ k =>
      rw [Loop.beats, List.getElem?_cons_succ, List.getElem?_cons_succ, ih]
      rfl

/-- Of the client only the flag changes. -/
theorem after_client (l : Loop) (turns : List Turn) :
    (l.after turns).client = { l.client with
      isRegistered := (turns.getLast?.map Turn.succeeded).getD l.client.isRegistered } := by
  induction turns using List.reverseRecOn with
  | nil => rfl
  | append_singleton turns turn ih => simp [after_singleton, Loop.step, ih]

/-- With distinct keys the map holds the pairs of the list. -/
theorem getElem?_ofList_iff {fields : List (String × String)} (distinct : (fields.map Prod.fst).Nodup)
    (k v : String) : (Std.TreeMap.ofList fields)[k]? = some v ↔ (k, v) ∈ fields := by
  have lookup (v : String) (member : (k, v) ∈ fields) : (Std.TreeMap.ofList fields)[k]? = some v := by
    apply Std.TreeMap.getElem?_ofList_of_mem Std.ReflCmp.compare_self _ member
    rw [List.nodup_iff_pairwise_ne, List.pairwise_map] at distinct
    exact distinct.imp fun different same => different (Std.LawfulEqCmp.eq_of_compare same)
  refine ⟨fun found => ?_, lookup v⟩
  by_cases occurs : k ∈ fields.map Prod.fst
  · obtain ⟨⟨_, v'⟩, member, rfl⟩ := List.mem_map.mp occurs
    rw [lookup v' member] at found
    cases found
    exact member
  · rw [Std.TreeMap.getElem?_ofList_of_contains_eq_false (by simpa using occurs)] at found
    cases found

/-- Fields that come in the order of their keys stay in it. -/
theorem toList_ofList {fields : List (String × String)}
    (sorted : (fields.map Prod.fst).Pairwise fun a b => compare a b = .lt) :
    (Std.TreeMap.ofList fields).toList = fields := by
  have apart {a b : String} (less : compare a b = .lt) : a ≠ b := by
    rintro rfl
    simp at less
  have distinct : (fields.map Prod.fst).Nodup :=
    List.nodup_iff_pairwise_ne.mpr (sorted.imp apart)
  have ordered := Std.TreeMap.ordered_keys_toList (t := Std.TreeMap.ofList fields)
  apply List.Perm.eq_of_pairwise _ ordered (List.pairwise_map.mp sorted)
  · rw [List.perm_ext_iff_of_nodup _ (.of_map _ distinct)]
    · rintro ⟨k, v⟩
      rw [Std.TreeMap.mem_toList_iff_getElem?_eq_some, getElem?_ofList_iff distinct]
    · exact ordered.imp fun less same => apart less (congrArg Prod.fst same)
  · intro a b _ _ less more
    exact absurd more (Std.OrientedCmp.not_lt_of_lt less)

/-- The order of the fields does not matter to what is signed. -/
theorem canonicalJson_perm {fields others : List (String × String)}
    (distinct : (fields.map Prod.fst).Nodup) (same : fields.Perm others) :
    canonicalJson quote fields = canonicalJson quote others := by
  have equal : Std.TreeMap.Equiv (Std.TreeMap.ofList fields) (Std.TreeMap.ofList others) := by
    apply Std.TreeMap.Equiv.of_forall_constGet?_eq
    intro k
    refine Option.ext fun v => ?_
    rw [getElem?_ofList_iff distinct, same.mem_iff,
      getElem?_ofList_iff ((same.map Prod.fst).nodup_iff.mp distinct)]
  rw [canonicalJson, canonicalJson, Std.TreeMap.equiv_iff_toList_eq.mp equal]

end H2hcLinker.Registration
