import H2hcLinker.Past
import H2hcLinker.Registration

/-! Runs of the heartbeat loop: what its requests say and are signed over, how long it sleeps, and
whether it takes its leave. -/
namespace H2hcLinker.Registration

open HashTable Past

variable {quote : String → String} {client : RegistrationClient} {isFirst : Bool} {timestamp : String}

/-- The secret of a body, as a field to sign. -/
def secretField (body : JsonMap) : List (String × String) :=
  match body.lookup "admin_secret" with
  | some (.string secret) => [("admin_secret", secret)]
  | _ => []

/-- A JSON object of these fields, in this order and without whitespace. -/
def objectText (quote : String → String) (fields : List (String × String)) : String :=
  "\x7b" ++ ",".intercalate (fields.map fun field => quote field.1 ++ ":" ++ quote field.2) ++ "\x7d"

/-- The signature of the body is over its own fields, written in the order of their keys. -/
structure SelfSigned (quote : String → String) (identity : LinkerIdentity) (body : JsonMap) : Prop where
  secret : ∀ value, body.lookup "admin_secret" = some value → ∃ text, value = .string text
  signed : ∃ adminUrl linkerUrl pubkey timestamp,
    body.lookup "admin_url" = some (.string adminUrl) ∧
    body.lookup "linker_url" = some (.string linkerUrl) ∧
    body.lookup "pubkey" = some (.string pubkey) ∧
    body.lookup "timestamp" = some (.string timestamp) ∧
    body.lookup "signature" = some (.string (identity.signBase64 (objectText quote
      (secretField body ++ [("admin_url", adminUrl), ("linker_url", linkerUrl), ("pubkey", pubkey),
        ("timestamp", timestamp)]))))

/-- Fields that come in the order of their keys are signed as they come. -/
theorem signCanonical_eq (identity : LinkerIdentity) {fields : List (String × String)}
    (sorted : (fields.map Prod.fst).Pairwise fun a b => compare a b = .lt) :
    signCanonical quote identity fields = identity.signBase64 (objectText quote fields) := by
  rw [signCanonical, canonicalJson, toList_ofList sorted, objectText]

theorem lookup_string (body : JsonMap) (key other value : String) :
    (body.string key value).lookup other =
      if other = key then some (.string value) else body.lookup other :=
  lookup_insert_eq body key other _

theorem lookup_bool (body : JsonMap) (key other : String) (value : Bool) :
    (body.bool key value).lookup other =
      if other = key then some (.bool value) else body.lookup other :=
  lookup_insert_eq body key other _

theorem lookup_heartbeatBody (key : String) (untouched : key ≠ "invite_token") :
    (client.heartbeatBody quote isFirst timestamp).lookup key =
      if key = "signature" then some (.string (client.heartbeatSignature quote isFirst timestamp))
      else if key = "timestamp" then some (.string timestamp)
      else if key = "rotate_secret" then some (.bool false)
      else if key = "admin_secret" ∧ isFirst then some (.string client.adminSecret)
      else if key = "admin_url" then some (.string client.config.adminUrl)
      else if key = "linker_url" then some (.string client.config.publicUrl)
      else if key = "pubkey" then some (.string client.identity.publicKeyBase64)
      else none := by
  unfold RegistrationClient.heartbeatBody
  cases isFirst <;> cases client.config.inviteToken <;>
    simp [lookup_string, lookup_bool, untouched]

theorem secretField_heartbeatBody :
    secretField (client.heartbeatBody quote isFirst timestamp) =
      if isFirst then [("admin_secret", client.adminSecret)] else [] := by
  unfold secretField
  rw [lookup_heartbeatBody _ (by decide)]
  cases isFirst <;> rfl

/-- The body has the secret when the client takes the heartbeat for its first. -/
theorem secret_mem_heartbeatBody :
    "admin_secret" ∈ client.heartbeatBody quote isFirst timestamp ↔ isFirst = true := by
  rw [Finmap.mem_iff, lookup_heartbeatBody _ (by decide)]
  cases isFirst <;> simp

theorem heartbeatBody_selfSigned :
    SelfSigned quote client.identity (client.heartbeatBody quote isFirst timestamp) where
  secret value found := by
    rw [lookup_heartbeatBody _ (by decide)] at found
    cases isFirst with
    | false => cases found
    | true => exact ⟨_, (Option.some.inj found).symm⟩
  signed := by
    refine ⟨client.config.adminUrl, client.config.publicUrl, client.identity.publicKeyBase64,
      timestamp, ?_, ?_, ?_, ?_, ?_⟩
    · rw [lookup_heartbeatBody _ (by decide)]; rfl
    · rw [lookup_heartbeatBody _ (by decide)]; rfl
    · rw [lookup_heartbeatBody _ (by decide)]; rfl
    · rw [lookup_heartbeatBody _ (by decide)]; rfl
    · rw [secretField_heartbeatBody, lookup_heartbeatBody _ (by decide), if_pos rfl,
        RegistrationClient.heartbeatSignature]
      cases isFirst with
      | false =>
        have sorted : ["admin_url", "linker_url", "pubkey", "timestamp"].Pairwise
            fun a b => compare a b = .lt := by decide
        exact congrArg (some <| JsonValue.string ·) (signCanonical_eq client.identity sorted)
      | true =>
        have sorted : ["admin_secret", "admin_url", "linker_url", "pubkey", "timestamp"].Pairwise
            fun a b => compare a b = .lt := by decide
        exact congrArg (some <| JsonValue.string ·) (signCanonical_eq client.identity sorted)

theorem heartbeatRequest_selfSigned (client : RegistrationClient) (timestamp : String) :
    SelfSigned quote client.identity (client.heartbeatRequest quote timestamp).body :=
  heartbeatBody_selfSigned

/-- The loop as it starts. -/
def Loop.init (identity : LinkerIdentity) (config : RegistrationConfig) (adminSecret : String) : Loop :=
  .start (.new identity config adminSecret)

/-- In every run: a heartbeat carries the secret exactly when it is the first, or follows one that
failed, and it is signed over its own fields. -/
theorem heartbeat_protocol (quote : String → String) (identity : LinkerIdentity)
    (config : RegistrationConfig) (adminSecret : String) (turns : List Turn) (k : Nat) (beat : Beat)
    (sent : ((Loop.init identity config adminSecret).beats quote turns)[k]? = some beat) :
    ("admin_secret" ∈ beat.request.body ↔
      k = 0 ∨ ∃ j turn, k = j + 1 ∧ turns[j]? = some turn ∧ turn.succeeded = false) ∧
    SelfSigned quote identity beat.request.body := by
  rw [beats_getElem?] at sent
  obtain ⟨turn, here, rfl⟩ := Option.map_eq_some_iff.mp sent
  rw [after_client]
  refine ⟨?_, heartbeatRequest_selfSigned
    { RegistrationClient.new identity config adminSecret with isRegistered := _ } turn.timestamp⟩
  simp only [RegistrationClient.heartbeatRequest, secret_mem_heartbeatBody]
  cases k with
  | zero => simp [Loop.init, Loop.start, RegistrationClient.new]
  | succ j =>
    have bound : j + 1 < turns.length := (List.getElem?_eq_some_iff.mp here).1
    obtain ⟨last, before⟩ : ∃ last, turns[j]? = some last :=
      ⟨_, List.getElem?_eq_getElem (Nat.lt_of_succ_lt bound)⟩
    have previous : (turns.take (j + 1)).getLast? = some last := by
      rw [List.getLast?_take]
      simp [before]
    simp [previous, before]

/-- A registered response without an interval. -/
def renewed : Turn := ⟨"2026-01-01T00:00:00.000Z", .response ⟨true, 600, none⟩⟩

def unsent : Turn := ⟨"2026-01-01T00:00:30.000Z", .unsent "connection refused"⟩

def sampleConfig : RegistrationConfig := ⟨"http://js", none, "wss://host:8090", 200⟩

def sampleIdentity : LinkerIdentity := ⟨"key", fun text => "signed " ++ text⟩

def sampleQuote (s : String) : String := "\"" ++ s ++ "\""

/-- The third heartbeat follows a failure. -/
def recoveringBody : JsonMap :=
  ((RegistrationClient.mk sampleIdentity sampleConfig "secret" false).heartbeatRequest sampleQuote
    renewed.timestamp).body

theorem heartbeat_protocol_recovers :
    "admin_secret" ∈ recoveringBody ∧
      recoveringBody.lookup "signature" = some (.string (sampleIdentity.signBase64
        ("\x7b\"admin_secret\":\"secret\",\"admin_url\":\"https://host:8090\"," ++
          "\"linker_url\":\"wss://host:8090\",\"pubkey\":\"key\"," ++
          "\"timestamp\":\"2026-01-01T00:00:00.000Z\"\x7d"))) := by
  obtain ⟨secret, signed⟩ := heartbeat_protocol sampleQuote sampleIdentity sampleConfig "secret"
    [renewed, unsent, renewed] 2 _ rfl
  refine ⟨secret.mpr (.inr ⟨1, unsent, rfl, rfl, rfl⟩), ?_⟩
  obtain ⟨adminUrl, linkerUrl, pubkey, timestamp, admin, linker, key, time, signature⟩ := signed.signed
  have known : recoveringBody.lookup "admin_url" = some (.string "https://host:8090") := by decide
  cases known.symm.trans admin
  cases linker
  cases key
  cases time
  exact signature

/-- The positive interval that a successful heartbeat brings. One in a response that says
`registered: false` counts as not received. -/
def Turn.directedInterval (turn : Turn) : Option Nat :=
  match heartbeatResult turn.exchange with
  | .ok resp => resp.heartbeatIntervalSeconds.filter (0 < ·)
  | .error _ => none

/-- The last interval the server directed, or else the configured one. -/
def cadence (initial : Nat) (turns : List Turn) : Nat :=
  (turns.filterMap Turn.directedInterval).getLast?.getD initial

/-- A heartbeat failed, and none has brought an interval since. -/
def RetryKept : List Turn → Prop :=
  Since (fun turn => turn.directedInterval = none) fun _ turn => turn.succeeded = false

theorem nextInterval_eq (intervalSecs : Nat) (turn : Turn) :
    nextInterval intervalSecs (heartbeatResult turn.exchange) =
      if turn.succeeded then turn.directedInterval.getD intervalSecs else 30 := by
  unfold Turn.succeeded Turn.directedInterval nextInterval
  cases heartbeatResult turn.exchange with
  | error e => rfl
  | ok resp =>
    cases interval : resp.heartbeatIntervalSeconds with
    | none => simp [interval, Except.isOk, Except.toBool]
    | some secs =>
      by_cases positive : 0 < secs <;>
        simp [interval, positive, Option.filter, Except.isOk, Except.toBool]

theorem cadence_snoc (initial : Nat) (turns : List Turn) (turn : Turn) :
    cadence initial (turns ++ [turn]) = turn.directedInterval.getD (cadence initial turns) := by
  unfold cadence
  rw [List.filterMap_append]
  cases directed : turn.directedInterval <;> simp [directed]

/-- The one variable holds the retry delay from a failure until the next interval from the server,
and the cadence otherwise. -/
theorem after_intervalSecs (l : Loop) (turns : List Turn) :
    (RetryKept turns → (l.after turns).intervalSecs = 30) ∧
      (¬RetryKept turns → (l.after turns).intervalSecs = cadence l.intervalSecs turns) := by
  induction turns using List.reverseRecOn with
  | nil => exact ⟨fun kept => absurd kept not_since_nil, fun _ => rfl⟩
  | append_singleton turns turn ih =>
    obtain ⟨retrying, steady⟩ := ih
    have next : (l.after (turns ++ [turn])).intervalSecs =
        if turn.succeeded then turn.directedInterval.getD (l.after turns).intervalSecs else 30 := by
      rw [after_append, after_singleton, ← nextInterval_eq]
      rfl
    rw [next, cadence_snoc, RetryKept, since_snoc]
    cases outcome : turn.succeeded with
    | false => simp
    | true =>
      cases directed : turn.directedInterval with
      | none => simpa using ⟨retrying, steady⟩
      | some secs => simp

/-- After a success the loop sleeps as long as the cadence says. -/
def KeepsCadence (quote : String → String) (l : Loop) (turns : List Turn) : Prop :=
  ∀ k turn beat, turns[k]? = some turn → (l.beats quote turns)[k]? = some beat →
    turn.succeeded = true → beat.sleepSecs = cadence l.intervalSecs (turns.take (k + 1))

theorem sleepSecs_eq {l : Loop} {turns : List Turn} {k : Nat} {turn : Turn} {beat : Beat}
    (here : turns[k]? = some turn) (sent : (l.beats quote turns)[k]? = some beat) :
    beat.sleepSecs = (l.after (turns.take k ++ [turn])).intervalSecs := by
  rw [beats_getElem?, here] at sent
  cases sent
  rw [after_append, after_singleton]

/-- The cadence is kept exactly when each success that brings no interval comes without a failure
since the last interval, or at a cadence of 30 seconds. -/
theorem keeps_cadence_iff (quote : String → String) (identity : LinkerIdentity)
    (config : RegistrationConfig) (adminSecret : String) (turns : List Turn) :
    KeepsCadence quote (.init identity config adminSecret) turns ↔
      ∀ k turn, turns[k]? = some turn → turn.succeeded = true → turn.directedInterval = none →
        RetryKept (turns.take k) →
          cadence config.initialHeartbeatIntervalSecs (turns.take k) = 30 := by
  have taken : ∀ k turn, turns[k]? = some turn → turns.take (k + 1) = turns.take k ++ [turn] := by
    intro k turn here
    rw [List.take_add_one, here]
    rfl
  constructor
  · intro keeps k turn here succeeded undirected kept
    obtain ⟨beat, sent⟩ : ∃ beat, ((Loop.init identity config adminSecret).beats quote turns)[k]? =
        some beat := by
      rw [beats_getElem?, here]
      exact ⟨_, rfl⟩
    have slept := keeps k turn beat here sent succeeded
    have retrying := (after_intervalSecs (.init identity config adminSecret)
      (turns.take k ++ [turn])).1 (kept.later undirected)
    rw [sleepSecs_eq here sent, retrying, taken k turn here, cadence_snoc, undirected] at slept
    exact slept.symm
  · intro steady k turn beat here sent succeeded
    rw [sleepSecs_eq here sent, taken k turn here]
    by_cases kept : RetryKept (turns.take k ++ [turn])
    · rw [(after_intervalSecs _ _).1 kept]
      rcases since_snoc.mp kept with failed | ⟨before, undirected⟩
      · rw [failed] at succeeded
        cases succeeded
      · rw [cadence_snoc, undirected]
        exact (steady k turn here succeeded undirected before).symm
    · exact (after_intervalSecs _ _).2 kept

/-- After one failure the loop goes on at 30 seconds, whatever succeeds. -/
theorem keeps_cadence_afterFailure :
    ¬∀ (quote : String → String) (identity : LinkerIdentity) (config : RegistrationConfig)
      (adminSecret : String) (turns : List Turn),
      KeepsCadence quote (.init identity config adminSecret) turns := by
  intro always
  have slept := always id sampleIdentity sampleConfig "secret" [unsent, renewed] 1 renewed _ rfl rfl rfl
  exact absurd slept (by decide)

/-- Where the shutdown signal finds the loop: in a heartbeat, which is then cut short, or in the
sleep after one. -/
inductive Stop where
  | duringHeartbeat (timestamp : String)
  | duringSleep (turn : Turn)

inductive Action where
  | heartbeat (request : HeartbeatRequest)
  | sleep (secs : Nat)
  | deregister (request : DeregisterRequest)

def handleShutdown (quote : String → String) (client : RegistrationClient) (now : String) :
    List Action :=
  if ¬client.isRegistered then []
  else [.deregister (client.deregisterRequest quote now)]

/-- `run` through these rounds and up to the signal, which comes at `now`. -/
def Loop.run (quote : String → String) (now : String) (stop : Stop) (l : Loop) :
    List Turn → List Action
  | [] =>
    match stop with
    | .duringHeartbeat timestamp =>
      .heartbeat (l.client.heartbeatRequest quote timestamp) :: handleShutdown quote l.client now
    | .duringSleep turn =>
      .heartbeat (l.client.heartbeatRequest quote turn.timestamp) ::
        .sleep (l.step turn).intervalSecs :: handleShutdown quote (l.step turn).client now
  | turn :: rest =>
    .heartbeat (l.client.heartbeatRequest quote turn.timestamp) ::
      .sleep (l.step turn).intervalSecs :: (l.step turn).run quote now stop rest

/-- The heartbeats of the run that were not cut short. -/
def Stop.completed (turns : List Turn) : Stop → List Turn
  | .duringHeartbeat _ => turns
  | .duringSleep turn => turns ++ [turn]

def Deregisters (actions : List Action) : Prop := ∃ request, .deregister request ∈ actions

theorem deregisters_handleShutdown (now : String) :
    Deregisters (handleShutdown quote client now) ↔ client.isRegistered = true := by
  unfold Deregisters handleShutdown
  cases client.isRegistered <;> simp

theorem deregisters_cons {action : Action} {actions : List Action}
    (other : ∀ request, action ≠ .deregister request) :
    Deregisters (action :: actions) ↔ Deregisters actions := by
  unfold Deregisters
  simp only [List.mem_cons]
  refine exists_congr fun request => ⟨?_, .inr⟩
  rintro (same | member)
  · exact absurd same.symm (other request)
  · exact member

/-- What the flag says when the signal comes decides. -/
theorem deregisters_run (l : Loop) (now : String) (stop : Stop) (turns : List Turn) :
    Deregisters (l.run quote now stop turns) ↔
      (l.after (stop.completed turns)).client.isRegistered = true := by
  induction turns generalizing l with
  | nil =>
    cases stop with
    | duringHeartbeat timestamp =>
      rw [Loop.run, deregisters_cons (by simp), deregisters_handleShutdown]
      rfl
    | duringSleep turn =>
      rw [Loop.run, deregisters_cons (by simp), deregisters_cons (by simp),
        deregisters_handleShutdown]
      rfl
  | cons turn rest ih =>
    rw [Loop.run, deregisters_cons (by simp), deregisters_cons (by simp), ih]
    cases stop <;> rfl

/-- The client deregisters exactly when some heartbeat has succeeded if none has, or the last one
did. -/
theorem deregisters_iff (quote : String → String) (identity : LinkerIdentity)
    (config : RegistrationConfig) (adminSecret now : String) (stop : Stop) (turns : List Turn) :
    (Deregisters ((Loop.init identity config adminSecret).run quote now stop turns) ↔
      ∃ turn ∈ stop.completed turns, turn.succeeded = true) ↔
    (∀ turn ∈ stop.completed turns, turn.succeeded = false) ∨
      ∃ turn, (stop.completed turns).getLast? = some turn ∧ turn.succeeded = true := by
  rw [deregisters_run, after_client]
  generalize stop.completed turns = completed
  have none : (∀ turn ∈ completed, turn.succeeded = false) ↔
      ¬∃ turn ∈ completed, turn.succeeded = true := by simp
  rw [none]
  cases last : completed.getLast? with
  | none =>
    rw [List.getLast?_eq_none_iff] at last
    simp [last, Loop.init, Loop.start, RegistrationClient.new]
  | some turn =>
    have member := List.mem_of_getLast? last
    cases outcome : turn.succeeded with
    | false => simp [outcome]
    | true =>
      refine iff_of_true ?_ (.inr ⟨turn, rfl, outcome⟩)
      exact iff_of_true (by simp [outcome]) ⟨turn, member, outcome⟩

/-- A failure between the last success and the shutdown. -/
theorem deregisters_not_afterFailure :
    ¬∀ (quote : String → String) (identity : LinkerIdentity) (config : RegistrationConfig)
      (adminSecret now : String) (stop : Stop) (turns : List Turn),
      Deregisters ((Loop.init identity config adminSecret).run quote now stop turns) ↔
        ∃ turn ∈ stop.completed turns, turn.succeeded = true := by
  intro always
  have registered := (always id sampleIdentity sampleConfig "secret" "now" (.duringSleep unsent)
    [renewed]).mpr ⟨renewed, List.mem_cons_self, rfl⟩
  rw [deregisters_run] at registered
  cases registered

end H2hcLinker.Registration
