import H2hcLinker.WebSocket

/-! The loop of `send_remote_signals` with what it sends to other peers. A signal for an agent of a
local browser is delivered directly, any other is sent through kitsune2. -/
namespace H2hcLinker.RemoteSignals

/-- The wire library's signature, a 64-byte array. -/
structure Signature where
  bytes : List UInt8
  size : bytes.length = 64
  deriving DecidableEq

def Signature.tryFrom (bytes : List UInt8) : Option Signature :=
  if size : bytes.length = 64 then some ⟨bytes, size⟩ else none

def Signature.zero : Signature := ⟨List.replicate 64 0, List.length_replicate⟩

inductive WireMessage where
  | remoteSignalEvt (toAgent : AgentPubKey) (zomeCallParams : List UInt8) (signature : Signature)
  /-- The variants that carry no signal. -/
  | other (encoded : List UInt8)
  deriving DecidableEq

/-- What the calls that are awaited for one signal yield. -/
structure Turn where
  /-- `is_registered`. -/
  registered : Bool
  /-- `AgentProxyManager::send_signal`. -/
  delivered : Bool
  space : Except String Unit
  /-- The url of the peer store's agent info, if there is one. -/
  peer : Except String (Option (Option String))
  encoded : Except String (List UInt8)
  notified : Except String Unit

inductive Fate where
  | invalidTarget
  | direct (target : AgentPubKey) (message : ServerMessage) (delivered : Bool)
  | unreachable
  | network (url : String) (message : WireMessage) (sent : Bool)
  deriving DecidableEq

/-- `success_count` grows, or else `fail_count` does. -/
def Fate.succeeded : Fate → Bool
  | .invalidTarget | .unreachable => false
  | .direct _ _ delivered => delivered
  | .network _ _ sent => sent

def Fate.notified : Fate → Option (String × WireMessage)
  | .network url message _ => some (url, message)
  | _ => none

/-- The signal was not for a local browser. -/
def Fate.onNetwork : Fate → Bool
  | .unreachable | .network _ _ _ => true
  | .invalidTarget | .direct _ _ _ => false

variable (libs : Libraries)

def directMessage (dna : DnaHash) (target : AgentPubKey) (zomeCallParams : List UInt8) :
    ServerMessage :=
  .signal (libs.codec.dnaToStr dna) (libs.codec.agentToStr target) "remote" "recv_remote_signal"
    (libs.base64Encode zomeCallParams)

/-- A signature of another length is replaced by zeros. -/
def wireMessage (target : AgentPubKey) (signal : SignedRemoteSignalInput) : WireMessage :=
  .remoteSignalEvt target signal.zomeCallParams ((Signature.tryFrom signal.signature).getD .zero)

def sendRemoteSignal (dna : DnaHash) (signal : SignedRemoteSignalInput) (turn : Turn) : Fate :=
  match libs.codec.agentOfRaw39 signal.targetAgent with
  | none => .invalidTarget
  | some target =>
    if turn.registered then
      .direct target (directMessage libs dna target signal.zomeCallParams) turn.delivered
    else
      match turn.space with
      | .error _ => .unreachable
      | .ok _ =>
        match turn.peer with
        | .ok (some (some url)) =>
          match turn.encoded with
          | .error _ => .unreachable
          | .ok _ =>
            match turn.notified with
            | .error _ => .network url (wireMessage target signal) false
            | .ok _ => .network url (wireMessage target signal) true
        | _ => .unreachable

/-- The counters of the loop, and what became of the signals so far. -/
structure Tally where
  successCount : Nat
  failCount : Nat
  fates : List (SignedRemoteSignalInput × Fate)

def Tally.start : Tally := ⟨0, 0, []⟩

def Tally.count (acc : Tally) (signal : SignedRemoteSignalInput) (fate : Fate) : Tally where
  successCount := if fate.succeeded then acc.successCount + 1 else acc.successCount
  failCount := if fate.succeeded then acc.failCount else acc.failCount + 1
  fates := acc.fates ++ [(signal, fate)]

def sendRemoteSignals (dna : DnaHash) (signals : List (SignedRemoteSignalInput × Turn)) : Tally :=
  signals.foldl (fun acc entry => acc.count entry.1 (sendRemoteSignal libs dna entry.1 entry.2)) .start

variable {libs} {dna : DnaHash}

theorem foldl_count (signals : List (SignedRemoteSignalInput × Turn)) (acc : Tally) :
    (signals.foldl (fun acc entry => acc.count entry.1 (sendRemoteSignal libs dna entry.1 entry.2))
      acc).fates = acc.fates ++
        signals.map fun entry => (entry.1, sendRemoteSignal libs dna entry.1 entry.2) := by
  induction signals generalizing acc with
  | nil => simp
  | cons entry rest ih =>
    rw [List.foldl_cons, ih]
    simp [Tally.count]

theorem sendRemoteSignals_fates (signals : List (SignedRemoteSignalInput × Turn)) :
    (sendRemoteSignals libs dna signals).fates =
      signals.map fun entry => (entry.1, sendRemoteSignal libs dna entry.1 entry.2) :=
  foldl_count signals .start

structure Tally.Balanced (tally : Tally) : Prop where
  success : tally.successCount = tally.fates.countP (·.2.succeeded)
  fail : tally.failCount = tally.fates.countP (!·.2.succeeded)

theorem Tally.Balanced.count {acc : Tally} (balanced : acc.Balanced)
    (signal : SignedRemoteSignalInput) (fate : Fate) : (acc.count signal fate).Balanced := by
  obtain ⟨success, fail⟩ := balanced
  cases outcome : fate.succeeded with
  | false => constructor <;> simp [Tally.count, List.countP_append, outcome, success, fail]
  | true => constructor <;> simp [Tally.count, List.countP_append, outcome, success, fail]

theorem sendRemoteSignals_balanced (signals : List (SignedRemoteSignalInput × Turn)) :
    (sendRemoteSignals libs dna signals).Balanced := by
  unfold sendRemoteSignals
  generalize started : Tally.start = acc
  have balanced : acc.Balanced := started ▸ ⟨rfl, rfl⟩
  clear started
  induction signals generalizing acc with
  | nil => exact balanced
  | cons entry rest ih => exact ih _ (balanced.count _ _)

/-- The signal's bytes get as far as `send_notify`. -/
structure Reaches (libs : Libraries) (signal : SignedRemoteSignalInput) (turn : Turn) : Prop where
  target : (libs.codec.agentOfRaw39 signal.targetAgent).isSome
  elsewhere : turn.registered = false
  space : turn.space.isOk
  peer : ∃ url, turn.peer = .ok (some (some url))
  encoded : turn.encoded.isOk

/-- A signal went to other peers as the browser signed it, or was counted as failed. -/
structure OwnSignature (libs : Libraries) (signal : SignedRemoteSignalInput) (fate : Fate) : Prop where
  carries : ∀ url message, fate.notified = some (url, message) → ∃ target signature,
    libs.codec.agentOfRaw39 signal.targetAgent = some target ∧ signature.bytes = signal.signature ∧
      message = .remoteSignalEvt target signal.zomeCallParams signature
  rejects : fate.onNetwork = true → signal.signature.length ≠ 64 →
    fate.notified = none ∧ fate.succeeded = false

theorem fate_cases (libs : Libraries) (dna : DnaHash) (signal : SignedRemoteSignalInput)
    (turn : Turn) :
    ¬Reaches libs signal turn ∧ (sendRemoteSignal libs dna signal turn).notified = none ∧
        ((sendRemoteSignal libs dna signal turn).onNetwork = true →
          (sendRemoteSignal libs dna signal turn).succeeded = false) ∨
      Reaches libs signal turn ∧ ∃ target url sent,
        libs.codec.agentOfRaw39 signal.targetAgent = some target ∧
        sendRemoteSignal libs dna signal turn = .network url (wireMessage target signal) sent := by
  unfold sendRemoteSignal
  split
  next invalid =>
    have unread (reaches : Reaches libs signal turn) : False := by simpa [invalid] using reaches.target
    exact .inl ⟨unread, rfl, fun route => (nomatch route)⟩
  next target valid =>
    split
    next here =>
      have direct (reaches : Reaches libs signal turn) : False := by simpa [here] using reaches.elsewhere
      exact .inl ⟨direct, rfl, fun route => (nomatch route)⟩
    next elsewhere =>
      split
      next e unmade =>
        have spaceless (reaches : Reaches libs signal turn) : False := by
          simpa [unmade, Except.isOk, Except.toBool] using reaches.space
        exact .inl ⟨spaceless, rfl, fun _ => rfl⟩
      next made =>
        split
        next url peer =>
          split
          next e unwritten =>
            have unencoded (reaches : Reaches libs signal turn) : False := by
              simpa [unwritten, Except.isOk, Except.toBool] using reaches.encoded
            exact .inl ⟨unencoded, rfl, fun _ => rfl⟩
          next written =>
            have reaches : Reaches libs signal turn := by
              constructor
              case target => exact Option.isSome_iff_exists.mpr ⟨target, valid⟩
              case elsewhere => exact Bool.eq_false_of_not_eq_true elsewhere
              case space => rw [made]; rfl
              case peer => exact ⟨url, peer⟩
              case encoded => rw [written]; rfl
            refine .inr ⟨reaches, target, url, ?_⟩
            split
            next => exact ⟨false, valid, rfl⟩
            next => exact ⟨true, valid, rfl⟩
        next unknown =>
          have homeless (reaches : Reaches libs signal turn) : False :=
            reaches.peer.elim fun url found => unknown url found
          exact .inl ⟨homeless, rfl, fun _ => rfl⟩

theorem ownSignature_iff (signal : SignedRemoteSignalInput) (turn : Turn) :
    OwnSignature libs signal (sendRemoteSignal libs dna signal turn) ↔
      (Reaches libs signal turn → signal.signature.length = 64) := by
  rcases fate_cases libs dna signal turn with
    ⟨unreached, silent, failed⟩ | ⟨reaches, target, url, sent, valid, fate⟩
  · refine iff_of_true ?_ fun reaches => absurd reaches unreached
    constructor
    case carries =>
      intro url message sent
      rw [silent] at sent
      cases sent
    case rejects => exact fun route _ => ⟨silent, failed route⟩
  · rw [fate]
    constructor
    · intro own _
      by_contra malformed
      cases (own.rejects rfl malformed).1
    · intro signed
      have size := signed reaches
      constructor
      case carries =>
        intro url' message notified
        cases notified
        refine ⟨target, ⟨signal.signature, size⟩, valid, rfl, ?_⟩
        simp [wireMessage, Signature.tryFrom, size]
      case rejects => exact fun _ malformed => absurd size malformed

/-- Every signal of a batch goes out as signed, or fails, exactly when the ones that get as far as
`send_notify` have signatures of 64 bytes. -/
theorem signals_own_signature_iff (libs : Libraries) (dna : DnaHash)
    (signals : List (SignedRemoteSignalInput × Turn)) :
    (∀ entry ∈ (sendRemoteSignals libs dna signals).fates, OwnSignature libs entry.1 entry.2) ↔
      ∀ entry ∈ signals, Reaches libs entry.1 entry.2 → entry.1.signature.length = 64 := by
  rw [sendRemoteSignals_fates, List.forall_mem_map]
  exact forall₂_congr fun entry _ => ownSignature_iff entry.1 entry.2

def reachedTurn : Turn := ⟨false, false, .ok (), .ok (some (some "wss://peer")), .ok [], .ok ()⟩

/-- A signal without a signature is sent, with zeros for one, and counted as a success. -/
theorem signals_own_signature_unsigned :
    ¬∀ (libs : Libraries) (dna : DnaHash) (signals : List (SignedRemoteSignalInput × Turn)),
      ∀ entry ∈ (sendRemoteSignals libs dna signals).fates, OwnSignature libs entry.1 entry.2 := by
  intro always
  have own := always sampleLibraries sampleDna [(⟨bob.raw, [1], []⟩, reachedTurn)] _
    List.mem_cons_self
  exact absurd (own.rejects rfl (by decide)).2 (by decide)

/-- The sections that the WebSocket tasks run carry the message of the direct route. -/
theorem remoteSignals_of_direct {signal : SignedRemoteSignalInput} {turn : Turn}
    {target : AgentPubKey} {message : ServerMessage} {delivered : Bool}
    (rest : List SignedRemoteSignalInput)
    (fate : sendRemoteSignal libs dna signal turn = .direct target message delivered) :
    WebSocket.remoteSignals libs dna (signal :: rest) =
      [.isRegistered (dna, target) message, .remoteSignals dna rest] := by
  unfold sendRemoteSignal at fate
  split at fate
  next => cases fate
  next found valid =>
    split at fate
    next =>
      cases fate
      rw [WebSocket.remoteSignals, valid]
      rfl
    next =>
      have silent : ∀ f : Fate, f.onNetwork = true → f ≠ .direct target message delivered := by
        rintro f route rfl
        cases route
      refine absurd fate (silent _ ?_)
      repeat' split
      all_goals rfl

end H2hcLinker.RemoteSignals
