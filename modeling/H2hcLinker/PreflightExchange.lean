import H2hcLinker.Holdings
import H2hcLinker.Layering
import H2hcLinker.Past
import H2hcLinker.Preflight

/-! What peers see of the agents. The bootstrap wrappers of the spaces put signed infos into the
shared cache and pass them on, while peers are sent the cached preflight and theirs is checked. -/
namespace H2hcLinker.Preflight

open Interleaving Past

/-- The cache that all spaces share, and what each space's own bootstrap module was put. -/
structure Bootstrapping where
  cache : PreflightCache
  orig : List UInt8 → List AgentInfoSigned

def Bootstrapping.new (cache : PreflightCache) : Bootstrapping := ⟨cache, fun _ => []⟩

/-- `BootstrapWrapper::put` of the wrapper for a space. -/
structure Put where
  space : List UInt8
  info : AgentInfoSigned
  deriving DecidableEq

inductive PutSection where
  | addAgent (put : Put) (act : Section)
  | forward (put : Put)
  deriving DecidableEq

def performPut (codec : WireCodec) (act : PutSection) (now : Int) (s : Bootstrapping) :
    Bootstrapping × List PutSection :=
  match act with
  | .addAgent put act =>
    let after := perform codec act now s.cache
    ({ s with cache := after.1 }, after.2.map (.addAgent put))
  | .forward put =>
    ({ s with orig := Function.update s.orig put.space (s.orig put.space ++ [put.info]) }, [])

def bootstraps (codec : WireCodec) : Program Nat Put PutSection Int Bootstrapping where
  body _ put := [.addAgent put (.update put.info), .forward put]
  perform := performPut codec

/-- What it decodes of the bytes only goes to the log. -/
def preflightGatherOutgoing (c : PreflightCache) : List UInt8 := c.get

def preflightValidateIncoming (codec : WireCodec) (peerUrl : String) (data : List UInt8) :
    Except String Unit :=
  match codec.decode data with
  | .error e => .error s!"Invalid preflight from peer: {e}"
  | .ok preflight =>
    if preflight.compat.protoVer ≠ 2 then
      .error s!"Incompatible protocol version from {peerUrl}: expected 2, got {preflight.compat.protoVer}"
    else .ok ()

abbrev Announcing := Pool Nat PutSection Bootstrapping

abbrev PutTurn := Moment Nat PutSection Int Bootstrapping

variable {codec : WireCodec} {past : List PutTurn} {p : Announcing} {t : Nat} {act : PutSection}
  {rest : List PutSection} {now : Int} {put : Put} {texts : List String}

theorem preflightValidateIncoming_ok {peerUrl : String} {data : List UInt8} :
    preflightValidateIncoming codec peerUrl data = .ok () ↔
      ∃ message, codec.decode data = .ok message ∧ message.compat.protoVer = hcp2pProtoVer := by
  unfold preflightValidateIncoming
  cases decoded : codec.decode data with
  | error e => simp
  | ok message => simp [hcp2pProtoVer]

/-- The call of this task put its info into the list, and these are the encodings then. -/
def Copies (codec : WireCodec) (t : Nat) (put : Put) (texts : List String) (_ : List PutTurn)
    (m : PutTurn) : Prop :=
  m.task = t ∧ m.act = .addAgent put (.update put.info) ∧
    texts = encodings codec (updateAgents m.input put.info m.pool.shared.cache.agents)

/-- The call of this task wrote what it had copied. -/
def Writes (codec : WireCodec) (t : Nat) (put : Put) (texts : List String) (before : List PutTurn)
    (m : PutTurn) : Prop :=
  m.task = t ∧ m.act = .addAgent put (.write texts) ∧
    Since (·.task ≠ t) (Copies codec t put texts) before

/-- How far the call of a task is. -/
inductive Stage (codec : WireCodec) (past : List PutTurn) (t : Nat) : List PutSection → Prop where
  | returned : Stage codec past t []
  | called (put : Put) : Stage codec past t [.addAgent put (.update put.info), .forward put]
  | copied (put : Put) (texts : List String)
      (copies : Since (·.task ≠ t) (Copies codec t put texts) past) :
      Stage codec past t [.addAgent put (.write texts), .forward put]
  | written (put : Put) (texts : List String)
      (writes : Since (·.task ≠ t) (Writes codec t put texts) past) :
      Stage codec past t [.forward put]

def Staged (codec : WireCodec) (past : List PutTurn) (p : Announcing) : Prop :=
  ∀ t, Stage codec past t (p.tasks t)

/-- The message was put together anew. -/
def Rewrites (codec : WireCodec) (m : PutTurn) : Prop :=
  ∃ put texts bytes, m.act = .addAgent put (.write texts) ∧ codec.encode ⟨.default, texts⟩ = .ok bytes

/-- The last message that was put together carries these encodings, all copied at once by the call
that wrote it; before the first there are none. -/
def Served (codec : WireCodec) (past : List PutTurn) (texts : List String) : Prop :=
  texts = [] ∧ (∀ m ∈ past, ¬Rewrites codec m) ∨
    Since (¬Rewrites codec ·) (fun before m => ∃ put, Writes codec m.task put texts before m) past

/-- What a turn passes on to the bootstrap module of a space. -/
def forwardedTo (space : List UInt8) (m : PutTurn) : Option AgentInfoSigned :=
  match m.act with
  | .forward put => if put.space = space then some put.info else none
  | _ => none

/-- What a turn takes into the list for a space. -/
def takenFor (space : List UInt8) (m : PutTurn) : Option AgentInfoSigned :=
  match m.act with
  | .addAgent put (.update _) => if put.space = space then some put.info else none
  | _ => none

/-- What holds of a linker's preflights and bootstrap modules. -/
structure Exchanged (codec : WireCodec) (past : List PutTurn) (p : Announcing) : Prop where
  accepted : ∀ peerUrl,
    preflightValidateIncoming codec peerUrl (preflightGatherOutgoing p.shared.cache) = .ok ()
  snapshot : ∃ texts, codec.decode (preflightGatherOutgoing p.shared.cache) = .ok ⟨.default, texts⟩ ∧
    Served codec past texts
  forwarded : ∀ space, p.shared.orig space = past.filterMap (forwardedTo space)
  announced : Always (fun before m => ∀ put, m.act = .forward put → ∃ texts,
    Since (·.task ≠ m.task) (Writes codec m.task put texts) before ∧
      ∀ text, codec.encodeAgent put.info = .ok text → text ∈ texts) past
  complete : p.Quiescent → ∀ space, (p.shared.orig space).Perm (past.filterMap (takenFor space))

theorem Stage.later {acts : List PutSection} (stage : Stage codec past t acts) {m : PutTurn}
    (other : m.task ≠ t) : Stage codec (past ++ [m]) t acts := by
  cases stage with
  | returned => exact .returned
  | called put => exact .called put
  | copied put texts copies => exact .copied put texts (copies.later other)
  | written put texts writes => exact .written put texts (writes.later other)

/-- Writing ends `add_agent`, whether the message encodes or not. -/
theorem write_ends (put : Put) (s : Bootstrapping) :
    (performPut codec (.addAgent put (.write texts)) now s).2 = [] := by
  simp only [performPut, perform]
  split <;> rfl

/-- One section takes a call one stage on. -/
theorem Stage.turn (stage : Stage codec past t (act :: rest)) (running : p.tasks t = act :: rest) :
    Stage codec (past ++ [⟨p, t, act, now⟩]) t ((performPut codec act now p.shared).2 ++ rest) := by
  cases stage with
  | called put => exact .copied put _ (since_now ⟨rfl, rfl, rfl⟩)
  | copied put texts copies =>
    rw [write_ends]
    exact .written put texts (since_now ⟨rfl, rfl, copies⟩)
  | written put texts writes => exact .returned

theorem staged_execute (schedule : List (Event Nat Put Int)) (s : Bootstrapping) :
    Staged codec ((bootstraps codec).moments schedule (.start s))
      ((bootstraps codec).execute schedule (.start s)) := by
  apply execute_moments (Staged codec) (fun _ _ _ _ => True) _ _ schedule [] _
    (guarded_trivial schedule _)
  · exact fun t => .returned
  · intro past t put p idle staged u
    by_cases same : u = t
    · subst same
      simpa using! Stage.called put
    · simpa [same] using staged u
  · rintro past t now act rest p running - staged u
    by_cases same : u = t
    · subst same
      have stage := staged u
      rw [running] at stage
      simpa using! stage.turn running
    · simpa [same] using (staged u).later (Ne.symm same)

/-- The info that a call takes into the list is in what it copies. -/
theorem Copies.encoded {before : List PutTurn} {m : PutTurn}
    (copies : Copies codec t put texts before m) {text : String}
    (encodes : codec.encodeAgent put.info = .ok text) : text ∈ texts := by
  obtain ⟨-, -, rfl⟩ := copies
  exact List.mem_filterMap.mpr ⟨put.info, by simp [updateAgents], by simp [encodes, Except.toOption]⟩

def PutSection.takes (space : List UInt8) (info : AgentInfoSigned) : PutSection → Nat
  | .addAgent put (.update _) => if put = ⟨space, info⟩ then 1 else 0
  | _ => 0

def PutSection.passes (space : List UInt8) (info : AgentInfoSigned) : PutSection → Nat
  | .forward put => if put = ⟨space, info⟩ then 1 else 0
  | _ => 0

/-- What was taken into the list for a space or will be was passed on or will be. -/
def Counted (past : List PutTurn) (p : Announcing) (space : List UInt8) (info : AgentInfoSigned) :
    Prop :=
  ∃ takes passes, p.Weighs (PutSection.takes space info) takes ∧
    p.Weighs (PutSection.passes space info) passes ∧
    (past.filterMap (takenFor space)).count info + takes =
      (past.filterMap (forwardedTo space)).count info + passes

/-- What stays true of a linker's preflights while puts go on. -/
structure Exchanging (codec : WireCodec) (past : List PutTurn) (p : Announcing) : Prop where
  compat : p.shared.cache.compat = .default
  served : ∃ texts, codec.encode ⟨.default, texts⟩ = .ok p.shared.cache.preflight ∧
    Served codec past texts
  forwarded : ∀ space, p.shared.orig space = past.filterMap (forwardedTo space)
  announced : Always (fun before m => ∀ put, m.act = .forward put → ∃ texts,
    Since (·.task ≠ m.task) (Writes codec m.task put texts) before ∧
      ∀ text, codec.encodeAgent put.info = .ok text → text ∈ texts) past
  counted : ∀ space info, Counted past p space info

/-- A turn that puts no message together leaves the last one. -/
theorem Served.later (served : Served codec past texts) {m : PutTurn} (quiet : ¬Rewrites codec m) :
    Served codec (past ++ [m]) texts := by
  rcases served with ⟨none, silent⟩ | since
  · refine .inl ⟨none, fun other member => ?_⟩
    rcases List.mem_append.mp member with old | new
    · exact silent other old
    · rwa [List.mem_singleton.mp new]
  · exact .inr (since.later quiet)

theorem served_turn (inv : Exchanging codec past p)
    (stage : Stage codec past t (act :: rest)) :
    ∃ texts, codec.encode ⟨.default, texts⟩ =
        .ok (performPut codec act now p.shared).1.cache.preflight ∧
      Served codec (past ++ [⟨p, t, act, now⟩]) texts := by
  obtain ⟨texts, encoded, served⟩ := inv.served
  cases stage with
  | called put =>
    refine ⟨texts, encoded, served.later ?_⟩
    rintro ⟨_, _, _, other, _⟩
    cases other
  | copied put copy copies =>
    cases rewritten : codec.encode ⟨.default, copy⟩ with
    | ok bytes =>
      refine ⟨copy, ?_, .inr (since_now ⟨put, rfl, rfl, copies⟩)⟩
      simp [performPut, perform, inv.compat, rewritten]
    | error e =>
      refine ⟨texts, ?_, served.later ?_⟩
      · simpa [performPut, perform, inv.compat, rewritten] using encoded
      · rintro ⟨_, _, bytes, same, encodes⟩
        cases same
        simp [rewritten] at encodes
  | written put copy writes =>
    refine ⟨texts, encoded, served.later ?_⟩
    rintro ⟨_, _, _, other, _⟩
    cases other

theorem compat_turn (inv : Exchanging codec past p) (act : PutSection) (now : Int) :
    (performPut codec act now p.shared).1.cache.compat = .default := by
  unfold performPut
  split
  next put act =>
    simp only [perform]
    split
    · exact inv.compat
    · split
      · exact inv.compat
      · exact inv.compat
  next => exact inv.compat

theorem forwarded_turn (inv : Exchanging codec past p) (space : List UInt8) {m : PutTurn}
    (turn : m.act = act) : (performPut codec act now p.shared).1.orig space =
      (past ++ [m]).filterMap (forwardedTo space) := by
  rw [filterMap_snoc, ← inv.forwarded space]
  cases act with
  | addAgent put act => simp [performPut, forwardedTo, turn]
  | forward put =>
    by_cases same : put.space = space
    · subst same
      simp [performPut, forwardedTo, turn]
    · simp [performPut, forwardedTo, turn, same, Function.update_of_ne (Ne.symm same)]

theorem announced_turn (inv : Exchanging codec past p) (stage : Stage codec past t (act :: rest)) :
    Always (fun before m => ∀ put, m.act = .forward put → ∃ texts,
      Since (·.task ≠ m.task) (Writes codec m.task put texts) before ∧
        ∀ text, codec.encodeAgent put.info = .ok text → text ∈ texts)
      (past ++ [⟨p, t, act, now⟩]) := by
  apply inv.announced.snoc
  rintro put rfl
  cases stage with
  | written put texts writes =>
    refine ⟨texts, writes, fun text encodes => ?_⟩
    obtain ⟨before, m, after, -, ⟨-, -, copies⟩, -⟩ := writes
    obtain ⟨first, copy, between, -, copied, -⟩ := copies
    exact copied.encoded encodes

theorem count_addressed (put : Put) (space : List UInt8) (info : AgentInfoSigned) :
    (if put.space = space then some put.info else none).toList.count info =
      if put = ⟨space, info⟩ then 1 else 0 := by
  by_cases here : put.space = space
  · by_cases same : put.info = info
    · simp [← here, ← same]
    · have other : ¬put = ⟨space, info⟩ := by
        rintro rfl
        exact same rfl
      simp [here, same, other]
  · have other : ¬put = ⟨space, info⟩ := by
      rintro rfl
      exact here rfl
    simp [here, other]

theorem counted_turn (inv : Exchanging codec past p) (stage : Stage codec past t (act :: rest))
    (running : p.tasks t = act :: rest) (space : List UInt8) (info : AgentInfoSigned) :
    Counted (past ++ [⟨p, t, act, now⟩]) ⟨(performPut codec act now p.shared).1,
      Function.update p.tasks t ((performPut codec act now p.shared).2 ++ rest)⟩ space info := by
  obtain ⟨takes, passes, taking, passing, balance⟩ := inv.counted space info
  obtain ⟨otherTakes, rfl, taken⟩ := taking.turn running
  obtain ⟨otherPasses, rfl, passed⟩ := passing.turn running
  refine ⟨_, _, taken _ _, passed _ _, ?_⟩
  rw [filterMap_snoc, filterMap_snoc, List.count_append, List.count_append]
  cases stage with
  | called put =>
    have one := count_addressed put space info
    simp only [performPut, perform, weighAll, PutSection.takes, PutSection.passes, takenFor,
      forwardedTo, List.map_cons, List.map_nil, List.sum_cons, List.sum_nil, Option.toList_none,
      List.count_nil] at balance ⊢
    omega
  | copied put copy copies =>
    rw [write_ends]
    simpa [weighAll, PutSection.takes, PutSection.passes, takenFor, forwardedTo] using balance
  | written put copy writes =>
    have one := count_addressed put space info
    simp only [performPut, weighAll, PutSection.takes, PutSection.passes, takenFor, forwardedTo,
      List.map_nil, List.sum_nil, Option.toList_none, List.count_nil] at balance ⊢
    omega

theorem exchanging_call (inv : Exchanging codec past p) (idle : p.tasks t = []) (put : Put) :
    Exchanging codec past
      ⟨p.shared, Function.update p.tasks t ((bootstraps codec).body t put)⟩ where
  compat := inv.compat
  served := inv.served
  forwarded := inv.forwarded
  announced := inv.announced
  counted space info := by
    obtain ⟨takes, passes, taking, passing, balance⟩ := inv.counted space info
    refine ⟨_, _, taking.call idle _, passing.call idle _, ?_⟩
    simp only [bootstraps, weighAll, PutSection.takes, PutSection.passes, List.map_cons, List.map_nil,
      List.sum_cons, List.sum_nil]
    omega

theorem exchanging_turn (inv : Exchanging codec past p) (stage : Stage codec past t (act :: rest))
    (running : p.tasks t = act :: rest) (now : Int) :
    Exchanging codec (past ++ [⟨p, t, act, now⟩]) ⟨((bootstraps codec).perform act now p.shared).1,
      Function.update p.tasks t (((bootstraps codec).perform act now p.shared).2 ++ rest)⟩ where
  compat := compat_turn inv act now
  served := served_turn inv stage
  forwarded space := forwarded_turn inv space rfl
  announced := announced_turn inv stage
  counted := counted_turn inv stage running

theorem exchanging_start {cache : PreflightCache} (created : PreflightCache.new codec = some cache) :
    Exchanging codec [] (.start (.new cache)) := by
  unfold PreflightCache.new at created
  split at created
  next initial encoded =>
    cases created
    exact ⟨rfl, ⟨[], encoded, .inl ⟨rfl, fun _ member => nomatch member⟩⟩, fun _ => rfl, always_nil,
      fun space info => ⟨0, 0, weighs_start _, weighs_start _, rfl⟩⟩
  next => cases created

theorem exchanging_execute {cache : PreflightCache} (created : PreflightCache.new codec = some cache)
    (schedule : List (Event Nat Put Int)) :
    Exchanging codec ((bootstraps codec).moments schedule (.start (.new cache)))
      ((bootstraps codec).execute schedule (.start (.new cache))) := by
  apply execute_known (Staged codec) (Exchanging codec) (fun es => staged_execute es _)
    (exchanging_start created)
  · rintro past t put p idle - inv
    exact exchanging_call inv idle put
  · intro past t now act rest p running staged inv
    have stage := staged t
    rw [running] at stage
    exact exchanging_turn inv stage running now

theorem Counted.settled {space : List UInt8} {info : AgentInfoSigned}
    (counted : Counted past p space info) (quiet : p.Quiescent) :
    (past.filterMap (takenFor space)).count info = (past.filterMap (forwardedTo space)).count info := by
  obtain ⟨takes, passes, taking, passing, balance⟩ := counted
  have idle (weight : PutSection → Nat) : ∀ t, ∀ act ∈ p.tasks t, weight act = 0 := by
    intro t act member
    rw [quiet t] at member
    cases member
  have noTakes := taking.eq_zero (idle _)
  have noPasses := passing.eq_zero (idle _)
  omega

/-- Whatever puts of the spaces' infos overlap, at any time the preflight that a peer is sent is one
that its validation accepts, and carries the encodings of the list as one call left it, copied at
once. An info goes to the bootstrap module of its space after its call has put together the message
with it, and when all calls have returned each has gone there once. -/
theorem preflights_exchanged {cache : PreflightCache} (created : PreflightCache.new codec = some cache)
    (roundTrip : ∀ message bytes, codec.encode message = .ok bytes → codec.decode bytes = .ok message)
    (schedule : List (Event Nat Put Int)) :
    Exchanged codec ((bootstraps codec).moments schedule (.start (.new cache)))
      ((bootstraps codec).execute schedule (.start (.new cache))) := by
  have inv := exchanging_execute created schedule
  obtain ⟨texts, encoded, served⟩ := inv.served
  have decoded := roundTrip _ _ encoded
  constructor
  case accepted => exact fun peerUrl => preflightValidateIncoming_ok.mpr ⟨_, decoded, rfl⟩
  case snapshot => exact ⟨texts, decoded, served⟩
  case forwarded => exact inv.forwarded
  case announced => exact inv.announced
  case complete =>
    intro quiet space
    rw [inv.forwarded space, List.perm_iff_count]
    exact fun info => ((inv.counted space info).settled quiet).symm

/-- Two calls overlap, and the first writes its older copy last. -/
def putsReversed : List (Event Nat Put Int) :=
  [.call 0 ⟨[9], firstInfo⟩, .call 1 ⟨[9], secondInfo⟩, .turn 0 0, .turn 1 0, .turn 1 0, .turn 0 0,
    .turn 1 0, .turn 0 0]

theorem preflights_exchanged_putsReversed :
    Exchanged numberedCodec ((bootstraps numberedCodec).moments putsReversed (.start (.new emptyCache)))
      ((bootstraps numberedCodec).execute putsReversed (.start (.new emptyCache))) :=
  preflights_exchanged rfl numberedCodec_lawful.round_trip putsReversed

end H2hcLinker.Preflight
