import H2hcLinker.Past
import H2hcLinker.Identity
import H2hcLinker.SignatureSource

/-! Signing requests and the deliveries that answer them. Ids never repeat, since their counter does
not, so a delivery finds the one request it is for, or finds that this one is over. -/
namespace H2hcLinker

theorem digits_before_dash (n : Nat) (text : List Char) :
    ((Nat.toDigits 10 n ++ '-' :: text).takeWhile Char.isDigit) = Nat.toDigits 10 n := by
  rw [List.takeWhile_append_of_pos]
  · simp
  · intro digit member
    exact Nat.isDigit_of_mem_toDigits (by decide) (by decide) member

/-- The counter can be read off an id, whatever the clock said. -/
theorem AgentProxyManager.requestId_counter {m m' : AgentProxyManager} {millis millis' : Nat}
    (same : m.requestId millis = m'.requestId millis') : m.requestCounter = m'.requestCounter := by
  have chars := congrArg String.toList same
  simp only [requestId, String.toList_append, List.append_assoc] at chars
  have digits := congrArg (List.takeWhile Char.isDigit) (List.append_cancel_left chars)
  have dash : "-".toList = ['-'] := by decide
  simp only [Nat.toString_eq_repr, Nat.toList_repr, dash, List.singleton_append, digits_before_dash]
    at digits
  have numbers := congrArg (fun cs => Nat.ofDigitChars 10 cs 0) digits
  simpa using numbers

namespace WebSocket

open HashTable Interleaving Past

variable {libs : Libraries} {p : Running} {t : Task} {act : Section} {rest : List Section}
  {input : Input} {past : List Instant}

theorem perform_requestCounter (libs : Libraries) (act : Section) (input : Input) (s : System) :
    (perform libs act input s).1.agentProxy.requestCounter =
      match act with
      | .signNumber _ _ _ => (s.agentProxy.requestCounter + 1) % 2 ^ 64
      | _ => s.agentProxy.requestCounter := by
  refine (congrArg (·.1.requestCounter) (perform_agentProxy libs act input s)).trans ?_
  cases act with
  | deliverSignature id result =>
    simp only [agentProxyAfter]
    split <;> rfl
  | _ => rfl

/-- The id that a request draws. -/
def drawnId (m : Instant) : Option String :=
  match m.act with
  | .signNumber _ _ _ => some (m.pool.shared.agentProxy.requestId m.input.millis)
  | _ => none

/-- The ids of the requests so far. -/
def requestIds (past : List Instant) : List String := past.filterMap drawnId

/-- The ids so far were drawn from the counter's values so far. -/
structure Counted (past : List Instant) (p : Running) : Prop where
  counter : p.shared.agentProxy.requestCounter = (requestIds past).length % 2 ^ 64
  drawn : ∀ id ∈ requestIds past, ∃ (m : AgentProxyManager) (millis : Nat),
    id = m.requestId millis ∧ m.requestCounter < (requestIds past).length
  distinct : (requestIds past).Nodup

theorem requestIds_snoc (past : List Instant) (m : Instant) :
    requestIds (past ++ [m]) = requestIds past ++ (drawnId m).toList := by
  cases drawn : drawnId m <;> simp [requestIds, drawn]

/-- A section draws no id, or draws the next one. -/
theorem drawnId_cases (libs : Libraries) (p : Running) (t : Task) (act : Section) (input : Input) :
    drawnId ⟨p, t, act, input⟩ = none ∧ (perform libs act input p.shared).1.agentProxy.requestCounter =
        p.shared.agentProxy.requestCounter ∨
      drawnId ⟨p, t, act, input⟩ = some (p.shared.agentProxy.requestId input.millis) ∧
        (perform libs act input p.shared).1.agentProxy.requestCounter =
          (p.shared.agentProxy.requestCounter + 1) % 2 ^ 64 := by
  have counter := perform_requestCounter libs act input p.shared
  cases act with
  | signNumber agent agentInfo sender => exact .inr ⟨rfl, counter⟩
  | _ => exact .inl ⟨rfl, counter⟩

theorem counted_turn (libs : Libraries) (rest : List Section)
    (few : (requestIds (past ++ [⟨p, t, act, input⟩])).length ≤ 2 ^ 64) (inv : Counted past p) :
    Counted (past ++ [⟨p, t, act, input⟩]) ⟨(perform libs act input p.shared).1,
      Function.update p.tasks t ((perform libs act input p.shared).2 ++ rest)⟩ := by
  have ids := requestIds_snoc past ⟨p, t, act, input⟩
  rcases drawnId_cases libs p t act input with ⟨none, counter⟩ | ⟨drawn, counter⟩
  · rw [none, Option.toList_none, List.append_nil] at ids
    refine ⟨?_, ?_, ?_⟩
    · rw [ids]
      exact counter.trans inv.counter
    · rw [ids]
      exact inv.drawn
    · rw [ids]
      exact inv.distinct
  · rw [drawn, Option.toList_some] at ids
    rw [ids, List.length_append, List.length_singleton] at few
    have next : p.shared.agentProxy.requestCounter = (requestIds past).length := by
      rw [inv.counter, Nat.mod_eq_of_lt (by omega)]
    constructor
    · rw [ids, List.length_append, List.length_singleton, ← next]
      exact counter
    · intro id member
      rw [ids, List.mem_append, List.mem_singleton] at member
      rw [ids, List.length_append, List.length_singleton]
      rcases member with old | rfl
      · obtain ⟨m, millis, same, below⟩ := inv.drawn id old
        exact ⟨m, millis, same, by omega⟩
      · exact ⟨p.shared.agentProxy, input.millis, rfl, by omega⟩
    · rw [ids, List.nodup_append]
      refine ⟨inv.distinct, List.nodup_singleton _, ?_⟩
      rintro id old _ new rfl
      obtain ⟨m, millis, rfl, below⟩ := inv.drawn id old
      have same := AgentProxyManager.requestId_counter (List.mem_singleton.mp new)
      omega

/-- A request is about to put its id in the table. -/
def Storing (id : String) : Section → Prop
  | .signStore _ _ _ id' => id' = id
  | _ => False

/-- A request waits, or is about to, for its oneshot. -/
def Waits (n : Nat) : Section → Prop
  | .signSend _ _ m _ | .signWait _ m => m = n
  | _ => False

/-- The result was delivered under this id, whose entry then led to the oneshot. -/
def Delivered (id : String) (n : Nat) (result : SignResult) : List Instant → Prop :=
  Once fun _ m => m.act = .deliverSignature id result ∧
    m.pool.shared.agentProxy.pendingSigns.lookup id = some n

/-- A delivery for the pending request, or the request's own cleanup. -/
def Completes (id : String) (m : Instant) : Prop :=
  (∃ result, m.act = .deliverSignature id result) ∧ id ∈ m.pool.shared.agentProxy.pendingSigns ∨
    ∃ result, m.act = .signCleanup id result

structure Correlated (past : List Instant) (p : Running) : Prop
    extends Counted past p, SignsNumbered p where
  stored : ∀ o ∈ p.shared.oneshots, o.requestId ∈ requestIds past
  storing : ∀ t id, ∀ act ∈ p.tasks t, Storing id act →
    id ∈ requestIds past ∧ ∀ o ∈ p.shared.oneshots, o.requestId ≠ id
  apart : ∀ id, p.Exclusive (Storing id)
  waiters : ∀ n, p.Exclusive (Waits n)
  values : ∀ (n : Nat) o result, p.shared.oneshots[n]? = some o → o.value = some result →
    Delivered o.requestId n result past
  returned : ∀ t id signature, .signCleanup id (.ok signature) ∈ p.tasks t →
    ∃ (n : Nat) (o : Oneshot), p.shared.oneshots[n]? = some o ∧ o.requestId = id ∧
      Delivered id n (.ok signature) past
  completed : ∀ id, Once (fun _ => Completes id) past →
    (∃ o ∈ p.shared.oneshots, o.requestId = id) ∧ id ∉ p.shared.agentProxy.pendingSigns

theorem correlated_start (kitsune auth : Bool) : Correlated [] (.start (.start kitsune auth)) where
  counter := rfl
  drawn _ member := nomatch member
  distinct := List.nodup_nil
  toSignsNumbered := signsNumbered_start kitsune auth
  stored _ member := nomatch member
  storing _ _ _ member := nomatch member
  apart _ _ _ _ member := nomatch member
  waiters _ _ _ _ member := nomatch member
  values _ _ _ known := nomatch known
  returned _ _ _ member := nomatch member
  completed _ once := absurd once not_since_nil

theorem correlated_call (t : Task) (request : Request) (p : Running) (idle : p.tasks t = [])
    (inv : Correlated past p) :
    Correlated past ⟨p.shared, Function.update p.tasks t (Request.body t request)⟩ where
  toCounted := ⟨inv.counter, inv.drawn, inv.distinct⟩
  toSignsNumbered := signsNumbered_call t request p idle inv.toSignsNumbered
  stored := inv.stored
  storing u id act member holds := by
    rcases mem_of_call member with ⟨rfl, first⟩ | old
    · have starts := (body_starts first).1
      cases act with
      | signStore agent agentInfo sender id' => cases starts
      | _ => cases holds
    · exact inv.storing u id act old holds
  apart id := by
    apply exclusive_call (inv.apart id)
    intro act first storing
    have starts := (body_starts first).1
    cases act with
    | signStore agent agentInfo sender id' => cases starts
    | _ => cases storing
  waiters n := by
    apply exclusive_call (inv.waiters n)
    intro act first waits
    have starts := (body_starts first).1
    cases act with
    | signSend sender id m message => cases starts
    | signWait id m => cases starts
    | _ => cases waits
  values := inv.values
  returned u id signature member := by
    rcases mem_of_call member with ⟨rfl, first⟩ | old
    · cases (body_starts first).1
    · exact inv.returned u id signature old
  completed := inv.completed

section After

variable {pending : Table String Nat} {oneshots : List Oneshot} {o : Oneshot} {id : String}

/-- Oneshots come from stores only. -/
theorem signsAfter_mem (member : o ∈ (signsAfter act pending oneshots).2) :
    (∃ old ∈ oneshots, old.requestId = o.requestId) ∨ Storing o.requestId act := by
  cases act with
  | deliverSignature id result =>
    simp only [signsAfter] at member
    split at member
    · exact .inl ⟨o, member, rfl⟩
    · next n _ =>
      obtain ⟨i, found⟩ := List.mem_iff_getElem?.mp member
      rw [List.getElem?_modify] at found
      obtain ⟨old, there, rfl⟩ := Option.map_eq_some_iff.mp found
      refine .inl ⟨old, List.mem_of_getElem? there, ?_⟩
      by_cases same : n = i <;> simp [same]
  | signStore agent agentInfo sender id =>
    rcases List.mem_append.mp member with old | new
    · exact .inl ⟨o, old, rfl⟩
    · cases List.mem_singleton.mp new
      exact .inr rfl
  | _ => exact .inl ⟨o, member, rfl⟩

/-- So do entries. -/
theorem signsAfter_pending_mem (member : id ∈ (signsAfter act pending oneshots).1) :
    id ∈ pending ∨ Storing id act := by
  cases act with
  | deliverSignature other result =>
    simp only [signsAfter] at member
    split at member
    · exact .inl member
    · exact .inl (Finmap.mem_erase.mp member).2
  | signStore agent agentInfo sender other =>
    rcases Finmap.mem_insert.mp member with rfl | old
    · exact .inr rfl
    · exact .inl old
  | signCleanup other result => exact .inl (Finmap.mem_erase.mp member).2
  | _ => exact .inl member

end After

theorem Storing.alone {id : String} (storing : Storing id act) : Alone act := by
  cases act <;> trivial

theorem not_storing_signNumber {id : String}
    (number : ∃ agent agentInfo sender, act = .signNumber agent agentInfo sender) : ¬Storing id act := by
  obtain ⟨_, _, _, rfl⟩ := number
  exact not_false

theorem Numbered.waits {oneshots : List Oneshot} {n : Nat} (numbered : Numbered oneshots act)
    (waits : Waits n act) : ∃ o, oneshots[n]? = some o := by
  cases act with
  | signSend sender id m message =>
    cases waits
    obtain ⟨o, known, _⟩ := numbered
    exact ⟨o, known⟩
  | signWait id m =>
    cases waits
    obtain ⟨o, known, _⟩ := numbered
    exact ⟨o, known⟩
  | _ => cases waits

theorem storing_pushed {new : Section} {id : String} {s : System}
    (pushed : new ∈ (perform libs act input s).2) (storing : Storing id new) :
    (∃ agent agentInfo sender, act = .signNumber agent agentInfo sender) ∧
      id = s.agentProxy.requestId input.millis := by
  have next := perform_next act input s new pushed
  cases new with
  | signStore agent agentInfo sender id' =>
    cases storing
    cases act with
    | signNumber agent' agentInfo' sender' =>
      cases List.mem_singleton.mp pushed
      exact ⟨⟨_, _, _, rfl⟩, rfl⟩
    | _ => simp [Next, Admitted, Cleans] at next
  | _ => cases storing

theorem waits_pushed {new : Section} {n : Nat} {s : System}
    (pushed : new ∈ (perform libs act input s).2) (waits : Waits n new) :
    Waits n act ∨ n = s.oneshots.length := by
  have next := perform_next act input s new pushed
  cases new with
  | signSend sender id m message =>
    cases waits
    cases act with
    | signStore agent agentInfo sender' id' =>
      obtain ⟨_, same⟩ := next
      cases same
      exact .inr rfl
    | signSend sender' id' m' message' =>
      have same : Section.signSend sender id n message = .signSend sender' id' m' message' := by
        simpa [Next] using next
      cases same
      exact .inl rfl
    | _ => simp [Next, Admitted, Cleans] at next
  | signWait id m =>
    cases waits
    cases act with
    | signSend sender' id' m' message' =>
      have same : Section.signWait id n = .signWait id' m' := by simpa [Next] using next
      cases same
      exact .inl rfl
    | signWait id' m' =>
      have same : Section.signWait id n = .signWait id' m' := by simpa [Next] using next
      cases same
      exact .inl rfl
    | _ => simp [Next, Admitted, Cleans] at next
  | _ => cases waits

/-- A request returns a signature that was in its oneshot. -/
theorem cleanup_pushed {id : String} {signature : List UInt8} {s : System}
    (pushed : .signCleanup id (.ok signature) ∈ (perform libs act input s).2) :
    ∃ n o, act = .signWait id n ∧ s.oneshots[n]? = some o ∧ o.value = some (.ok signature) := by
  have next := perform_next act input s _ pushed
  cases act with
  | signSend sender id' n message =>
    rcases mem_send pushed with sent | closed | waiting
    · simp at sent
    · simp at closed
    · simp at waiting
  | signWait id' n =>
    simp only [perform, signWait] at pushed
    split at pushed
    next result known =>
      cases List.mem_singleton.mp pushed
      obtain ⟨o, there, value⟩ := Option.bind_eq_some_iff.mp known
      exact ⟨n, o, rfl, there, value⟩
    next =>
      split at pushed
      · simp at pushed
      · split at pushed <;> simp at pushed
  | _ => simp [Next, Admitted, Cleans] at next

theorem correlated_turn (past : List Instant) (t : Task) (input : Input) (act : Section)
    (rest : List Section) (p : Running) (running : p.tasks t = act :: rest) (orderly : Orderly p)
    (few : (requestIds (past ++ [⟨p, t, act, input⟩])).length ≤ 2 ^ 64) (inv : Correlated past p) :
    Correlated (past ++ [⟨p, t, act, input⟩]) ⟨(perform libs act input p.shared).1,
      Function.update p.tasks t ((perform libs act input p.shared).2 ++ rest)⟩ := by
  have head : act ∈ p.tasks t := by simp [running]
  obtain ⟨pendingAfter, oneshotsAfter⟩ := Prod.mk.inj (perform_signs libs act input p.shared)
  have counted := counted_turn libs rest few inv.toCounted
  have earlier {id : String} (drawn : id ∈ requestIds past) :
      id ∈ requestIds (past ++ [⟨p, t, act, input⟩]) := by
    rw [requestIds_snoc]
    exact List.mem_append_left _ drawn
  -- What a request has just drawn was not drawn before.
  have new {id : String} {section' : Section} (pushed : section' ∈ (perform libs act input p.shared).2)
      (storing : Storing id section') :
      id ∈ requestIds (past ++ [⟨p, t, act, input⟩]) ∧ id ∉ requestIds past := by
    obtain ⟨⟨agent, agentInfo, sender, rfl⟩, rfl⟩ := storing_pushed pushed storing
    have distinct := counted.distinct
    have ids : requestIds (past ++ [⟨p, t, .signNumber agent agentInfo sender, input⟩]) =
        requestIds past ++ [p.shared.agentProxy.requestId input.millis] := requestIds_snoc past _
    rw [ids] at distinct ⊢
    refine ⟨by simp, fun old => ?_⟩
    exact (List.nodup_append.mp distinct).2.2 _ old _ (List.mem_singleton.mpr rfl) rfl
  refine ⟨counted, signsNumbered_turn t input act rest p running inv.toSignsNumbered, ?_, ?_, ?_, ?_, ?_,
    ?_, ?_⟩
  · intro o member
    rw [oneshotsAfter] at member
    rcases signsAfter_mem member with ⟨old, there, same⟩ | storing
    · exact earlier (same ▸ inv.stored old there)
    · exact earlier (inv.storing t _ act head storing).1
  · intro u id other member storing
    rw [oneshotsAfter]
    rcases mem_of_turn running member with ⟨rfl, pushed⟩ | old
    · obtain ⟨drawn, fresh⟩ := new pushed storing
      refine ⟨drawn, ?_⟩
      rintro o there rfl
      rcases signsAfter_mem there with ⟨before, known, same⟩ | now
      · exact fresh (same ▸ inv.stored before known)
      · exact not_storing_signNumber (storing_pushed pushed storing).1 now
    · obtain ⟨drawn, unstored⟩ := inv.storing u id other old storing
      refine ⟨earlier drawn, ?_⟩
      rintro o there rfl
      rcases signsAfter_mem there with ⟨before, known, same⟩ | now
      · exact unstored before known same
      · -- The request that stores the id has nothing left that would store it again.
        obtain rfl : t = u := inv.apart _ t u act head other old now storing
        simp only [orderly.lonely running now.alone, List.append_nil, Function.update_self] at member
        exact not_storing_signNumber (storing_pushed member storing).1 now
  · intro id
    apply exclusive_turn running (inv.apart id)
    rintro ⟨section', pushed, storing⟩
    refine .inr ?_
    rintro ⟨u, other, member, also⟩
    exact (new pushed storing).2 (inv.storing u id other member also).1
  · intro n
    apply exclusive_turn running (inv.waiters n)
    rintro ⟨section', pushed, waits⟩
    rcases waits_pushed pushed waits with mark | rfl
    · exact .inl mark
    · refine .inr ?_
      rintro ⟨u, other, member, also⟩
      obtain ⟨o, known⟩ := (inv.numbered u other member).waits also
      exact absurd (List.getElem?_eq_some_iff.mp known).1 (Nat.lt_irrefl _)
  · intro n o result known value
    rw [oneshotsAfter] at known
    obtain ⟨old, there, _, sameId, before | ⟨id, rfl, found⟩⟩ := signsAfter_value known value
    · rw [← sameId]
      exact (inv.values n old result there before).later
    · obtain ⟨other, there', requested⟩ := inv.pending id n found
      cases there.symm.trans there'
      rw [← sameId, requested]
      exact since_now ⟨rfl, found⟩
  · intro u id signature member
    rw [oneshotsAfter]
    have before : ∃ (n : Nat) (o : Oneshot), p.shared.oneshots[n]? = some o ∧ o.requestId = id ∧
        Delivered id n (.ok signature) past := by
      rcases mem_of_turn running member with ⟨rfl, pushed⟩ | old
      · obtain ⟨n, o, rfl, known, value⟩ := cleanup_pushed pushed
        obtain ⟨o', known', rfl⟩ := inv.numbered u _ head
        cases known.symm.trans known'
        exact ⟨n, o, known, rfl, inv.values n o _ known value⟩
      · exact inv.returned u id signature old
    obtain ⟨n, o, known, rfl, delivered⟩ := before
    obtain ⟨o', kept, _, sameId⟩ := signsAfter_keeps act p.shared.agentProxy.pendingSigns known
    exact ⟨n, o', kept, sameId, delivered.later⟩
  · intro id once
    rw [pendingAfter, oneshotsAfter]
    have keeps {n : Nat} {o : Oneshot} (known : p.shared.oneshots[n]? = some o) : ∃ o' ∈
        (signsAfter act p.shared.agentProxy.pendingSigns p.shared.oneshots).2,
        o'.requestId = o.requestId := by
      obtain ⟨o', kept, _, sameId⟩ := signsAfter_keeps act p.shared.agentProxy.pendingSigns known
      exact ⟨o', List.mem_of_getElem? kept, sameId⟩
    rcases once_snoc.mp once with old | now
    · obtain ⟨⟨o, there, rfl⟩, gone⟩ := inv.completed id old
      obtain ⟨n, known⟩ := List.mem_iff_getElem?.mp there
      refine ⟨keeps known, fun again => ?_⟩
      rcases signsAfter_pending_mem again with still | storing
      · exact gone still
      · exact (inv.storing t _ act head storing).2 o there rfl
    · rcases now with ⟨⟨result, same⟩, pending⟩ | ⟨result, same⟩
      · dsimp only at same pending
        subst same
        obtain ⟨n, found⟩ := Finmap.mem_iff.mp pending
        obtain ⟨o, known, rfl⟩ := inv.pending id n found
        refine ⟨keeps known, ?_⟩
        simp only [found]
        exact fun again => (Finmap.mem_erase.mp again).1 rfl
      · dsimp only at same
        subst same
        obtain ⟨n, o, known, rfl⟩ := inv.numbered t _ head
        exact ⟨keeps known, fun again => (Finmap.mem_erase.mp again).1 rfl⟩

theorem correlated_execute (kitsune auth : Bool) (schedule : List (Event Task Request Input))
    (few : (requestIds ((program libs).moments schedule (.start (.start kitsune auth)))).length ≤ 2 ^ 64) :
    Correlated ((program libs).moments schedule (.start (.start kitsune auth)))
      ((program libs).execute schedule (.start (.start kitsune auth))) := by
  have orderly := guarded_of_execute (program libs) Orderly schedule
    (.start (.start kitsune auth)) fun before _ => orderly_execute kitsune auth before
  have run := execute_moments
    (fun past p => (requestIds past).length ≤ 2 ^ 64 → Correlated past p) _
    (fun past t request p idle inv few => correlated_call t request p idle (inv few))
    (fun past t input act rest p running orderly inv few => ?_)
    schedule [] _ orderly (fun _ => correlated_start kitsune auth)
  · exact run few
  · refine correlated_turn past t input act rest p running orderly few (inv ?_)
    rw [requestIds_snoc, List.length_append] at few
    omega

/-- The section changes the oneshot. -/
def Fills (libs : Libraries) (act : Section) (input : Input) (s : System) (n : Nat) : Prop :=
  (perform libs act input s).1.oneshots[n]? ≠ s.oneshots[n]?

theorem deliver_fills_one {s : System} {id : String} {result : SignResult} {n m : Nat}
    (first : Fills libs (.deliverSignature id result) input s n)
    (second : Fills libs (.deliverSignature id result) input s m) : n = m := by
  simp only [Fills, perform, System.deliverSignature] at first second
  split at first
  next => exact absurd rfl first
  next k found =>
    simp only [found, List.getElem?_modify] at first second
    have here : k = n := by
      by_contra other
      simp [other] at first
    have there : k = m := by
      by_contra other
      simp [other] at second
    exact here.symm.trans there

theorem deliver_unknown {s : System} {id : String} (unknown : id ∉ s.agentProxy.pendingSigns)
    (result : SignResult) (input : Input) : perform libs (.deliverSignature id result) input s = (s, []) := by
  simp [perform, System.deliverSignature, Finmap.lookup_eq_none.mpr unknown]

/-- With fewer requests than the counter has values: ids are distinct; a request returns a signature
that was delivered under its id while that was pending; a delivery fills one oneshot, for which one
request waits; and for an id that is unknown or completed it changes nothing. -/
theorem signing_requests_correlated (libs : Libraries) (kitsune auth : Bool)
    (schedule : List (Event Task Request Input))
    (few : (requestIds ((program libs).moments schedule (.start (.start kitsune auth)))).length < 2 ^ 64) :
    let past := (program libs).moments schedule (.start (.start kitsune auth))
    let p := (program libs).execute schedule (.start (.start kitsune auth))
    (requestIds past).Nodup ∧
    (∀ t id signature, .signCleanup id (.ok signature) ∈ p.tasks t →
      ∃ (n : Nat) (o : Oneshot), p.shared.oneshots[n]? = some o ∧ o.requestId = id ∧
        Delivered id n (.ok signature) past) ∧
    (∀ n, p.Exclusive (Waits n)) ∧
    (∀ id result input n m, Fills libs (.deliverSignature id result) input p.shared n →
      Fills libs (.deliverSignature id result) input p.shared m → n = m) ∧
    (∀ id result input,
      id ∉ p.shared.agentProxy.pendingSigns ∨ Once (fun _ => Completes id) past →
        perform libs (.deliverSignature id result) input p.shared = (p.shared, [])) := by
  have inv := @correlated_execute libs kitsune auth schedule few.le
  refine ⟨inv.distinct, inv.returned, inv.waiters, ?_, ?_⟩
  · intro id result input n m first second
    exact deliver_fills_one first second
  · rintro id result input (unknown | completed)
    · exact deliver_unknown unknown result input
    · exact deliver_unknown (inv.completed id completed).2 result input

/-- Alice's browser is asked for a signature and answers. -/
def aliceSigns : List (Event Task Request Input) :=
  registerAlice 0 ++ .call (.sign 0) (.sign alice "{}") :: List.replicate 4 (.turn (.sign 0) (sampleInput 0)) ++
    frames 0 (.text (.ok (.signResponse "sign-0-0" (some aliceSignatureText) none))) 2 ++
    [.turn (.sign 0) (sampleInput 0)]

theorem signing_requests_correlated_aliceSigns :
    ∃ (n : Nat) (o : Oneshot), ((program sampleLibraries).execute aliceSigns
        (.start (.start true false))).shared.oneshots[n]? = some o ∧ o.requestId = "sign-0-0" ∧
      Delivered "sign-0-0" n (.ok aliceSignature)
        ((program sampleLibraries).moments aliceSigns (.start (.start true false))) :=
  (signing_requests_correlated sampleLibraries true false aliceSigns (by decide)).2.1 (.sign 0) "sign-0-0"
    aliceSignature (List.mem_of_getElem? (i := 0) rfl)

end WebSocket

end H2hcLinker
