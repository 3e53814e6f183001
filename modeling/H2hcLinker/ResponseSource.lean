import H2hcLinker.ResponseRouting

/-! Where the response to a request comes from. The map is keyed by message id alone, and nothing of
the peer or the space of a notification reaches it. -/
namespace H2hcLinker.Dht

open HashTable Interleaving Past

variable {Response : ResponseKind → Type} {debug : WireMessage Response → String}
  {s : PendingDhtResponses Response} {p : Serving Response} {past : List (Turn Response)}
  {act : Section Response} {rest : List (Section Response)} {input : Input} {t : Nat} {id : UInt64}
  {n : Nat} {msg : WireMessage Response}

/-- Some peer sent the message, in some space. -/
def Arrived (msg : WireMessage Response) (_ : List (Turn Response)) (m : Turn Response) : Prop :=
  ∃ fromPeer space, m.act = .recvNotify fromPeer space msg

/-- What is routed has arrived. -/
def Sourced (before : List (Turn Response)) (m : Turn Response) : Prop :=
  ∀ msg, m.act = .routeResponse msg → Once (Arrived msg) before

/-- The turn routed the message, which had arrived, while the receiver was registered for it. -/
def Delivered (n : Nat) (id : UInt64) (msg : WireMessage Response) (before : List (Turn Response))
    (m : Turn Response) : Prop :=
  Routed n id msg before m ∧ Once (Arrived msg) before

/-- The request goes on with the channel that was registered for it. -/
def Waits (q : Query) (rx : Nat) : Section Response → Prop
  | .sendNotify q' rx' | .awaitResponse q' rx' => q' = q ∧ rx' = rx
  | _ => False

/-- Only a response of the kind asked for answers. -/
theorem answer_eq_some {kind : ResponseKind} {response : Response kind}
    (answers : answer debug kind msg = .ok (some response)) :
    ∃ msgId, msg = .res kind msgId response := by
  cases msg with
  | res k msgId given =>
    simp only [answer] at answers
    split at answers
    next same =>
      subst same
      cases answers
      exact ⟨msgId, rfl⟩
    next => cases answers
  | _ => cases answers

theorem awaited_eq_some {q : Query} {r : Receiver Response} {timedOut : Bool} {response : Response q.kind}
    (awaited : awaitResponse debug q r timedOut = some (.ok (some response))) :
    ∃ msgId, .res q.kind msgId response ∈ r.sent := by
  unfold awaitResponse at awaited
  split at awaited
  next msg others sent =>
    obtain ⟨msgId, rfl⟩ := answer_eq_some (Option.some.inj awaited)
    exact ⟨msgId, by simp [sent]⟩
  next =>
    split at awaited
    · simp at awaited
    · split at awaited <;> simp at awaited

/-- What is known of the responses on their way to a request. -/
structure Answering (past : List (Turn Response)) (p : Serving Response) : Prop
    extends Correlated past p where
  sourced : Always Sourced past
  arrived : ∀ t msg, .routeResponse msg ∈ p.tasks t → Once (Arrived msg) past
  waiting : ∀ t q rx act, act ∈ p.tasks t → Waits q rx act →
    ∃ msgs, p.shared.view rx = some (q.msgId, msgs)
  answered : ∀ t q response, .returned q (.ok (some response)) ∈ p.tasks t →
    ∃ n, Once (Delivered n q.msgId (.res q.kind q.msgId response)) past

theorem answering_start : Answering [] (.start (.new : PendingDhtResponses Response)) where
  toCorrelated := correlated_start
  sourced := always_nil
  arrived _ _ member := nomatch member
  waiting _ _ _ _ member := nomatch member
  answered _ _ _ member := nomatch member

/-- What a receiver was sent was routed, and had arrived. -/
theorem Answering.delivered (inv : Answering past p) {msgs : List (WireMessage Response)}
    (found : p.shared.view n = some (id, msgs)) (member : msg ∈ msgs) :
    Once (Delivered n id msg) past := by
  have routed := (inv.sent n id msgs found).2 msg member
  exact (Since.always routed inv.sourced).mono
    fun before m ⟨routes, sourced⟩ => ⟨routes, sourced msg routes.1⟩

theorem answering_call (idle : p.tasks t = []) (request : Request Response)
    (inv : Answering past p) :
    Answering past ⟨p.shared, Function.update p.tasks t [request.start]⟩ where
  toCorrelated := correlated_call idle request.start (by cases request <;> trivial) inv.toCorrelated
  sourced := inv.sourced
  arrived u msg member := by
    rcases mem_of_call member with ⟨rfl, first⟩ | old
    · cases request <;> cases List.mem_singleton.mp first
    · exact inv.arrived u msg old
  waiting u q rx act member waits := by
    rcases mem_of_call member with ⟨rfl, first⟩ | old
    · cases List.mem_singleton.mp first
      cases request <;> cases waits
    · exact inv.waiting u q rx act old waits
  answered u q response member := by
    rcases mem_of_call member with ⟨rfl, first⟩ | old
    · cases request <;> cases List.mem_singleton.mp first
    · exact inv.answered u q response old

theorem answering_turn (debug : WireMessage Response → String) (running : p.tasks t = act :: rest)
    (inv : Answering past p) :
    Answering (past ++ [⟨p, t, act, input⟩]) ⟨(perform debug act input p.shared).1,
      Function.update p.tasks t ((perform debug act input p.shared).2 ++ rest)⟩ := by
  have head : act ∈ p.tasks t := by simp [running]
  have served := perform_served debug act input p.shared
  refine ⟨correlated_turn debug running inv.toCorrelated, ?_, ?_, ?_, ?_⟩
  · apply inv.sourced.snoc
    rintro msg rfl
    exact inv.arrived t msg head
  · intro u msg member
    rcases mem_of_turn running member with ⟨rfl, pushed⟩ | old
    · cases perform_follows debug act input p.shared _ pushed with
      | handled fromPeer space msg => exact once_snoc.mpr (.inr ⟨fromPeer, space, rfl⟩)
    · exact (inv.arrived u msg old).later
  · intro u q rx new member waits
    rcases mem_of_turn running member with ⟨rfl, pushed⟩ | old
    · cases perform_follows debug act input p.shared new pushed with
      | begun q' fine =>
        obtain ⟨rfl, rfl⟩ := waits
        exact ⟨[], by simp [perform, fine, PendingDhtResponses.view_register]⟩
      | notified q' rx' =>
        obtain ⟨msgs, known⟩ := inv.waiting u q rx _ head waits
        exact served.view_id known
      | waiting q' rx' =>
        obtain ⟨msgs, known⟩ := inv.waiting u q rx _ head waits
        exact served.view_id known
      | _ => cases waits
    · obtain ⟨msgs, known⟩ := inv.waiting u q rx new old waits
      exact served.view_id known
  · intro u q response member
    rcases mem_of_turn running member with ⟨rfl, pushed⟩ | old
    · generalize outcome : (Except.ok (some response) : Except LinkerError _) = result at pushed
      cases perform_follows debug act input p.shared _ pushed with
      | unencoded q e => cases outcome
      | unsent q rx e => cases outcome
      | awaited q rx r result there awaited =>
        subst outcome
        obtain ⟨msgId, sent⟩ := awaited_eq_some awaited
        obtain ⟨msgs, known⟩ := inv.waiting u q rx _ head ⟨rfl, rfl⟩
        rw [PendingDhtResponses.view, there, Option.map_some, Option.some.injEq, Prod.mk.injEq] at known
        have view : p.shared.view rx = some (q.msgId, r.sent) := by
          simp [PendingDhtResponses.view, there, known.1]
        have delivered := inv.delivered view sent
        obtain ⟨m, _, before, ⟨_, named, _⟩, _⟩ := delivered.exists_mem
        cases named
        exact ⟨rx, delivered.later⟩
    · obtain ⟨n, once⟩ := inv.answered u q response old
      exact ⟨n, once.later⟩

theorem answering_execute (debug : WireMessage Response → String)
    (schedule : List (Event Nat (Request Response) Input)) :
    Answering ((requests debug).moments schedule (.start .new))
      ((requests debug).execute schedule (.start .new)) := by
  apply execute_moments Answering (fun _ _ _ _ => True) _ _ schedule [] _ (guarded_trivial schedule _)
    answering_start
  · intro past t request p idle inv
    exact answering_call idle request inv
  · intro past t input act rest p running _ inv
    exact answering_turn debug running inv

/-- A request is sent, and returns, only what some peer sent under the request's id and what was
routed while the request was registered; a message changes no entry but that of its id, and none if
the id is not pending. -/
theorem requests_answered (debug : WireMessage Response → String)
    (schedule : List (Event Nat (Request Response) Input)) :
    let past := (requests debug).moments schedule (.start .new)
    let p := (requests debug).execute schedule (.start .new)
    (∀ n r, p.shared.receivers[n]? = some r → ∀ msg ∈ r.sent, Once (Delivered n r.msgId msg) past) ∧
    (∀ t q response rest, p.tasks t = .returned q (.ok (some response)) :: rest →
      ∃ n, Once (Delivered n q.msgId (.res q.kind q.msgId response)) past) ∧
    (∀ msg id, msg.getMsgId ≠ some id →
      (routeResponse msg p.shared).1.inner.lookup id = p.shared.inner.lookup id) ∧
    ∀ msg, (∀ id, msg.getMsgId = some id → id ∉ p.shared.inner) →
      (routeResponse msg p.shared).1 = p.shared := by
  have inv := answering_execute debug schedule
  refine ⟨?_, ?_, ?_, ?_⟩
  · intro n r found msg member
    exact inv.delivered (Option.map_eq_some_iff.mpr ⟨r, found, rfl⟩) member
  · intro t q response rest running
    exact inv.answered t q response (by simp [running])
  · intro msg id other
    exact lookup_untouched debug (.routeResponse msg) ⟨none, false⟩ _ other
  · intro msg unknown
    unfold routeResponse
    split
    · rfl
    next id named =>
      rw [Finmap.lookup_eq_none.mpr (unknown id named)]

def sampleQuery : Query := ⟨.getRes, ⟨[]⟩, "a", 7⟩

/-- Request 7 goes to peer a; peer b answers it in another space. -/
def strangerAnswers : List (Event Nat (Request fun _ => Unit) Input) :=
  [.call 0 (.send sampleQuery), .turn 0 ⟨none, false⟩, .turn 0 ⟨none, false⟩,
    .call 1 (.recvNotify "b" ⟨[1]⟩ (.res .getRes 7 ())), .turn 1 ⟨none, false⟩,
    .turn 1 ⟨none, false⟩, .turn 1 ⟨none, false⟩, .turn 0 ⟨none, false⟩]

theorem answered_by_stranger :
    ¬∀ (Response : ResponseKind → Type) (debug : WireMessage Response → String)
      (schedule : List (Event Nat (Request Response) Input)) (t : Nat) (q : Query)
      (response : Response q.kind) (rest : List (Section Response)),
      ((requests debug).execute schedule (.start .new)).tasks t =
        .returned q (.ok (some response)) :: rest →
      Once (fun _ m => m.act = .recvNotify q.toUrl q.space (.res q.kind q.msgId response))
        ((requests debug).moments schedule (.start .new)) := by
  intro always
  have once := always (fun _ => Unit) (fun _ => "") strangerAnswers 0 sampleQuery () [] rfl
  obtain ⟨m, member, _, arrived⟩ := once.exists_mem
  have turn := List.mem_map_of_mem (f := fun m => (m.task, m.act)) member
  rw [← history_eq_moments, arrived] at turn
  have history : (requests fun _ => "").history strangerAnswers (.start .new) =
      [(0, .beginRequest sampleQuery), (0, .sendNotify sampleQuery 0),
        (1, .recvNotify "b" ⟨[1]⟩ (.res .getRes 7 ())), (1, .routeResponse (.res .getRes 7 ())),
        (1, .send 0 (.res .getRes 7 ())), (0, .awaitResponse sampleQuery 0)] := rfl
  rw [history] at turn
  simp [sampleQuery] at turn

end H2hcLinker.Dht
