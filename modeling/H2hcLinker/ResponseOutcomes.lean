import H2hcLinker.ResponseSource

/-! How every request to a peer ends, and which ids are pending. A request that registered a
receiver is the only one to wait on it, so what the receiver was sent and whether its responder is
gone decide between the ends. -/
namespace H2hcLinker.Dht

open HashTable Interleaving Past

variable {Response : ResponseKind → Type} {debug : WireMessage Response → String}
  {s : PendingDhtResponses Response} {p : Serving Response} {past : List (Turn Response)}
  {act : Section Response} {rest : List (Section Response)} {input : Input} {t : Nat} {id : UInt64}
  {n n' : Nat} {q : Query}

/-- The request goes on with this receiver. -/
def Holds (rx : Nat) (act : Section Response) : Prop := ∃ q, Waits q rx act

/-- The turn registered the receiver for the request. -/
def Begun (q : Query) (rx : Nat) (_ : List (Turn Response)) (m : Turn Response) : Prop :=
  m.act = .beginRequest q ∧ m.input.failure = none ∧ m.pool.shared.receivers.length = rx

/-- The section drops the responder of the receiver: its timer fires, or its id is used again. -/
def Severs (n : Nat) (id : UInt64) (input : Input) (s : PendingDhtResponses Response)
    (act : Section Response) : Prop :=
  s.inner.lookup id = some n ∧ (act = .remove id ∨ Registers id input act)

def Severed (n : Nat) (id : UInt64) (_ : List (Turn Response)) (m : Turn Response) : Prop :=
  Severs n id m.input m.pool.shared m.act

/-- The request failed at this section. -/
def Failed (act : Section Response) (e : String) (_ : List (Turn Response)) (m : Turn Response) :
    Prop :=
  m.act = act ∧ m.input.failure = some e

/-- The request stopped waiting before anything was sent to it, because of its own clock if
`timedOut`. -/
def GaveUp (q : Query) (rx : Nat) (timedOut : Bool) (_ : List (Turn Response)) (m : Turn Response) :
    Prop :=
  m.act = .awaitResponse q rx ∧ m.pool.shared.view rx = some (q.msgId, []) ∧
    (timedOut = true → m.input.timedOut = true)

/-- What a request can have ended with, and what must have happened for it. -/
inductive Ended (debug : WireMessage Response → String) (past : List (Turn Response)) (q : Query) :
    Except LinkerError (Option (Response q.kind)) → Prop where
  | unencoded (e : String) (failed : Once (Failed (.beginRequest q) e) past) :
      Ended debug past q (.error (.internal ("Failed to encode request: " ++ e)))
  | unsent (rx : Nat) (e : String) (begun : Once (Begun q rx) past)
      (failed : Once (Failed (.sendNotify q rx) e) past) :
      Ended debug past q (.error (.internal ("Failed to send request: " ++ e)))
  | answered (rx : Nat) (msg : WireMessage Response) (begun : Once (Begun q rx) past)
      (delivered : Once (Delivered rx q.msgId msg) past) :
      Ended debug past q (answer debug q.kind msg)
  | closed (rx : Nat) (begun : Once (Begun q rx) past) (gaveUp : Once (GaveUp q rx false) past)
      (severed : Once (Severed rx q.msgId) past) :
      Ended debug past q (.error (.internal "Response channel closed"))
  | timedOut (rx : Nat) (begun : Once (Begun q rx) past) (gaveUp : Once (GaveUp q rx true) past) :
      Ended debug past q (.error (.internal "Request timed out"))

theorem Ended.later {result : Except LinkerError (Option (Response q.kind))}
    (ended : Ended debug past q result) (m : Turn Response) : Ended debug (past ++ [m]) q result := by
  cases ended with
  | unencoded e failed => exact .unencoded e failed.later
  | unsent rx e begun failed => exact .unsent rx e begun.later failed.later
  | answered rx msg begun delivered => exact .answered rx msg begun.later delivered.later
  | closed rx begun gaveUp severed => exact .closed rx begun.later gaveUp.later severed.later
  | timedOut rx begun gaveUp => exact .timedOut rx begun.later gaveUp.later

/-- The request has no section left that waits on the receiver. -/
def Releases (debug : WireMessage Response → String) (n : Nat) (input : Input)
    (s : PendingDhtResponses Response) (act : Section Response) : Prop :=
  Holds n act ∧ ∀ new ∈ (perform debug act input s).2, ¬Holds n new

/-- What a section does to a receiver: it sends it something, drops it, or drops its responder. -/
structure Kept (debug : WireMessage Response → String) (input : Input)
    (s : PendingDhtResponses Response) (act : Section Response) (n : Nat) (r r' : Receiver Response) :
    Prop where
  msgId : r'.msgId = r.msgId
  dropped : r'.dropped = true →
    r.dropped = true ∨ act = .dropReceiver n ∨ Releases debug n input s act
  stays : r.dropped = true → r'.dropped = true
  sent : r.sent ≠ [] → r'.sent ≠ []
  senderGone : r'.senderGone = true →
    r.senderGone = true ∨ r'.sent ≠ [] ∨ r'.dropped = true ∨ ∃ id, Severs n id input s act

theorem Kept.refl (r : Receiver Response) : Kept debug input s act n r r :=
  ⟨rfl, .inl, fun dropped => dropped, fun sent => sent, .inl⟩

/-- A receiver after a section was there before, or has just been registered. -/
def Stands (debug : WireMessage Response → String) (input : Input)
    (s : PendingDhtResponses Response) (act : Section Response) (n : Nat) (r' : Receiver Response) :
    Prop :=
  (∃ r, s.receivers[n]? = some r ∧ Kept debug input s act n r r') ∨
    n = s.receivers.length ∧ r'.dropped = false ∧ r'.senderGone = false

theorem stands_same {s' : PendingDhtResponses Response} (same : s'.receivers = s.receivers)
    {r' : Receiver Response} (found : s'.receivers[n]? = some r') : Stands debug input s act n r' :=
  .inl ⟨r', same ▸ found, .refl r'⟩

/-- One receiver is changed. -/
theorem stands_modify {rx : Nat} {f : Receiver Response → Receiver Response} {r' : Receiver Response}
    (kept : ∀ r, Kept debug input s act rx r (f r))
    (found : (s.modifyReceiver rx f).receivers[n]? = some r') : Stands debug input s act n r' := by
  rw [PendingDhtResponses.modifyReceiver, List.getElem?_modify] at found
  obtain ⟨r, there, rfl⟩ := Option.map_eq_some_iff.mp found
  by_cases here : rx = n
  · subst here
    exact .inl ⟨r, there, by simpa using kept r⟩
  · exact .inl ⟨r, there, by simpa [here] using Kept.refl r⟩

theorem stands_dropSender (severs : act = .remove id ∨ Registers id input act) {r' : Receiver Response}
    (found : (s.dropSender id).receivers[n]? = some r') : Stands debug input s act n r' := by
  unfold PendingDhtResponses.dropSender at found
  split at found
  · exact stands_same rfl found
  next tx pending =>
    apply stands_modify _ found
    exact fun r => ⟨rfl, .inl, fun dropped => dropped, fun sent => sent,
      fun _ => .inr (.inr (.inr ⟨id, pending, severs⟩))⟩

theorem stands_dropReceiver {rx : Nat} (drops : act = .dropReceiver rx ∨ Releases debug rx input s act)
    {r' : Receiver Response} (found : (s.dropReceiver rx).receivers[n]? = some r') :
    Stands debug input s act n r' := by
  apply stands_modify _ found
  exact fun r => ⟨rfl, fun _ => .inr drops, fun _ => rfl, fun sent => sent, .inl⟩

theorem stands_register (registers : Registers id input act) {r' : Receiver Response}
    (found : (s.register id).receivers[n]? = some r') : Stands debug input s act n r' := by
  rw [PendingDhtResponses.register, List.getElem?_append] at found
  split at found
  · exact stands_dropSender (.inr registers) found
  next beyond =>
    rw [PendingDhtResponses.length_dropSender] at found beyond
    have here : n - s.receivers.length = 0 := by
      have bound := (List.getElem?_eq_some_iff.mp found).1
      simpa using bound
    rw [here] at found
    cases found
    exact .inr ⟨by omega, rfl, rfl⟩

theorem stands_send {msg : WireMessage Response} {r' : Receiver Response}
    (found : (s.send n' msg).receivers[n]? = some r') : Stands debug input s act n r' := by
  apply stands_modify _ found
  intro r
  refine ⟨rfl, .inl, fun dropped => dropped, ?_, fun _ => ?_⟩
  · intro sent
    by_cases gone : r.dropped = true <;> simp [gone, sent]
  · by_cases gone : r.dropped = true
    · exact .inr (.inr (.inl gone))
    · exact .inr (.inl (by simp [gone]))

theorem perform_stands (debug : WireMessage Response → String) (act : Section Response) (input : Input)
    (s : PendingDhtResponses Response) {r' : Receiver Response}
    (found : (perform debug act input s).1.receivers[n]? = some r') : Stands debug input s act n r' := by
  cases act with
  | register id =>
    have registers : Registers id input (.register id : Section Response) := rfl
    exact stands_register registers found
  | remove id => exact stands_dropSender (.inl rfl) found
  | routeResponse msg =>
    refine stands_same ?_ found
    simp only [perform, routeResponse]
    split
    · rfl
    · split <;> rfl
  | send tx msg => exact stands_send found
  | dropReceiver rx => exact stands_dropReceiver (.inl rfl) found
  | beginRequest q =>
    simp only [perform] at found
    split at found
    next => exact stands_same rfl found
    next fine =>
      have registers : Registers q.msgId input (.beginRequest q : Section Response) := ⟨rfl, fine⟩
      exact stands_register registers found
  | sendNotify q rx =>
    have holds : Holds rx (.sendNotify q rx : Section Response) := ⟨q, rfl, rfl⟩
    simp only [perform] at found
    split at found
    next e failed =>
      refine stands_dropReceiver (.inr ⟨holds, ?_⟩) found
      simp [perform, failed, Holds, Waits]
    next => exact stands_same rfl found
  | awaitResponse q rx =>
    have holds : Holds rx (.awaitResponse q rx : Section Response) := ⟨q, rfl, rfl⟩
    simp only [perform] at found
    split at found
    next result waited =>
      refine stands_dropReceiver (.inr ⟨holds, ?_⟩) found
      simp [perform, waited, Holds, Waits]
    next => exact stands_same rfl found
  | _ => exact stands_same rfl found

/-- A request returns where it could not be encoded or sent, or from its receiver. -/
theorem perform_returns {result : Except LinkerError (Option (Response q.kind))}
    (pushed : .returned q result ∈ (perform debug act input s).2) :
    (∃ e, act = .beginRequest q ∧ input.failure = some e ∧
      result = .error (.internal ("Failed to encode request: " ++ e))) ∨
    (∃ rx e, act = .sendNotify q rx ∧ input.failure = some e ∧
      result = .error (.internal ("Failed to send request: " ++ e))) ∨
    ∃ rx r, act = .awaitResponse q rx ∧ s.receivers[rx]? = some r ∧
      awaitResponse debug q r input.timedOut = some result := by
  cases act with
  | beginRequest q' =>
    simp only [perform] at pushed
    split at pushed
    next e failed =>
      cases List.mem_singleton.mp pushed
      exact .inl ⟨e, rfl, failed, rfl⟩
    next => cases List.mem_singleton.mp pushed
  | sendNotify q' rx =>
    simp only [perform] at pushed
    split at pushed
    next e failed =>
      cases List.mem_singleton.mp pushed
      exact .inr (.inl ⟨rx, e, rfl, failed, rfl⟩)
    next => cases List.mem_singleton.mp pushed
  | awaitResponse q' rx =>
    simp only [perform] at pushed
    split at pushed
    next result' waited =>
      cases List.mem_singleton.mp pushed
      obtain ⟨r, there, awaited⟩ := Option.bind_eq_some_iff.mp waited
      exact .inr (.inr ⟨rx, r, rfl, there, awaited⟩)
    next => cases List.mem_singleton.mp pushed
  | _ =>
    have follows := perform_follows debug _ input s _ pushed
    cases follows

/-- What is known of the requests on their way. -/
structure Ending (debug : WireMessage Response → String) (past : List (Turn Response))
    (p : Serving Response) : Prop extends Answering past p where
  begun : ∀ t q rx act, act ∈ p.tasks t → Waits q rx act → Once (Begun q rx) past
  alone : ∀ rx, p.Exclusive (Holds rx)
  undropping : ∀ t rx, .dropReceiver rx ∉ p.tasks t
  listening : ∀ n r, p.shared.receivers[n]? = some r → r.dropped = true → ¬p.Pending (Holds n)
  severed : ∀ n r, p.shared.receivers[n]? = some r → r.senderGone = true →
    r.sent ≠ [] ∨ r.dropped = true ∨ Once (Severed n r.msgId) past
  ended : ∀ t q result, .returned q result ∈ p.tasks t → Ended debug past q result

theorem ending_start (debug : WireMessage Response → String) :
    Ending debug [] (.start (.new : PendingDhtResponses Response)) where
  toAnswering := answering_start
  begun _ _ _ _ member := by cases member
  alone _ _ _ _ member := by cases member
  undropping _ _ member := by cases member
  listening n r found := by simp [Pool.start, PendingDhtResponses.new] at found
  severed n r found := by simp [Pool.start, PendingDhtResponses.new] at found
  ended _ _ _ member := by cases member

/-- A receiver that is not registered yet is waited on by none. -/
theorem Answering.not_held (inv : Answering past p) (beyond : p.shared.receivers.length ≤ n) :
    ¬p.Pending (Holds n) := by
  rintro ⟨u, other, member, q, waits⟩
  obtain ⟨msgs, known⟩ := inv.waiting u q n other member waits
  exact absurd (PendingDhtResponses.view_lt known) (by omega)

/-- A section that waits on a receiver goes on with its own or with a new one. -/
theorem holds_next {new : Section Response} (pushed : new ∈ (perform debug act input s).2)
    (holds : Holds n new) : Holds n act ∨ n = s.receivers.length := by
  obtain ⟨q, waits⟩ := holds
  cases perform_follows debug act input s new pushed with
  | begun q' fine => exact .inr waits.2.symm
  | notified q' rx => exact .inl ⟨q', rfl, waits.2⟩
  | waiting q' rx => exact .inl ⟨q', rfl, waits.2⟩
  | _ => cases waits

theorem ending_call (idle : p.tasks t = []) (request : Request Response)
    (inv : Ending debug past p) :
    Ending debug past ⟨p.shared, Function.update p.tasks t [request.start]⟩ := by
  have first {new : Section Response} {u : Nat}
      (member : new ∈ Function.update p.tasks t [request.start] u) :
      new = request.start ∨ new ∈ p.tasks u := by
    rcases mem_of_call member with ⟨_, here⟩ | old
    · exact .inl (List.mem_singleton.mp here)
    · exact .inr old
  have unheld (n : Nat) : ¬Holds n (request.start : Section Response) := by
    rintro ⟨q, waits⟩
    cases request <;> cases waits
  refine ⟨answering_call idle request inv.toAnswering, ?_, ?_, ?_, ?_, inv.severed, ?_⟩
  · intro u q rx act member waits
    rcases first member with rfl | old
    · exact absurd ⟨q, waits⟩ (unheld rx)
    · exact inv.begun u q rx act old waits
  · intro rx
    exact exclusive_call (inv.alone rx) fun act member => by
      rw [List.mem_singleton.mp member]
      exact unheld rx
  · intro u rx member
    rcases first member with same | old
    · cases request <;> cases same
    · exact inv.undropping u rx old
  · intro n r found dropped
    rw [pending_call_iff idle]
    rintro (old | ⟨act, member, holds⟩)
    · exact inv.listening n r found dropped old
    · rw [List.mem_singleton.mp member] at holds
      exact unheld n holds
  · intro u q result member
    rcases first member with same | old
    · cases request <;> cases same
    · exact inv.ended u q result old

/-- A receiver that was dropped is waited on by none. -/
theorem Ending.listening_turn (inv : Ending debug past p) (running : p.tasks t = act :: rest)
    {r' : Receiver Response} (found : (perform debug act input p.shared).1.receivers[n]? = some r')
    (dropped : r'.dropped = true) :
    ¬(⟨(perform debug act input p.shared).1, Function.update p.tasks t
      ((perform debug act input p.shared).2 ++ rest)⟩ : Serving Response).Pending (Holds n) := by
  have head : act ∈ p.tasks t := by simp [running]
  rcases perform_stands debug act input p.shared found with ⟨r, there, kept⟩ | ⟨_, fresh, _⟩
  · intro pending
    rcases kept.dropped dropped with before | rfl | ⟨holds, released⟩
    · have none := inv.listening n r there before
      rcases pending_of_turn running pending with ⟨new, pushed, holds⟩ | old
      · rcases holds_next pushed holds with mark | rfl
        · exact none (pending_head running mark)
        · exact absurd (List.getElem?_eq_some_iff.mp there).1 (Nat.lt_irrefl _)
      · exact none old
    · exact inv.undropping t n head
    · obtain ⟨u, other, member, also⟩ := pending
      rcases mem_of_turn running member with ⟨_, pushed⟩ | old
      · exact released other pushed also
      · -- The only section that waited on it is the one that ran.
        have here := inv.alone n u t other old act head also holds
        subst here
        have shape := inv.shape u
        rw [running] at shape old
        rcases shape.behind with ⟨rfl, _⟩ | ⟨m, msg, rfl, _⟩
        · simp only [Function.update_self, List.append_nil] at member
          exact released other member also
        · obtain ⟨q, waits⟩ := holds
          cases waits
  · rw [fresh] at dropped
    cases dropped

/-- A responder that is gone was used, or nobody listens, or it was dropped. -/
theorem Ending.severed_turn (inv : Ending debug past p) {r' : Receiver Response}
    (found : (perform debug act input p.shared).1.receivers[n]? = some r')
    (gone : r'.senderGone = true) :
    r'.sent ≠ [] ∨ r'.dropped = true ∨ Once (Severed n r'.msgId) (past ++ [⟨p, t, act, input⟩]) := by
  rcases perform_stands debug act input p.shared found with ⟨r, there, kept⟩ | ⟨_, _, fresh⟩
  · rw [kept.msgId]
    rcases kept.senderGone gone with before | sent | dropped | ⟨id, severs⟩
    · rcases inv.severed n r there before with sent | dropped | once
      · exact .inl (kept.sent sent)
      · exact .inr (.inl (kept.stays dropped))
      · exact .inr (.inr once.later)
    · exact .inl sent
    · exact .inr (.inl dropped)
    · have view := (inv.pending id n severs.1).1
      rw [PendingDhtResponses.view, there, Option.map_some, Option.some.injEq, Prod.mk.injEq] at view
      rw [view.1]
      exact .inr (.inr (once_snoc.mpr (.inr severs)))
  · rw [fresh] at gone
    cases gone

/-- How a request that waits on its receiver ends. -/
theorem Ending.awaited (inv : Ending debug past p) {rx : Nat}
    (head : .awaitResponse q rx ∈ p.tasks t) {r : Receiver Response}
    (there : p.shared.receivers[rx]? = some r)
    {result : Except LinkerError (Option (Response q.kind))}
    (awaited : awaitResponse debug q r input.timedOut = some result) :
    Ended debug (past ++ [⟨p, t, .awaitResponse q rx, input⟩]) q result := by
  have begun := inv.begun t q rx _ head ⟨rfl, rfl⟩
  obtain ⟨msgs, known⟩ := inv.waiting t q rx _ head ⟨rfl, rfl⟩
  have named := known
  rw [PendingDhtResponses.view, there, Option.map_some, Option.some.injEq, Prod.mk.injEq] at named
  obtain ⟨same, rfl⟩ := named
  have listens : r.dropped ≠ true := fun dropped =>
    inv.listening rx r there dropped ⟨t, _, head, q, rfl, rfl⟩
  have gaveUp (timedOut : Bool) (clock : timedOut = true → input.timedOut = true)
      (empty : r.sent = []) :
      Once (GaveUp q rx timedOut) (past ++ [⟨p, t, .awaitResponse q rx, input⟩]) :=
    once_snoc.mpr (.inr ⟨rfl, empty ▸ known, clock⟩)
  unfold awaitResponse at awaited
  split at awaited
  next msg others sent =>
    cases awaited
    exact .answered rx msg begun.later (inv.delivered known (by simp [sent])).later
  next empty =>
    split at awaited
    next gone =>
      cases awaited
      rcases inv.severed rx r there gone with sent | dropped | once
      · exact absurd empty sent
      · exact absurd dropped listens
      · exact .closed rx begun.later (gaveUp false (by simp) empty) (same ▸ once.later)
    next =>
      split at awaited
      next clock =>
        cases awaited
        exact .timedOut rx begun.later (gaveUp true (fun _ => clock) empty)
      next => cases awaited

theorem ending_turn (running : p.tasks t = act :: rest) (inv : Ending debug past p) :
    Ending debug (past ++ [⟨p, t, act, input⟩]) ⟨(perform debug act input p.shared).1,
      Function.update p.tasks t ((perform debug act input p.shared).2 ++ rest)⟩ := by
  have head : act ∈ p.tasks t := by simp [running]
  refine ⟨answering_turn debug running inv.toAnswering, ?_, ?_, ?_, ?_, ?_, ?_⟩
  · intro u q rx new member waits
    rcases mem_of_turn running member with ⟨rfl, pushed⟩ | old
    · cases perform_follows debug act input p.shared new pushed with
      | begun q' fine =>
        obtain ⟨rfl, rfl⟩ := waits
        exact once_snoc.mpr (.inr ⟨rfl, fine, rfl⟩)
      | notified q' rx' => exact (inv.begun u q rx _ head waits).later
      | waiting q' rx' => exact (inv.begun u q rx _ head waits).later
      | _ => cases waits
    · exact (inv.begun u q rx new old waits).later
  · intro rx
    apply exclusive_turn running (inv.alone rx)
    rintro ⟨new, pushed, holds⟩
    rcases holds_next pushed holds with mark | rfl
    · exact .inl mark
    · exact .inr (inv.not_held (Nat.le_refl _))
  · intro u rx member
    rcases mem_of_turn running member with ⟨rfl, pushed⟩ | old
    · have follows := perform_follows debug act input p.shared _ pushed
      cases follows
    · exact inv.undropping u rx old
  · intro n r found dropped
    exact inv.listening_turn running found dropped
  · intro n r found gone
    exact inv.severed_turn found gone
  · intro u q result member
    rcases mem_of_turn running member with ⟨rfl, pushed⟩ | old
    · rcases perform_returns pushed with ⟨e, rfl, failed, rfl⟩ | ⟨rx, e, rfl, failed, rfl⟩ |
        ⟨rx, r, rfl, there, awaited⟩
      · exact .unencoded e (once_snoc.mpr (.inr ⟨rfl, failed⟩))
      · have begun := inv.begun u q rx _ head ⟨rfl, rfl⟩
        exact .unsent rx e begun.later (once_snoc.mpr (.inr ⟨rfl, failed⟩))
      · exact inv.awaited head there awaited
    · exact (inv.ended u q result old).later _

theorem ending_execute (debug : WireMessage Response → String)
    (schedule : List (Event Nat (Request Response) Input)) :
    Ending debug ((requests debug).moments schedule (.start .new))
      ((requests debug).execute schedule (.start .new)) := by
  apply execute_moments (Ending debug) (fun _ _ _ _ => True) _ _ schedule [] _
    (guarded_trivial schedule _) (ending_start debug)
  · intro past t request p idle inv
    exact ending_call idle request inv
  · intro past t input act rest p running _ inv
    exact ending_turn running inv

/-- A turn that entered the id. -/
def Entered (id : UInt64) (_ : List (Turn Response)) (m : Turn Response) : Prop :=
  Registers id m.input m.act

/-- What entered the id, and was not followed by its timer or an answer, is pending. -/
def Waited (id : UInt64) (past : List (Turn Response)) (p : Serving Response) : Prop :=
  Since (Untouched id) (Entered id) past → id ∈ p.shared.inner

theorem waited_execute (debug : WireMessage Response → String)
    (schedule : List (Event Nat (Request Response) Input)) (id : UInt64) :
    Waited id ((requests debug).moments schedule (.start .new))
      ((requests debug).execute schedule (.start .new)) := by
  apply execute_moments (Waited id) (fun _ _ _ _ => True) _ _ schedule [] _
    (guarded_trivial schedule _)
  · exact fun since => absurd since not_since_nil
  · exact fun past t request p _ inv => inv
  · intro past t input act rest p running _ inv since
    rcases since_snoc.mp since with enters | ⟨earlier, untouched⟩
    · cases act with
      | register id' =>
        cases enters
        exact Finmap.mem_insert.mpr (.inl rfl)
      | beginRequest q =>
        obtain ⟨rfl, fine⟩ := enters
        have encoded : input.failure = none := fine
        have registered : (perform debug (.beginRequest q) input p.shared).1 =
            p.shared.register q.msgId := by simp [perform, encoded]
        change q.msgId ∈ (perform debug (.beginRequest q) input p.shared).1.inner
        rw [registered]
        exact Finmap.mem_insert.mpr (.inl rfl)
      | _ => cases enters
    · have same := lookup_untouched debug act input p.shared untouched
      obtain ⟨n, found⟩ := Finmap.mem_iff.mp (inv earlier)
      exact Finmap.mem_iff.mpr ⟨n, same.trans found⟩

/-- An id is pending exactly from a request's registration to its answer, its timer or its next use;
and every request that returns could not be encoded or sent, or returns what its own receiver was
sent, or found nothing there after its responder was dropped or its time was up. -/
theorem requests_accounted (debug : WireMessage Response → String)
    (schedule : List (Event Nat (Request Response) Input)) :
    let past := (requests debug).moments schedule (.start .new)
    let p := (requests debug).execute schedule (.start .new)
    (∀ id, id ∈ p.shared.inner ↔ Since (Untouched id) (Entered id) past) ∧
    ∀ t q result rest, p.tasks t = .returned q result :: rest → Ended debug past q result := by
  have inv := ending_execute debug schedule
  refine ⟨fun id => ⟨?_, waited_execute debug schedule id⟩, ?_⟩
  · intro pending
    obtain ⟨n, found⟩ := Finmap.mem_iff.mp pending
    exact (inv.pending id n found).2.2.mono fun before m registered => registered.1
  · intro t q result rest running
    exact inv.ended t q result (by simp [running])

end H2hcLinker.Dht
