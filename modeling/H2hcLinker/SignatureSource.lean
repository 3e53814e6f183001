import H2hcLinker.WebSocketSteps

/-! Where signatures come from. A signing request and its answer find each other by the request
id; the connection that was asked is not looked at. -/
namespace H2hcLinker.WebSocket

open HashTable Interleaving

variable {libs : Libraries}

/-- The pending requests and their oneshots after a section. -/
def signsAfter (act : Section) (pending : Table String Nat) (oneshots : List Oneshot) :
    Table String Nat × List Oneshot :=
  match act with
  | .deliverSignature id result =>
    match pending.lookup id with
    | none => (pending, oneshots)
    | some n => (pending.erase id, oneshots.modify n fun o => { o with value := some result })
  | .signStore _ _ sender id => (pending.insert id oneshots.length, oneshots ++ [⟨id, sender, none⟩])
  | .signCleanup id _ => (pending.erase id, oneshots)
  | _ => (pending, oneshots)

theorem perform_signs (libs : Libraries) (act : Section) (input : Input) (s : System) :
    ((perform libs act input s).1.agentProxy.pendingSigns, (perform libs act input s).1.oneshots) =
      signsAfter act s.agentProxy.pendingSigns s.oneshots := by
  refine (congrArg (fun after => (after.1.pendingSigns, after.2))
    (perform_agentProxy libs act input s)).trans ?_
  cases act with
  | deliverSignature id result =>
    cases found : s.agentProxy.pendingSigns.lookup id <;>
      simp [agentProxyAfter, signsAfter, AgentProxyManager.removePending, found]
  | _ => rfl

variable {act : Section} {pending : Table String Nat} {oneshots : List Oneshot} {n : Nat} {o : Oneshot}

/-- A oneshot keeps its number, its id and whom it asked. -/
theorem signsAfter_keeps (act : Section) (pending : Table String Nat)
    (known : oneshots[n]? = some o) :
    ∃ o', (signsAfter act pending oneshots).2[n]? = some o' ∧
      o'.asked = o.asked ∧ o'.requestId = o.requestId := by
  cases act with
  | deliverSignature id result =>
    simp only [signsAfter]
    split
    · exact ⟨o, known, rfl, rfl⟩
    · next m _ =>
      rw [List.getElem?_modify, known]
      by_cases same : m = n
      · exact ⟨{ o with value := some result }, by simp [same], rfl, rfl⟩
      · exact ⟨o, by simp [same], rfl, rfl⟩
  | signStore agent agentInfo sender id =>
    have bound : n < oneshots.length := (List.getElem?_eq_some_iff.mp known).1
    exact ⟨o, by rw [signsAfter, List.getElem?_append_left bound, known], rfl, rfl⟩
  | _ => exact ⟨o, known, rfl, rfl⟩

/-- A value was there before, or is delivered now for the request's own id. -/
theorem signsAfter_value {result : SignResult}
    (known : (signsAfter act pending oneshots).2[n]? = some o) (value : o.value = some result) :
    ∃ old, oneshots[n]? = some old ∧ old.asked = o.asked ∧ old.requestId = o.requestId ∧
      (old.value = some result ∨
        ∃ id, act = .deliverSignature id result ∧ pending.lookup id = some n) := by
  cases act with
  | deliverSignature id delivered =>
    simp only [signsAfter] at known
    split at known
    · exact ⟨o, known, rfl, rfl, .inl value⟩
    · next m found =>
      rw [List.getElem?_modify] at known
      obtain ⟨old, there, rfl⟩ := Option.map_eq_some_iff.mp known
      by_cases same : m = n
      · subst same
        simp only [if_true] at value
        cases value
        exact ⟨old, there, by simp, by simp, .inr ⟨id, rfl, found⟩⟩
      · simp only [same, if_false] at value ⊢
        exact ⟨old, there, rfl, rfl, .inl value⟩
  | signStore agent agentInfo sender id =>
    by_cases bound : n < oneshots.length
    · rw [signsAfter, List.getElem?_append_left bound] at known
      exact ⟨o, known, rfl, rfl, .inl value⟩
    · rw [signsAfter, List.getElem?_append_right (by omega)] at known
      cases List.mem_singleton.mp (List.mem_of_getElem? known)
      cases value
  | _ => exact ⟨o, known, rfl, rfl, .inl value⟩

theorem signsAfter_pending (same : ∀ id n, pending.lookup id = some n →
      ∃ o, oneshots[n]? = some o ∧ o.requestId = id) {id : String}
    (found : (signsAfter act pending oneshots).1.lookup id = some n) :
    ∃ o, (signsAfter act pending oneshots).2[n]? = some o ∧ o.requestId = id := by
  have old (before : pending.lookup id = some n) :
      ∃ o, (signsAfter act pending oneshots).2[n]? = some o ∧ o.requestId = id := by
    obtain ⟨o, known, rfl⟩ := same id n before
    obtain ⟨o', kept, _, sameId⟩ := signsAfter_keeps act pending known
    exact ⟨o', kept, sameId⟩
  cases act with
  | deliverSignature other result =>
    cases there : pending.lookup other with
    | none => exact old (by simpa [signsAfter, there] using found)
    | some m =>
      simp only [signsAfter, there, lookup_erase_eq] at found
      split at found
      · cases found
      · exact old found
  | signStore agent agentInfo sender other =>
    rw [signsAfter, lookup_insert_eq] at found
    split at found
    next equal =>
      cases found
      exact ⟨⟨other, sender, none⟩, by simp [signsAfter], equal.symm⟩
    next => exact old found
  | signCleanup other result =>
    rw [signsAfter, lookup_erase_eq] at found
    split at found
    · cases found
    · exact old found
  | _ => exact old found

/-- The connection sent a response with this id and this result. -/
def Responded (libs : Libraries) (h : List (Task × Section)) (c : WsSender) (id : String)
    (result : SignResult) : Prop :=
  ∃ signature error,
    (Task.conn c, Section.receive c (.text (.ok (.signResponse id signature error)))) ∈ h ∧
      signResult libs signature error = result

theorem Responded.later {h : List (Task × Section)} {c : WsSender} {id : String}
    {result : SignResult} (responded : Responded libs h c id result) (more : List (Task × Section)) :
    Responded libs (h ++ more) c id result := by
  obtain ⟨signature, error, member, same⟩ := responded
  exact ⟨signature, error, List.mem_append_left _ member, same⟩

/-- A request goes on with the oneshot it created. -/
def Numbered (oneshots : List Oneshot) : Section → Prop
  | .signSend c id n _ => ∃ o, oneshots[n]? = some o ∧ o.asked = c ∧ o.requestId = id
  | .signWait id n => ∃ o, oneshots[n]? = some o ∧ o.requestId = id
  | .signCleanup id _ => ∃ (n : Nat) (o : Oneshot), oneshots[n]? = some o ∧ o.requestId = id
  | _ => True

theorem Numbered.after {other : Section} (numbered : Numbered oneshots other) :
    Numbered (signsAfter act pending oneshots).2 other := by
  cases other with
  | signSend c id m message =>
    obtain ⟨o, known, rfl, rfl⟩ := numbered
    obtain ⟨o', kept, asked, sameId⟩ := signsAfter_keeps act pending known
    exact ⟨o', kept, asked, sameId⟩
  | signWait id m =>
    obtain ⟨o, known, rfl⟩ := numbered
    obtain ⟨o', kept, _, sameId⟩ := signsAfter_keeps act pending known
    exact ⟨o', kept, sameId⟩
  | signCleanup id result =>
    obtain ⟨m, o, known, rfl⟩ := numbered
    obtain ⟨o', kept, _, sameId⟩ := signsAfter_keeps act pending known
    exact ⟨m, o', kept, sameId⟩
  | _ => trivial

theorem perform_numbered (input : Input) (s : System) (numbered : Numbered s.oneshots act) :
    ∀ new ∈ (perform libs act input s).2,
      Numbered (signsAfter act s.agentProxy.pendingSigns s.oneshots).2 new := by
  intro new pushed
  have next := perform_next act input s new pushed
  cases new with
  | signSend c id n message =>
    cases act with
    | signStore agent agentInfo sender requestId =>
      obtain ⟨_, same⟩ := next
      cases same
      exact ⟨⟨id, c, none⟩, by simp [signsAfter], rfl, rfl⟩
    | signSend sender requestId m text =>
      have same : Section.signSend c id n message = .signSend sender requestId m text := by
        simpa [Next] using next
      cases same
      exact numbered
    | _ => simp [Next, Admitted, Cleans] at next
  | signWait id n =>
    cases act with
    | signSend sender requestId m text =>
      have same : Section.signWait id n = .signWait requestId m := by simpa [Next] using next
      cases same
      obtain ⟨o, known, _, sameId⟩ := numbered
      exact ⟨o, known, sameId⟩
    | signWait requestId m =>
      have same : Section.signWait id n = .signWait requestId m := by simpa [Next] using next
      cases same
      exact numbered
    | _ => simp [Next, Admitted, Cleans] at next
  | signCleanup id result =>
    cases act with
    | signSend sender requestId m text =>
      have named : ∃ result', Section.signCleanup id result = .signCleanup requestId result' := by
        simpa [Next] using next
      obtain ⟨_, same⟩ := named
      cases same
      obtain ⟨o, known, _, sameId⟩ := numbered
      exact ⟨m, o, known, sameId⟩
    | signWait requestId m =>
      have named : ∃ result', Section.signCleanup id result = .signCleanup requestId result' := by
        simpa [Next] using next
      obtain ⟨_, same⟩ := named
      cases same
      obtain ⟨o, known, sameId⟩ := numbered
      exact ⟨m, o, known, sameId⟩
    | _ => simp [Next, Admitted, Cleans] at next
  | _ => trivial

/-- Only a response puts a delivery on its way. -/
theorem deliver_pushed {input : Input} {s : System} {id : String} {result : SignResult}
    (pushed : .deliverSignature id result ∈ (perform libs act input s).2) :
    ∃ c signature error, act = .receive c (.text (.ok (.signResponse id signature error))) ∧
      signResult libs signature error = result := by
  have next := perform_next act input s _ pushed
  cases act with
  | receive c f =>
    rcases next with ⟨message, rfl, _, signature, error, rfl, same⟩ | ⟨message, other⟩ | ⟨_, cleaning⟩
    · exact ⟨c, signature, error, rfl, same⟩
    · cases other
    · simp [Cleans] at cleaning
  | _ => simp [Next, Cleans] at next

/-- A delivery for a pending request runs on the connection that was asked. -/
def FromAsked (p : Running) (t : Task) : Section → Input → Prop
  | .deliverSignature id _, _ => ∀ n o, p.shared.agentProxy.pendingSigns.lookup id = some n →
      p.shared.oneshots[n]? = some o → t = .conn o.asked
  | _, _ => True

/-- Pending requests and the sections of requests name oneshots of their own id. -/
structure SignsNumbered (p : Running) : Prop where
  pending : ∀ id n, p.shared.agentProxy.pendingSigns.lookup id = some n →
    ∃ o, p.shared.oneshots[n]? = some o ∧ o.requestId = id
  numbered : ∀ t, ∀ act ∈ p.tasks t, Numbered p.shared.oneshots act

theorem signsNumbered_start (kitsune auth : Bool) : SignsNumbered (.start (.start kitsune auth)) where
  pending id n found := by cases found
  numbered t act member := by cases member

theorem signsNumbered_call (t : Task) (request : Request) (p : Running) (_ : p.tasks t = [])
    (inv : SignsNumbered p) :
    SignsNumbered ⟨p.shared, Function.update p.tasks t (Request.body t request)⟩ where
  pending := inv.pending
  numbered u act member := by
    rcases mem_of_call member with ⟨rfl, first⟩ | old
    · have starts := (body_starts first).1
      cases act <;> trivial
    · exact inv.numbered u act old

theorem signsNumbered_turn (t : Task) (input : Input) (act : Section) (rest : List Section) (p : Running)
    (running : p.tasks t = act :: rest) (inv : SignsNumbered p) :
    SignsNumbered ⟨(perform libs act input p.shared).1,
      Function.update p.tasks t ((perform libs act input p.shared).2 ++ rest)⟩ := by
  obtain ⟨pendingAfter, oneshotsAfter⟩ := Prod.mk.inj (perform_signs libs act input p.shared)
  constructor
  · intro id n found
    rw [pendingAfter] at found
    rw [oneshotsAfter]
    exact signsAfter_pending inv.pending found
  · intro u other member
    rw [oneshotsAfter]
    rcases mem_of_turn running member with ⟨rfl, pushed⟩ | old
    · exact perform_numbered input p.shared (inv.numbered u act (by simp [running])) other pushed
    · exact (inv.numbered u other old).after

structure SignsFromAsked (libs : Libraries) (h : List (Task × Section)) (p : Running) : Prop
    extends SignsNumbered p where
  values : ∀ (n : Nat) o result, p.shared.oneshots[n]? = some o → o.value = some result →
    Responded libs h o.asked o.requestId result
  sent : ∀ t act, (t, act) ∈ h → Numbered p.shared.oneshots act
  responses : ∀ c id result, .deliverSignature id result ∈ p.tasks (.conn c) →
    Responded libs h c id result

theorem signsFromAsked_start (kitsune auth : Bool) :
    SignsFromAsked libs [] (.start (.start kitsune auth)) where
  toSignsNumbered := signsNumbered_start kitsune auth
  values n o result known := by cases known
  sent t act member := by cases member
  responses c id result member := by cases member

theorem signsFromAsked_call (h : List (Task × Section)) (t : Task) (request : Request)
    (p : Running) (idle : p.tasks t = []) (inv : SignsFromAsked libs h p) :
    SignsFromAsked libs h ⟨p.shared, Function.update p.tasks t (Request.body t request)⟩ where
  toSignsNumbered := signsNumbered_call t request p idle inv.toSignsNumbered
  values := inv.values
  sent := inv.sent
  responses c id result member := by
    rcases mem_of_call member with ⟨rfl, first⟩ | old
    · cases (body_starts first).1
    · exact inv.responses c id result old

theorem signsFromAsked_turn (h : List (Task × Section)) (t : Task) (input : Input) (act : Section)
    (rest : List Section) (p : Running) (running : p.tasks t = act :: rest)
    (allowed : Belongs t act ∧ FromAsked p t act input) (inv : SignsFromAsked libs h p) :
    SignsFromAsked libs (h ++ [(t, act)]) ⟨(perform libs act input p.shared).1,
      Function.update p.tasks t ((perform libs act input p.shared).2 ++ rest)⟩ := by
  have oneshotsAfter := (Prod.mk.inj (perform_signs libs act input p.shared)).2
  have running_numbered : Numbered p.shared.oneshots act :=
    inv.numbered t act (by simp [running])
  refine ⟨signsNumbered_turn t input act rest p running inv.toSignsNumbered, ?_, ?_, ?_⟩
  · intro n o result known value
    rw [oneshotsAfter] at known
    obtain ⟨old, there, asked, sameId, before | ⟨id, rfl, found⟩⟩ := signsAfter_value known value
    · rw [← asked, ← sameId]
      exact (inv.values n old result there before).later _
    · -- This delivery: the guard puts it on the asked connection, the table gives the id.
      have onAsked : t = .conn old.asked := allowed.2 n old found there
      obtain ⟨other, there', requested⟩ := inv.pending id n found
      cases there.symm.trans there'
      rw [← asked, ← sameId, requested]
      exact (inv.responses old.asked id result (by simp [← onAsked, running])).later _
  · intro u other member
    rw [oneshotsAfter]
    rcases List.mem_append.mp member with old | new
    · exact (inv.sent u other old).after
    · cases List.mem_singleton.mp new
      exact running_numbered.after
  · intro c id result member
    rcases mem_of_turn running member with ⟨rfl, pushed⟩ | old
    · obtain ⟨c', signature, error, rfl, sameResult⟩ := deliver_pushed pushed
      cases allowed.1
      exact ⟨signature, error, by simp, sameResult⟩
    · exact (inv.responses c id result old).later _

/-- A request that returns a response got it from the
connection that it was sent to; a response from another connection changes no pending request. -/
def Accepted (libs : Libraries) (h : List (Task × Section)) (s : System) (t : Task) : Section → Prop
  | .signWait id n => ∀ o result, s.oneshots[n]? = some o → o.value = some result →
      ∀ c message, (t, .signSend c id n message) ∈ h → Responded libs h c id result
  | .deliverSignature id result => ∀ c, t = .conn c → ∀ other n o,
      s.agentProxy.pendingSigns.lookup other = some n → s.oneshots[n]? = some o → o.asked ≠ c →
        (s.deliverSignature id result).agentProxy.pendingSigns.lookup other = some n ∧
          (s.deliverSignature id result).oneshots[n]? = some o
  | _ => True

/-- Throughout the run, signatures are accepted from the asked connections only. -/
def SignedByAsked (libs : Libraries) (schedule : List (Event Task Request Input))
    (start : Running) : Prop :=
  ∀ before t input after act rest, schedule = before ++ .turn t input :: after →
    ((program libs).execute before start).tasks t = act :: rest →
    Accepted libs ((program libs).history before start) ((program libs).execute before start).shared
      t act

theorem deliverSignature_other {s : System} {id other : String} {result : SignResult}
    (found : s.agentProxy.pendingSigns.lookup other = some n) (known : s.oneshots[n]? = some o)
    (unaffected : s.agentProxy.pendingSigns.lookup id ≠ some n) :
    (s.deliverSignature id result).agentProxy.pendingSigns.lookup other = some n ∧
      (s.deliverSignature id result).oneshots[n]? = some o := by
  unfold System.deliverSignature
  split
  next => exact ⟨found, known⟩
  next m delivered =>
    have different : other ≠ id := by
      rintro rfl
      exact unaffected found
    have elsewhere : m ≠ n := by
      rintro rfl
      exact unaffected delivered
    refine ⟨?_, ?_⟩
    · exact (Finmap.lookup_erase_ne different).trans found
    · rw [List.getElem?_modify, known]
      simp [elsewhere]

theorem accepted_of_fromAsked {h : List (Task × Section)} {p : Running} {t : Task}
    {input : Input} (member : act ∈ p.tasks t) (inv : SignsFromAsked libs h p)
    (allowed : FromAsked p t act input) : Accepted libs h p.shared t act := by
  cases act with
  | signWait id n =>
    intro o result known value c message sent
    obtain ⟨o', known', rfl, rfl⟩ := inv.sent t _ sent
    cases known.symm.trans known'
    exact inv.values n o result known value
  | deliverSignature id result =>
    rintro c rfl other n o found known notAsked
    have unaffected : p.shared.agentProxy.pendingSigns.lookup id ≠ some n := by
      intro same
      exact notAsked (Task.conn.inj (allowed n o same known)).symm
    exact deliverSignature_other found known unaffected
  | _ => trivial

theorem signsFromAsked_execute (kitsune auth : Bool) (schedule : List (Event Task Request Input))
    (guarded : (program libs).Guarded (OnTurn FromAsked) schedule (.start (.start kitsune auth))) :
    SignsFromAsked libs ((program libs).history schedule (.start (.start kitsune auth)))
      ((program libs).execute schedule (.start (.start kitsune auth))) :=
  execute_history (SignsFromAsked libs) _ signsFromAsked_call signsFromAsked_turn schedule [] _
    (guarded_and (guarded_belongs kitsune auth schedule) guarded) (signsFromAsked_start kitsune auth)

/-- Signatures come from the asked connections exactly when every response to a pending request
arrives on the connection that the request went to. -/
theorem signed_by_asked_iff (libs : Libraries) (kitsune auth : Bool)
    (schedule : List (Event Task Request Input)) :
    SignedByAsked libs schedule (.start (.start kitsune auth)) ↔
      (program libs).Guarded (OnTurn FromAsked) schedule (.start (.start kitsune auth)) := by
  constructor
  · intro signed
    apply guarded_of_turns
    intro before t input after act rest split running
    have accepted := signed before t input after act rest split running
    have belongs := tasks_belong libs kitsune auth before t act (by simp [running])
    cases act with
    | deliverSignature id result =>
      intro n o found known
      obtain ⟨c, rfl⟩ := belongs
      by_contra elsewhere
      have notAsked : o.asked ≠ c := by
        rintro rfl
        exact elsewhere rfl
      have kept := (accepted c rfl id n o found known notAsked).1
      simp [System.deliverSignature, found, System.mapProxy, AgentProxyManager.removePending] at kept
    | _ => trivial
  · rintro guarded before t input after act rest rfl running
    obtain ⟨earlier, allowed, _⟩ := (guarded_append _ _ before _ _).mp guarded
    exact accepted_of_fromAsked (by simp [running]) (signsFromAsked_execute kitsune auth before earlier)
      ((onTurn_iff running).mp allowed)

/-- Alice's browser is asked for a signature, and an unauthenticated connection answers. -/
def strangerSigns : List (Event Task Request Input) :=
  registerAlice 0 ++ connects 1 ++
    .call (.sign 0) (.sign alice "{}") :: List.replicate 4 (.turn (.sign 0) (sampleInput 0)) ++
    frames 1 (.text (.ok (.signResponse "sign-0-0" (some aliceSignatureText) none))) 2

def respondsOn (c : WsSender) : Task × Section → Bool
  | (_, .receive c' (.text (.ok (.signResponse _ _ _)))) => c' = c
  | _ => false

/-- The request returns the stranger's signature. -/
theorem signed_by_stranger :
    ¬∀ (libs : Libraries) (kitsune auth : Bool) (schedule : List (Event Task Request Input)),
      SignedByAsked libs schedule (.start (.start kitsune auth)) := by
  intro always
  have asked : (Task.sign 0, Section.signSend 0 "sign-0-0" 0 (.signAgentInfo "sign-0-0" aliceText "{}")) ∈
      (program sampleLibraries).history strangerSigns (.start (.start true false)) :=
    List.mem_of_getElem? (i := 16) rfl
  have responded := always sampleLibraries true false (strangerSigns ++ [.turn (.sign 0) (sampleInput 0)])
    strangerSigns (.sign 0) (sampleInput 0) [] (.signWait "sign-0-0" 0) [] rfl rfl
    ⟨"sign-0-0", 0, some (.ok aliceSignature)⟩ (.ok aliceSignature) rfl rfl 0 _ asked
  have silent : ∀ entry ∈ (program sampleLibraries).history strangerSigns (.start (.start true false)),
      respondsOn 0 entry = false := by
    decide
  obtain ⟨signature, error, member, _⟩ := responded
  cases silent _ member

end H2hcLinker.WebSocket
