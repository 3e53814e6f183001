import H2hcLinker.SigningRequests

/-! What a signing request leaves of itself in the table of pending requests. -/
namespace H2hcLinker.WebSocket

open HashTable Interleaving

variable {libs : Libraries} {p : Running} {t : Task} {act : Section} {rest : List Section}
  {input : Input} {past : List Instant} {id : String}

/-- The request that the section belongs to, from its store on. -/
def Section.signId : Section → Option String
  | .signStore _ _ _ id | .signSend _ id _ _ | .signWait id _ | .signCleanup id _ => some id
  | _ => none

def lastDrawn (t : Task) (past : List Instant) : Option String :=
  ((past.filter (·.task = t)).filterMap drawnId).getLast?

theorem lastDrawn_snoc (t : Task) (past : List Instant) (m : Instant) :
    lastDrawn t (past ++ [m]) =
      if m.task = t then (drawnId m).or (lastDrawn t past) else lastDrawn t past := by
  unfold lastDrawn
  rw [List.filter_append, List.filterMap_append, List.getLast?_append]
  by_cases own : m.task = t
  · cases drawn : drawnId m <;> simp [own, drawn]
  · simp [own]

/-- What a section of a request does to the table: it is about the id that its request drew, it
leaves the other entries alone, and when the request returns with it the own entry is gone. -/
structure SignTurn (libs : Libraries) (before : List Instant) (m : Instant) : Prop where
  own : ∀ id, m.act.signId = some id → lastDrawn m.task before = some id
  others : ∀ id, m.act.signId ≠ some id →
    (perform libs m.act m.input m.pool.shared).1.agentProxy.pendingSigns.lookup id =
      m.pool.shared.agentProxy.pendingSigns.lookup id
  returned : ∀ id, m.act.signId = some id → (perform libs m.act m.input m.pool.shared).2 = [] →
    id ∉ (perform libs m.act m.input m.pool.shared).1.agentProxy.pendingSigns

/-- Every request so far has cleaned up after itself and only after itself. -/
structure CleansUp (libs : Libraries) (past : List Instant) (p : Running) : Prop where
  turns : ∀ before m after, past = before ++ m :: after → Signs m.act → SignTurn libs before m
  held : ∀ id ∈ p.shared.agentProxy.pendingSigns, p.Pending (·.signId = some id)
  idle : (∀ n, p.tasks (.sign n) = []) → p.shared.agentProxy.pendingSignCount = 0

/-- The agent info serialises, if the section is where that happens. -/
def Serialises (m : Instant) : Prop :=
  (match m.act with
    | .signStore _ _ _ _ => m.input.ok
    | _ => true) = true

instance : DecidablePred Serialises := fun _ => inferInstanceAs (Decidable (_ = true))

/-- What follows a section is about the same request; only the draw is about a new one. -/
theorem signId_pushed {new : Section} {s : System} (pushed : new ∈ (perform libs act input s).2)
    (own : new.signId = some id) : act.signId = some id ∨
      act.signId = none ∧ ∃ agent agentInfo sender, act = .signNumber agent agentInfo sender ∧
        id = s.agentProxy.requestId input.millis := by
  have next := perform_next act input s new pushed
  cases new with
  | signStore agent agentInfo sender id' =>
    cases own
    obtain ⟨⟨_, _, _, rfl⟩, drawn⟩ := storing_pushed pushed rfl
    exact .inr ⟨rfl, _, _, _, rfl, drawn⟩
  | signSend sender id' n message =>
    cases own
    cases act with
    | signStore agent agentInfo sender' id'' =>
      obtain ⟨_, same⟩ := next
      cases same
      exact .inl rfl
    | signSend sender' id'' n' message' =>
      have same : Section.signSend sender id n message = .signSend sender' id'' n' message' := by
        simpa [Next] using next
      cases same
      exact .inl rfl
    | _ => simp [Next, Admitted, Cleans] at next
  | signWait id' n =>
    cases own
    cases act with
    | signSend sender' id'' n' message' =>
      have same : Section.signWait id n = .signWait id'' n' := by simpa [Next] using next
      cases same
      exact .inl rfl
    | signWait id'' n' =>
      have same : Section.signWait id n = .signWait id'' n' := by simpa [Next] using next
      cases same
      exact .inl rfl
    | _ => simp [Next, Admitted, Cleans] at next
  | signCleanup id' result =>
    cases own
    cases act with
    | signSend sender' id'' n' message' =>
      have named : ∃ result', Section.signCleanup id result = .signCleanup id'' result' := by
        simpa [Next] using next
      obtain ⟨_, same⟩ := named
      cases same
      exact .inl rfl
    | signWait id'' n' =>
      have named : ∃ result', Section.signCleanup id result = .signCleanup id'' result' := by
        simpa [Next] using next
      obtain ⟨_, same⟩ := named
      cases same
      exact .inl rfl
    | _ => simp [Next, Admitted, Cleans] at next
  | _ => cases own

/-- A request goes on, or has removed its entry, or returns from an agent info that does not
serialise. -/
theorem signId_goes_on (libs : Libraries) (own : act.signId = some id) (input : Input) (s : System) :
    (∃ new ∈ (perform libs act input s).2, new.signId = some id) ∨
      id ∉ (perform libs act input s).1.agentProxy.pendingSigns ∧ (∃ result, act = .signCleanup id result) ∨
      (∃ agent agentInfo sender, act = .signStore agent agentInfo sender id) ∧ input.ok = false := by
  cases act with
  | signStore agent agentInfo sender id' =>
    cases own
    cases ok : input.ok with
    | false => exact .inr (.inr ⟨⟨_, _, _, rfl⟩, rfl⟩)
    | true =>
      refine .inl ?_
      simp only [perform, signStore, ok, if_true]
      exact ⟨_, List.mem_singleton_self _, rfl⟩
  | signSend sender id' n message =>
    cases own
    refine .inl ?_
    simp only [perform, send]
    split
    · exact ⟨_, List.mem_singleton_self _, rfl⟩
    · split <;> exact ⟨_, List.mem_singleton_self _, rfl⟩
  | signWait id' n =>
    cases own
    refine .inl ?_
    simp only [perform, signWait]
    split
    · exact ⟨_, List.mem_singleton_self _, rfl⟩
    · split
      · exact ⟨_, List.mem_singleton_self _, rfl⟩
      · split <;> exact ⟨_, List.mem_singleton_self _, rfl⟩
  | signCleanup id' result =>
    cases own
    exact .inr (.inl ⟨fun still => (Finmap.mem_erase.mp still).1 rfl, result, rfl⟩)
  | _ => cases own

theorem signs_others (libs : Libraries) (signs : Signs act) (other : act.signId ≠ some id)
    (input : Input) (s : System) :
    (perform libs act input s).1.agentProxy.pendingSigns.lookup id =
      s.agentProxy.pendingSigns.lookup id := by
  have after := (Prod.mk.inj (perform_signs libs act input s)).1
  rw [after]
  cases act with
  | signStore agent agentInfo sender id' =>
    exact Finmap.lookup_insert_of_ne _ fun same => other (congrArg some same.symm)
  | signCleanup id' result =>
    exact Finmap.lookup_erase_ne fun same => other (congrArg some same.symm)
  | deliverSignature id' result => cases signs
  | _ => rfl

theorem drawnId_of_signId (own : act.signId = some id) : drawnId ⟨p, t, act, input⟩ = none := by
  cases act <;> first | rfl | cases own

theorem Storing.signId (storing : Storing id act) : act.signId = some id := by
  cases act with
  | signStore agent agentInfo sender id' => exact congrArg some storing
  | _ => cases storing

/-- A task with a section of a numbered request is not about to draw another id. -/
theorem Orderly.not_drawing (orderly : Orderly p) (running : p.tasks t = act :: rest) {other : Section}
    (member : other ∈ p.tasks t) (own : other.signId = some id) :
    drawnId ⟨p, t, act, input⟩ = none := by
  have alone : Alone other := by
    cases other <;> trivial
  have only := orderly.alone t other member alone
  rw [running] at only
  obtain rfl := (List.cons.inj only).1
  exact drawnId_of_signId own

/-- While every agent info serialises: each section is about the id that its task drew last, and each
entry is of a request that goes on. -/
structure Tidy (libs : Libraries) (past : List Instant) (p : Running) : Prop where
  own : ∀ t, ∀ act ∈ p.tasks t, ∀ id, act.signId = some id → lastDrawn t past = some id
  held : ∀ id ∈ p.shared.agentProxy.pendingSigns, p.Pending (·.signId = some id)
  turns : ∀ before m after, past = before ++ m :: after → Signs m.act → SignTurn libs before m

theorem tidy_start (libs : Libraries) (kitsune auth : Bool) :
    Tidy libs [] (.start (.start kitsune auth)) where
  own _ _ member := nomatch member
  held _ member := nomatch member
  turns before m after empty := by simp at empty

theorem tidy_call (t : Task) (request : Request) (p : Running) (idle : p.tasks t = [])
    (inv : Tidy libs past p) :
    Tidy libs past ⟨p.shared, Function.update p.tasks t (Request.body t request)⟩ where
  own u act member id own := by
    rcases mem_of_call member with ⟨rfl, first⟩ | old
    · have starts := (body_starts first).1
      cases act <;> first | exact False.elim starts | cases own
    · exact inv.own u act old id own
  held id member := (pending_call_iff idle _ _ _).mpr (.inl (inv.held id member))
  turns := inv.turns

theorem signTurn (past : List Instant) (t : Task) (input : Input) (act : Section) (rest : List Section)
    (p : Running) (running : p.tasks t = act :: rest) (serialises : Serialises ⟨p, t, act, input⟩)
    (inv : Tidy libs past p) (signs : Signs act) : SignTurn libs past ⟨p, t, act, input⟩ where
  own id own := inv.own t act (by simp [running]) id own
  others id other := signs_others libs signs other input p.shared
  returned id own last := by
    rcases signId_goes_on libs own input p.shared with
      ⟨new, pushed, _⟩ | ⟨gone, _⟩ | ⟨⟨agent, agentInfo, sender, rfl⟩, fails⟩
    · rw [last] at pushed
      cases pushed
    · exact gone
    · exact absurd serialises (by simp [Serialises, fails])

theorem tidy_turn (past : List Instant) (t : Task) (input : Input) (act : Section)
    (rest : List Section) (p : Running) (running : p.tasks t = act :: rest) (orderly : Orderly p)
    (serialises : Serialises ⟨p, t, act, input⟩) (inv : Tidy libs past p) :
    Tidy libs (past ++ [⟨p, t, act, input⟩]) ⟨(perform libs act input p.shared).1,
      Function.update p.tasks t ((perform libs act input p.shared).2 ++ rest)⟩ := by
  refine ⟨?own, ?held, ?turns⟩
  case own =>
    intro u other member id own
    rw [lastDrawn_snoc]
    rcases mem_of_turn running member with ⟨rfl, pushed⟩ | old
    · rw [if_pos rfl]
      rcases signId_pushed pushed own with same | ⟨_, agent, agentInfo, sender, rfl, rfl⟩
      · rw [drawnId_of_signId same, Option.none_or]
        exact inv.own u act (by simp [running]) id same
      · rfl
    · have earlier := inv.own u other old id own
      by_cases same : t = u
      · subst same
        -- A request that draws its id has no other section.
        rw [if_pos rfl, orderly.not_drawing running old own, Option.none_or, earlier]
      · rw [if_neg same, earlier]
  case held =>
    intro id member
    by_cases own : act.signId = some id
    · rcases signId_goes_on libs own input p.shared with
        ⟨new, pushed, same⟩ | ⟨gone, _⟩ | ⟨⟨agent, agentInfo, sender, rfl⟩, fails⟩
      · exact pending_pushed _ _ _ pushed same
      · exact absurd member gone
      · exact absurd serialises (by simp [Serialises, fails])
    · have before : id ∈ p.shared.agentProxy.pendingSigns := by
        rw [(Prod.mk.inj (perform_signs libs act input p.shared)).1] at member
        rcases signsAfter_pending_mem member with there | storing
        · exact there
        · exact absurd storing.signId own
      exact pending_turn running _ _ (inv.held id before) own
  case turns =>
    intro before m after split signs
    rcases Past.snoc_split split with ⟨same, rfl⟩ | ⟨more, earlier⟩
    · rw [same]
      exact signTurn past t input act rest p running serialises inv signs
    · exact inv.turns before m more earlier signs

theorem tidy_execute (kitsune auth : Bool) (schedule : List (Event Task Request Input))
    (serialise : ∀ m ∈ (program libs).moments schedule (.start (.start kitsune auth)), Serialises m) :
    Tidy libs ((program libs).moments schedule (.start (.start kitsune auth)))
      ((program libs).execute schedule (.start (.start kitsune auth))) := by
  have orderly := guarded_of_execute (program libs) Orderly schedule
    (.start (.start kitsune auth)) fun before _ => orderly_execute kitsune auth before
  refine execute_moments (fun past p => (∀ m ∈ past, Serialises m) → Tidy libs past p) _ ?_ ?_
    schedule [] _ orderly (fun _ => tidy_start libs kitsune auth) serialise
  · intro past t request p idle inv serialise
    exact tidy_call t request p idle (inv serialise)
  · intro past t input act rest p running orderly inv serialise
    apply tidy_turn past t input act rest p running orderly (serialise _ (by simp))
    exact inv fun m member => serialise m (List.mem_append_left _ member)

theorem signCount_idle (kitsune auth : Bool) (schedule : List (Event Task Request Input))
    (held : ∀ id ∈ ((program libs).execute schedule
      (.start (.start kitsune auth))).shared.agentProxy.pendingSigns,
      ((program libs).execute schedule (.start (.start kitsune auth))).Pending (·.signId = some id))
    (idle : ∀ n, ((program libs).execute schedule (.start (.start kitsune auth))).tasks (.sign n) = []) :
    ((program libs).execute schedule (.start (.start kitsune auth))).shared.agentProxy.pendingSignCount =
      0 := by
  refine Nat.eq_zero_of_not_pos fun some => ?_
  obtain ⟨id, member⟩ := size_pos_iff.mp some
  obtain ⟨t, act, there, own⟩ := held id member
  have belongs := tasks_belong libs kitsune auth schedule t act there
  have signing : ∃ n, t = .sign n := by
    cases act <;> first | exact belongs | cases own
  obtain ⟨n, rfl⟩ := signing
  rw [idle n] at there
  cases there

/-- As every agent info serialises, every request cleans up after itself and only after itself,
whatever the others and the deliveries do meanwhile. -/
theorem signing_cleans_up (libs : Libraries) (kitsune auth : Bool)
    (schedule : List (Event Task Request Input))
    (serialise : ∀ m ∈ (program libs).moments schedule (.start (.start kitsune auth)), Serialises m) :
    CleansUp libs ((program libs).moments schedule (.start (.start kitsune auth)))
      ((program libs).execute schedule (.start (.start kitsune auth))) := by
  have tidy : Tidy libs _ _ := tidy_execute kitsune auth schedule serialise
  exact ⟨tidy.turns, tidy.held, signCount_idle kitsune auth schedule tidy.held⟩

/-- Of two requests to Alice's browser it answers the second, and the first times out. -/
def aliceAnswersOne : List (Event Task Request Input) :=
  registerAlice 0 ++
    .call (.sign 0) (.sign alice "{}") :: List.replicate 4 (.turn (.sign 0) (sampleInput 0)) ++
    .call (.sign 1) (.sign alice "{}") :: List.replicate 4 (.turn (.sign 1) (sampleInput 0)) ++
    frames 0 (.text (.ok (.signResponse "sign-1-0" (some aliceSignatureText) none))) 2 ++
    List.replicate 2 (.turn (.sign 0) { sampleInput 0 with timedOut := true }) ++
    List.replicate 2 (.turn (.sign 1) (sampleInput 0))

theorem signing_cleans_up_aliceAnswersOne :
    CleansUp sampleLibraries
      ((program sampleLibraries).moments aliceAnswersOne (.start (.start true false)))
      ((program sampleLibraries).execute aliceAnswersOne (.start (.start true false))) :=
  signing_cleans_up sampleLibraries true false aliceAnswersOne (by decide)

end H2hcLinker.WebSocket
