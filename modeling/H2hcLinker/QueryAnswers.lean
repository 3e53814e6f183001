import H2hcLinker.ParallelQuery

/-! What a query answers, in any run. The tasks it spawned end in any order and some of them after it;
its answer is the selection that the sequential query makes among what they yield. -/
namespace H2hcLinker.Dht

open Interleaving Past

variable {debug : WireMessage Wire → String} {s s' : Queries} {p : Querying} {past : List QueryTurn}
  {act : QuerySection} {rest : List QuerySection} {input : QueryInput} {t : Nat} {asking : Asking}

/-- The request that a task is there for. -/
def Spawned.target : Spawned → ResponseKind × DnaHash × String
  | .waiting kind space toUrl => (kind, space, toUrl)
  | .running q | .done q _ => (q.kind, q.space, q.toUrl)

/-- The task asks the peer for the query. -/
def Handle.Serves (asking : Asking) (peer : AgentPubKey × String) (handle : Handle) : Prop :=
  handle.toAgent = peer.1 ∧ handle.task.target = (asking.kind, asking.dna, peer.2)

/-- The section is one of the request's. -/
def About (q : Query) : Section Wire → Prop
  | .beginRequest q' | .sendNotify q' _ | .awaitResponse q' _ | .returned q' _ => q' = q
  | _ => False

def Runs (handle : Nat) : QuerySection → Prop
  | .request other _ => other = handle
  | _ => False

/-- Nothing the task of a query does begins another one. -/
def NotAsking (t : Nat) (m : QueryTurn) : Prop := m.task = t → ∀ asking, m.act ≠ .query asking

/-- The turn began the query, was told of these peers, and spawned tasks for them from this number
on. -/
def Asked (t : Nat) (asking : Asking) (first : Nat) (peers : List (AgentPubKey × String))
    (_ : List QueryTurn) (m : QueryTurn) : Prop :=
  m.task = t ∧ m.act = .query asking ∧ m.input.network.asked asking.dna asking.loc = .ok peers ∧
    m.pool.shared.handles.length = first

/-- The tasks awaited so far have yielded the outcomes; on the others the loop goes on so. -/
def Awaited (s : Queries) (asking : Asking) (handles others : List Nat)
    (onward : List (PeerOutcome (Wire asking.kind)) →
      Except LinkerError (Option (Wire asking.kind))) : Prop :=
  ∃ done outcomes, handles = done ++ others ∧
    List.Forall₂ (fun handle outcome => s.outcome asking.kind handle = some outcome) done outcomes ∧
    ∀ more, more.length = others.length →
      awaitFirst (decisive asking.kind) (outcomes ++ more) none = onward more

/-- The answer, by what the query was told of the network. -/
def Decided (s : Queries) (asking : Asking) (first : Nat)
    (result : Except LinkerError (Option (Wire asking.kind))) :
    Except LinkerError (List (AgentPubKey × String)) → Prop
  | .error e => result = .error e
  | .ok peers =>
    ∃ others, Awaited s asking (List.range' first peers.length) others fun _ => result

def Answers (s : Queries) (t : Nat) (asking : Asking)
    (result : Except LinkerError (Option (Wire asking.kind))) (_ : List QueryTurn) (m : QueryTurn) :
    Prop :=
  m.task = t ∧ m.act = .query asking ∧ Decided s asking m.pool.shared.handles.length result
    (m.input.network.asked asking.dna asking.loc)

/-- What tasks have yielded stays. -/
def Keeps (s s' : Queries) : Prop :=
  ∀ kind handle outcome, s.outcome kind handle = some outcome → s'.outcome kind handle = some outcome

theorem Awaited.mono (keeps : Keeps s s') {handles others : List Nat}
    {onward : List (PeerOutcome (Wire asking.kind)) → Except LinkerError (Option (Wire asking.kind))}
    (awaited : Awaited s asking handles others onward) :
    Awaited s' asking handles others onward := by
  obtain ⟨done, outcomes, split, yielded, goes⟩ := awaited
  exact ⟨done, outcomes, split, yielded.imp fun handle outcome => keeps _ handle outcome, goes⟩

theorem Answers.mono (keeps : Keeps s s') {result : Except LinkerError (Option (Wire asking.kind))}
    {before : List QueryTurn} {m : QueryTurn} (answers : Answers s t asking result before m) :
    Answers s' t asking result before m := by
  obtain ⟨task, act, decided⟩ := answers
  refine ⟨task, act, ?_⟩
  generalize m.input.network.asked asking.dna asking.loc = asked at decided ⊢
  cases asked with
  | error e => exact decided
  | ok peers =>
    obtain ⟨others, awaited⟩ := decided
    exact ⟨others, awaited.mono keeps⟩

/-- What the loop answers after one pass, if the others yield `more`. -/
def afterPass {α : Type} (decisive : α → Bool)
    (pass : Except LinkerError (Option α) ⊕ Option (Except LinkerError (Option α)))
    (more : List (PeerOutcome α)) : Except LinkerError (Option α) :=
  match pass with
  | .inl result => result
  | .inr last => awaitFirst decisive more last

/-- The loop takes one outcome at a time. -/
theorem awaitFirst_cons {α : Type} (decisive : α → Bool) (outcome : PeerOutcome α)
    (others : List (PeerOutcome α)) (last : Option (Except LinkerError (Option α))) :
    awaitFirst decisive (outcome :: others) last =
      afterPass decisive (awaitOne decisive outcome last) others := by
  match outcome with
  | .reply (some answer) =>
    by_cases decides : decisive answer = true
    · simp [awaitFirst, awaitOne, afterPass, decides]
    · simp [awaitFirst, awaitOne, afterPass, decides]
  | .reply none => rfl
  | .failed e => rfl
  | .joinError => rfl

/-- One more task is awaited. -/
theorem Awaited.step {handles others : List Nat} {handle : Nat}
    {last : Option (Except LinkerError (Option (Wire asking.kind)))}
    {outcome : PeerOutcome (Wire asking.kind)}
    (awaited : Awaited s asking handles (handle :: others)
      fun more => awaitFirst (decisive asking.kind) more last)
    (yielded : s.outcome asking.kind handle = some outcome) :
    Awaited s asking handles others
      (afterPass (decisive asking.kind) (awaitOne (decisive asking.kind) outcome last)) := by
  obtain ⟨done, outcomes, rfl, before, goes⟩ := awaited
  refine ⟨done ++ [handle], outcomes ++ [outcome], by simp,
    List.rel_append before (.cons yielded .nil), ?_⟩
  intro more length
  rw [List.append_assoc, List.singleton_append, goes (outcome :: more) (by simp [length])]
  exact awaitFirst_cons _ outcome more last

/-- What a step does to the spawned tasks. -/
inductive Tasked (input : QueryInput) (s : Queries) : QuerySection → Queries → Prop where
  | untouched (act : QuerySection) (s' : Queries) (same : s'.handles = s.handles) :
      Tasked input s act s'
  | asked (asking : Asking) (peers : List (AgentPubKey × String)) (s' : Queries)
      (told : input.network.asked asking.dna asking.loc = .ok peers)
      (grown : s'.handles = s.handles ++ peers.map (Handle.spawn asking)) :
      Tasked input s (.query asking) s'
  | started (handle : Nat) (toAgent : AgentPubKey) (q : Query)
      (waits : s.handles[handle]? = some ⟨toAgent, .waiting q.kind q.space q.toUrl⟩) :
      Tasked input s (.spawned handle) (s.setTask handle (.running q))
  | returned (handle : Nat) (q : Query) (result : Except LinkerError (Option (Wire q.kind))) :
      Tasked input s (.request handle (.returned q result)) (s.setTask handle (.done q result))

theorem performQuery_tasked (debug : WireMessage Wire → String) (act : QuerySection)
    (input : QueryInput) (s : Queries) : Tasked input s act (performQuery debug act input s).1 := by
  cases act with
  | query asking =>
    simp only [performQuery]
    split
    · exact .untouched _ _ rfl
    next created =>
      split
      · exact .untouched _ _ rfl
      next peers found =>
        split
        · exact .untouched _ _ rfl
        · refine .asked asking _ _ ?_ rfl
          simp [DhtQuery.asked, created, found, Except.map]
  | awaitHandles asking handles last =>
    simp only [performQuery]
    split
    · exact .untouched _ _ rfl
    · split
      · exact .untouched _ _ rfl
      · split <;> exact .untouched _ _ rfl
  | answered asking result => exact .untouched _ _ rfl
  | spawned handle =>
    simp only [performQuery]
    split
    next toAgent kind space toUrl found =>
      exact .started handle toAgent ⟨kind, space, toUrl, input.msgId⟩ found
    · exact .untouched _ _ rfl
  | request handle act =>
    cases act with
    | returned q result => exact .returned handle q result
    | _ => exact .untouched _ _ rfl
  | serve act => exact .untouched _ _ rfl

theorem getElem?_setTask (s : Queries) (handle : Nat) (task : Spawned) (i : Nat) :
    (s.setTask handle task).handles[i]? =
      s.handles[i]?.map fun h => if handle = i then { h with task := task } else h := by
  rw [Queries.setTask, List.getElem?_modify]
  split
  · simp
  · simp

/-- A task that returns was running the request it returns from. -/
def Fit (s : Queries) (act : QuerySection) : Prop :=
  ∀ handle q result, act = .request handle (.returned q result) →
    ∃ toAgent, s.handles[handle]? = some ⟨toAgent, .running q⟩

/-- A task other than the step's stays as it is. -/
theorem Tasked.handle (tasked : Tasked input s act s') (fit : Fit s act) {i : Nat} {h : Handle}
    (there : s.handles[i]? = some h) : ∃ h', s'.handles[i]? = some h' ∧ h'.toAgent = h.toAgent ∧
      h'.task.target = h.task.target ∧ ((∀ kind, h.task.outcome kind = none) ∨ h' = h) := by
  cases tasked with
  | untouched act s' same => exact ⟨h, same ▸ there, rfl, rfl, .inr rfl⟩
  | asked asking peers s' told grown =>
    have bound := (List.getElem?_eq_some_iff.mp there).1
    refine ⟨h, ?_, rfl, rfl, .inr rfl⟩
    rw [grown, List.getElem?_append_left bound, there]
  | started handle toAgent q waits =>
    rw [getElem?_setTask, there]
    by_cases here : handle = i
    · subst here
      cases there.symm.trans waits
      exact ⟨_, rfl, by simp, by simp [Spawned.target], .inl fun _ => rfl⟩
    · exact ⟨h, by simp [here], rfl, rfl, .inr rfl⟩
  | returned handle q result =>
    rw [getElem?_setTask, there]
    by_cases here : handle = i
    · subst here
      obtain ⟨toAgent, runs⟩ := fit handle q result rfl
      cases there.symm.trans runs
      exact ⟨_, rfl, by simp, by simp [Spawned.target], .inl fun _ => rfl⟩
    · exact ⟨h, by simp [here], rfl, rfl, .inr rfl⟩

theorem Tasked.keeps (tasked : Tasked input s act s') (fit : Fit s act) : Keeps s s' := by
  intro kind handle outcome yielded
  obtain ⟨h, there, known⟩ := Option.bind_eq_some_iff.mp yielded
  obtain ⟨h', there', _, _, none | rfl⟩ := tasked.handle fit there
  · cases (none kind).symm.trans known
  · rw [Queries.outcome, there', Option.bind_some, known]

theorem Tasked.serves (tasked : Tasked input s act s') (fit : Fit s act) {i : Nat}
    {peer : AgentPubKey × String}
    (served : ∃ h, s.handles[i]? = some h ∧ h.Serves asking peer) :
    ∃ h, s'.handles[i]? = some h ∧ h.Serves asking peer := by
  obtain ⟨h, there, agent, target⟩ := served
  obtain ⟨h', there', sameAgent, sameTarget, _⟩ := tasked.handle fit there
  exact ⟨h', there', sameAgent.trans agent, sameTarget.trans target⟩

/-- A section that is all its task has left. -/
def Solo : QuerySection → Prop
  | .serve _ => False
  | _ => True

/-- A request goes on with one section of its own. -/
theorem about_next {q : Query} {act : Section Wire} (about : About q act)
    (debug : WireMessage Wire → String) (input : Input) (s : PendingDhtResponses Wire) :
    (perform debug act input s).2 = [] ∨
      ∃ new, (perform debug act input s).2 = [new] ∧ About q new := by
  cases act with
  | beginRequest q' =>
    cases about
    simp only [perform]
    split
    · exact .inr ⟨_, rfl, rfl⟩
    · exact .inr ⟨_, rfl, rfl⟩
  | sendNotify q' rx =>
    cases about
    simp only [perform]
    split
    · exact .inr ⟨_, rfl, rfl⟩
    · exact .inr ⟨_, rfl, rfl⟩
  | awaitResponse q' rx =>
    cases about
    simp only [perform]
    split
    · exact .inr ⟨_, rfl, rfl⟩
    · exact .inr ⟨_, rfl, rfl⟩
  | returned q' result => exact .inl rfl
  | _ => cases about

/-- What a step goes on with. -/
inductive Next (debug : WireMessage Wire → String) (input : QueryInput) (s : Queries) :
    QuerySection → List QuerySection → Prop where
  | ends (act : QuerySection) (solo : Solo act) : Next debug input s act []
  | untold (asking : Asking) (e : LinkerError)
      (told : input.network.asked asking.dna asking.loc = .error e) :
      Next debug input s (.query asking) [.answered asking (.error e)]
  | alone (asking : Asking) (told : input.network.asked asking.dna asking.loc = .ok []) :
      Next debug input s (.query asking) [.answered asking (.ok none)]
  | asked (asking : Asking) (peers : List (AgentPubKey × String))
      (told : input.network.asked asking.dna asking.loc = .ok peers) :
      Next debug input s (.query asking)
        [.awaitHandles asking (List.range' s.handles.length peers.length) none]
  | waits (asking : Asking) (handles : List Nat)
      (last : Option (Except LinkerError (Option (Wire asking.kind)))) :
      Next debug input s (.awaitHandles asking handles last) [.awaitHandles asking handles last]
  | all (asking : Asking) (last : Option (Except LinkerError (Option (Wire asking.kind)))) :
      Next debug input s (.awaitHandles asking [] last) [.answered asking (last.getD (.ok none))]
  | decided (asking : Asking) (handle : Nat) (others : List Nat)
      (last : Option (Except LinkerError (Option (Wire asking.kind))))
      (outcome : PeerOutcome (Wire asking.kind))
      (result : Except LinkerError (Option (Wire asking.kind)))
      (yielded : s.outcome asking.kind handle = some outcome)
      (pass : awaitOne (decisive asking.kind) outcome last = .inl result) :
      Next debug input s (.awaitHandles asking (handle :: others) last) [.answered asking result]
  | awaited (asking : Asking) (handle : Nat) (others : List Nat)
      (last next : Option (Except LinkerError (Option (Wire asking.kind))))
      (outcome : PeerOutcome (Wire asking.kind))
      (yielded : s.outcome asking.kind handle = some outcome)
      (pass : awaitOne (decisive asking.kind) outcome last = .inr next) :
      Next debug input s (.awaitHandles asking (handle :: others) last)
        [.awaitHandles asking others next]
  | started (handle : Nat) (toAgent : AgentPubKey) (q : Query)
      (waits : s.handles[handle]? = some ⟨toAgent, .waiting q.kind q.space q.toUrl⟩)
      (same : (performQuery debug (.spawned handle) input s).1 = s.setTask handle (.running q)) :
      Next debug input s (.spawned handle) [.request handle (.beginRequest q)]
  | requested (handle : Nat) (act : Section Wire) (same :
      (performQuery debug (.request handle act) input s).1.handles = s.handles) :
      Next debug input s (.request handle act)
        ((perform debug act input.toInput s.pending).2.map (.request handle))
  | served (act : Section Wire) : Next debug input s (.serve act)
      ((perform debug act input.toInput s.pending).2.map .serve)

theorem performQuery_next (debug : WireMessage Wire → String) (act : QuerySection)
    (input : QueryInput) (s : Queries) :
    Next debug input s act (performQuery debug act input s).2 := by
  cases act with
  | query asking =>
    simp only [performQuery]
    split
    next e failed =>
      exact .untold asking _ (by simp [DhtQuery.asked, failed])
    next created =>
      split
      next e failed => exact .untold asking _ (by simp [DhtQuery.asked, created, failed, Except.map])
      next peers found =>
        have told : input.network.asked asking.dna asking.loc =
            .ok (peers.take parallelGetAgentsCount) := by
          simp [DhtQuery.asked, created, found, Except.map]
        split
        next empty =>
          rw [List.isEmpty_iff.mp empty] at told
          exact .alone asking told
        next =>
          rw [List.length_map]
          exact .asked asking _ told
  | awaitHandles asking handles last =>
    simp only [performQuery]
    split
    next => exact .all asking last
    next handle others =>
      split
      next => exact .waits asking _ last
      next outcome yielded =>
        split
        next result pass => exact .decided asking handle others last outcome result yielded pass
        next next pass => exact .awaited asking handle others last next outcome yielded pass
  | answered asking result => exact .ends _ trivial
  | spawned handle =>
    cases found : s.handles[handle]? with
    | none =>
      simp only [performQuery, found]
      exact .ends _ trivial
    | some h =>
      obtain ⟨toAgent, task⟩ := h
      cases task with
      | waiting kind space toUrl =>
        have same : (performQuery debug (.spawned handle) input s).1 =
            s.setTask handle (.running ⟨kind, space, toUrl, input.msgId⟩) := by
          simp [performQuery, found]
        simp only [performQuery, found]
        exact .started handle toAgent ⟨kind, space, toUrl, input.msgId⟩ found same
      | running q =>
        simp only [performQuery, found]
        exact .ends _ trivial
      | done q result =>
        simp only [performQuery, found]
        exact .ends _ trivial
  | request handle act =>
    cases act with
    | returned q result => exact .ends _ trivial
    | _ => exact .requested handle _ rfl
  | serve act => exact .served act

/-- A query spawns a task for every peer it was told of. -/
theorem performQuery_grown {peers : List (AgentPubKey × String)}
    (told : input.network.asked asking.dna asking.loc = .ok peers) :
    (performQuery debug (.query asking) input s).1.handles =
      s.handles ++ peers.map (Handle.spawn asking) := by
  unfold DhtQuery.asked at told
  split at told
  next => cases told
  next created =>
    cases found : getPeersForLocation input.network asking.dna asking.loc with
    | error e =>
      rw [found] at told
      cases told
    | ok near =>
      rw [found] at told
      cases told
      by_cases empty : near = []
      · simp [performQuery, created, found, empty]
      · simp [performQuery, created, found, empty]

theorem innerPast_snoc (past : List QueryTurn) (m : QueryTurn) : innerPast (past ++ [m]) =
    innerPast past ++
      (m.within QuerySection.inner Queries.pending QueryInput.toInput).toList :=
  filterMap_snoc _ past m

theorem Ended.snoc {q : Query} {result : Except LinkerError (Option (Wire q.kind))}
    (ended : Ended debug (innerPast past) q result) (m : QueryTurn) :
    Ended debug (innerPast (past ++ [m])) q result := by
  rw [innerPast_snoc]
  cases m.within QuerySection.inner Queries.pending QueryInput.toInput with
  | none => rwa [Option.toList_none, List.append_nil]
  | some shown => exact ended.later shown

/-- What is known of the queries on their way. -/
structure Sound (debug : WireMessage Wire → String) (past : List QueryTurn) (p : Querying) :
    Prop where
  solo : ∀ t act, act ∈ p.tasks t → Solo act → p.tasks t = [act]
  running : ∀ t handle act, .request handle act ∈ p.tasks t →
    ∃ (toAgent : AgentPubKey) (q : Query),
      p.shared.handles[handle]? = some ⟨toAgent, .running q⟩ ∧ About q act
  exclusive : ∀ handle, p.Exclusive (Runs handle)
  ended : ∀ (handle : Nat) (toAgent : AgentPubKey) (q : Query)
    (result : Except LinkerError (Option (Wire q.kind))),
    p.shared.handles[handle]? = some ⟨toAgent, .done q result⟩ → Ended debug (innerPast past) q result
  serving : ∀ t asking first peers, Once (Asked t asking first peers) past →
    ∀ i peer, peers[i]? = some peer →
      ∃ h, p.shared.handles[first + i]? = some h ∧ h.Serves asking peer
  awaiting : ∀ t asking handles last, .awaitHandles asking handles last ∈ p.tasks t →
    ∃ first peers, Since (NotAsking t) (Asked t asking first peers) past ∧
      Awaited p.shared asking (List.range' first peers.length) handles
        fun more => awaitFirst (decisive asking.kind) more last
  answered : ∀ t asking result, .answered asking result ∈ p.tasks t →
    Since (NotAsking t) (Answers p.shared t asking result) past

theorem sound_start (debug : WireMessage Wire → String) :
    Sound debug [] (.start .new) where
  solo _ _ member := by cases member
  running _ _ _ member := by cases member
  exclusive _ _ _ _ member := by cases member
  ended _ _ _ _ found := by simp [Pool.start, Queries.new] at found
  serving _ _ _ _ once := absurd once not_once_nil
  awaiting _ _ _ _ member := by cases member
  answered _ _ _ member := by cases member

theorem sound_call (idle : p.tasks t = []) (call : QueryCall) (sound : Sound debug past p) :
    Sound debug past ⟨p.shared, Function.update p.tasks t [call.start]⟩ := by
  have started {new : QuerySection} {u : Nat}
      (member : new ∈ Function.update p.tasks t [call.start] u) :
      new = call.start ∧ u = t ∨ new ∈ p.tasks u := by
    rcases mem_of_call member with ⟨here, first⟩ | old
    · exact .inl ⟨List.mem_singleton.mp first, here⟩
    · exact .inr old
  refine ⟨?_, ?_, ?_, sound.ended, sound.serving, ?_, ?_⟩
  · intro u act member solo
    rcases started member with ⟨rfl, rfl⟩ | old
    · exact Function.update_self ..
    · have single := sound.solo u act old solo
      have other : u ≠ t := by
        rintro rfl
        simp [idle] at single
      rw [← single]
      exact Function.update_of_ne other _ _
  · intro u handle act member
    rcases started member with ⟨same, _⟩ | old
    · cases call <;> cases same
    · exact sound.running u handle act old
  · intro handle
    refine exclusive_call (sound.exclusive handle) fun act member runs => ?_
    rw [List.mem_singleton.mp member] at runs
    cases call <;> cases runs
  · intro u asking handles last member
    rcases started member with ⟨same, _⟩ | old
    · cases call <;> cases same
    · exact sound.awaiting u asking handles last old
  · intro u asking result member
    rcases started member with ⟨same, _⟩ | old
    · cases call <;> cases same
    · exact sound.answered u asking result old

theorem Sound.fit (sound : Sound debug past p) (running : p.tasks t = act :: rest) :
    Fit p.shared act := by
  rintro handle q result rfl
  obtain ⟨toAgent, q', runs, about⟩ :=
    sound.running t handle (.returned q result) (by simp [running])
  cases about
  exact ⟨toAgent, runs⟩

/-- Behind a section there is nothing that is not served for the transport. -/
theorem Sound.behind (sound : Sound debug past p) (running : p.tasks t = act :: rest)
    {other : QuerySection} (member : other ∈ rest) : ¬Solo other := by
  intro solo
  have single := sound.solo t other (by simp [running, member]) solo
  rw [running] at single
  cases single
  cases member

theorem Sound.nothing_behind (sound : Sound debug past p) (running : p.tasks t = act :: rest)
    (solo : Solo act) : rest = [] := by
  have single := sound.solo t act (by simp [running]) solo
  rw [running] at single
  exact (List.cons.inj single).2

/-- A section of a call on its own was there before in another task, or has just been pushed. -/
theorem Sound.turned (sound : Sound debug past p) (running : p.tasks t = act :: rest)
    {next : List QuerySection} {u : Nat} {new : QuerySection}
    (member : new ∈ Function.update p.tasks t (next ++ rest) u) (solo : Solo new) :
    u = t ∧ new ∈ next ∨ u ≠ t ∧ new ∈ p.tasks u := by
  by_cases here : u = t
  · subst here
    rw [Function.update_self] at member
    rcases List.mem_append.mp member with pushed | waiting
    · exact .inl ⟨rfl, pushed⟩
    · exact absurd solo (sound.behind running waiting)
  · rw [Function.update_of_ne here] at member
    exact .inr ⟨here, member⟩

/-- What a step goes on with, once it is known that requests keep to themselves. -/
theorem Sound.next_solo (sound : Sound debug past p) (running : p.tasks t = act :: rest)
    {new : QuerySection} (solo : Solo new)
    (pushed : new ∈ (performQuery debug act input p.shared).2) :
    Solo act ∧ (performQuery debug act input p.shared).2 = [new] := by
  have next := performQuery_next debug act input p.shared
  generalize (performQuery debug act input p.shared).2 = pushes at pushed next
  cases next with
  | ends act _ => cases pushed
  | requested handle act same =>
    obtain ⟨toAgent, q, _, about⟩ := sound.running t handle act (by simp [running])
    obtain ⟨shown, member, rfl⟩ := List.mem_map.mp pushed
    rcases about_next about debug input.toInput p.shared.pending with
      none | ⟨new, single, _⟩
    · rw [none] at member
      cases member
    · rw [single] at member ⊢
      rw [List.mem_singleton.mp member]
      exact ⟨trivial, rfl⟩
  | served act =>
    obtain ⟨shown, _, rfl⟩ := List.mem_map.mp pushed
    cases solo
  | _ => exact ⟨trivial, by rw [List.mem_singleton.mp pushed]⟩

theorem Sound.solo_turn (sound : Sound debug past p) (running : p.tasks t = act :: rest) {u : Nat}
    {new : QuerySection} (solo : Solo new) (member : new ∈ Function.update p.tasks t
      ((performQuery debug act input p.shared).2 ++ rest) u) :
    Function.update p.tasks t ((performQuery debug act input p.shared).2 ++ rest) u = [new] := by
  rcases sound.turned running member solo with ⟨rfl, pushed⟩ | ⟨other, old⟩
  · obtain ⟨alone, single⟩ := sound.next_solo running solo pushed
    rw [Function.update_self, single, sound.nothing_behind running alone, List.append_nil]
  · rw [Function.update_of_ne other]
    exact sound.solo u new old solo

/-- A request goes on with its own next section, or starts in a task that was waiting. -/
theorem Sound.request_pushed (sound : Sound debug past p) (running : p.tasks t = act :: rest)
    {handle : Nat} {new : Section Wire}
    (pushed : .request handle new ∈ (performQuery debug act input p.shared).2) :
    ∃ (toAgent : AgentPubKey) (q : Query),
      (performQuery debug act input p.shared).1.handles[handle]? = some ⟨toAgent, .running q⟩ ∧
      About q new ∧ (Runs handle act ∨
        p.shared.handles[handle]? = some ⟨toAgent, .waiting q.kind q.space q.toUrl⟩) := by
  have next := performQuery_next debug act input p.shared
  generalize (performQuery debug act input p.shared).2 = pushes at pushed next
  cases next with
  | started handle' toAgent q waits same =>
    cases List.mem_singleton.mp pushed
    refine ⟨toAgent, q, ?_, rfl, .inr waits⟩
    rw [same, getElem?_setTask, waits]
    simp
  | requested handle' act same =>
    obtain ⟨shown, member, eq⟩ := List.mem_map.mp pushed
    cases eq
    obtain ⟨toAgent, q, runs, about⟩ := sound.running t handle act (by simp [running])
    refine ⟨toAgent, q, same ▸ runs, ?_, .inl rfl⟩
    rcases about_next about debug input.toInput p.shared.pending with
      none | ⟨new, single, goes⟩
    · rw [none] at member
      cases member
    · rw [single] at member
      rw [List.mem_singleton.mp member]
      exact goes
  | served act =>
    obtain ⟨shown, _, eq⟩ := List.mem_map.mp pushed
    cases eq
  | ends act _ => cases pushed
  | _ => cases List.mem_singleton.mp pushed

/-- Another task's request is not touched. -/
theorem Sound.running_kept (sound : Sound debug past p) (running : p.tasks t = act :: rest) {u : Nat}
    (other : u ≠ t) {handle : Nat} {new : Section Wire} (member : .request handle new ∈ p.tasks u) :
    ∃ (toAgent : AgentPubKey) (q : Query),
      (performQuery debug act input p.shared).1.handles[handle]? = some ⟨toAgent, .running q⟩ ∧
      About q new := by
  obtain ⟨toAgent, q, runs, about⟩ := sound.running u handle new member
  refine ⟨toAgent, q, ?_, about⟩
  have tasked := performQuery_tasked debug act input p.shared
  generalize (performQuery debug act input p.shared).1 = after at tasked
  cases tasked with
  | untouched act s' same => exact same ▸ runs
  | asked asking peers s' told grown =>
    rw [grown, List.getElem?_append_left (List.getElem?_eq_some_iff.mp runs).1, runs]
  | started handle' toAgent' q' waits =>
    have apart : handle' ≠ handle := by
      rintro rfl
      cases waits.symm.trans runs
    rw [getElem?_setTask, runs]
    simp [apart]
  | returned handle' q' result =>
    have apart : handle' ≠ handle := by
      rintro rfl
      have head : .request handle' (.returned q' result) ∈ p.tasks t := by simp [running]
      exact other (sound.exclusive handle' u t _ member _ head rfl rfl)
    rw [getElem?_setTask, runs]
    simp [apart]

theorem Sound.exclusive_turn (sound : Sound debug past p) (running : p.tasks t = act :: rest)
    (handle : Nat) : (⟨(performQuery debug act input p.shared).1, Function.update p.tasks t
      ((performQuery debug act input p.shared).2 ++ rest)⟩ : Querying).Exclusive (Runs handle) := by
  apply Interleaving.exclusive_turn running (sound.exclusive handle)
  rintro ⟨new, pushed, runs⟩
  cases new with
  | request handle' new =>
    cases runs
    obtain ⟨toAgent, q, _, _, mark | waits⟩ := sound.request_pushed running pushed
    · exact .inl mark
    · right
      rintro ⟨u, other, member, also⟩
      cases other with
      | request handle' old =>
        cases also
        obtain ⟨_, _, runs, _⟩ := sound.running u handle old member
        cases waits.symm.trans runs
      | _ => cases also
  | _ => cases runs

/-- What a task returned is accounted for by the messages, timers and failures of the run. -/
theorem Sound.ended_turn (sound : Sound debug past p) (running : p.tasks t = act :: rest)
    (known : Ending debug (innerPast past) (innerPool p)) {handle : Nat} {toAgent : AgentPubKey}
    {q : Query} {result : Except LinkerError (Option (Wire q.kind))}
    (found : (performQuery debug act input p.shared).1.handles[handle]? =
      some ⟨toAgent, .done q result⟩) :
    Ended debug (innerPast (past ++ [⟨p, t, act, input⟩])) q result := by
  have tasked := performQuery_tasked debug act input p.shared
  generalize (performQuery debug act input p.shared).1 = after at tasked found
  cases tasked with
  | untouched act s' same => exact (sound.ended handle toAgent q result (same ▸ found)).snoc _
  | asked asking peers s' told grown =>
    rw [grown, List.getElem?_append] at found
    split at found
    · exact (sound.ended handle toAgent q result found).snoc _
    · rw [List.getElem?_map] at found
      obtain ⟨peer, _, spawned⟩ := Option.map_eq_some_iff.mp found
      cases spawned
  | started handle' toAgent' q' waits =>
    rw [getElem?_setTask] at found
    obtain ⟨h, there, task⟩ := Option.map_eq_some_iff.mp found
    split at task
    · cases task
    · exact (sound.ended handle toAgent q result (task ▸ there)).snoc _
  | returned handle' q' result' =>
    rw [getElem?_setTask] at found
    obtain ⟨h, there, task⟩ := Option.map_eq_some_iff.mp found
    split at task
    · cases task
      have head : .returned q result ∈ (innerPool p).tasks t :=
        List.mem_filterMap.mpr ⟨_, by rw [running]; exact List.mem_cons_self, rfl⟩
      exact (known.ended t q result head).snoc _
    · exact (sound.ended handle toAgent q result (task ▸ there)).snoc _

/-- The tasks of a query ask the peers it was told of. -/
theorem Sound.serving_turn (sound : Sound debug past p) (running : p.tasks t = act :: rest) {u : Nat}
    {first : Nat} {peers : List (AgentPubKey × String)}
    (once : Once (Asked u asking first peers) (past ++ [⟨p, t, act, input⟩])) {i : Nat}
    {peer : AgentPubKey × String} (asked : peers[i]? = some peer) :
    ∃ h, (performQuery debug act input p.shared).1.handles[first + i]? = some h ∧
      h.Serves asking peer := by
  rcases once_snoc.mp once with before | ⟨rfl, rfl, told, rfl⟩
  · have tasked := performQuery_tasked debug act input p.shared
    exact tasked.serves (sound.fit running) (sound.serving u asking first peers before i peer asked)
  · refine ⟨.spawn asking peer, ?_, rfl, rfl⟩
    rw [performQuery_grown told, List.getElem?_append_right (Nat.le_add_right _ _),
      Nat.add_sub_cancel_left, List.getElem?_map, asked]
    rfl

theorem Sound.awaiting_turn (sound : Sound debug past p) (running : p.tasks t = act :: rest) {u : Nat}
    {handles : List Nat} {last : Option (Except LinkerError (Option (Wire asking.kind)))}
    (member : .awaitHandles asking handles last ∈ Function.update p.tasks t
      ((performQuery debug act input p.shared).2 ++ rest) u) :
    ∃ first peers, Since (NotAsking u) (Asked u asking first peers) (past ++ [⟨p, t, act, input⟩]) ∧
      Awaited (performQuery debug act input p.shared).1 asking (List.range' first peers.length)
        handles fun more => awaitFirst (decisive asking.kind) more last := by
  have keeps := (performQuery_tasked debug act input p.shared).keeps (sound.fit running)
  rcases sound.turned running member trivial with ⟨rfl, pushed⟩ | ⟨other, old⟩
  · have head : act ∈ p.tasks u := by simp [running]
    have next := performQuery_next debug act input p.shared
    generalize (performQuery debug act input p.shared).2 = pushes at pushed next
    cases next with
    | asked asking' peers told =>
      cases List.mem_singleton.mp pushed
      exact ⟨_, peers, since_now ⟨rfl, rfl, told, rfl⟩, [], [], rfl, .nil, fun more _ => rfl⟩
    | waits asking' handles' last' =>
      cases List.mem_singleton.mp pushed
      obtain ⟨first, peers, since, awaited⟩ := sound.awaiting u asking handles last head
      exact ⟨first, peers, since.later fun _ _ same => (by cases same), awaited.mono keeps⟩
    | awaited asking' handle others last' next outcome yielded pass =>
      cases List.mem_singleton.mp pushed
      obtain ⟨first, peers, since, awaited⟩ := sound.awaiting u asking _ last' head
      refine ⟨first, peers, since.later fun _ _ same => (by cases same), ?_⟩
      have step := (awaited.step yielded).mono keeps
      rw [pass] at step
      exact step
    | requested handle act same =>
      obtain ⟨shown, _, eq⟩ := List.mem_map.mp pushed
      cases eq
    | served act =>
      obtain ⟨shown, _, eq⟩ := List.mem_map.mp pushed
      cases eq
    | ends act _ => cases pushed
    | _ => cases List.mem_singleton.mp pushed
  · obtain ⟨first, peers, since, awaited⟩ := sound.awaiting u asking handles last old
    exact ⟨first, peers, since.later fun task => absurd task.symm other, awaited.mono keeps⟩

/-- The query that awaited all it had to has its answer. -/
theorem Awaited.answers {first : Nat} {peers : List (AgentPubKey × String)} {others : List Nat}
    {result : Except LinkerError (Option (Wire asking.kind))}
    (since : Since (NotAsking t) (Asked t asking first peers) past)
    (awaited : Awaited s asking (List.range' first peers.length) others fun _ => result) :
    Since (NotAsking t) (Answers s t asking result) past := by
  refine since.mono ?_
  rintro before m ⟨task, act, told, rfl⟩
  refine ⟨task, act, ?_⟩
  rw [told]
  exact ⟨others, awaited⟩

theorem Sound.answered_turn (sound : Sound debug past p) (running : p.tasks t = act :: rest) {u : Nat}
    {result : Except LinkerError (Option (Wire asking.kind))}
    (member : .answered asking result ∈ Function.update p.tasks t
      ((performQuery debug act input p.shared).2 ++ rest) u) :
    Since (NotAsking u) (Answers (performQuery debug act input p.shared).1 u asking result)
      (past ++ [⟨p, t, act, input⟩]) := by
  have keeps := (performQuery_tasked debug act input p.shared).keeps (sound.fit running)
  rcases sound.turned running member trivial with ⟨rfl, pushed⟩ | ⟨other, old⟩
  · have head : act ∈ p.tasks u := by simp [running]
    have next := performQuery_next debug act input p.shared
    generalize (performQuery debug act input p.shared).2 = pushes at pushed next
    cases next with
    | untold asking' e told =>
      cases List.mem_singleton.mp pushed
      refine since_now ⟨rfl, rfl, ?_⟩
      simp only [told]
      rfl
    | alone asking' told =>
      cases List.mem_singleton.mp pushed
      refine since_now ⟨rfl, rfl, ?_⟩
      simp only [told]
      refine ⟨[], [], [], rfl, .nil, fun more none => ?_⟩
      rw [List.length_eq_zero_iff.mp none]
      rfl
    | all asking' last =>
      cases List.mem_singleton.mp pushed
      obtain ⟨first, peers, since, awaited⟩ := sound.awaiting u asking [] last head
      obtain ⟨done, outcomes, split, yielded, goes⟩ := awaited.mono keeps
      apply Awaited.answers (since.later fun _ _ same => (by cases same))
      refine ⟨done, outcomes, split, yielded, fun more none => ?_⟩
      rw [goes more none, List.length_eq_zero_iff.mp none]
      rfl
    | decided asking' handle others last outcome result' yielded pass =>
      cases List.mem_singleton.mp pushed
      obtain ⟨first, peers, since, awaited⟩ := sound.awaiting u asking _ last head
      apply Awaited.answers (since.later fun _ _ same => (by cases same))
      have step := (awaited.step yielded).mono keeps
      rw [pass] at step
      exact step
    | requested handle act same =>
      obtain ⟨shown, _, eq⟩ := List.mem_map.mp pushed
      cases eq
    | served act =>
      obtain ⟨shown, _, eq⟩ := List.mem_map.mp pushed
      cases eq
    | ends act _ => cases pushed
    | _ => cases List.mem_singleton.mp pushed
  · refine Since.later ?_ fun task => absurd task.symm other
    exact (sound.answered u asking result old).mono fun before m answers => answers.mono keeps

theorem sound_turn (running : p.tasks t = act :: rest)
    (known : Ending debug (innerPast past) (innerPool p)) (sound : Sound debug past p) :
    Sound debug (past ++ [⟨p, t, act, input⟩]) ⟨(performQuery debug act input p.shared).1,
      Function.update p.tasks t ((performQuery debug act input p.shared).2 ++ rest)⟩ where
  solo _ _ member solo := sound.solo_turn running solo member
  running u handle new member := by
    rcases sound.turned running member trivial with ⟨rfl, pushed⟩ | ⟨other, old⟩
    · obtain ⟨toAgent, q, runs, about, _⟩ := sound.request_pushed running pushed
      exact ⟨toAgent, q, runs, about⟩
    · exact sound.running_kept running other old
  exclusive := sound.exclusive_turn running
  ended _ _ _ _ found := sound.ended_turn running known found
  serving _ _ _ _ once _ _ asked := sound.serving_turn running once asked
  awaiting _ _ _ _ member := sound.awaiting_turn running member
  answered _ _ _ member := sound.answered_turn running member

/-- Seen without the queries, a run is a run of the requests. -/
theorem ending_within (debug : WireMessage Wire → String)
    (schedule : List (Event Nat QueryCall QueryInput)) :
    Ending debug (innerPast ((queries debug).moments schedule (.start .new)))
      (innerPool ((queries debug).execute schedule (.start .new))) := by
  obtain ⟨_, within, ran, moments⟩ := layered_run (queries_layers debug) schedule .new
  have ending := ending_execute debug within
  rw [innerPast, innerPool, ← moments, ← ran]
  exact ending

theorem sound_execute (debug : WireMessage Wire → String)
    (schedule : List (Event Nat QueryCall QueryInput)) :
    Sound debug ((queries debug).moments schedule (.start .new))
      ((queries debug).execute schedule (.start .new)) := by
  apply execute_known (fun past p => Ending debug (innerPast past) (innerPool p)) (Sound debug)
    (ending_within debug) (sound_start debug)
  · intro past t call p idle known sound
    exact sound_call idle call sound
  · intro past t input act rest p running known sound
    exact sound_turn running known sound

/-- What the awaited tasks have yielded is a prefix of any outcomes that agree with them. -/
theorem Awaited.selected {first n : Nat} {others : List Nat}
    {result : Except LinkerError (Option (Wire asking.kind))}
    (awaited : Awaited s asking (List.range' first n) others fun _ => result)
    {outcomes : List (PeerOutcome (Wire asking.kind))} (length : outcomes.length = n)
    (agree : ∀ i < n, ∀ outcome, s.outcome asking.kind (first + i) = some outcome →
      outcomes[i]? = some outcome) : result = selected (decisive asking.kind) outcomes := by
  obtain ⟨done, seen, split, yielded, goes⟩ := awaited
  have counted : n = done.length + others.length := by
    simpa using congrArg List.length split
  have same : done.length = seen.length := yielded.length_eq
  have start : outcomes.take seen.length = seen := by
    apply List.ext_getElem (by simp; omega)
    intro i bound inside
    have handle : done[i] = first + i := by
      have here : (List.range' first n)[i]? = done[i]? := by
        rw [split, List.getElem?_append_left (by omega)]
      rw [List.getElem?_eq_getElem (by rw [List.length_range']; omega),
        List.getElem?_eq_getElem (by omega), Option.some.injEq, List.getElem_range'] at here
      omega
    have yields := yielded.get (by omega) inside
    simp only [List.get_eq_getElem] at yields
    rw [handle] at yields
    have agrees := agree i (by omega) _ yields
    rw [List.getElem?_eq_getElem (by omega), Option.some.injEq] at agrees
    rw [List.getElem_take, agrees]
  have whole : seen ++ outcomes.drop seen.length = outcomes := by
    have parts := List.take_append_drop seen.length outcomes
    rwa [start] at parts
  rw [← awaitFirst_eq_selected, ← whole]
  exact (goes _ (by simp; omega)).symm

/-- What a task that has returned ended with is accounted for. -/
def Handle.Accounted (debug : WireMessage Wire → String) (past : List QueryTurn) (handle : Handle) :
    Prop :=
  ∀ q result, handle.task = .done q result → Ended debug (innerPast past) q result

/-- Every peer the query was told of is asked by a task of its own, and the answer is the one that is
selected among what the tasks yield, whatever those that still run come to. -/
def Selects (debug : WireMessage Wire → String) (past : List QueryTurn) (s : Queries) (asking : Asking)
    (first : Nat) (result : Except LinkerError (Option (Wire asking.kind))) :
    Except LinkerError (List (AgentPubKey × String)) → Prop
  | .error e => result = .error e
  | .ok peers =>
    (∀ i peer, peers[i]? = some peer → ∃ handle, s.handles[first + i]? = some handle ∧
      handle.Serves asking peer ∧ handle.Accounted debug past) ∧
    ∀ outcomes : List (PeerOutcome (Wire asking.kind)), outcomes.length = peers.length →
      (∀ i < peers.length, ∀ outcome, s.outcome asking.kind (first + i) = some outcome →
        outcomes[i]? = some outcome) → result = selected (decisive asking.kind) outcomes

/-- The sequential query answers the same, where the network's peers yield what the tasks did. -/
def Refines (s : Queries) (asking : Asking) (first : Nat)
    (result : Except LinkerError (Option (Wire asking.kind))) (q : DhtQuery) : Prop :=
  ∀ send : AgentPubKey × String → PeerOutcome (Wire asking.kind),
    (∀ peers i peer outcome, q.asked asking.dna asking.loc = .ok peers → peers[i]? = some peer →
      s.outcome asking.kind (first + i) = some outcome → send peer = outcome) →
    result = q.overPeers asking.dna asking.loc (decisive asking.kind) send

theorem Selects.refines {q : DhtQuery} {first : Nat}
    {result : Except LinkerError (Option (Wire asking.kind))}
    (selects : Selects debug past s asking first result (q.asked asking.dna asking.loc)) :
    Refines s asking first result q := by
  intro send agree
  rw [DhtQuery.overPeers_eq_selects, DhtQuery.selects]
  cases told : q.asked asking.dna asking.loc with
  | error e =>
    rw [told] at selects
    exact selects
  | ok peers =>
    rw [told] at selects
    refine selects.2 (peers.map send) (by simp) fun i bound outcome yielded => ?_
    have there := List.getElem?_eq_getElem bound
    rw [List.getElem?_map, there, Option.map_some, agree peers i _ outcome told there yielded]

/-- An answer is the selection among what the tasks yield. -/
theorem Sound.selects (sound : Sound debug past p) {m : QueryTurn} {before after : List QueryTurn}
    {result : Except LinkerError (Option (Wire asking.kind))} (split : past = before ++ m :: after)
    (answers : Answers p.shared t asking result before m) :
    Selects debug past p.shared asking m.pool.shared.handles.length result
      (m.input.network.asked asking.dna asking.loc) := by
  obtain ⟨task, act, decided⟩ := answers
  cases told : m.input.network.asked asking.dna asking.loc with
  | error e =>
    rw [told] at decided
    exact decided
  | ok peers =>
    rw [told] at decided
    obtain ⟨others, awaited⟩ := decided
    refine ⟨fun i peer asked => ?_, fun outcomes length agree => awaited.selected length agree⟩
    have once : Once (Asked t asking m.pool.shared.handles.length peers) past :=
      ⟨before, m, after, split, ⟨task, act, told, rfl⟩, fun _ _ => trivial⟩
    obtain ⟨handle, there, serves⟩ := sound.serving t asking _ peers once i peer asked
    refine ⟨handle, there, serves, fun q ended done => ?_⟩
    apply sound.ended (m.pool.shared.handles.length + i) handle.toAgent q ended
    rw [← done]
    exact there

/-- In any run, a query asks every peer it was told of in a task of its own, each task ends with what
the messages, timers and failures of the run account for, and the answer is the one of the sequential
query, run against peers that yield what the tasks have yielded so far. -/
theorem query_refines (debug : WireMessage Wire → String)
    (schedule : List (Event Nat QueryCall QueryInput)) :
    let past := (queries debug).moments schedule (.start .new)
    let p := (queries debug).execute schedule (.start .new)
    ∀ t asking result rest, p.tasks t = .answered asking result :: rest →
      Since (NotAsking t) (fun _ m => m.task = t ∧ m.act = .query asking ∧
        Selects debug past p.shared asking m.pool.shared.handles.length result
          (m.input.network.asked asking.dna asking.loc) ∧
        Refines p.shared asking m.pool.shared.handles.length result m.input.network) past := by
  intro past p t asking result rest running
  have sound := sound_execute debug schedule
  have answered := sound.answered t asking result (by simp [p, running])
  obtain ⟨before, m, after, split, answers, calm⟩ := answered
  have selects := sound.selects split answers
  exact ⟨before, m, after, split, ⟨answers.1, answers.2.1, selects, selects.refines⟩, calm⟩

/-- Two peers near every location; nothing fails. -/
def nearby : QueryInput where
  failure := none
  timedOut := false
  network :=
    { getOrCreateSpace := fun _ => .ok ()
      nearLocation := fun _ _ => .ok
        [⟨⟨[1]⟩, some "a", false, fun _ => true⟩, ⟨⟨[2]⟩, some "b", false, fun _ => true⟩]
      sendGetRequest := fun _ _ _ => .joinError }
  msgId := 0

def noLinks : CountLinksResponse := ⟨[]⟩

/-- The request to peer a cannot be sent; peer b answers the other one. -/
def secondAnswers : List (Event Nat QueryCall QueryInput) :=
  [.call 0 (.query ⟨.countLinksRes, ⟨[]⟩, 3⟩), .turn 0 nearby, .call 1 (.run 0), .turn 1 nearby,
    .turn 1 nearby, .turn 1 { nearby with failure := some "unreachable" }, .turn 1 nearby,
    .turn 0 nearby, .call 2 (.run 1), .turn 2 { nearby with msgId := 1 }, .turn 2 nearby,
    .turn 2 nearby, .call 3 (.recvNotify "b" ⟨[]⟩ (.res .countLinksRes 1 noLinks)),
    .turn 3 nearby, .turn 3 nearby, .turn 3 nearby, .turn 2 nearby, .turn 2 nearby, .turn 0 nearby]

example : ((queries fun _ => "").execute secondAnswers (.start .new)).tasks 0 =
    [.answered ⟨.countLinksRes, ⟨[]⟩, 3⟩ (.ok (some noLinks))] := rfl

end H2hcLinker.Dht
