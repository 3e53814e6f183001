import H2hcLinker.RoutingTable

/-! What is left of an agent after its removal. `remove_agent` drops the agent's sessions and its
stored senders; the connections keep their own state and their own senders. -/
namespace H2hcLinker.WebSocket

open HashTable Interleaving

variable {libs : Libraries} {p : Running} {agent : AgentPubKey} {act : Section} {rest : List Section}
  {input : Input} {t : Task}

/-- How an agent stands: not removed, removed, or added again but without a new handshake. -/
inductive Standing where
  | free
  | removed
  | readded
  deriving DecidableEq

def Standing.after (agent : AgentPubKey) (st : Standing) : Section → Standing
  | .dropWsSenders a => if a = agent then .removed else st
  | .addAgent entry => if entry.agentPubkey = agent ∧ st = .removed then .readded else st
  | .registerWsSender _ a _ => if a = agent ∧ st = .readded then .free else st
  | _ => st

def standing (agent : AgentPubKey) (h : List (Task × Section)) : Standing :=
  h.foldl (fun st entry => st.after agent entry.2) .free

theorem standing_snoc (agent : AgentPubKey) (h : List (Task × Section)) (entry : Task × Section) :
    standing agent (h ++ [entry]) = (standing agent h).after agent entry.2 := by
  simp [standing, List.foldl_append]

theorem Standing.after_removed {st : Standing} (removed : st.after agent act = .removed) :
    act = .dropWsSenders agent ∨
      st = .removed ∧ ∀ entry, act = .addAgent entry → entry.agentPubkey ≠ agent := by
  cases act with
  | dropWsSenders a =>
    simp only [Standing.after] at removed
    split at removed
    next same => exact .inl (congrArg Section.dropWsSenders same)
    next => exact .inr ⟨removed, by simp⟩
  | addAgent entry =>
    simp only [Standing.after] at removed
    split at removed
    next => cases removed
    next other =>
      refine .inr ⟨removed, ?_⟩
      rintro _ ⟨⟩ same
      exact other ⟨same, removed⟩
  | registerWsSender c a token =>
    simp only [Standing.after] at removed
    split at removed
    next => cases removed
    next => exact .inr ⟨removed, by simp⟩
  | _ => exact .inr ⟨removed, by simp⟩

theorem Standing.after_not_free {st : Standing} (bound : st.after agent act ≠ .free) :
    act = .dropWsSenders agent ∨
      st ≠ .free ∧ ∀ c token, act = .registerWsSender c agent token → st = .removed := by
  cases act with
  | dropWsSenders a =>
    simp only [Standing.after] at bound
    split at bound
    next same => exact .inl (congrArg Section.dropWsSenders same)
    next => exact .inr ⟨bound, by simp⟩
  | addAgent entry =>
    simp only [Standing.after] at bound
    split at bound
    next again => exact .inr ⟨by simp [again.2], by simp⟩
    next => exact .inr ⟨bound, by simp⟩
  | registerWsSender c a token =>
    simp only [Standing.after] at bound
    split at bound
    next => exact absurd rfl bound
    next early =>
      refine .inr ⟨bound, ?_⟩
      rintro _ _ ⟨⟩
      cases st with
      | free => exact absurd rfl bound
      | removed => rfl
      | readded => exact absurd ⟨rfl, rfl⟩ early
  | _ => exact .inr ⟨bound, by simp⟩

/-- A handshake of the agent that has passed the allowlist. -/
def finishes (agent : AgentPubKey) : Section → Bool
  | .sessionInsert _ a _ | .registerWsSender _ a _ => a = agent
  | _ => false

def registers (agent : AgentPubKey) : Section → Bool
  | .register _ key _ _ => key.2 = agent
  | _ => false

/-- Nothing in the linker lets the agent in. -/
structure Barred (agent : AgentPubKey) (p : Running) : Prop where
  unlisted : p.shared.authStore.any (·.isAgentAllowed agent) = false
  handshakes : ¬p.Pending (finishes agent · = true)

/-- No connection speaks for the agent, and no signal to it has where to go. -/
structure Shut (agent : AgentPubKey) (p : Running) : Prop where
  connections : ∀ c, (p.shared.conns c).phase = .open →
    (p.shared.conns c).state.authenticatedAgent ≠ some agent
  registering : ¬p.Pending (registers agent · = true)
  routes : ∀ dna c, p.shared.agentProxy.registrations.lookup (dna, agent) = some c →
    (p.shared.conns c).receiverGone = true

/-- Channels in the routing table, or about to be put there, belong to sockets that were opened. -/
structure Routed (p : Running) : Prop where
  registering : ∀ t c key dnaText agentText, .register c key dnaText agentText ∈ p.tasks t →
    (p.shared.conns c).phase ≠ .absent
  routed : ∀ key c, p.shared.agentProxy.registrations.lookup key = some c →
    (p.shared.conns c).phase ≠ .absent

/-- A registration starts on an open connection whose agent it is for. -/
theorem register_pushed {s : System} {c : WsSender} {key : AgentRegistration}
    {dnaText agentText : String}
    (pushed : .register c key dnaText agentText ∈ (perform libs act input s).2) :
    (s.conns c).phase = .open ∧ (s.conns c).state.authenticated = true ∧
      (s.authStore.isSome = true →
        ∀ a, (s.conns c).state.authenticatedAgent = some a → a = key.2) := by
  have next := perform_next act input s _ pushed
  cases act with
  | receive c' f =>
    rcases next with ⟨message, _, opened, rfl, _, authenticated, same⟩ | ⟨message, other⟩ | ⟨_, cleaning⟩
    · exact ⟨opened, authenticated, same⟩
    · cases other
    · simp [Cleans] at cleaning
  | _ => simp [Next, Cleans] at next

theorem routed_execute (kitsune auth : Bool) (schedule : List (Event Task Request Input)) :
    Routed ((program libs).execute schedule (.start (.start kitsune auth))) := by
  have backed := @backed_execute libs kitsune auth schedule
  constructor
  · intro t c key dnaText agentText member
    have opened := (backed.registering t c key dnaText agentText member).1
    simp [opened]
  · intro key c found
    by_cases clearing : ∃ t, .unregisterAll c ∈
        ((program libs).execute schedule (.start (.start kitsune auth))).tasks t
    · obtain ⟨t, member⟩ := clearing
      have ended := (orderly_execute kitsune auth schedule).ending t c _ member rfl
      intro fresh
      simp [Ended, fresh] at ended
    · have opened := backed.opened (unregistering_execute kitsune auth schedule) found
        (not_exists.mp clearing)
      simp [opened]

/-- Only `add_agent` puts an agent on the allowlist. -/
theorem authAfter_isAgentAllowed {s : System} {a : AuthStore}
    (allowed : (authAfter act input s a).isAgentAllowed agent = true) :
    a.isAgentAllowed agent = true ∨ ∃ entry, act = .addAgent entry ∧ entry.agentPubkey = agent := by
  cases act with
  | addAgent entry =>
    simp only [authAfter, AuthStore.isAgentAllowed, MemoryStore.isAgentAllowed,
      MemoryStore.mem_addAgent, decide_eq_true_eq] at allowed ⊢
    rcases allowed with same | listed
    · exact .inr ⟨entry, rfl, same.symm⟩
    · exact .inl listed
  | removeAgent other =>
    have listed := MemoryStore.mem_of_mem_removeAgent (of_decide_eq_true allowed)
    exact .inl (decide_eq_true listed)
  | unregisterWsSender c =>
    simp only [authAfter] at allowed
    split at allowed
    · exact .inl (by simpa [AuthStore.isAgentAllowed] using allowed)
    · exact .inl allowed
  | _ => exact .inl allowed

theorem barred_turn (running : p.tasks t = act :: rest) (barred : Barred agent p)
    (notAdded : ∀ entry, act = .addAgent entry → entry.agentPubkey ≠ agent) :
    Barred agent ⟨(perform libs act input p.shared).1,
      Function.update p.tasks t ((perform libs act input p.shared).2 ++ rest)⟩ := by
  constructor
  · have unlisted := barred.unlisted
    rw [perform_authStore]
    cases configured : p.shared.authStore with
    | none => rfl
    | some a =>
      rw [configured] at unlisted
      by_contra listed
      rcases authAfter_isAgentAllowed (by simpa using listed) with old | ⟨entry, rfl, same⟩
      · simp [old] at unlisted
      · exact notAdded entry rfl same
  · intro pending
    rcases pending_of_turn running pending with ⟨new, pushed, finishing⟩ | old
    · have next := perform_next act input p.shared new pushed
      cases new with
      | sessionInsert c a capabilities =>
        have same : a = agent := by simpa [finishes] using finishing
        subst same
        cases act with
        | sessionLookup c' a' =>
          rcases next with ⟨message, other⟩ | ⟨capabilities, found, same⟩
          · cases other
          · cases same
            obtain ⟨store, configured, listed⟩ := Option.bind_eq_some_iff.mp found
            have allowed : store.isAgentAllowed a = true :=
              decide_eq_true (MemoryStore.mem_of_sessionCapabilities listed)
            have unlisted := barred.unlisted
            simp [configured, allowed] at unlisted
        | _ => simp [Next, Admitted, Cleans] at next
      | registerWsSender c a token =>
        cases act with
        | sessionInsert c' a' capabilities =>
          cases next
          exact barred.handshakes (pending_head running finishing)
        | _ => simp [Next, Admitted, Cleans] at next
      | _ => cases finishing
    · exact barred.handshakes old

theorem shut_turn (running : p.tasks t = act :: rest) (known : Identified p) (routed : Routed p)
    (shut : Shut agent p) (noHandshake : ∀ c token, act ≠ .registerWsSender c agent token) :
    Shut agent ⟨(perform libs act input p.shared).1,
      Function.update p.tasks t ((perform libs act input p.shared).2 ++ rest)⟩ := by
  constructor
  · intro c opened speaks
    change ((perform libs act input p.shared).1.conns c).phase = .open at opened
    have identity := congrArg Prod.snd (perform_identity libs act input c known.auth)
    have after := identity.symm.trans speaks
    rcases perform_advances libs (s := p.shared) act input c with ⟨same | ended, _⟩ | ⟨rfl, fresh⟩
    · rcases identityAfter_some after with before | ⟨token, handshake⟩
      · exact shut.connections c (same.symm.trans opened) before
      · exact noHandshake c token handshake
    · simp [Ended, opened] at ended
    · simp [identityAfter, fresh] at after
  · intro pending
    rcases pending_of_turn running pending with ⟨new, pushed, registering⟩ | old
    · cases new with
      | register c key dnaText agentText =>
        have same : key.2 = agent := by simpa [registers] using registering
        obtain ⟨opened, authenticated, own⟩ := register_pushed pushed
        have identified := known.agent c
        rw [authenticated] at identified
        obtain ⟨a, is⟩ := Option.isSome_iff_exists.mp identified.symm
        have mine : a = agent := (own known.auth a is).trans same
        exact shut.connections c opened (is.trans (congrArg some mine))
      | _ => cases registering
    · exact shut.registering old
  · intro dna c found
    rw [perform_registrations] at found
    rcases lookup_registrationsAfter found with old | ⟨dnaText, agentText, rfl⟩
    · rcases perform_advances libs (s := p.shared) act input c with ⟨_, gone⟩ | ⟨_, fresh⟩
      · exact gone (shut.routes dna c old)
      · exact absurd fresh (routed.routed _ c old)
    · exact absurd (pending_head running (by simp [registers])) shut.registering

/-- When `remove_agent` is done with an agent, nobody has let it in again and it is not online. -/
def RemovedOffline (p : Running) (_ : Task) : Section → Input → Prop
  | .dropWsSenders agent, _ => Barred agent p ∧ Shut agent p
  | _, _ => True

/-- A removed agent is barred, and shut out until it has gone through a handshake again. -/
def ShutOut (h : List (Task × Section)) (p : Running) : Prop :=
  ∀ agent, (standing agent h = .removed → Barred agent p) ∧ (standing agent h ≠ .free → Shut agent p)

theorem shutOut_start (kitsune auth : Bool) : ShutOut [] (.start (.start kitsune auth)) := by
  intro agent
  refine ⟨?_, ?_⟩
  · intro removed
    cases removed
  · intro bound
    exact absurd rfl bound

theorem shutOut_call (h : List (Task × Section)) (t : Task) (request : Request) (p : Running)
    (idle : p.tasks t = []) (inv : ShutOut h p) :
    ShutOut h ⟨p.shared, Function.update p.tasks t (Request.body t request)⟩ := by
  intro agent
  have quiet (kind : Section → Bool) (none : ∀ act ∈ Request.body t request, kind act = false)
      (before : ¬p.Pending (kind · = true)) :
      ¬(⟨p.shared, Function.update p.tasks t (Request.body t request)⟩ : Running).Pending
        (kind · = true) := by
    rw [pending_call_iff idle]
    rintro (old | ⟨act, member, holds⟩)
    · exact before old
    · simp [none act member] at holds
  refine ⟨?_, ?_⟩
  · intro removed
    have barred := (inv agent).1 removed
    refine ⟨barred.unlisted, quiet _ ?_ barred.handshakes⟩
    intro act first
    have starts := (body_starts first).1
    cases act <;> first | rfl | cases starts
  · intro bound
    have shut := (inv agent).2 bound
    refine ⟨shut.connections, quiet _ ?_ shut.registering, shut.routes⟩
    intro act first
    have starts := (body_starts first).1
    cases act <;> first | rfl | cases starts

theorem shutOut_turn (h : List (Task × Section)) (t : Task) (input : Input) (act : Section)
    (rest : List Section) (p : Running) (running : p.tasks t = act :: rest)
    (allowed : (Identified p ∧ Routed p) ∧ RemovedOffline p t act input) (inv : ShutOut h p) :
    ShutOut (h ++ [(t, act)]) ⟨(perform libs act input p.shared).1,
      Function.update p.tasks t ((perform libs act input p.shared).2 ++ rest)⟩ := by
  obtain ⟨⟨known, routed⟩, offline⟩ := allowed
  intro agent
  rw [standing_snoc]
  refine ⟨?_, ?_⟩
  · intro removed
    rcases Standing.after_removed removed with rfl | ⟨before, notAdded⟩
    · exact barred_turn running offline.1 (by simp)
    · exact barred_turn running ((inv agent).1 before) notAdded
  · intro bound
    rcases Standing.after_not_free bound with rfl | ⟨before, early⟩
    · exact shut_turn running known routed offline.2 (by simp)
    · apply shut_turn running known routed ((inv agent).2 before)
      rintro c token rfl
      have barred := (inv agent).1 (early c token rfl)
      exact barred.handshakes (pending_head running (by simp [finishes]))

/-- What a section may do while the agent is removed: its messages count as unauthenticated, and
no signal to it is queued. -/
def Refuses (agent : AgentPubKey) (s : System) : Section → Prop
  | .receive c (.text (.ok (.register _ _))) | .receive c (.text (.ok (.sendRemoteSignal _ _))) =>
    (s.conns c).phase = .open → (s.conns c).state.authenticatedAgent = some agent →
      (s.conns c).state.authenticated = false
  | .sendSignal key signal => key.2 = agent →
      ∀ c, ((s.sendSignal key signal).conns c).queue = (s.conns c).queue
  | _ => True

/-- Throughout the run, an agent that was removed stays out until it is added again and completes
a new handshake. -/
def Evicted (libs : Libraries) (schedule : List (Event Task Request Input)) (start : Running) : Prop :=
  ∀ agent before t input after act rest, schedule = before ++ .turn t input :: after →
    ((program libs).execute before start).tasks t = act :: rest →
    standing agent ((program libs).history before start) ≠ .free →
    Refuses agent ((program libs).execute before start).shared act

theorem sendSignal_gone {s : System} {key : AgentRegistration} {signal : ServerMessage}
    (gone : ∀ c, s.agentProxy.registrations.lookup key = some c → (s.conns c).receiverGone = true) :
    s.sendSignal key signal = s := by
  unfold System.sendSignal
  split
  next => rfl
  next c found => simp [System.trySend, gone c found]

theorem refuses_of_shut (shut : Shut agent p) : Refuses agent p.shared act := by
  cases act with
  | receive c f =>
    have refused (opened : (p.shared.conns c).phase = .open)
        (speaks : (p.shared.conns c).state.authenticatedAgent = some agent) :
        (p.shared.conns c).state.authenticated = false :=
      absurd speaks (shut.connections c opened)
    cases f with
    | close => trivial
    | text message =>
      cases message with
      | error e => trivial
      | ok message =>
        cases message with
        | register dnaText agentText => exact refused
        | sendRemoteSignal dnaText signals => exact refused
        | _ => trivial
  | sendSignal key signal =>
    rintro rfl c
    rw [sendSignal_gone fun c found => shut.routes key.1 c found]
  | _ => trivial

theorem shutOut_execute (kitsune : Bool) (schedule : List (Event Task Request Input))
    (guarded : (program libs).Guarded (OnTurn RemovedOffline) schedule (.start (.start kitsune true))) :
    ShutOut ((program libs).history schedule (.start (.start kitsune true)))
      ((program libs).execute schedule (.start (.start kitsune true))) := by
  have known : (program libs).Guarded (OnTurn fun p _ _ _ => Identified p ∧ Routed p) schedule
      (.start (.start kitsune true)) :=
    guarded_of_execute _ (fun p => Identified p ∧ Routed p) schedule _ fun before _ =>
      ⟨identified_execute kitsune before, routed_execute kitsune true before⟩
  exact execute_history ShutOut _ shutOut_call shutOut_turn schedule [] _ (guarded_and known guarded)
    (shutOut_start kitsune true)

/-- Removed agents stay out as long as agents are removed while they are offline. -/
theorem evicted_of_removedOffline (libs : Libraries) (kitsune : Bool)
    (schedule : List (Event Task Request Input))
    (guarded : (program libs).Guarded (OnTurn RemovedOffline) schedule (.start (.start kitsune true))) :
    Evicted libs schedule (.start (.start kitsune true)) := by
  rintro agent before t input after act rest rfl running bound
  have earlier := ((guarded_append _ _ before _ _).mp guarded).1
  exact refuses_of_shut ((shutOut_execute kitsune before earlier agent).2 bound)

/-- Alice goes offline and is taken off the allowlist. -/
def goesOffline : List (Event Task Request Input) :=
  aliceOnline ++ frames 0 .close 9 ++ admin (.removeAgent alice) 1

/-- She tries to log in again. -/
def comesBack : List (Event Task Request Input) :=
  connects 1 ++ frames 1 (.text (.ok (.auth aliceText))) 3

def dropsNothing : Section → Bool
  | .dropWsSenders _ => false
  | _ => true

theorem removedOffline_of_dropsNothing (p : Running) (t : Task) (act : Section) (input : Input)
    (nothing : dropsNothing act = true) : RemovedOffline p t act input := by
  cases act with
  | dropWsSenders a => cases nothing
  | _ => trivial

set_option maxRecDepth 4096 in
theorem barred_goesOffline :
    Barred alice ((program sampleLibraries).execute goesOffline (.start (.start true true))) where
  unlisted := by decide
  handshakes := not_pending_execute_start _ _ _ (by decide +kernel)

set_option maxRecDepth 4096 in
theorem shut_goesOffline :
    Shut alice ((program sampleLibraries).execute goesOffline (.start (.start true true))) where
  connections c opened := by
    cases c with
    | zero => exact absurd opened (by decide)
    | succ c => cases opened
  registering := not_pending_execute_start _ _ _ (by decide +kernel)
  routes dna c found := by cases found

set_option maxRecDepth 4096 in
theorem evicted_goesOffline : Evicted sampleLibraries
    (goesOffline ++ .turn (.other 0) (sampleInput 0) :: comesBack) (.start (.start true true)) := by
  apply evicted_of_removedOffline
  refine (guarded_append _ _ goesOffline _ _).mpr ⟨?_, ?_, ?_⟩
  · exact guarded_of_history dropsNothing removedOffline_of_dropsNothing _ _ (by decide +kernel)
  · exact ⟨barred_goesOffline, shut_goesOffline⟩
  · exact guarded_of_history dropsNothing removedOffline_of_dropsNothing _ _ (by decide +kernel)

/-- Alice is removed while she is online; then she sends a `Register`. -/
def removedOnline : List (Event Task Request Input) :=
  aliceOnline ++ admin (.removeAgent alice) 2 ++
    [.call (.conn 0) (.frame (.text (.ok (.register sampleDnaText aliceText))))]

set_option maxRecDepth 4096 in
theorem not_evicted_removedOnline :
    ¬∀ (libs : Libraries) (kitsune : Bool) (schedule : List (Event Task Request Input)),
      Evicted libs schedule (.start (.start kitsune true)) := by
  intro always
  have refuses := always sampleLibraries true (removedOnline ++ [.turn (.conn 0) (sampleInput 0)])
    alice removedOnline (.conn 0) (sampleInput 0) []
    (.receive 0 (.text (.ok (.register sampleDnaText aliceText)))) [] rfl rfl (by decide)
  exact absurd (refuses rfl rfl) (by decide)

end H2hcLinker.WebSocket
