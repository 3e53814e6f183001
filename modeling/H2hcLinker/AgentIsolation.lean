import H2hcLinker.Identity

/-! What the messages of a connection do to other agents than its own. `Register` checks that it
acts for the connection's agent; `Unregister` takes the agent that the message names. -/
namespace H2hcLinker.WebSocket

open HashTable Interleaving

variable {libs : Libraries} {p : Running} {c : WsSender} {agent : AgentPubKey} {act : Section}
  {input : Input}

/-- The gateway's entry of a pair. -/
def System.tracked (s : System) (key : AgentRegistration) : Option Gateway.ProxyAgent :=
  s.gatewayKitsune.bind (·.agents.lookup key)

def System.session (s : System) (token : String) : Option SessionInfo :=
  s.authStore.bind (·.validateSession token)

/-- The agent's registrations, its entries in the gateway and the DNAs of its sessions stay. -/
structure Unchanged (agent : AgentPubKey) (s s' : System) : Prop where
  registrations : ∀ dna, s'.agentProxy.registrations.lookup (dna, agent) =
    s.agentProxy.registrations.lookup (dna, agent)
  agents : ∀ dna, s'.tracked (dna, agent) = s.tracked (dna, agent)
  sessions : ∀ token info, s.session token = some info → info.agentPubkey = agent →
    ∃ info', s'.session token = some info' ∧ info'.agentPubkey = agent ∧
      info'.registeredDnas = info.registeredDnas

/-- Whatever a socket sends, its handler leaves all agents but the connection's own unchanged. -/
def Isolated (libs : Libraries) (schedule : List (Event Task Request Input)) (start : Running) :
    Prop :=
  ∀ before c input after act rest, schedule = before ++ .turn (.conn c) input :: after →
    ((program libs).execute before start).tasks (.conn c) = act :: rest →
    (((program libs).execute before start).shared.conns c).phase = .open →
    ∀ agent, (((program libs).execute before start).shared.conns c).state.authenticatedAgent ≠
        some agent →
      Unchanged agent ((program libs).execute before start).shared
        (perform libs act input ((program libs).execute before start).shared).1

def Section.drawsToken : Section → Bool
  | .sessionInsert _ _ _ => true
  | _ => false

/-- A token that is drawn belongs to no session. -/
def FreshToken (p : Running) (_ : Task) (act : Section) (input : Input) : Prop :=
  act.drawsToken = true → p.shared.session input.token.text = none

instance (t : Task) : Decidable (FreshToken p t act input) :=
  inferInstanceAs (Decidable (act.drawsToken = true → p.shared.session input.token.text = none))

/-- A pair of another agent that a handler unregisters or leaves is not there. -/
def NothingForeign (p : Running) (t : Task) : Section → Input → Prop
  | .unregister c key _ _, _ => (p.shared.conns c).phase = .open →
      (p.shared.conns c).state.authenticatedAgent ≠ some key.2 →
        p.shared.agentProxy.registrations.lookup key = none
  | .kitsune (.removeAgent key), _ => ∀ c, t = .conn c → (p.shared.conns c).phase = .open →
      (p.shared.conns c).state.authenticatedAgent ≠ some key.2 → p.shared.tracked key = none
  | _, _ => True

theorem registrations_unchanged (inv : Identified p) (member : act ∈ p.tasks (.conn c))
    (belongs : Belongs (.conn c) act) (opened : (p.shared.conns c).phase = .open)
    (other : (p.shared.conns c).state.authenticatedAgent ≠ some agent)
    (own : NothingForeign p (.conn c) act input) (dna : DnaHash) :
    (perform libs act input p.shared).1.agentProxy.registrations.lookup (dna, agent) =
      p.shared.agentProxy.registrations.lookup (dna, agent) := by
  rw [perform_registrations]
  cases act with
  | register c' key dnaText agentText =>
    have mine : (p.shared.conns c).state.authenticatedAgent = some key.2 := inv.owned c _ member
    have different : (dna, agent) ≠ key := by
      rintro rfl
      exact other mine
    rw [registrationsAfter, Finmap.lookup_insert_of_ne _ different]
  | unregister c' key dnaText agentText =>
    cases belongs
    rw [registrationsAfter, lookup_erase_eq]
    split
    next same =>
      subst same
      exact (own opened other).symm
    next => rfl
  | unregisterAll c' =>
    cases belongs
    have ended := inv.ending _ _ _ member rfl
    simp [Ended, opened] at ended
  | _ => rfl

theorem agents_unchanged (inv : Identified p) (member : act ∈ p.tasks (.conn c))
    (opened : (p.shared.conns c).phase = .open)
    (other : (p.shared.conns c).state.authenticatedAgent ≠ some agent)
    (own : NothingForeign p (.conn c) act input) (dna : DnaHash) :
    (perform libs act input p.shared).1.tracked (dna, agent) = p.shared.tracked (dna, agent) := by
  have after := perform_gatewayKitsune libs act input p.shared
  unfold System.tracked
  rw [after]
  cases act with
  | kitsune inner =>
    cases configured : p.shared.gatewayKitsune with
    | none => rfl
    | some g =>
      change (Gateway.perform inner input.ok g).1.agents.lookup (dna, agent) =
        g.agents.lookup (dna, agent)
      cases inner with
      | localAgentJoin key => cases input.ok <;> rfl
      | storeAgent key =>
        have mine : (p.shared.conns c).state.authenticatedAgent = some key.2 :=
          inv.owned c _ member key rfl
        have different : (dna, agent) ≠ key := by
          rintro rfl
          exact other mine
        exact Finmap.lookup_insert_of_ne _ different
      | removeAgent key =>
        rw [Gateway.perform, lookup_erase_eq]
        split
        next same =>
          subst same
          have absent := own c rfl opened other
          simpa [System.tracked, configured] using absent.symm
        next => rfl
      | _ => rfl
  | _ => rfl

theorem sessions_unchanged (inv : Identified p) (member : act ∈ p.tasks (.conn c))
    (belongs : Belongs (.conn c) act)
    (other : (p.shared.conns c).state.authenticatedAgent ≠ some agent)
    (fresh : FreshToken p (.conn c) act input) {token : String} {info : SessionInfo}
    (known : p.shared.session token = some info) (owner : info.agentPubkey = agent) :
    ∃ info', (perform libs act input p.shared).1.session token = some info' ∧
      info'.agentPubkey = agent ∧ info'.registeredDnas = info.registeredDnas := by
  obtain ⟨a, configured, found⟩ := Option.bind_eq_some_iff.mp known
  have after : (perform libs act input p.shared).1.session token =
      (authAfter act input p.shared a).validateSession token := by
    simp [System.session, perform_authStore, configured]
  rw [after]
  cases act with
  | sessionInsert c' subject capabilities =>
    have different : token ≠ input.token.text := by
      rintro rfl
      cases known.symm.trans (fresh rfl)
    exact ⟨info, (Finmap.lookup_insert_of_ne _ different).trans found, owner, rfl⟩
  | registerDna key =>
    have mine : (p.shared.conns c).state.authenticatedAgent = some key.2 := inv.owned c _ member
    have different : info.agentPubkey ≠ key.2 := by
      rintro same
      rw [owner] at same
      subst same
      exact other mine
    refine ⟨info, ?_, owner, rfl⟩
    have kept := congrArg (Option.map (MemoryStore.grantDna key.2 key.1)) found
    simp only [Option.map_some, MemoryStore.grantDna, different, if_false] at kept
    exact (lookup_mapValues _ _ _).trans kept
  | unregisterWsSender c' =>
    refine ⟨info, ?_, owner, rfl⟩
    simp only [authAfter]
    split
    · simpa [AuthStore.validateSession] using found
    · exact found
  | addAgent _ | removeAgent _ | dropWsSenders _ | revokeSession _ | revokeSessionsForAgent _ =>
    obtain ⟨n, same⟩ := belongs
    cases same
  | _ => exact ⟨info, found, owner, rfl⟩

theorem unchanged_of_turn (inv : Identified p) (member : act ∈ p.tasks (.conn c))
    (belongs : Belongs (.conn c) act) (opened : (p.shared.conns c).phase = .open)
    (other : (p.shared.conns c).state.authenticatedAgent ≠ some agent)
    (fresh : FreshToken p (.conn c) act input) (own : NothingForeign p (.conn c) act input) :
    Unchanged agent p.shared (perform libs act input p.shared).1 where
  registrations := registrations_unchanged inv member belongs opened other own
  agents := agents_unchanged inv member opened other own
  sessions _ _ := sessions_unchanged inv member belongs other fresh

/-- Where the entries of other agents do not change, there was nothing to take away. -/
theorem nothingForeign_of_unchanged {t : Task} (belongs : Belongs t act)
    (unchanged : ∀ c, t = .conn c → (p.shared.conns c).phase = .open → ∀ agent,
      (p.shared.conns c).state.authenticatedAgent ≠ some agent →
        Unchanged agent p.shared (perform libs act input p.shared).1) :
    NothingForeign p t act input := by
  cases act with
  | unregister c key dnaText agentText =>
    intro opened other
    have same := (unchanged c belongs opened key.2 other).registrations key.1
    rw [perform_registrations, registrationsAfter, Finmap.lookup_erase] at same
    exact same.symm
  | kitsune inner =>
    cases inner with
    | removeAgent key =>
      intro c conn opened other
      have same := (unchanged c conn opened key.2 other).agents key.1
      rw [← same]
      simp only [System.tracked, perform_gatewayKitsune]
      cases p.shared.gatewayKitsune with
      | none => rfl
      | some g => exact Finmap.lookup_erase _ _
    | _ => trivial
  | _ => trivial

/-- Agents are isolated exactly when nothing is there that a handler unregisters or leaves for
another agent than its connection's. -/
theorem isolated_iff (libs : Libraries) (kitsune : Bool) (schedule : List (Event Task Request Input))
    (fresh : (program libs).Guarded (OnTurn FreshToken) schedule (.start (.start kitsune true))) :
    Isolated libs schedule (.start (.start kitsune true)) ↔
      (program libs).Guarded (OnTurn NothingForeign) schedule (.start (.start kitsune true)) := by
  constructor
  · intro isolated
    apply guarded_of_turns
    intro before t input after act rest split running
    apply nothingForeign_of_unchanged (tasks_belong libs kitsune true before t act (by simp [running]))
    rintro c rfl
    exact isolated before c input after act rest split running
  · rintro own before c input after act rest rfl running opened agent other
    have member : act ∈ ((program libs).execute before (.start (.start kitsune true))).tasks (.conn c) := by
      simp [running]
    have freshNow := ((guarded_append _ _ before _ _).mp fresh).2.1
    have ownNow := ((guarded_append _ _ before _ _).mp own).2.1
    exact unchanged_of_turn (identified_execute kitsune before) member
      (tasks_belong libs kitsune true before _ _ member) opened other ((onTurn_iff running).mp freshNow)
      ((onTurn_iff running).mp ownNow)

/-- A pair that is unregistered or left is of the connection's agent, or not there. -/
def takesOwn (p : Running) : Task → Section → Bool
  | _, .unregister c key _ _ => (p.shared.conns c).state.authenticatedAgent = some key.2 ∨
      p.shared.agentProxy.registrations.lookup key = none
  | .conn c, .kitsune (.removeAgent key) =>
    (p.shared.conns c).state.authenticatedAgent = some key.2 ∨ (p.shared.tracked key).isNone
  | _, _ => true

theorem nothingForeign_of_takesOwn (p : Running) (t : Task) (act : Section) (input : Input)
    (own : takesOwn p t act = true) : NothingForeign p t act input := by
  cases act with
  | unregister c key dnaText agentText =>
    intro _ other
    exact (of_decide_eq_true own).resolve_left other
  | kitsune inner =>
    cases inner with
    | removeAgent key =>
      rintro c rfl _ other
      exact Option.isNone_iff_eq_none.mp ((of_decide_eq_true own).resolve_left other)
    | _ => trivial
  | _ => trivial

/-- Alice registers and unregisters; then Bob logs in and unregisters the pair once more. -/
def bobFindsNothing : List (Event Task Request Input) :=
  aliceOnline ++ frames 0 (.text (.ok (.unregister sampleDnaText aliceText))) 8 ++
    admin (.addAgent ⟨bob, ∅, none⟩) 1 ++ login 1 bobText bobSignatureText ++
    frames 1 (.text (.ok (.unregister sampleDnaText aliceText))) 7

set_option maxRecDepth 4096 in
theorem isolated_bobFindsNothing :
    Isolated sampleLibraries bobFindsNothing (.start (.start true true)) := by
  have own : (program sampleLibraries).Guarded (OnTurn fun p t act _ => takesOwn p t act = true)
      bobFindsNothing (.start (.start true true)) := by
    decide +kernel
  have fresh : (program sampleLibraries).Guarded (OnTurn FreshToken) bobFindsNothing
      (.start (.start true true)) := by
    decide +kernel
  exact (isolated_iff sampleLibraries true bobFindsNothing fresh).mpr
    (guarded_mono own nothingForeign_of_takesOwn)

/-- Alice has registered; Bob logs in and sends an `Unregister` for her. -/
def bobUnregistersAlice : List (Event Task Request Input) :=
  aliceOnline ++ admin (.addAgent ⟨bob, ∅, none⟩) 1 ++ login 1 bobText bobSignatureText ++
    frames 1 (.text (.ok (.unregister sampleDnaText aliceText))) 1

set_option maxRecDepth 4096 in
theorem not_isolated_bobUnregistersAlice :
    ¬∀ (libs : Libraries) (kitsune : Bool) (schedule : List (Event Task Request Input)),
      (program libs).Guarded (OnTurn FreshToken) schedule (.start (.start kitsune true)) →
      Isolated libs schedule (.start (.start kitsune true)) := by
  intro always
  have isolated := always sampleLibraries true
    (bobUnregistersAlice ++ [.turn (.conn 1) (sampleInput 1)]) (by decide +kernel)
  have unchanged := isolated bobUnregistersAlice 1 (sampleInput 1) []
    (.unregister 1 aliceKey sampleDnaText aliceText) [] rfl rfl rfl alice (by decide)
  exact absurd (unchanged.registrations sampleDna) (by decide)

end H2hcLinker.WebSocket
