import H2hcLinker.SessionLifetime

/-! Which DNAs a session is good for. `Register` adds the DNA to every session of the agent;
`Unregister` tells the authentication store nothing. -/
namespace H2hcLinker.WebSocket

open HashTable Interleaving Past

variable {libs : Libraries} {token : String}

def Registers (key : AgentRegistration) (m : Instant) : Prop := m.act = .registerDna key

/-- An `Unregister` of the pair is accepted on a connection of its agent. -/
def Unregisters (key : AgentRegistration) (m : Instant) : Prop :=
  ∃ c dnaText agentText, m.act = .unregister c key dnaText agentText ∧
    (m.pool.shared.conns c).state.authenticatedAgent = some key.2

/-- The pair was registered after the session with the token began, and not unregistered since. -/
def InScope (token : String) (key : AgentRegistration) : List Instant → Prop :=
  Since (fun m => ¬Draws token m ∧ ¬Unregisters key m) fun before m =>
    Registers key m ∧ Once (fun _ given => ∃ c, Gives token c key.2 given) before

/-- The scope of a session, which `require_dna_scope` consults, follows what its agent registers. -/
def ScopeFollows (past : List Instant) (p : Running) : Prop :=
  ∀ token info dna, p.shared.session token = some info → info.hasDna dna = true →
    InScope token (dna, info.agentPubkey) past

/-- An `Unregister` that is accepted finds no session of the agent with the DNA. -/
def LeavesNothing (p : Running) (_ : Task) : Section → Input → Prop
  | .unregister c key _ _, _ => (p.shared.conns c).state.authenticatedAgent = some key.2 →
      ∀ token info, p.shared.session token = some info → info.agentPubkey = key.2 →
        info.hasDna key.1 = false
  | _, _ => True

def SessionsGiven (past : List Instant) (p : Running) : Prop :=
  ∀ token info, p.shared.session token = some info →
    Once (fun _ m => ∃ c, Gives token c info.agentPubkey m) past

def Grown (token : String) (m : Instant) (info old : SessionInfo) : Prop :=
  m.pool.shared.session token = some old ∧ old.agentPubkey = info.agentPubkey ∧
    ∀ dna, info.hasDna dna = true → old.hasDna dna = true ∨ Registers (dna, info.agentPubkey) m

theorem session_grown {m : Instant} {info : SessionInfo}
    (known : sessionAfter m.act m.input m.pool.shared token = some info) :
    (∃ c, Gives token c info.agentPubkey m) ∧ info.registeredDnas = ∅ ∨
      ¬Draws token m ∧ ∃ old, Grown token m info old := by
  obtain ⟨p, t, act, input⟩ := m
  have kept (before : p.shared.session token = some info) :
      ∃ old, Grown token ⟨p, t, act, input⟩ info old :=
    ⟨info, before, rfl, fun _ held => .inl held⟩
  have idle (other : act.drawsToken = false) : ¬Draws token ⟨p, t, act, input⟩ := by
    rintro ⟨draws, _⟩
    cases other.symm.trans draws
  cases act with
  | sessionInsert c agent capabilities =>
    simp only [sessionAfter] at known
    split at known
    next same =>
      obtain ⟨a, _, rfl⟩ := Option.map_eq_some_iff.mp known
      exact .inl ⟨⟨c, same.symm, capabilities, rfl⟩, rfl⟩
    next other => exact .inr ⟨fun draws => other draws.2.symm, kept known⟩
  | registerDna key =>
    obtain ⟨old, before, rfl⟩ := Option.map_eq_some_iff.mp known
    refine .inr ⟨idle rfl, old, before, by simp, fun dna held => ?_⟩
    rw [MemoryStore.grantDna_agentPubkey]
    unfold MemoryStore.grantDna at held
    split at held
    next own =>
      rcases Finset.mem_insert.mp (of_decide_eq_true held) with rfl | there
      · exact .inr (congrArg Section.registerDna (Prod.ext rfl own.symm))
      · exact .inl (decide_eq_true there)
    next => exact .inl held
  | removeAgent agent =>
    refine .inr ⟨idle rfl, kept ?_⟩
    simp only [sessionAfter] at known
    split at known
    · exact (Option.filter_eq_some_iff.mp known).1
    · exact known
  | revokeSession text =>
    refine .inr ⟨idle rfl, kept ?_⟩
    simp only [sessionAfter] at known
    split at known
    · cases known
    · exact known
  | revokeSessionsForAgent agent =>
    exact .inr ⟨idle rfl, kept (Option.filter_eq_some_iff.mp known).1⟩
  | _ => exact .inr ⟨idle rfl, kept known⟩

theorem sessionsGiven_turn (past : List Instant) (t : Task) (input : Input) (act : Section)
    (rest : List Section) (p : Running) (inv : SessionsGiven past p) :
    SessionsGiven (past ++ [⟨p, t, act, input⟩]) ⟨(perform libs act input p.shared).1,
      Function.update p.tasks t ((perform libs act input p.shared).2 ++ rest)⟩ := by
  intro token info known
  rw [perform_session] at known
  rcases session_grown (m := ⟨p, t, act, input⟩) known with ⟨gives, _⟩ | ⟨_, old, before, same, _⟩
  · exact since_now gives
  · exact same ▸ (inv token old before).later

theorem scopeFollows_turn (past : List Instant) (t : Task) (input : Input) (act : Section)
    (rest : List Section) (p : Running) (leaves : LeavesNothing p t act input)
    (given : SessionsGiven past p) (inv : ScopeFollows past p) :
    ScopeFollows (past ++ [⟨p, t, act, input⟩]) ⟨(perform libs act input p.shared).1,
      Function.update p.tasks t ((perform libs act input p.shared).2 ++ rest)⟩ := by
  intro token info dna known held
  rw [perform_session] at known
  rcases session_grown (m := ⟨p, t, act, input⟩) known with ⟨_, empty⟩ | ⟨idle, old, before, same, grown⟩
  · simp [SessionInfo.hasDna, empty] at held
  · rcases grown dna held with there | registers
    · refine since_snoc.mpr (.inr ⟨same ▸ inv token old dna before there, idle, ?_⟩)
      rintro ⟨c, dnaText, agentText, rfl, speaks⟩
      cases (leaves speaks token old before same).symm.trans there
    · exact since_now ⟨registers, same ▸ given token old before⟩

/-- An accepted `Unregister` that finds the DNA in scope leaves it there. -/
theorem leavesNothing_of_scopeFollows (past : List Instant) (p : Running) (t : Task) (act : Section)
    (rest : List Section) (input : Input) (follows : ScopeFollows (past ++ [⟨p, t, act, input⟩])
      ⟨(perform libs act input p.shared).1,
        Function.update p.tasks t ((perform libs act input p.shared).2 ++ rest)⟩) :
    LeavesNothing p t act input := by
  cases act with
  | unregister c key dnaText agentText =>
    intro speaks token info known owner
    by_contra held
    have after : (perform libs (.unregister c key dnaText agentText) input p.shared).1.session token =
        some info := (perform_session ..).trans known
    have scope := follows token info key.1 after (by simpa using held)
    rw [owner] at scope
    rcases since_snoc.mp scope with ⟨registers, _⟩ | ⟨_, _, quiet⟩
    · cases registers
    · exact quiet ⟨c, dnaText, agentText, rfl, speaks⟩
  | _ => trivial

theorem scopeFollows_execute (kitsune : Bool) (schedule : List (Event Task Request Input))
    (guarded : (program libs).Guarded (OnTurn LeavesNothing) schedule (.start (.start kitsune true))) :
    ScopeFollows ((program libs).moments schedule (.start (.start kitsune true)))
      ((program libs).execute schedule (.start (.start kitsune true))) := by
  have inv := execute_moments (fun past p => SessionsGiven past p ∧ ScopeFollows past p) LeavesNothing
    (fun past t request p _ inv => inv)
    (fun past t input act rest p _ leaves inv => ⟨sessionsGiven_turn past t input act rest p inv.1,
      scopeFollows_turn past t input act rest p leaves inv.1 inv.2⟩)
    schedule [] _ guarded
  refine (inv ⟨?_, ?_⟩).2
  · intro token info known
    exact nomatch known
  · intro token info dna known
    exact nomatch known

/-- Every session's DNAs are registered, in every state of a run, exactly if no `Unregister` finds
the DNA in a session of the agent: it would stay there. -/
theorem scope_follows_iff (libs : Libraries) (kitsune : Bool) (schedule : List (Event Task Request Input)) :
    (∀ reached, reached <+: schedule →
        ScopeFollows ((program libs).moments reached (.start (.start kitsune true)))
          ((program libs).execute reached (.start (.start kitsune true)))) ↔
      (program libs).Guarded (OnTurn LeavesNothing) schedule (.start (.start kitsune true)) := by
  constructor
  · intro always
    exact guarded_of_always always fun past p t act rest input _ =>
      leavesNothing_of_scopeFollows past p t act rest input
  · rintro guarded reached ⟨rest, rfl⟩
    exact scopeFollows_execute kitsune reached ((guarded_append ..).mp guarded).1

def aliceUnregisters : List (Event Task Request Input) :=
  aliceOnline ++ frames 0 (.text (.ok (.unregister sampleDnaText aliceText))) 1

theorem scope_kept_aliceUnregisters :
    ¬∀ (libs : Libraries) (kitsune : Bool) (schedule : List (Event Task Request Input)),
      ScopeFollows ((program libs).moments schedule (.start (.start kitsune true)))
        ((program libs).execute schedule (.start (.start kitsune true))) := by
  intro always
  let schedule := aliceUnregisters ++ [.turn (.conn 0) (sampleInput 0)]
  have guarded : (program sampleLibraries).Guarded (OnTurn LeavesNothing) schedule
      (.start (.start true true)) :=
    guarded_of_always (fun reached _ => always sampleLibraries true reached)
      fun past p t act rest input _ => leavesNothing_of_scopeFollows past p t act rest input
  have now := ((guarded_append _ _ aliceUnregisters _ _).mp guarded).2.1
  have running : ((program sampleLibraries).execute aliceUnregisters (.start (.start true true))).tasks
      (.conn 0) = [.unregister 0 aliceKey sampleDnaText aliceText] := by rfl
  have leaves := (onTurn_iff running).mp now (by rfl) (sampleInput 0).token.text
    ⟨alice, ∅, {sampleDna}⟩ (by decide +kernel) rfl
  simp [SessionInfo.hasDna, aliceKey] at leaves

end H2hcLinker.WebSocket
