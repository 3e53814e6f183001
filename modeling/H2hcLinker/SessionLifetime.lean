import H2hcLinker.AgentIsolation
import H2hcLinker.Past

/-! How long a session token is good for. `create_session` adds a session beside those the agent has
and a closing connection leaves them, so a token lasts until an admin call takes it. -/
namespace H2hcLinker.WebSocket

open HashTable Interleaving Past

variable {libs : Libraries} {s : System} {token : String}

/-- The session under the token after a section. -/
def sessionAfter (act : Section) (input : Input) (s : System) (token : String) : Option SessionInfo :=
  match act with
  | .sessionInsert _ agent capabilities =>
    if token = input.token.text then s.authStore.map fun _ => ⟨agent, capabilities, ∅⟩
    else s.session token
  | .registerDna key => (s.session token).map (MemoryStore.grantDna key.2 key.1)
  | .removeAgent agent =>
    if s.authStore.any (·.isAgentAllowed agent) then (s.session token).filter (·.agentPubkey ≠ agent)
    else s.session token
  | .revokeSession text => if token = text then none else s.session token
  | .revokeSessionsForAgent agent => (s.session token).filter (·.agentPubkey ≠ agent)
  | _ => s.session token

theorem lookup_dropSessions (agent : AgentPubKey) (store : MemoryStore.MemoryStoreInner) :
    (MemoryStore.dropSessions agent store).sessions.lookup token =
      (store.sessions.lookup token).filter (·.agentPubkey ≠ agent) :=
  lookup_retain _ _ _

theorem lookup_removeAgent (agent : AgentPubKey) (store : MemoryStore.MemoryStoreInner) :
    (MemoryStore.removeAgent agent store).2.sessions.lookup token =
      if MemoryStore.isAgentAllowed agent store then
        (store.sessions.lookup token).filter (·.agentPubkey ≠ agent)
      else store.sessions.lookup token := by
  rcases MemoryStore.removeAgent_cases agent store with ⟨listed, _, same⟩ | ⟨absent, same⟩
  · rw [same, lookup_dropSessions]
    simp [MemoryStore.isAgentAllowed, listed]
  · simp [same, MemoryStore.isAgentAllowed, absent]

theorem perform_session (libs : Libraries) (act : Section) (input : Input) (s : System)
    (token : String) : (perform libs act input s).1.session token = sessionAfter act input s token := by
  have after : (perform libs act input s).1.session token =
      s.authStore.bind fun a => (authAfter act input s a).validateSession token := by
    rw [System.session, perform_authStore, Option.bind_map]
    rfl
  rw [after]
  cases configured : s.authStore with
  | none => cases act <;> simp [sessionAfter, System.session, configured]
  | some a =>
    have known : s.session token = a.store.sessions.lookup token := by
      simp [System.session, configured, AuthStore.validateSession, MemoryStore.validateSession]
    rw [Option.bind_some]
    cases act with
    | sessionInsert c agent capabilities =>
      simp only [sessionAfter, known, configured, Option.map_some]
      exact MemoryStore.lookup_insertSession agent capabilities input.token a.store token
    | registerDna key =>
      simp only [sessionAfter, known]
      exact MemoryStore.lookup_registerDnaForAgent key.2 key.1 a.store token
    | removeAgent agent =>
      simp only [sessionAfter, known, configured, Option.any_some]
      exact lookup_removeAgent agent a.store
    | revokeSession text =>
      simp only [sessionAfter, known]
      exact MemoryStore.lookup_revokeSession text a.store token
    | revokeSessionsForAgent agent =>
      simp only [sessionAfter, known]
      exact lookup_dropSessions agent a.store
    | unregisterWsSender c =>
      simp only [sessionAfter, known, authAfter]
      split
      · simp [AuthStore.validateSession, MemoryStore.validateSession]
      · rfl
    | _ => exact known.symm

/-- A `create_session` gives the token to the connection, which has proved to be the agent. -/
def Gives (token : String) (c : WsSender) (agent : AgentPubKey) (m : Instant) : Prop :=
  m.input.token.text = token ∧ ∃ capabilities, m.act = .sessionInsert c agent capabilities

/-- `SessionToken::generate` draws the token. -/
def Draws (token : String) (m : Instant) : Prop :=
  m.act.drawsToken = true ∧ m.input.token.text = token

instance (m : Instant) : Decidable (Draws token m) :=
  inferInstanceAs (Decidable (m.act.drawsToken = true ∧ m.input.token.text = token))

/-- An admin call ends the agent's session with the token. A removal that does not find the agent
on the allowlist drops no session. -/
def Revokes (token : String) (agent : AgentPubKey) (m : Instant) : Prop :=
  match m.act with
  | .revokeSession text => text = token
  | .revokeSessionsForAgent revoked => revoked = agent
  | .removeAgent removed =>
    removed = agent ∧ m.pool.shared.authStore.any (·.isAgentAllowed agent) = true
  | _ => False

/-- The events since a token was last drawn, for this connection and agent. -/
def GivenLast (token : String) (c : WsSender) (agent : AgentPubKey) (past since : List Instant) : Prop :=
  (∃ before m, past = before ++ m :: since ∧ Gives token c agent m) ∧ ∀ m ∈ since, ¬Draws token m

/-- The connection has closed, and after that the agent has completed a handshake on another. -/
def Reconnected (c : WsSender) (agent : AgentPubKey) (since : List Instant) : Prop :=
  ∃ earlier closing later, since = earlier ++ closing :: later ∧ closing.act = .close c ∧
    ∃ m ∈ later, ∃ c' token', c' ≠ c ∧ m.act = .registerWsSender c' agent token'

/-- One more event gives the token, or it comes after the last that did. -/
theorem givenLast_snoc {c : WsSender} {agent : AgentPubKey} {past since : List Instant} {m : Instant}
    (given : GivenLast token c agent (past ++ [m]) since) :
    Gives token c agent m ∧ since = [] ∨
      ∃ earlier, since = earlier ++ [m] ∧ GivenLast token c agent past earlier ∧ ¬Draws token m := by
  obtain ⟨⟨before, issue, split, gives⟩, last⟩ := given
  rcases List.eq_nil_or_concat since with rfl | ⟨earlier, final, rfl⟩
  · obtain ⟨rfl, same⟩ := List.append_inj' split rfl
    cases same
    exact .inl ⟨gives, rfl⟩
  · rw [List.concat_eq_append] at *
    rw [← List.cons_append, ← List.append_assoc] at split
    obtain ⟨rfl, same⟩ := List.append_inj' split rfl
    cases same
    exact .inr ⟨earlier, rfl, ⟨⟨before, issue, rfl, gives⟩, fun m member => last m (by simp [member])⟩,
      last m (by simp)⟩

/-- Giving the token stores a session of the agent. -/
theorem Gives.session {m : Instant} {c : WsSender} {agent : AgentPubKey} (gives : Gives token c agent m)
    (auth : m.pool.shared.authStore.isSome = true) :
    ∃ info, sessionAfter m.act m.input m.pool.shared token = some info ∧ info.agentPubkey = agent := by
  obtain ⟨rfl, capabilities, same⟩ := gives
  obtain ⟨a, configured⟩ := Option.isSome_iff_exists.mp auth
  refine ⟨⟨agent, capabilities, ∅⟩, ?_, rfl⟩
  simp only [same, sessionAfter, configured, if_true, Option.map_some]

/-- Any other event keeps the session of the token, for the same agent, or revokes it. -/
theorem session_kept {m : Instant} {info : SessionInfo} (idle : ¬Draws token m)
    (known : m.pool.shared.session token = some info) :
    Revokes token info.agentPubkey m ∧ sessionAfter m.act m.input m.pool.shared token = none ∨
      ¬Revokes token info.agentPubkey m ∧
        ∃ info', sessionAfter m.act m.input m.pool.shared token = some info' ∧
          info'.agentPubkey = info.agentPubkey := by
  obtain ⟨p, t, act, input⟩ := m
  cases act with
  | sessionInsert c agent capabilities =>
    have other : token ≠ input.token.text := fun same => idle ⟨rfl, same.symm⟩
    exact .inr ⟨id, info, by simpa [sessionAfter, other] using known, rfl⟩
  | registerDna key =>
    exact .inr ⟨id, _, by simp only [sessionAfter, known, Option.map_some],
      MemoryStore.grantDna_agentPubkey key.2 key.1 info⟩
  | removeAgent agent =>
    by_cases same : info.agentPubkey = agent
    · subst same
      by_cases listed : p.shared.authStore.any (·.isAgentAllowed info.agentPubkey) = true
      · exact .inl ⟨⟨rfl, listed⟩, by simp [sessionAfter, known, listed]⟩
      · exact .inr ⟨fun revokes => listed revokes.2, info, by simp [sessionAfter, known, listed], rfl⟩
    · exact .inr ⟨fun revokes => same revokes.1.symm, info, by simp [sessionAfter, known, same], rfl⟩
  | revokeSession text =>
    by_cases same : token = text
    · exact .inl ⟨same.symm, by simp [sessionAfter, same]⟩
    · exact .inr ⟨fun revokes => same revokes.symm, info, by simp [sessionAfter, known, same], rfl⟩
  | revokeSessionsForAgent agent =>
    by_cases same : info.agentPubkey = agent
    · exact .inl ⟨same.symm, by simp [sessionAfter, known, same]⟩
    · exact .inr ⟨fun revokes => same revokes.symm, info, by simp [sessionAfter, known, same], rfl⟩
  | _ => exact .inr ⟨id, info, known, rfl⟩

/-- A token without a session gets one only by being drawn. -/
theorem session_none {m : Instant} (idle : ¬Draws token m)
    (gone : m.pool.shared.session token = none) :
    sessionAfter m.act m.input m.pool.shared token = none := by
  obtain ⟨p, t, act, input⟩ := m
  cases act with
  | sessionInsert c agent capabilities =>
    have other : token ≠ input.token.text := fun same => idle ⟨rfl, same.symm⟩
    simpa [sessionAfter, other] using gone
  | removeAgent agent => simp [sessionAfter, gone]
  | registerDna key => simp only [sessionAfter, gone, Option.map_none]
  | revokeSession text => simp [sessionAfter, gone]
  | revokeSessionsForAgent agent => simp [sessionAfter, gone]
  | _ => exact gone

/-- The session under a token is its agent's, until it is revoked. -/
def Lasting (past : List Instant) (p : Running) : Prop :=
  ∀ token c agent since, GivenLast token c agent past since →
    (∃ m ∈ since, Revokes token agent m) ∧ p.shared.session token = none ∨
      (∀ m ∈ since, ¬Revokes token agent m) ∧
        ∃ info, p.shared.session token = some info ∧ info.agentPubkey = agent

theorem lasting_turn (past : List Instant) (t : Task) (input : Input) (act : Section)
    (rest : List Section) (p : Running) (auth : p.shared.authStore.isSome = true)
    (inv : Lasting past p) : Lasting (past ++ [⟨p, t, act, input⟩]) ⟨(perform libs act input p.shared).1,
      Function.update p.tasks t ((perform libs act input p.shared).2 ++ rest)⟩ := by
  intro token c agent since given
  simp only [perform_session]
  rcases givenLast_snoc given with ⟨gives, rfl⟩ | ⟨earlier, rfl, given, idle⟩
  · exact .inr ⟨fun m member => (nomatch member), gives.session auth⟩
  · rcases inv token c agent earlier given with ⟨⟨m, member, revokes⟩, gone⟩ | ⟨kept, info, known, rfl⟩
    · exact .inl ⟨⟨m, by simp [member], revokes⟩, session_none idle gone⟩
    · rcases session_kept idle known with ⟨revokes, gone⟩ | ⟨keeps, info', known', same⟩
      · exact .inl ⟨⟨_, by simp, revokes⟩, gone⟩
      · refine .inr ⟨?_, info', known', same⟩
        intro m member
        rcases List.mem_append.mp member with old | new
        · exact kept m old
        · cases List.mem_singleton.mp new
          exact keeps

theorem guarded_auth (libs : Libraries) (kitsune : Bool) (schedule : List (Event Task Request Input)) :
    (program libs).Guarded (OnTurn fun p _ _ _ => p.shared.authStore.isSome = true) schedule
      (.start (.start kitsune true)) :=
  guarded_of_execute _ (fun p : Running => p.shared.authStore.isSome = true) schedule _
    fun before _ => (identified_execute kitsune before).auth

theorem lasting_execute (kitsune : Bool) (schedule : List (Event Task Request Input)) :
    Lasting ((program libs).moments schedule (.start (.start kitsune true)))
      ((program libs).execute schedule (.start (.start kitsune true))) := by
  apply execute_moments Lasting _ _ (fun past t input act rest p _ auth =>
    lasting_turn past t input act rest p auth) schedule [] _ (guarded_auth libs kitsune schedule)
  · rintro token c agent since ⟨⟨before, m, split, _⟩, _⟩
    simp at split
  · intro past t request p _ inv
    exact inv

/-- A token is void once the connection that it was given to has closed and its agent is back on
another one. -/
def SessionsReplaced (past : List Instant) (p : Running) : Prop :=
  ∀ token c agent since, GivenLast token c agent past since → Reconnected c agent since →
    p.shared.session token = none

/-- Such a token was revoked by an admin call after it was given. -/
def ReplacedRevoked (past : List Instant) : Prop :=
  ∀ token c agent since, GivenLast token c agent past since → Reconnected c agent since →
    ∃ m ∈ since, Revokes token agent m

/-- Coming back replaces no session: what ends one is an admin call, and nothing else. -/
theorem sessions_replaced_iff (libs : Libraries) (kitsune : Bool)
    (schedule : List (Event Task Request Input)) :
    let past := (program libs).moments schedule (.start (.start kitsune true))
    SessionsReplaced past ((program libs).execute schedule (.start (.start kitsune true))) ↔
      ReplacedRevoked past := by
  have lasting := @lasting_execute libs kitsune schedule
  constructor
  · intro replaced token c agent since given reconnected
    have gone := replaced token c agent since given reconnected
    rcases lasting token c agent since given with ⟨revoked, _⟩ | ⟨_, info, known, _⟩
    · exact revoked
    · cases gone.symm.trans known
  · intro revoked token c agent since given reconnected
    obtain ⟨m, member, revokes⟩ := revoked token c agent since given reconnected
    rcases lasting token c agent since given with ⟨_, gone⟩ | ⟨kept, _⟩
    · exact gone
    · exact absurd revokes (kept m member)

/-- Alice logs in, closes her connection and logs in again. -/
def aliceReturns : List (Event Task Request Input) :=
  admin (.addAgent ⟨alice, ∅, none⟩) 1 ++ login 0 aliceText aliceSignatureText ++ frames 0 .close 4 ++
    login 1 aliceText aliceSignatureText

theorem sessions_not_replaced_aliceReturns :
    ¬∀ (libs : Libraries) (kitsune : Bool) (schedule : List (Event Task Request Input)),
      SessionsReplaced ((program libs).moments schedule (.start (.start kitsune true)))
        ((program libs).execute schedule (.start (.start kitsune true))) := by
  intro always
  let past := (program sampleLibraries).moments aliceReturns (.start (.start true true))
  let since := past.drop 8
  let later := since.drop 6
  have given : GivenLast (sampleInput 0).token.text 0 alice past since := by
    have index : 7 < past.length := by decide +kernel
    refine ⟨⟨past.take 7, past[7], ?_, by rfl, ∅, by rfl⟩, by decide +kernel⟩
    rw [List.getElem_cons_drop, List.take_append_drop]
  have reconnected : Reconnected 0 alice since := by
    have index : 5 < since.length := by decide +kernel
    have last : 7 < later.length := by decide +kernel
    refine ⟨since.take 5, since[5], later, ?_, by rfl, later[7], List.getElem_mem last, 1,
      (sampleInput 1).token, by decide, by rfl⟩
    rw [List.getElem_cons_drop, List.take_append_drop]
  have gone := always sampleLibraries true aliceReturns _ 0 alice since given reconnected
  have kept : (((program sampleLibraries).execute aliceReturns (.start (.start true true))).shared.session
      (sampleInput 0).token.text).isSome = true := by decide +kernel
  simp [gone] at kept

end H2hcLinker.WebSocket
