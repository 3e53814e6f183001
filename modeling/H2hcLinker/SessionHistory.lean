import H2hcLinker.MemoryStore

/-! Sequential histories of the store: which sessions exist after a list of completed calls,
in terms of the calls alone. -/
namespace H2hcLinker.MemoryStore

open HashTable Interleaving

/-- A call that runs to its end with no other in between, with the token it would draw. -/
abbrev Completed := Call × SessionToken

def complete (op : Completed) (s : MemoryStoreInner) : MemoryStoreInner :=
  match op.1 with
  | .addAgent agent => addAgent agent s
  | .removeAgent agent => (removeAgent agent s).2
  | .createSession agent => (createSession agent op.2 s).2
  | .revokeSession token => (revokeSession token s).2
  | .revokeSessionsForAgent agent => (revokeSessionsForAgent agent s).2
  | .registerDnaForAgent agent dna => registerDnaForAgent agent dna s

def after (history : List Completed) : MemoryStoreInner :=
  history.foldl (fun s op => complete op s) .default

/-- A call alone on the pool runs its sections to the completed call's state. -/
theorem execute_completed (task : Nat) (op : Completed) (p : Pool Nat Section MemoryStoreInner)
    (idle : p.tasks task = []) :
    program.execute [.call task op.1, .turn task op.2, .turn task op.2] p =
      ⟨complete op p.shared, p.tasks⟩ := by
  have restored : Function.update p.tasks task [] = p.tasks := by
    rw [← idle, Function.update_eq_self]
  obtain ⟨call, token⟩ := op
  cases call with
  | createSession agent =>
    cases found : sessionCapabilities agent p.shared <;>
      simp [Program.execute, Program.advance, program, Call.body, perform, complete, createSession,
        found, idle, restored]
  | _ => simp [Program.execute, Program.advance, program, Call.body, perform, complete, idle, restored]

/-- The token the call returns, if it is a `create_session` of an allowed agent. -/
def returned (op : Completed) (s : MemoryStoreInner) : Option SessionToken :=
  match op.1 with
  | .createSession agent => (createSession agent op.2 s).1
  | _ => none

def returnedTokens : List Completed → MemoryStoreInner → List SessionToken
  | [], _ => []
  | op :: rest, s => (returned op s).toList ++ returnedTokens rest (complete op s)

/-- No two calls of the history return the same token. -/
def FreshTokens (history : List Completed) : Prop := (returnedTokens history .default).Nodup

/-- The call ends the agent's session with this token. -/
def Ends (token : String) (agent : AgentPubKey) : Call → Prop
  | .revokeSession text => text = token
  | .revokeSessionsForAgent removed | .removeAgent removed => removed = agent
  | .addAgent _ | .createSession _ | .registerDnaForAgent _ _ => False

/-- The DNAs the calls register for the agent. -/
def grantedDnas (agent : AgentPubKey) (history : List Completed) : Finset DnaHash :=
  (history.filterMap fun op =>
    match op.1 with
    | .registerDnaForAgent granted dna => if granted = agent then some dna else none
    | _ => none).toFinset

theorem mem_grantedDnas {agent : AgentPubKey} {history : List Completed} {dna : DnaHash} :
    dna ∈ grantedDnas agent history ↔
      ∃ drawn, (.registerDnaForAgent agent dna, drawn) ∈ history := by
  simp only [grantedDnas, List.mem_toFinset, List.mem_filterMap]
  constructor
  · rintro ⟨⟨call, drawn⟩, member, registers⟩
    cases call with
    | registerDnaForAgent granted other =>
      simp only [Option.ite_none_right_eq_some, Option.some.injEq] at registers
      obtain ⟨rfl, rfl⟩ := registers
      exact ⟨drawn, member⟩
    | _ => cases registers
  · rintro ⟨drawn, member⟩
    exact ⟨_, member, by simp⟩

/-- A `create_session` of the history returned the token, with the capabilities of the allowlist
at that time; nothing ended the session since, and these DNAs were registered since. -/
def Issued (history : List Completed) (token : String) (info : SessionInfo) : Prop :=
  ∃ before since, history = before ++ (.createSession info.agentPubkey, ⟨token⟩) :: since ∧
    sessionCapabilities info.agentPubkey (after before) = some info.capabilities ∧
    (∀ op ∈ since, ¬Ends token info.agentPubkey op.1) ∧
    info.registeredDnas = grantedDnas info.agentPubkey since

theorem after_snoc (history : List Completed) (op : Completed) :
    after (history ++ [op]) = complete op (after history) := by
  simp [after]

theorem returnedTokens_append (history rest : List Completed) (s : MemoryStoreInner) :
    returnedTokens (history ++ rest) s = returnedTokens history s ++
      returnedTokens rest (history.foldl (fun s op => complete op s) s) := by
  induction history generalizing s with
  | nil => rfl
  | cons op history ih => simp [returnedTokens, ih]

theorem FreshTokens.init {history : List Completed} {op : Completed}
    (fresh : FreshTokens (history ++ [op])) : FreshTokens history := by
  unfold FreshTokens at fresh
  rw [returnedTokens_append] at fresh
  exact fresh.of_append_left

/-- A session's token is among those the history returned. -/
theorem Issued.mem_returnedTokens {history : List Completed} {token : String} {info : SessionInfo}
    (issued : Issued history token info) : ⟨token⟩ ∈ returnedTokens history .default := by
  obtain ⟨before, since, rfl, caps, _, _⟩ := issued
  rw [returnedTokens_append]
  apply List.mem_append_right
  have drawn : returned (.createSession info.agentPubkey, ⟨token⟩) (after before) = some ⟨token⟩ := by
    simp [returned, createSession, caps]
  rw [after] at drawn
  simp [returnedTokens, drawn]

/-- A token that the last call of a fresh history returned had no session before. -/
theorem FreshTokens.not_issued {history : List Completed} {op : Completed} {token : String}
    {info : SessionInfo} (fresh : FreshTokens (history ++ [op]))
    (drawn : returned op (after history) = some ⟨token⟩) : ¬Issued history token info := by
  intro issued
  unfold FreshTokens at fresh
  rw [returnedTokens_append] at fresh
  rw [after] at drawn
  refine (List.nodup_append.mp fresh).2.2 _ issued.mem_returnedTokens ⟨token⟩ ?_ rfl
  simp [returnedTokens, drawn]

/-- What the call adds to a session's DNAs. -/
def granted (op : Completed) (info : SessionInfo) : SessionInfo :=
  match op.1 with
  | .registerDnaForAgent agent dna => grantDna agent dna info
  | _ => info

@[simp] theorem granted_agentPubkey (op : Completed) (info : SessionInfo) :
    (granted op info).agentPubkey = info.agentPubkey := by
  unfold granted
  split <;> simp

@[simp] theorem granted_capabilities (op : Completed) (info : SessionInfo) :
    (granted op info).capabilities = info.capabilities := by
  unfold granted grantDna
  split
  · split <;> rfl
  · rfl

theorem grantedDnas_snoc (op : Completed) (info : SessionInfo) (since : List Completed)
    (dnas : info.registeredDnas = grantedDnas info.agentPubkey since) :
    (granted op info).registeredDnas = grantedDnas info.agentPubkey (since ++ [op]) := by
  obtain ⟨call, token⟩ := op
  cases call with
  | registerDnaForAgent agent dna =>
    by_cases own : info.agentPubkey = agent
    · simp [granted, grantDna, grantedDnas, own, dnas, List.toFinset_append, Finset.union_comm]
    · have other : ¬agent = info.agentPubkey := fun same => own same.symm
      simp [granted, grantDna, own, grantedDnas, other, dnas]
  | _ => simp [granted, grantedDnas, dnas]

/-- The call creates this session. -/
def Creates (op : Completed) (s : MemoryStoreInner) (token : String) (info : SessionInfo) : Prop :=
  op = (.createSession info.agentPubkey, ⟨token⟩) ∧
    sessionCapabilities info.agentPubkey s = some info.capabilities ∧ info.registeredDnas = ∅

/-- After one more call a session is new, or it was there, survived and gained what was granted. -/
theorem issued_snoc (history : List Completed) (op : Completed) (token : String)
    (info : SessionInfo) : Issued (history ++ [op]) token info ↔
      Creates op (after history) token info ∨
      ∃ old, Issued history token old ∧ ¬Ends token old.agentPubkey op.1 ∧ granted op old = info := by
  constructor
  · rintro ⟨before, since, split, caps, lasting, dnas⟩
    cases since using List.reverseRecOn with
    | nil =>
      obtain ⟨rfl, same⟩ := List.append_inj' split rfl
      cases same
      exact .inl ⟨rfl, caps, dnas⟩
    | append_singleton since last =>
      rw [← List.cons_append, ← List.append_assoc] at split
      obtain ⟨rfl, same⟩ := List.append_inj' split rfl
      cases same
      let old : SessionInfo :=
        ⟨info.agentPubkey, info.capabilities, grantedDnas info.agentPubkey since⟩
      have earlier : Issued (before ++ (.createSession info.agentPubkey, ⟨token⟩) :: since) token old :=
        ⟨before, since, rfl, caps, fun op member => lasting op (by simp [member]), rfl⟩
      have grown : (granted op old).registeredDnas = info.registeredDnas :=
        (grantedDnas_snoc op old since rfl).trans dnas.symm
      have same : granted op old = info := by
        have agent := granted_agentPubkey op old
        have capabilities := granted_capabilities op old
        cases info
        cases eq : granted op old
        simp_all [old]
      exact .inr ⟨old, earlier, lasting op (by simp), same⟩
  · rintro (⟨rfl, caps, dnas⟩ | ⟨old, ⟨before, since, rfl, caps, lasting, dnas⟩, survives, rfl⟩)
    · exact ⟨history, [], rfl, caps, by simp, dnas⟩
    · refine ⟨before, since ++ [op], by simp, by simpa using caps, ?_, ?_⟩
      · intro other member
        rw [granted_agentPubkey]
        rcases List.mem_append.mp member with earlier | last
        · exact lasting other earlier
        · cases List.mem_singleton.mp last
          exact survives
      · rw [granted_agentPubkey]
        exact grantedDnas_snoc op old since dnas

/-- The store's table changes the same way. -/
theorem lookup_complete_iff {s : MemoryStoreInner} (owned : Owned s) (op : Completed)
    (token : String) (info : SessionInfo)
    (unused : returned op s = some ⟨token⟩ → s.sessions.lookup token = none) :
    (complete op s).sessions.lookup token = some info ↔
      Creates op s token info ∨
      ∃ old, s.sessions.lookup token = some old ∧ ¬Ends token old.agentPubkey op.1 ∧
        granted op old = info := by
  obtain ⟨call, drawn⟩ := op
  cases call with
  | addAgent agent => simp [complete, Creates, Ends, granted]
  | removeAgent agent =>
    rcases removeAgent_cases agent s with ⟨_, _, eq⟩ | ⟨absent, eq⟩
    · simp only [complete, eq, Creates, Ends, granted]
      rw [lookup_dropSessions_iff]
      simp [eq_comm]
    · -- An agent outside the allowlist owns no session, so nothing ends here.
      have kept : ∀ old, s.sessions.lookup token = some old → ¬agent = old.agentPubkey := by
        intro old found same
        exact absent (same ▸ owned token old found)
      simp only [complete, eq, Creates, Ends, granted]
      constructor
      · intro found
        exact .inr ⟨info, found, kept info found, rfl⟩
      · rintro (⟨created, _⟩ | ⟨old, found, _, rfl⟩)
        · cases created
        · exact found
  | createSession agent =>
    cases allowed : sessionCapabilities agent s with
    | none =>
      have never : ¬Creates (.createSession agent, drawn) s token info := by
        rintro ⟨same, caps, _⟩
        cases same
        simp [allowed] at caps
      simp [complete, createSession, allowed, never, Ends, granted]
    | some caps =>
      simp only [complete, createSession, allowed, lookup_insertSession, Ends, granted]
      by_cases same : token = drawn.text
      · have empty : s.sessions.lookup token = none := by
          apply unused
          simp [returned, createSession, allowed, same]
        subst same
        cases info
        simp only [empty, Creates, Prod.mk.injEq, reduceIte]
        grind
      · have never : ¬Creates (.createSession agent, drawn) s token info := by
          rintro ⟨created, _⟩
          cases created
          exact same rfl
        simp [same, never]
  | revokeSession text =>
    simp only [complete, Creates, Ends, granted, lookup_revokeSession]
    by_cases same : token = text
    · simp [same]
    · simp [same, eq_comm]
  | revokeSessionsForAgent agent =>
    simp only [complete, Creates, Ends, granted, revokeSessionsForAgent_state]
    rw [lookup_dropSessions_iff]
    simp [eq_comm]
  | registerDnaForAgent agent dna =>
    simp [complete, Creates, Ends, granted, lookup_registerDnaForAgent]

theorem owned_after (history : List Completed) : Owned (after history) := by
  induction history using List.reverseRecOn with
  | nil => exact owned_default
  | append_singleton history op ih =>
    rw [after_snoc]
    obtain ⟨call, token⟩ := op
    cases call with
    | createSession agent =>
      simp only [complete, createSession]
      split
      next => exact ih
      next caps allowed =>
        exact ih.insertSession (mem_of_sessionCapabilities allowed) caps token
    | addAgent agent => exact ih.addAgent agent
    | removeAgent agent => exact ih.removeAgent agent
    | revokeSession text => exact ih.revokeSession text
    | revokeSessionsForAgent agent => exact ih.dropSessions agent
    | registerDnaForAgent agent dna => exact ih.registerDnaForAgent agent dna

/-- The sessions after a history with fresh tokens are exactly the issued ones. -/
theorem session_iff (history : List Completed) (fresh : FreshTokens history) (token : String)
    (info : SessionInfo) :
    validateSession token (after history) = some info ↔ Issued history token info := by
  induction history using List.reverseRecOn generalizing info with
  | nil => simp [validateSession, after, MemoryStoreInner.default, Issued]
  | append_singleton history op ih =>
    have earlier := ih fresh.init
    rw [issued_snoc, after_snoc, validateSession, lookup_complete_iff (owned_after history)]
    · simp only [validateSession] at earlier
      simp only [earlier]
    · intro drawn
      rw [Option.eq_none_iff_forall_ne_some]
      intro info found
      exact fresh.not_issued drawn ((earlier info).mp found)

end H2hcLinker.MemoryStore
