import H2hcLinker.WebSocketSteps

/-! Registered pairs against joined agents: the routing table is updated by `Register`,
`Unregister` and the cleanup of any connection, the gateway's agents by the joins and leaves
that those start. -/
namespace H2hcLinker.Gateway

/-- A join that does not fail goes on until its agent is in the map. -/
theorem joins_progress (key : Key) (act : Section) (g : GatewayKitsune) (joining : Joins key act) :
    key ∈ (perform act true g).1.agents ∨ ∃ new ∈ (perform act true g).2, Joins key new := by
  cases act with
  | joinCheck k =>
    cases joining
    by_cases tracked : key ∈ g.agents
    · exact .inl tracked
    · exact .inr ⟨.spaceLookup key.1 (.join key.2), by simp [perform, tracked, getOrCreateSpace],
        rfl, rfl⟩
  | spaceLookup dna use =>
    obtain ⟨rfl, rfl⟩ := joining
    by_cases known : key.1 ∈ g.spaces
    · exact .inr ⟨.localAgentJoin key, by simp [perform, known, SpaceUse.sections], rfl⟩
    · exact .inr ⟨.spaceCreate key.1 (.join key.2), by simp [perform, known], rfl, rfl⟩
  | spaceCreate dna use => exact .inr ⟨.spaceStore dna use, List.mem_singleton.mpr rfl, joining⟩
  | spaceStore dna use =>
    obtain ⟨rfl, rfl⟩ := joining
    exact .inr ⟨.localAgentJoin key, List.mem_singleton.mpr rfl, rfl⟩
  | localAgentJoin k => exact .inr ⟨.storeAgent k, List.mem_singleton.mpr rfl, joining⟩
  | storeAgent k =>
    cases joining
    exact .inl (Finmap.mem_insert.mpr (.inl rfl))
  | _ => cases joining

/-- Only a leave of the pair takes it out of the map. -/
theorem agents_kept {key : Key} {g : GatewayKitsune} (tracked : key ∈ g.agents) (act : Section)
    (ok : Bool) (other : act ≠ .removeAgent key) : key ∈ (perform act ok g).1.agents := by
  cases act with
  | localAgentJoin k =>
    cases ok <;> exact tracked
  | storeAgent k => exact Finmap.mem_insert.mpr (.inr tracked)
  | removeAgent k =>
    have different : key ≠ k := by
      intro same
      exact other (congrArg Section.removeAgent same.symm)
    exact Finmap.mem_erase.mpr ⟨different, tracked⟩
  | _ => exact tracked

end H2hcLinker.Gateway

namespace H2hcLinker.WebSocket

open HashTable Interleaving

variable {libs : Libraries}

/-- The gateway tracks the pair. -/
def System.Joined (s : System) (key : AgentRegistration) : Prop :=
  ∃ g, s.gatewayKitsune = some g ∧ key ∈ g.agents

/-- A section after which the pair's join has still to be completed. -/
def Joining (key : AgentRegistration) : Section → Prop
  | .register _ k _ _ => k = key
  | .kitsune act => Gateway.Joins key act
  | _ => False

/-- Every `agent_join` succeeds: neither of its kitsune2 calls fails. -/
def JoinSucceeds (_ : Running) (_ : Task) : Section → Input → Prop
  | .kitsune act, input => (∃ key, Gateway.Joins key act) → input.ok = true
  | _, _ => True

/-- A pair that a leave takes out of the map is not registered, or about to be joined again. -/
def LeavesUnregistered (p : Running) : Section → Prop
  | .kitsune (.removeAgent key) => p.shared.Joined key →
      key ∉ p.shared.agentProxy.registrations ∨ p.Pending (Joining key)
  | _ => True

structure RegisteredJoined (p : Running) : Prop where
  configured : p.shared.gatewayKitsune.isSome = true
  joined : ∀ key, key ∈ p.shared.agentProxy.registrations →
    p.shared.Joined key ∨ p.Pending (Joining key)

theorem registeredJoined_start (auth : Bool) : RegisteredJoined (.start (.start true auth)) where
  configured := rfl
  joined _ member := absurd member Finmap.notMem_empty

/-- A section that registers nothing and keeps the pair joined, or its join under way. -/
theorem registeredJoined_of_step (libs : Libraries) {t : Task} {act : Section} {rest : List Section} {p : Running}
    {input : Input} (running : p.tasks t = act :: rest) (inv : RegisteredJoined p)
    (step : ∀ key, key ∈ registrationsAfter act p.shared.agentProxy.registrations →
      (perform libs act input p.shared).1.Joined key ∨
        (∃ new ∈ (perform libs act input p.shared).2, Joining key new) ∨
        p.Pending (Joining key) ∧ ¬Joining key act) :
    RegisteredJoined ⟨(perform libs act input p.shared).1,
      Function.update p.tasks t ((perform libs act input p.shared).2 ++ rest)⟩ := by
  constructor
  · rw [perform_gatewayKitsune]
    have configured := inv.configured
    split <;> simp [configured]
  · intro key member
    rw [perform_registrations] at member
    rcases step key member with joined | ⟨new, pushed, joining⟩ | ⟨pending, other⟩
    · exact .inl joined
    · exact .inr (pending_pushed _ _ _ pushed joining)
    · exact .inr (pending_turn running _ _ pending other)

theorem joined_of_not_kitsune {s : System} {key : AgentRegistration} (act : Section) (input : Input)
    (joined : s.Joined key) (other : ∀ inner, act ≠ .kitsune inner) :
    (perform libs act input s).1.Joined key := by
  have same := perform_gatewayKitsune libs act input s
  cases act with
  | kitsune inner => exact absurd rfl (other inner)
  | _ =>
    obtain ⟨g, configured, tracked⟩ := joined
    exact ⟨g, same.trans configured, tracked⟩

theorem registeredJoined_kitsune (libs : Libraries) {t : Task} {act : Gateway.Section} {rest : List Section}
    {p : Running} {input : Input} (running : p.tasks t = .kitsune act :: rest)
    (succeeds : JoinSucceeds p t (.kitsune act) input)
    (leaves : LeavesUnregistered p (.kitsune act)) (inv : RegisteredJoined p) :
    RegisteredJoined ⟨(perform libs (.kitsune act) input p.shared).1, Function.update p.tasks t
      ((perform libs (.kitsune act) input p.shared).2 ++ rest)⟩ := by
  obtain ⟨g, configured⟩ := Option.isSome_iff_exists.mp inv.configured
  have after : (perform libs (.kitsune act) input p.shared).1.gatewayKitsune =
      some (Gateway.perform act input.ok g).1 := by
    rw [perform_gatewayKitsune, configured]
    rfl
  have pushes : (perform libs (.kitsune act) input p.shared).2 =
      (Gateway.perform act input.ok g).2.map .kitsune := by
    simp only [perform, configured]
  apply registeredJoined_of_step libs running inv
  intro key registered
  by_cases joining : Gateway.Joins key act
  · have ok : input.ok = true := succeeds ⟨key, joining⟩
    rw [ok] at after pushes
    rcases Gateway.joins_progress key act g joining with tracked | ⟨new, pushed, goes⟩
    · exact .inl ⟨_, after, tracked⟩
    · exact .inr (.inl ⟨.kitsune new, by rw [pushes]; exact List.mem_map.mpr ⟨new, pushed, rfl⟩, goes⟩)
  · rcases inv.joined key registered with ⟨g', same, tracked⟩ | pending
    · cases configured.symm.trans same
      by_cases leaving : act = .removeAgent key
      · subst leaving
        rcases leaves ⟨g, configured, tracked⟩ with unregistered | pending
        · exact absurd registered unregistered
        · exact .inr (.inr ⟨pending, joining⟩)
      · exact .inl ⟨_, after, Gateway.agents_kept tracked act input.ok leaving⟩
    · exact .inr (.inr ⟨pending, joining⟩)

theorem registeredJoined_turn (t : Task) (input : Input) (act : Section) (rest : List Section)
    (p : Running) (running : p.tasks t = act :: rest)
    (allowed : JoinSucceeds p t act input ∧ LeavesUnregistered p act) (inv : RegisteredJoined p) :
    RegisteredJoined ⟨((program libs).perform act input p.shared).1, Function.update p.tasks t
      (((program libs).perform act input p.shared).2 ++ rest)⟩ := by
  have keep (others : ∀ inner, act ≠ .kitsune inner) (idle : ∀ key, ¬Joining key act)
      (key : AgentRegistration) (registered : key ∈ p.shared.agentProxy.registrations) :
      (perform libs act input p.shared).1.Joined key ∨
        (∃ new ∈ (perform libs act input p.shared).2, Joining key new) ∨
        p.Pending (Joining key) ∧ ¬Joining key act := by
    rcases inv.joined key registered with joined | pending
    · exact .inl (joined_of_not_kitsune act input joined others)
    · exact .inr (.inr ⟨pending, idle key⟩)
  cases act with
  | kitsune act => exact registeredJoined_kitsune libs running allowed.1 allowed.2 inv
  | register c key dnaText agentText =>
    apply registeredJoined_of_step libs running inv
    intro other registered
    by_cases same : other = key
    · subst same
      obtain ⟨g, configured⟩ := Option.isSome_iff_exists.mp inv.configured
      refine .inr (.inl ⟨.kitsune (.joinCheck other), ?_, rfl⟩)
      simp [perform, kitsuneSections, configured, Gateway.agentJoin]
    · have old : other ∈ p.shared.agentProxy.registrations :=
        (Finmap.mem_insert.mp registered).resolve_left same
      rcases inv.joined other old with joined | pending
      · exact .inl (joined_of_not_kitsune _ input joined (by simp))
      · exact .inr (.inr ⟨pending, fun joining => same joining.symm⟩)
  | unregister c key dnaText agentText =>
    apply registeredJoined_of_step libs running inv
    intro other registered
    exact keep (by simp) (by simp [Joining]) other (Finmap.mem_erase.mp registered).2
  | unregisterAll c =>
    apply registeredJoined_of_step libs running inv
    intro other registered
    obtain ⟨sender, known, _⟩ := mem_retain registered
    exact keep (by simp) (by simp [Joining]) other (Finmap.mem_iff.mpr ⟨sender, known⟩)
  | _ => exact registeredJoined_of_step libs running inv (keep (by simp) (by simp [Joining]))

theorem registeredJoined_call (t : Task) (request : Request) (p : Running) (idle : p.tasks t = [])
    (inv : RegisteredJoined p) :
    RegisteredJoined ⟨p.shared, Function.update p.tasks t ((program libs).body t request)⟩ where
  configured := inv.configured
  joined key member := by
    rcases inv.joined key member with joined | pending
    · exact .inl joined
    · exact .inr ((pending_call_iff idle _ _ _).mpr (.inl pending))

theorem registeredJoined_execute (auth : Bool) (schedule : List (Event Task Request Input))
    (succeeds : (program libs).Guarded (OnTurn JoinSucceeds) schedule (.start (.start true auth)))
    (leaves : (program libs).Guarded (OnSection LeavesUnregistered) schedule
      (.start (.start true auth))) :
    RegisteredJoined ((program libs).execute schedule (.start (.start true auth))) :=
  execute_turns RegisteredJoined _ registeredJoined_call registeredJoined_turn schedule _
    (guarded_and succeeds leaves) (registeredJoined_start auth)

/-- Joins belong to `Register`, so to the handlers of the connections. -/
theorem joining_conn {t : Task} {act : Section} {key : AgentRegistration} (belongs : Belongs t act)
    (joining : Joining key act) : ∃ c, t = .conn c := by
  cases act with
  | register c k dnaText agentText => exact ⟨c, belongs⟩
  | kitsune act =>
    rcases belongs with conn | ⟨_, spaceOnly⟩
    · exact conn
    · cases act <;> simp_all [Joining, Gateway.Joins, SpaceOnly]
  | _ => cases joining

/-- Between the handlers every registered pair is joined, as long as no leave takes a pair that is
registered. -/
theorem registered_joined (auth : Bool) (schedule : List (Event Task Request Input))
    (succeeds : (program libs).Guarded (OnTurn JoinSucceeds) schedule (.start (.start true auth)))
    (leaves : (program libs).Guarded (OnSection LeavesUnregistered) schedule
      (.start (.start true auth)))
    (returned : ∀ c,
      ((program libs).execute schedule (.start (.start true auth))).tasks (.conn c) = [])
    (key : AgentRegistration)
    (registered : key ∈
      ((program libs).execute schedule (.start (.start true auth))).shared.agentProxy.registrations) :
    ((program libs).execute schedule (.start (.start true auth))).shared.Joined key := by
  have inv := registeredJoined_execute auth schedule succeeds leaves
  rcases inv.joined key registered with joined | ⟨t, act, member, joining⟩
  · exact joined
  · obtain ⟨c, rfl⟩ := joining_conn (tasks_belong libs true auth schedule t act member) joining
    rw [returned c] at member
    cases member

def inputOk : Event Task Request Input → Bool
  | .call _ _ => true
  | .turn _ input => input.ok

theorem joins_succeed (schedule : List (Event Task Request Input)) (p : Running)
    (all : ∀ e ∈ schedule, inputOk e = true) :
    (program libs).Guarded (OnTurn JoinSucceeds) schedule p := by
  apply guarded_of_turns
  intro before t input after act rest split running
  have ok : input.ok = true := all (.turn t input) (by simp [split])
  cases act with
  | kitsune inner => exact fun _ => ok
  | _ => trivial

/-- A pair that a leave takes out of the map is not registered. -/
def leavesAbsent (p : Running) : Section → Bool
  | .kitsune (.removeAgent key) => key ∉ p.shared.agentProxy.registrations
  | _ => true

theorem leavesUnregistered_of_absent (p : Running) (act : Section)
    (absent : leavesAbsent p act = true) : LeavesUnregistered p act := by
  cases act with
  | kitsune inner =>
    cases inner with
    | removeAgent key => exact fun _ => .inl (of_decide_eq_true absent)
    | _ => trivial
  | _ => trivial

theorem registered_joined_aliceReconnects :
    ((program sampleLibraries).execute aliceReconnects (.start (.start true false))).shared.Joined
      aliceKey := by
  have absent : (program sampleLibraries).Guarded (OnTurn fun p _ act _ => leavesAbsent p act = true)
      aliceReconnects (.start (.start true false)) := by
    decide +kernel
  apply registered_joined
  · exact joins_succeed _ _ (by decide)
  · exact guarded_mono absent fun p _ act _ => leavesUnregistered_of_absent p act
  · intro c
    exact quiescent_execute_start aliceReconnects _ (by decide +kernel) (Task.conn c)
  · decide +kernel

/-- Two browsers register Alice, as on a reconnect; then the older connection closes. -/
def olderCloses : List (Event Task Request Input) :=
  registerAlice 0 ++ connects 1 ++ frames 1 (.text (.ok (.auth aliceText))) 2 ++
    frames 1 (.text (.ok (.register sampleDnaText aliceText))) 4 ++ frames 0 .close 9

theorem registered_not_joined_olderCloses :
    ¬∀ (libs : Libraries) (auth : Bool) (schedule : List (Event Task Request Input)),
      (program libs).Guarded (OnTurn JoinSucceeds) schedule (.start (.start true auth)) →
      (∀ c, ((program libs).execute schedule (.start (.start true auth))).tasks (.conn c) = []) →
      ∀ key, key ∈ ((program libs).execute schedule
          (.start (.start true auth))).shared.agentProxy.registrations →
        ((program libs).execute schedule (.start (.start true auth))).shared.Joined key := by
  intro always
  have succeeds : (program sampleLibraries).Guarded (OnTurn JoinSucceeds) olderCloses
      (.start (.start true false)) :=
    joins_succeed _ _ (by decide)
  have returned : ((program sampleLibraries).execute olderCloses (.start (.start true false))).Quiescent :=
    quiescent_execute_start _ _ (by decide)
  have registered : aliceKey ∈ ((program sampleLibraries).execute olderCloses
      (.start (.start true false))).shared.agentProxy.registrations := by
    decide
  have left : ((program sampleLibraries).execute olderCloses
      (.start (.start true false))).shared.gatewayKitsune.any (aliceKey ∉ ·.agents) = true := by
    decide
  obtain ⟨g, configured, tracked⟩ :=
    always sampleLibraries false olderCloses succeeds (fun c => returned (.conn c)) aliceKey registered
  rw [configured] at left
  exact absurd tracked (by simpa using left)

end H2hcLinker.WebSocket
