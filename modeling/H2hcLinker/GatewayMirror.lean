import H2hcLinker.GatewayKitsune

/-! The tracked agents against the agents kitsune2 has joined, over interleaved joins and
leaves. The two sets differ only while a join has still to record its agent or a leave has
still to tell kitsune2. -/
namespace H2hcLinker.Gateway

open HashTable Interleaving

abbrev Calls := Pool Nat Section GatewayKitsune

/-- A leave of the pair that has still to reach `local_agent_leave`. -/
def Leaves (key : Key) (act : Section) : Prop := act = .leaveSpace key ∨ act = .localAgentLeave key

structure Mirror (p : Calls) : Prop where
  tracked : ∀ key, key ∈ p.shared.agents → key ∈ p.shared.localAgents
  storing : ∀ key, p.Pending (· = .storeAgent key) → key ∈ p.shared.localAgents
  joined : ∀ key, key ∈ p.shared.localAgents →
    key ∈ p.shared.agents ∨ p.Pending (· = .storeAgent key) ∨ p.Pending (Leaves key)

theorem mirror_start : Mirror (.start .new) where
  tracked key member := absurd member Finmap.notMem_empty
  storing key pending := absurd pending (not_pending_start _ _)
  joined key member := by simp [Pool.start, GatewayKitsune.new] at member

/-- What a leave may assume when it goes on: the space of a pair that only kitsune2 still holds
is found, and kitsune2 is told before the pair is back in the map or about to be put there. -/
def Undisturbed (p : Calls) : Section → Prop
  | .leaveSpace key => key ∈ p.shared.localAgents → key.1 ∈ p.shared.spaces ∨
      key ∈ p.shared.agents ∨ p.Pending (· = .storeAgent key)
  | .localAgentLeave key => key ∉ p.shared.agents ∧ ¬p.Pending (· = .storeAgent key)
  | _ => True

theorem mirror_call (t : Nat) (call : Call) (p : Calls) (idle : p.tasks t = []) (m : Mirror p) :
    Mirror ⟨p.shared, Function.update p.tasks t call.body⟩ := by
  have noStore (key : Key) : ¬∃ act ∈ call.body, act = .storeAgent key := by
    cases call <;> simp [Call.body, agentJoin, agentLeave, getOrCreateSpace]
  constructor
  · exact m.tracked
  · intro key pending
    rcases (pending_call_iff idle _ _ _).mp pending with old | new
    · exact m.storing key old
    · exact absurd new (noStore key)
  · intro key member
    rcases m.joined key member with tracked | storing | leaving
    · exact .inl tracked
    · exact .inr (.inl ((pending_call_iff idle _ _ _).mpr (.inl storing)))
    · exact .inr (.inr ((pending_call_iff idle _ _ _).mpr (.inl leaving)))

/-- A section that leaves both sets alone and neither pushes nor consumes the store of a joined
agent or the leave of a tracked one. -/
theorem mirror_of_frame {t : Nat} {act : Section} {rest next : List Section} {p : Calls}
    {g : GatewayKitsune} (running : p.tasks t = act :: rest) (m : Mirror p)
    (agents : g.agents = p.shared.agents) (localAgents : g.localAgents = p.shared.localAgents)
    (pushed : ∀ key, ∀ new ∈ next, new ≠ .storeAgent key)
    (storing : ∀ key, act ≠ .storeAgent key) (leaving : ∀ key, ¬Leaves key act) :
    Mirror ⟨g, Function.update p.tasks t (next ++ rest)⟩ := by
  constructor
  · intro key member
    rw [agents] at member
    rw [localAgents]
    exact m.tracked key member
  · intro key pending
    rw [localAgents]
    rcases pending_of_turn running pending with ⟨new, member, same⟩ | old
    · exact absurd same (pushed key new member)
    · exact m.storing key old
  · intro key member
    rw [localAgents] at member
    rw [agents]
    rcases m.joined key member with tracked | store | leave
    · exact .inl tracked
    · exact .inr (.inl (pending_turn running _ _ store (storing key)))
    · exact .inr (.inr (pending_turn running _ _ leave (leaving key)))

theorem mirror_localAgentJoin {t : Nat} {key : Key} {rest : List Section} {p : Calls}
    (running : p.tasks t = .localAgentJoin key :: rest) (m : Mirror p) :
    Mirror ⟨{ p.shared with localAgents := insert key p.shared.localAgents },
      Function.update p.tasks t ([.storeAgent key] ++ rest)⟩ := by
  constructor
  · intro other member
    exact Finset.mem_insert_of_mem (m.tracked other member)
  · intro other pending
    rcases pending_of_turn running pending with ⟨new, member, same⟩ | old
    · have keys : key = other := by simp_all
      exact keys ▸ Finset.mem_insert_self _ _
    · exact Finset.mem_insert_of_mem (m.storing other old)
  · intro other member
    by_cases same : other = key
    · subst other
      exact .inr (.inl (pending_pushed _ _ _ (List.mem_singleton_self _) rfl))
    · rcases m.joined other (Finset.mem_of_mem_insert_of_ne member same) with tracked | store | leave
      · exact .inl tracked
      · exact .inr (.inl (pending_turn running _ _ store (by simp)))
      · exact .inr (.inr (pending_turn running _ _ leave (by simp [Leaves])))

theorem mirror_storeAgent {t : Nat} {key : Key} {rest : List Section} {p : Calls}
    (running : p.tasks t = .storeAgent key :: rest) (m : Mirror p) :
    Mirror ⟨{ p.shared with agents := p.shared.agents.insert key ⟨key.2⟩ },
      Function.update p.tasks t ([] ++ rest)⟩ := by
  constructor
  · intro other member
    rcases (Finmap.mem_insert).mp member with rfl | old
    · exact m.storing other (pending_head running rfl)
    · exact m.tracked other old
  · intro other pending
    rcases pending_of_turn running pending with ⟨new, member, same⟩ | old
    · exact absurd member List.not_mem_nil
    · exact m.storing other old
  · intro other member
    by_cases same : other = key
    · exact .inl (Finmap.mem_insert.mpr (.inl same))
    · rcases m.joined other member with tracked | store | leave
      · exact .inl (Finmap.mem_insert.mpr (.inr tracked))
      · exact .inr (.inl (pending_turn running _ _ store (by simp [Ne.symm same])))
      · exact .inr (.inr (pending_turn running _ _ leave (by simp [Leaves])))

theorem mirror_removeAgent {t : Nat} {key : Key} {rest : List Section} {p : Calls}
    (running : p.tasks t = .removeAgent key :: rest) (m : Mirror p) :
    Mirror ⟨{ p.shared with agents := p.shared.agents.erase key },
      Function.update p.tasks t ((if key ∈ p.shared.agents then [.leaveSpace key] else []) ++ rest)⟩ := by
  constructor
  · intro other member
    exact m.tracked other (Finmap.mem_erase.mp member).2
  · intro other pending
    rcases pending_of_turn running pending with ⟨new, member, same⟩ | old
    · split at member <;> simp_all
    · exact m.storing other old
  · intro other member
    rcases m.joined other member with tracked | store | leave
    · by_cases same : other = key
      · -- the pair just taken out is on its way to `local_agent_leave`
        subst other
        exact .inr (.inr (pending_pushed _ _ _ (by simp [tracked]) (.inl rfl)))
      · exact .inl (Finmap.mem_erase.mpr ⟨same, tracked⟩)
    · exact .inr (.inl (pending_turn running _ _ store (by simp)))
    · exact .inr (.inr (pending_turn running _ _ leave (by simp [Leaves])))

theorem mirror_leaveSpace {t : Nat} {key : Key} {rest : List Section} {p : Calls}
    (running : p.tasks t = .leaveSpace key :: rest)
    (found : key ∈ p.shared.localAgents → key.1 ∈ p.shared.spaces ∨
      key ∈ p.shared.agents ∨ p.Pending (· = .storeAgent key)) (m : Mirror p) :
    Mirror ⟨p.shared, Function.update p.tasks t
      ((if key.1 ∈ p.shared.spaces then [.localAgentLeave key] else maybeCleanupSpace key.1) ++ rest)⟩ := by
  constructor
  · exact m.tracked
  · intro other pending
    rcases pending_of_turn running pending with ⟨new, member, same⟩ | old
    · split at member <;> simp_all [maybeCleanupSpace]
    · exact m.storing other old
  · intro other member
    rcases m.joined other member with tracked | store | leave
    · exact .inl tracked
    · exact .inr (.inl (pending_turn running _ _ store (by simp)))
    · by_cases same : other = key
      · subst other
        rcases found member with space | tracked | store
        · exact .inr (.inr (pending_pushed _ _ _ (by simp [space]) (.inr rfl)))
        · exact .inl tracked
        · exact .inr (.inl (pending_turn running _ _ store (by simp)))
      · exact .inr (.inr (pending_turn running _ _ leave (by simp [Leaves, Ne.symm same])))

theorem mirror_localAgentLeave {t : Nat} {key : Key} {rest : List Section} {p : Calls}
    (running : p.tasks t = .localAgentLeave key :: rest)
    (gone : key ∉ p.shared.agents ∧ ¬p.Pending (· = .storeAgent key)) (m : Mirror p) :
    Mirror ⟨{ p.shared with localAgents := p.shared.localAgents.erase key },
      Function.update p.tasks t (maybeCleanupSpace key.1 ++ rest)⟩ := by
  constructor
  · intro other member
    have different : other ≠ key := by
      rintro rfl
      exact gone.1 member
    exact Finset.mem_erase.mpr ⟨different, m.tracked other member⟩
  · intro other pending
    rcases pending_of_turn running pending with ⟨new, member, same⟩ | old
    · simp_all [maybeCleanupSpace]
    · have different : other ≠ key := by
        rintro rfl
        exact gone.2 old
      exact Finset.mem_erase.mpr ⟨different, m.storing other old⟩
  · intro other member
    obtain ⟨different, before⟩ := Finset.mem_erase.mp member
    rcases m.joined other before with tracked | store | leave
    · exact .inl tracked
    · exact .inr (.inl (pending_turn running _ _ store (by simp)))
    · exact .inr (.inr (pending_turn running _ _ leave (by simp [Leaves, Ne.symm different])))

theorem mirror_turn (t : Nat) (ok : Bool) (act : Section) (rest : List Section) (p : Calls)
    (running : p.tasks t = act :: rest) (undisturbed : Undisturbed p act) (m : Mirror p) :
    Mirror ⟨(perform act ok p.shared).1,
      Function.update p.tasks t ((perform act ok p.shared).2 ++ rest)⟩ := by
  cases act with
  | joinCheck key =>
    apply mirror_of_frame running m rfl rfl <;> intro key
    · simp only [perform]
      split <;> simp [getOrCreateSpace]
    · simp
    · simp [Leaves]
  | spaceLookup dna use =>
    apply mirror_of_frame running m rfl rfl <;> intro key
    · simp only [perform]
      split <;> cases use <;> simp [SpaceUse.sections]
    · simp
    · simp [Leaves]
  | spaceCreate dna use =>
    apply mirror_of_frame running m rfl rfl <;> intro key
    · cases ok <;> simp [perform]
    · simp
    · simp [Leaves]
  | spaceStore dna use =>
    apply mirror_of_frame running m
    · rfl
    · rfl
    · intro key
      cases use <;> simp [perform, SpaceUse.sections]
    · simp
    · simp [Leaves]
  | localAgentJoin key =>
    cases ok with
    | false => exact mirror_of_frame running m rfl rfl (by simp [perform]) (by simp) (by simp [Leaves])
    | true => exact mirror_localAgentJoin running m
  | storeAgent key => exact mirror_storeAgent running m
  | removeAgent key => exact mirror_removeAgent running m
  | leaveSpace key => exact mirror_leaveSpace running undisturbed m
  | localAgentLeave key => exact mirror_localAgentLeave running undisturbed m
  | cleanupCheck dna =>
    apply mirror_of_frame running m rfl rfl <;> intro key
    · simp only [perform]
      split <;> simp
    · simp
    · simp [Leaves]
  | cleanupRemove dna =>
    exact mirror_of_frame running m rfl rfl (by simp [perform]) (by simp) (by simp [Leaves])

theorem mirror_execute (schedule : List (Event Nat Call Bool))
    (guarded : program.Guarded (OnSection Undisturbed) schedule (.start .new)) :
    Mirror (program.execute schedule (.start .new)) :=
  execute_sections Mirror Undisturbed mirror_call mirror_turn schedule _ guarded mirror_start

/-- Between calls the tracked agents are exactly kitsune2's, as long as no leave is disturbed
between taking the pair out of the map and telling kitsune2. -/
theorem agents_mirror_local_agents (schedule : List (Event Nat Call Bool))
    (guarded : program.Guarded (OnSection Undisturbed) schedule (.start .new))
    (quiet : (program.execute schedule (.start .new)).Quiescent) (key : Key) :
    key ∈ (program.execute schedule (.start .new)).shared.agents ↔
      key ∈ (program.execute schedule (.start .new)).shared.localAgents := by
  have m := mirror_execute schedule guarded
  constructor
  · exact m.tracked key
  · intro member
    rcases m.joined key member with tracked | storing | leaving
    · exact tracked
    · exact absurd storing (quiet.not_pending _)
    · exact absurd leaving (quiet.not_pending _)

def samplePair : Key := (⟨[1]⟩, ⟨[2]⟩)

/-- A join alone, then a leave alone: the first needs a new space, the second removes it. -/
def joinThenLeave : List (Event Nat Call Bool) :=
  .call 0 (.agentJoin samplePair) :: List.replicate 6 (.turn 0 true) ++
    .call 1 (.agentLeave samplePair) :: List.replicate 5 (.turn 1 true)

theorem agents_mirror_joinThenLeave :
    samplePair ∈ (program.execute joinThenLeave (.start .new)).shared.agents ↔
      samplePair ∈ (program.execute joinThenLeave (.start .new)).shared.localAgents := by
  apply agents_mirror_local_agents
  · have stored : ¬(program.execute (joinThenLeave.take 10) (.start .new)).Pending
        (· = .storeAgent samplePair) :=
      not_pending_execute_start _ _ _ (by decide)
    exact ⟨trivial, trivial, trivial, trivial, trivial, trivial, trivial, trivial, trivial,
      fun _ => .inl (by decide), ⟨by decide, stored⟩, trivial, trivial, trivial⟩
  · exact quiescent_execute_start _ _ (by decide)

/-- The pair is joined; a leave takes it out of the map and waits; a second join finds it gone,
joins it again and records it; then the leave tells kitsune2. -/
def rejoinDuringLeave : List (Event Nat Call Bool) :=
  .call 0 (.agentJoin samplePair) :: List.replicate 6 (.turn 0 true) ++
    [.call 1 (.agentLeave samplePair), .turn 1 true] ++
    .call 2 (.agentJoin samplePair) :: List.replicate 4 (.turn 2 true) ++
    List.replicate 3 (.turn 1 true)

theorem agents_diverge_rejoinDuringLeave :
    ¬∀ schedule : List (Event Nat Call Bool),
      (program.execute schedule (.start .new)).Quiescent → ∀ key,
        key ∈ (program.execute schedule (.start .new)).shared.agents ↔
          key ∈ (program.execute schedule (.start .new)).shared.localAgents := by
  intro always
  have quiet : (program.execute rejoinDuringLeave (.start .new)).Quiescent :=
    quiescent_execute_start _ _ (by decide)
  have tracked : samplePair ∈ (program.execute rejoinDuringLeave (.start .new)).shared.agents := by
    decide
  have left : samplePair ∉ (program.execute rejoinDuringLeave (.start .new)).shared.localAgents := by
    decide
  exact left ((always rejoinDuringLeave quiet samplePair).mp tracked)

end H2hcLinker.Gateway
