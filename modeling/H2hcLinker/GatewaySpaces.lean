import H2hcLinker.GatewayMirror

/-! The tracked agents against the spaces. A join holds its space from the lookup on and records its
agent at the end; the cleanup of another leave, which has counted the agents before that, takes the
space away in between. -/
namespace H2hcLinker.Gateway

open HashTable Interleaving

/-- A section that puts the space in the map. -/
def Stores (dna : DnaHash) : Section → Prop
  | .spaceStore d _ => d = dna
  | _ => False

/-- A section of a join that has its space already. -/
def Uses (dna : DnaHash) : Section → Prop
  | .localAgentJoin key | .storeAgent key => key.1 = dna
  | _ => False

instance (dna : DnaHash) : DecidablePred (Uses dna)
  | .localAgentJoin key | .storeAgent key => inferInstanceAs (Decidable (key.1 = dna))
  | .joinCheck _ | .spaceLookup _ _ | .spaceCreate _ _ | .spaceStore _ _ | .removeAgent _
  | .leaveSpace _ | .localAgentLeave _ | .cleanupCheck _ | .cleanupRemove _ => .isFalse id

/-- An agent of the DNA is tracked or about to be. -/
def Needed (p : Calls) (dna : DnaHash) : Prop :=
  (∃ key ∈ p.shared.agents, key.1 = dna) ∨ p.Pending (Uses dna)

/-- What the cleanup removes is not needed, or is put back. -/
def RemovesUnneeded (p : Calls) : Section → Prop
  | .cleanupRemove dna => Needed p dna → p.Pending (Stores dna)
  | _ => True

/-- Every space that is needed is there, or put there. -/
def SpacesTracked (p : Calls) : Prop :=
  ∀ dna, Needed p dna → dna ∈ p.shared.spaces ∨ p.Pending (Stores dna)

variable {p : Calls} {t : Nat} {act : Section} {rest : List Section} {dna : DnaHash} {ok : Bool}
  {g : GatewayKitsune}

/-- A join gets to use a space when it finds it or has stored it. -/
theorem uses_pushed {new : Section} (pushed : new ∈ (perform act ok g).2) (uses : Uses dna new) :
    Uses dna act ∨ dna ∈ (perform act ok g).1.spaces := by
  cases perform_follows act ok g new pushed with
  | found d agent there =>
    cases uses
    exact .inr there
  | stored d agent =>
    cases uses
    exact .inr (Finmap.mem_insert.mpr (.inl rfl))
  | joined key => exact .inl uses
  | _ => cases uses

/-- A tracked agent was tracked, or its join is done. -/
theorem agents_of_perform {key : Key} (tracked : key ∈ (perform act ok g).1.agents) :
    key ∈ g.agents ∨ act = .storeAgent key := by
  cases act with
  | storeAgent k =>
    rcases Finmap.mem_insert.mp tracked with rfl | old
    · exact .inr rfl
    · exact .inl old
  | removeAgent k => exact .inl (Finmap.mem_erase.mp tracked).2
  | localAgentJoin k =>
    refine .inl ?_
    simp only [perform] at tracked
    split at tracked <;> exact tracked
  | _ => exact .inl tracked

/-- Only the cleanup takes a space away. -/
theorem spaces_kept (act : Section) (ok : Bool) (there : dna ∈ g.spaces) :
    dna ∈ (perform act ok g).1.spaces ∨ act = .cleanupRemove dna := by
  cases act with
  | spaceStore d use => exact .inl (Finmap.mem_insert.mpr (.inr there))
  | cleanupRemove d =>
    by_cases same : dna = d
    · exact .inr (congrArg Section.cleanupRemove same.symm)
    · exact .inl (Finmap.mem_erase.mpr ⟨same, there⟩)
  | localAgentJoin k =>
    refine .inl ?_
    simp only [perform]
    split <;> exact there
  | _ => exact .inl there

theorem needed_of_turn (running : p.tasks t = act :: rest)
    (needed : Needed ⟨(perform act ok p.shared).1,
      Function.update p.tasks t ((perform act ok p.shared).2 ++ rest)⟩ dna) :
    Needed p dna ∨ dna ∈ (perform act ok p.shared).1.spaces := by
  rcases needed with ⟨key, tracked, same⟩ | busy
  · rcases agents_of_perform tracked with before | rfl
    · exact .inl (.inl ⟨key, before, same⟩)
    · exact .inl (.inr (pending_head running same))
  · rcases pending_of_turn running busy with ⟨new, pushed, uses⟩ | before
    · rcases uses_pushed pushed uses with now | there
      · exact .inl (.inr (pending_head running now))
      · exact .inr there
    · exact .inl (.inr before)

theorem spacesTracked_turn (running : p.tasks t = act :: rest) (unneeded : RemovesUnneeded p act)
    (inv : SpacesTracked p) : SpacesTracked ⟨(perform act ok p.shared).1,
      Function.update p.tasks t ((perform act ok p.shared).2 ++ rest)⟩ := by
  intro dna needed
  rcases needed_of_turn running needed with before | there
  · have storing (pending : p.Pending (Stores dna)) :
        dna ∈ (perform act ok p.shared).1.spaces ∨
          Pool.Pending ⟨(perform act ok p.shared).1,
            Function.update p.tasks t ((perform act ok p.shared).2 ++ rest)⟩ (Stores dna) := by
      by_cases now : Stores dna act
      · cases act with
        | spaceStore d use =>
          cases now
          exact .inl (Finmap.mem_insert.mpr (.inl rfl))
        | _ => cases now
      · exact .inr (pending_turn running _ _ pending now)
    rcases inv dna before with there | pending
    · rcases spaces_kept act ok there with still | rfl
      · exact .inl still
      · exact storing (unneeded before)
    · exact storing pending
  · exact .inl there

theorem spacesTracked_call (t : Nat) (call : Call) (p : Calls) (idle : p.tasks t = [])
    (inv : SpacesTracked p) : SpacesTracked ⟨p.shared, Function.update p.tasks t call.body⟩ := by
  intro dna needed
  have before : Needed p dna := by
    rcases needed with tracked | busy
    · exact .inl tracked
    · rcases (pending_call_iff idle _ _ _).mp busy with old | ⟨act, first, uses⟩
      · exact .inr old
      · cases call <;> cases List.mem_singleton.mp first <;> cases uses
  rcases inv dna before with there | pending
  · exact .inl there
  · exact .inr ((pending_call_iff idle _ _ _).mpr (.inl pending))

theorem spacesTracked_execute (schedule : List (Event Nat Call Bool))
    (unneeded : program.Guarded (OnSection RemovesUnneeded) schedule (.start .new)) :
    SpacesTracked (program.execute schedule (.start .new)) := by
  apply execute_sections SpacesTracked RemovesUnneeded spacesTracked_call _ schedule _ unneeded
  · rintro dna (⟨key, tracked, _⟩ | busy)
    · exact absurd tracked Finmap.notMem_empty
    · exact absurd busy (not_pending_start _ _)
  · intro t ok act rest p running unneeded inv
    exact spacesTracked_turn running unneeded inv

/-- Between calls every tracked agent has its space in the map, and a leave of it reaches kitsune2, as
long as no cleanup removes a space that an agent has or a join is already using. -/
theorem agents_spaces_tracked (schedule : List (Event Nat Call Bool))
    (unneeded : program.Guarded (OnSection RemovesUnneeded) schedule (.start .new))
    (quiet : (program.execute schedule (.start .new)).Quiescent) (key : Key)
    (tracked : key ∈ (program.execute schedule (.start .new)).shared.agents) :
    key.1 ∈ (program.execute schedule (.start .new)).shared.spaces ∧
      ∀ t ok ok', (program.execute [.call t (.agentLeave key), .turn t ok, .turn t ok']
        (program.execute schedule (.start .new))).tasks t = [.localAgentLeave key] := by
  have inv := spacesTracked_execute schedule unneeded
  generalize program.execute schedule (.start .new) = p at *
  have there : key.1 ∈ p.shared.spaces := by
    rcases inv key.1 (.inl ⟨key, tracked, rfl⟩) with there | pending
    · exact there
    · exact absurd pending (quiet.not_pending _)
  refine ⟨there, fun t ok ok' => ?_⟩
  simp [Program.execute, Program.advance, quiet t, program, Call.body, agentLeave, perform, tracked, there]

/-- The pair joins and leaves, which removes the space, and joins again. -/
def rejoinAfterLeave : List (Event Nat Call Bool) :=
  joinThenLeave ++ .call 2 (.agentJoin samplePair) :: List.replicate 6 (.turn 2 true)

theorem agents_spaces_tracked_rejoinAfterLeave :
    samplePair.1 ∈ (program.execute rejoinAfterLeave (.start .new)).shared.spaces ∧
      ∀ t ok ok', (program.execute [.call t (.agentLeave samplePair), .turn t ok, .turn t ok']
        (program.execute rejoinAfterLeave (.start .new))).tasks t = [.localAgentLeave samplePair] := by
  apply agents_spaces_tracked
  · have unneeded : ¬Needed (program.execute (joinThenLeave.take 12) (.start .new)) samplePair.1 := by
      rintro (⟨key, tracked, _⟩ | busy)
      · have none : (program.execute (joinThenLeave.take 12) (.start .new)).shared.agents = ∅ := by
          decide
        rw [none] at tracked
        exact Finmap.notMem_empty tracked
      · exact absurd busy (not_pending_execute_start _ _ _ (by decide))
    exact ⟨trivial, trivial, trivial, trivial, trivial, trivial, trivial, trivial, trivial, trivial,
      trivial, trivial, fun needed => absurd needed unneeded, trivial, trivial, trivial, trivial,
      trivial, trivial, trivial, trivial⟩
  · exact quiescent_execute_start _ _ (by decide)
  · decide

def otherPair : Key := (samplePair.1, ⟨[3]⟩)

/-- The last agent leaves and finds no agent left; before it removes the space, another agent joins
through it. -/
def joinDuringCleanup : List (Event Nat Call Bool) :=
  .call 0 (.agentJoin samplePair) :: List.replicate 6 (.turn 0 true) ++
    .call 1 (.agentLeave samplePair) :: List.replicate 4 (.turn 1 true) ++
    .call 2 (.agentJoin otherPair) :: List.replicate 4 (.turn 2 true) ++ [.turn 1 true]

theorem space_lost_joinDuringCleanup :
    ¬∀ schedule : List (Event Nat Call Bool),
      (program.execute schedule (.start .new)).Quiescent → ∀ key,
        key ∈ (program.execute schedule (.start .new)).shared.agents →
          key.1 ∈ (program.execute schedule (.start .new)).shared.spaces := by
  intro always
  have quiet : (program.execute joinDuringCleanup (.start .new)).Quiescent :=
    quiescent_execute_start _ _ (by decide)
  have lost : otherPair.1 ∉ (program.execute joinDuringCleanup (.start .new)).shared.spaces := by
    decide
  exact lost (always joinDuringCleanup quiet otherPair (by decide))

end H2hcLinker.Gateway
