import H2hcLinker.Preflight

/-! What the preflight cache holds after calls of `add_agent` that do not overlap. -/
namespace H2hcLinker.Preflight

/-- `add_agent` with no other call in between. -/
def PreflightCache.addAgent (codec : WireCodec) (now : Int) (info : AgentInfoSigned)
    (c : PreflightCache) : PreflightCache :=
  let agents := updateAgents now info c.agents
  match codec.encode ⟨c.compat, encodings codec agents⟩ with
  | .ok preflight => { c with preflight, agents }
  | .error _ => { c with agents }

theorem addAgent_agents (codec : WireCodec) (now : Int) (info : AgentInfoSigned) (c : PreflightCache) :
    (c.addAgent codec now info).agents = updateAgents now info c.agents := by
  simp only [PreflightCache.addAgent]
  split <;> rfl

/-- It is the two sections of the program, whatever the second reads of the clock. -/
theorem addAgent_eq_perform (codec : WireCodec) (now later : Int) (info : AgentInfoSigned)
    (c : PreflightCache) :
    let updated := perform codec (.update info) now c
    let write := Section.write (encodings codec (c.addAgent codec now info).agents)
    updated.2 = [write] ∧ (perform codec write later updated.1).1 = c.addAgent codec now info := by
  rw [addAgent_agents]
  refine ⟨rfl, ?_⟩
  simp only [PreflightCache.addAgent, perform]
  cases codec.encode ⟨c.compat, encodings codec (updateAgents now info c.agents)⟩ <;> rfl

/-- One call, with the time that it reads. -/
structure AddAgent where
  now : Int
  info : AgentInfoSigned
  deriving DecidableEq

def addAgents (codec : WireCodec) (calls : List AddAgent) (c : PreflightCache) : PreflightCache :=
  calls.foldl (fun c call => c.addAgent codec call.now call.info) c

/-- Infos of one agent in one space. -/
def SameKey (a b : AgentInfoSigned) : Prop := a.agent = b.agent ∧ a.space = b.space

instance : DecidableRel SameKey := fun _ _ => inferInstanceAs (Decidable (_ ∧ _))

/-- No later call is for the same agent and space, and the last call, if it is another, does not
find the info expired. -/
def Survives (calls : List AddAgent) (info : AgentInfoSigned) (k : Nat) : Prop :=
  (∀ later ∈ calls.drop (k + 1), ¬SameKey info later.info) ∧
    (k + 1 = calls.length ∨ ∀ last ∈ calls.getLast?, last.now ≤ info.expiresAt)

instance (calls : List AddAgent) (info : AgentInfoSigned) (k : Nat) :
    Decidable (Survives calls info k) :=
  inferInstanceAs (Decidable (_ ∧ (_ ∨ ∀ last ∈ calls.getLast?, _)))

def survivors (calls : List AddAgent) : List AgentInfoSigned :=
  (calls.zipIdx.filter fun (call, k) => Survives calls call.info k).map (·.1.info)

variable {codec : WireCodec} {calls : List AddAgent} {call : AddAgent} {info : AgentInfoSigned}
  {k : Nat}

/-- An info outlives one more call as `retain` keeps it. -/
theorem survives_snoc (info : AgentInfoSigned)
    (ordered : (calls ++ [call]).Pairwise (·.now ≤ ·.now)) (early : k < calls.length) :
    Survives (calls ++ [call]) info k ↔
      Survives calls info k ∧ ¬info.expiresAt < call.now ∧ ¬SameKey info call.info := by
  have drop : (calls ++ [call]).drop (k + 1) = calls.drop (k + 1) ++ [call] :=
    List.drop_append_of_le_length early
  have noLater : (∀ later ∈ (calls ++ [call]).drop (k + 1), ¬SameKey info later.info) ↔
      (∀ later ∈ calls.drop (k + 1), ¬SameKey info later.info) ∧ ¬SameKey info call.info := by
    rw [drop, List.forall_mem_append, List.forall_mem_singleton]
  have notLast : ¬k + 1 = (calls ++ [call]).length := by
    rw [List.length_append, List.length_singleton]
    omega
  have unexpired : (∀ last ∈ (calls ++ [call]).getLast?, last.now ≤ info.expiresAt) ↔
      call.now ≤ info.expiresAt := by
    simp
  rw [Survives, noLater, unexpired, Survives]
  constructor
  · rintro ⟨⟨none, other⟩, last | fresh⟩
    · exact absurd last notLast
    · refine ⟨⟨none, .inr ?_⟩, by omega, other⟩
      intro last among
      have past := (List.pairwise_append.mp ordered).2.2 last (List.mem_of_getLast? among) call
        (List.mem_singleton_self call)
      omega
  · rintro ⟨⟨none, _⟩, fresh, other⟩
    exact ⟨⟨none, other⟩, .inr (by omega)⟩

/-- The newest info survives. -/
theorem survives_last (calls : List AddAgent) (call : AddAgent) :
    Survives (calls ++ [call]) call.info calls.length := by
  refine ⟨?_, .inl (by rw [List.length_append, List.length_singleton])⟩
  rw [List.drop_of_length_le (by rw [List.length_append, List.length_singleton])]
  exact List.forall_mem_nil _

theorem survivors_snoc (ordered : (calls ++ [call]).Pairwise (·.now ≤ ·.now)) :
    survivors (calls ++ [call]) = updateAgents call.now call.info (survivors calls) := by
  have last : (([call].zipIdx (0 + calls.length)).filter fun (added, k) =>
      Survives (calls ++ [call]) added.info k) = [(call, calls.length)] := by
    rw [List.zipIdx_singleton, Nat.zero_add]
    exact List.filter_cons_of_pos (decide_eq_true (survives_last calls call))
  have kept : (calls.zipIdx.filter fun (added, k) => Survives (calls ++ [call]) added.info k) =
      (calls.zipIdx.filter fun (added, k) => Survives calls added.info k).filter fun (added, _) =>
        ¬added.info.expiresAt < call.now ∧ ¬SameKey added.info call.info := by
    rw [List.filter_filter]
    apply List.filter_congr
    rintro ⟨added, k⟩ member
    obtain ⟨early, _⟩ := List.getElem?_eq_some_iff.mp (List.mem_zipIdx_iff_getElem?.mp member)
    have step := survives_snoc added.info ordered early
    exact (decide_eq_decide.mpr (step.trans and_comm)).trans (Bool.decide_and _ _)
  rw [survivors, List.zipIdx_append, List.filter_append, last, kept, List.map_append, updateAgents,
    survivors, List.filter_map]
  rfl

/-- The list is what survives of the calls. -/
theorem agents_addAgents (codec : WireCodec) (ordered : calls.Pairwise (·.now ≤ ·.now))
    {cache : PreflightCache} (empty : cache.agents = []) :
    (addAgents codec calls cache).agents = survivors calls := by
  induction calls using List.reverseRecOn with
  | nil => exact empty
  | append_singleton calls call ih =>
    have before := ih (List.pairwise_append.mp ordered).1
    rw [survivors_snoc ordered, ← before, addAgents, List.foldl_append]
    exact addAgent_agents _ _ _ _

theorem mem_survivors (member : info ∈ survivors calls) : ∃ call ∈ calls, call.info = info := by
  obtain ⟨⟨call, k⟩, among, rfl⟩ := List.mem_map.mp member
  exact ⟨call, List.fst_mem_of_mem_zipIdx (List.mem_of_mem_filter among), rfl⟩

/-- No agent is twice in a space. -/
theorem survivors_once (ordered : calls.Pairwise (·.now ≤ ·.now)) :
    (survivors calls).Pairwise fun a b => ¬SameKey a b := by
  induction calls using List.reverseRecOn with
  | nil => exact List.Pairwise.nil
  | append_singleton calls call ih =>
    have before := ih (List.pairwise_append.mp ordered).1
    rw [survivors_snoc ordered, updateAgents, List.pairwise_append]
    refine ⟨before.filter _, List.pairwise_singleton _ _, ?_⟩
    intro kept member added newest
    obtain rfl := List.mem_singleton.mp newest
    have stays := (List.mem_filter.mp member).2
    exact (of_decide_eq_true stays).2

/-- The libraries encode the infos of the calls and every message, and read a message back. -/
structure WireCodec.Encodes (codec : WireCodec) (calls : List AddAgent) : Prop where
  agents : ∀ call ∈ calls, ∃ text, codec.encodeAgent call.info = .ok text
  messages : ∀ message, ∃ bytes, codec.encode message = .ok bytes
  round_trip : ∀ message bytes, codec.encode message = .ok bytes → codec.decode bytes = .ok message

theorem WireCodec.Encodes.current_addAgents (encodes : codec.Encodes calls) {cache : PreflightCache}
    (created : PreflightCache.new codec = some cache) :
    Current codec (addAgents codec calls cache) := by
  rcases List.eq_nil_or_concat calls with rfl | ⟨before, call, rfl⟩
  · unfold PreflightCache.new at created
    split at created
    next initial encoded =>
      cases created
      exact encodes.round_trip _ _ encoded
    next => cases created
  · rw [List.concat_eq_append, addAgents, List.foldl_append]
    obtain ⟨bytes, encoded⟩ := encodes.messages ⟨(addAgents codec before cache).compat,
      encodings codec (updateAgents call.now call.info (addAgents codec before cache).agents)⟩
    have left : (addAgents codec before cache).addAgent codec call.now call.info =
        ⟨bytes, (addAgents codec before cache).compat,
          updateAgents call.now call.info (addAgents codec before cache).agents⟩ := by
      simp only [PreflightCache.addAgent, encoded]
    have decoded := encodes.round_trip _ _ encoded
    change Current codec ((addAgents codec before cache).addAgent codec call.now call.info)
    rw [left]
    exact decoded

/-- What the calls leave in the cache. -/
structure Contents (codec : WireCodec) (calls : List AddAgent) (cache : PreflightCache) : Prop where
  decoded : ∃ message, codec.decode (addAgents codec calls cache).get = .ok message ∧
    message.agents.map .ok = (survivors calls).map codec.encodeAgent
  once : (survivors calls).Pairwise fun a b => ¬SameKey a b
  /-- An info goes by its own expiry or by a later one of its own space. -/
  evicted (k : Nat) (call : AddAgent) (given : calls[k]? = some call)
    (gone : ¬Survives calls call.info k) :
    (∃ last ∈ calls.getLast?, call.info.expiresAt < last.now) ∨
      ∃ later ∈ calls.drop (k + 1), later.info.space = call.info.space ∧
        later.info.agent = call.info.agent

/-- After calls one after another the preflight decodes to the encodings of the infos that no later
call has replaced and that the last one has not found expired. -/
theorem preflight_contents (codec : WireCodec) (calls : List AddAgent)
    (ordered : calls.Pairwise (·.now ≤ ·.now)) (encodes : codec.Encodes calls) (cache : PreflightCache)
    (created : PreflightCache.new codec = some cache) : Contents codec calls cache where
  decoded := by
    have empty : cache.agents = [] := by
      unfold PreflightCache.new at created
      split at created <;> cases created
      rfl
    refine ⟨_, encodes.current_addAgents created, ?_⟩
    rw [agents_addAgents codec ordered empty]
    apply map_encodings_of
    intro info member
    obtain ⟨call, among, rfl⟩ := mem_survivors member
    exact encodes.agents call among
  once := survivors_once ordered
  evicted := by
    intro k call given gone
    rcases not_and_or.mp gone with replaced | expired
    · push Not at replaced
      obtain ⟨later, after, agent, space⟩ := replaced
      exact .inr ⟨later, after, space.symm, agent.symm⟩
    · push Not at expired
      exact .inl expired.2

def otherSpaceInfo : AgentInfoSigned := ⟨[1], [8], 20, "other space", []⟩

def renewedInfo : AgentInfoSigned := ⟨[1], [9], 200, "renewed", []⟩

/-- The renewal replaces the first info, the last call finds the other space's expired. -/
def renewal : List AddAgent := [⟨0, firstInfo⟩, ⟨5, otherSpaceInfo⟩, ⟨10, renewedInfo⟩, ⟨30, secondInfo⟩]

theorem preflight_contents_renewal : Contents numberedCodec renewal emptyCache :=
  preflight_contents numberedCodec renewal (by decide)
    ⟨fun call _ => ⟨call.info.encoded, rfl⟩, numberedCodec_lawful.message_encodes,
      numberedCodec_lawful.round_trip⟩ emptyCache rfl

example : survivors renewal = [renewedInfo, secondInfo] := by decide

end H2hcLinker.Preflight
