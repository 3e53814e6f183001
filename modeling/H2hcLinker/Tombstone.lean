import H2hcLinker.ConnectionChannel
import H2hcLinker.RegisteredJoined

/-! Who can sign the tombstone of a leaving agent. The pair leaves the routing table before the
gateway leaves the space, and the loop that leaves reads no answer meanwhile. -/
namespace H2hcLinker.WebSocket

open HashTable Interleaving Past

variable {libs : Libraries} {s : System} {p : Running} {act : Section} {rest : List Section}
  {input : Input} {t : Task} {c : WsSender} {key : AgentRegistration} {agent : AgentPubKey}

/-- The loop of the connection runs and its channel takes messages. -/
def Live (s : System) (c : WsSender) : Prop :=
  (s.conns c).phase = .open ∧ (s.conns c).receiverGone = false

/-- `find_sender_for_agent` yields the channel if iteration meets the right entry first. -/
def Finds (s : System) (agent : AgentPubKey) (sender : WsSender) : Prop :=
  ∃ agentInfo pick, signFind agent agentInfo pick s = [.signNumber agent agentInfo sender]

theorem finds_iff {sender : WsSender} : Finds s agent sender ↔
    ∃ dna, s.agentProxy.registrations.lookup (dna, agent) = some sender := by
  constructor
  · rintro ⟨agentInfo, pick, found⟩
    unfold signFind at found
    split at found
    next =>
      split at found
      next c' routed =>
        split at found
        next own =>
          obtain ⟨dna, agent'⟩ := pick
          cases own
          cases found
          exact ⟨dna, routed⟩
        next => simp at found
      next => simp at found
    next => cases found
  · rintro ⟨dna, routed⟩
    have registered : ∃ key ∈ s.agentProxy.registrations.keys, key.2 = agent :=
      ⟨(dna, agent), Finmap.mem_keys.mpr (Finmap.mem_iff.mpr ⟨sender, routed⟩), rfl⟩
    exact ⟨"", (dna, agent), by simp [signFind, registered, routed]⟩

/-- A signer is found for the agent, and whichever is found can answer while `c` waits. -/
structure Signable (s : System) (c : WsSender) (agent : AgentPubKey) : Prop where
  found : ∃ sender, Finds s agent sender
  answers : ∀ sender, Finds s agent sender → sender ≠ c ∧ Live s sender

/-- The event gives the pair another entry or none, or clears what leads to the connection. -/
def Displaces (c : WsSender) (key : AgentRegistration) : Section → Prop
  | .register _ k _ _ | .unregister _ k _ _ => k = key
  | .unregisterAll c' => c' = c
  | _ => False

/-- The last that happened to the pair is that the connection registered it, and the connection was
not torn down since. -/
def Entered (c : WsSender) (key : AgentRegistration) : List Instant → Prop :=
  Since (fun m => ¬Displaces c key m.act) fun _ m => Registering c key m.act

def Connected (c : WsSender) : List Instant → Prop := Once fun _ m => m.act = .connect c

/-- The browser closes the connection, or its send task ends. -/
def Quits (c : WsSender) (act : Section) : Prop := act = .receive c .close ∨ act = .dropReceiver c

/-- The connection was opened, and neither side has quit since. -/
def Up (c : WsSender) : List Instant → Prop :=
  Since (fun m => ¬Quits c m.act) fun before m => m.act = .connect c ∧ ¬Connected c before

/-- Some pair of the agent was last registered by another connection, none by the leaving one, and
each connection that was the last to register one is still up. -/
structure SignedElsewhere (past : List Instant) (c : WsSender) (agent : AgentPubKey) : Prop where
  other : ∃ dna c', c' ≠ c ∧ Entered c' (dna, agent) past
  own : ∀ dna, ¬Entered c (dna, agent) past
  up : ∀ dna c', Entered c' (dna, agent) past → Up c' past

theorem lookup_registrationsAfter_iff {registrations : Table AgentRegistration WsSender} :
    (registrationsAfter act registrations).lookup key = some c ↔
      Registering c key act ∨ registrations.lookup key = some c ∧ ¬Displaces c key act := by
  cases act with
  | register c' k dnaText agentText =>
    rw [registrationsAfter, lookup_insert_eq]
    by_cases same : k = key
    · simp [Registering, Displaces, same]
    · simp [Registering, Displaces, same, Ne.symm same]
  | unregister c' k dnaText agentText =>
    rw [registrationsAfter, lookup_erase_eq]
    by_cases same : k = key
    · simp [Registering, Displaces, same]
    · simp [Registering, Displaces, same, Ne.symm same]
  | unregisterAll c' =>
    rw [registrationsAfter, lookup_retain, Option.filter_eq_some_iff]
    by_cases same : c' = c
    · simp [Registering, Displaces, same]
    · simp [Registering, Displaces, same, Ne.symm same]
  | _ => simp [registrationsAfter, Registering, Displaces]

theorem perform_absent (absent : (s.conns c).phase = .absent) (unconcerned : ¬Concerns c act)
    (input : Input) (other : act ≠ .connect c) :
    ((perform libs act input s).1.conns c).phase = .absent := by
  by_cases receives : ∃ f, act = .receive c f
  · obtain ⟨f, rfl⟩ := receives
    simp [perform, receive, absent]
  · have step := perform_connStep libs act input s c
    generalize (perform libs act input s).1.conns c = conn at step ⊢
    cases step with
    | opened fresh => exact absurd rfl other
    | ended act ends =>
      rcases ends with rfl | ⟨message, rfl⟩
      · exact absurd ⟨_, rfl⟩ receives
      · exact absurd rfl unconcerned
    | closed => exact absurd rfl unconcerned
    | _ => exact absent

/-- A connection answers from its opening until its browser or its send task quits. -/
theorem live_perform_iff (act : Section) (input : Input)
    (closing : act = .close c → Ended (s.conns c)) :
    Live (perform libs act input s).1 c ↔
      (act = .connect c ∧ (s.conns c).phase = .absent) ∨ Live s c ∧ ¬Quits c act := by
  by_cases quits : Quits c act
  · rcases quits with rfl | rfl
    · by_cases opened : (s.conns c).phase = .open
      · simp [Live, Quits, perform, receive, opened, beginCleanup]
      · simp [Live, Quits, perform, receive, opened]
    · simp [Live, Quits, perform]
  by_cases replies : ∃ message, act = .reply c message
  · obtain ⟨message, rfl⟩ := replies
    by_cases gone : (s.conns c).receiverGone = true
    · simp [Live, perform, reply, gone, beginCleanup]
    · simp only [Live, perform, reply, if_neg gone]
      split <;> simp [System.enqueue, Quits]
  have step := perform_connStep libs act input s c
  unfold Live
  generalize (perform libs act input s).1.conns c = conn at step ⊢
  cases step with
  | kept act spares =>
    have opened : ¬(act = .connect c ∧ (s.conns c).phase = .absent) := by
      rintro ⟨rfl, fresh⟩
      exact spares rfl fresh
    simp [opened, quits]
  | opened fresh => simp [fresh]
  | handled message state next opened handled => simp [Quits]
  | challenged agent allowed => simp [Quits]
  | authenticated agent token => simp [Quits]
  | ended act ends =>
    rcases ends with rfl | reply
    · exact absurd (.inl rfl) quits
    · exact absurd reply replies
  | queued act sends message =>
    have other : act ≠ .connect c := by
      rintro rfl
      exact sends
    simp [other, quits]
  | closed =>
    rcases closing rfl with phase | phase <;> simp [phase]
  | forwarded => simp [Quits]
  | dropped => exact absurd (.inr rfl) quits

/-- What the history says of the connections and of the routing table. -/
structure Recounted (past : List Instant) (p : Running) : Prop where
  absent : ∀ c, (p.shared.conns c).phase = .absent ↔ ¬Connected c past
  live : ∀ c, Live p.shared c ↔ Up c past
  entered : ∀ key c, p.shared.agentProxy.registrations.lookup key = some c ↔ Entered c key past

theorem recounted_start (kitsune auth : Bool) : Recounted [] (.start (.start kitsune auth)) where
  absent c := iff_of_true rfl not_once_nil
  live c := iff_of_false (by simp [Live, Pool.start, System.start, Connection.absent]) not_since_nil
  entered key c := iff_of_false
    (by simp [Pool.start, System.start, AgentProxyManager.new]) not_since_nil

theorem recounted_turn {past : List Instant} (running : p.tasks t = act :: rest)
    (orderly : Orderly p) (unopened : Unopened p) (inv : Recounted past p) :
    Recounted (past ++ [⟨p, t, act, input⟩]) ⟨(perform libs act input p.shared).1,
      Function.update p.tasks t ((perform libs act input p.shared).2 ++ rest)⟩ := by
  have head : act ∈ p.tasks t := by simp [running]
  constructor
  · intro c
    rw [Connected, once_snoc, not_or, ← Connected, ← inv.absent c]
    constructor
    · intro absent
      have before : (p.shared.conns c).phase = .absent := by
        by_contra present
        exact perform_not_absent act input present absent
      refine ⟨before, ?_⟩
      rintro rfl
      simp [perform, before] at absent
    · rintro ⟨absent, other⟩
      exact perform_absent absent ((unopened c absent).2 t act head) input other
  · intro c
    have closing : act = .close c → Ended (p.shared.conns c) := by
      rintro rfl
      exact orderly.ending t c _ head rfl
    rw [Up, since_snoc, ← Up, ← inv.live c, ← inv.absent c]
    exact live_perform_iff act input closing
  · intro key c
    rw [Entered, since_snoc, ← Entered, ← inv.entered key c]
    change (perform libs act input p.shared).1.agentProxy.registrations.lookup key = some c ↔ _
    rw [perform_registrations]
    exact lookup_registrationsAfter_iff

theorem recounted_execute (kitsune auth : Bool) (schedule : List (Event Task Request Input)) :
    Recounted ((program libs).moments schedule (.start (.start kitsune auth)))
      ((program libs).execute schedule (.start (.start kitsune auth))) := by
  apply execute_moments Recounted (fun p _ _ _ => Orderly p ∧ Unopened p) _ _ schedule []
  · exact guarded_of_execute _ (fun p => Orderly p ∧ Unopened p) schedule _
      fun before _ => ⟨orderly_execute kitsune auth before, unopened_execute kitsune auth before⟩
  · exact recounted_start kitsune auth
  · intro past t request p _ inv
    exact ⟨inv.absent, inv.live, inv.entered⟩
  · intro past t input act rest p running known inv
    exact recounted_turn running known.1 known.2 inv

theorem Recounted.signable_iff {past : List Instant} (recounted : Recounted past p)
    (c : WsSender) (agent : AgentPubKey) :
    Signable p.shared c agent ↔ SignedElsewhere past c agent := by
  have finds (sender : WsSender) :
      Finds p.shared agent sender ↔ ∃ dna, Entered sender (dna, agent) past := by
    simp only [finds_iff, recounted.entered]
  constructor
  · intro signable
    have answers {dna : DnaHash} {c' : WsSender} (entered : Entered c' (dna, agent) past) :
        c' ≠ c ∧ Live p.shared c' := signable.answers c' ((finds c').mpr ⟨dna, entered⟩)
    obtain ⟨sender, found⟩ := signable.found
    obtain ⟨dna, entered⟩ := (finds sender).mp found
    refine ⟨⟨dna, sender, (answers entered).1, entered⟩, ?_, ?_⟩
    · exact fun dna entered => (answers entered).1 rfl
    · exact fun dna c' entered => (recounted.live c').mp (answers entered).2
  · intro elsewhere
    obtain ⟨dna, c', _, entered⟩ := elsewhere.other
    refine ⟨⟨c', (finds c').mpr ⟨dna, entered⟩⟩, ?_⟩
    intro sender found
    obtain ⟨dna', entered'⟩ := (finds sender).mp found
    refine ⟨?_, (recounted.live sender).mpr (elsewhere.up dna' sender entered')⟩
    rintro rfl
    exact elsewhere.own dna' entered'

/-- Whenever a leave is about to leave the space, a signer that can answer is found exactly if the
agent's pairs were last registered elsewhere, and whoever registered them is still up. -/
theorem tombstone_signable_iff (libs : Libraries) (kitsune auth : Bool)
    (schedule : List (Event Task Request Input)) (t : Task) (key : AgentRegistration)
    (rest : List Section)
    (leaving : ((program libs).execute schedule (.start (.start kitsune auth))).tasks t =
      .kitsune (.localAgentLeave key) :: rest) :
    ∃ c, t = .conn c ∧
      (Signable ((program libs).execute schedule (.start (.start kitsune auth))).shared c key.2 ↔
        SignedElsewhere ((program libs).moments schedule (.start (.start kitsune auth))) c key.2) := by
  have holding := tasks_belong libs kitsune auth schedule
  rcases holding t _ (by rw [leaving]; exact List.mem_cons_self) with ⟨c, rfl⟩ | ⟨_, other⟩
  · exact ⟨c, rfl, (recounted_execute kitsune auth schedule).signable_iff c key.2⟩
  · cases other

/-- Two browsers register Alice; the older closes, and its cleanup comes to leave the space. -/
def olderLeaves : List (Event Task Request Input) :=
  registerAlice 0 ++ connects 1 ++ frames 1 (.text (.ok (.auth aliceText))) 2 ++
    frames 1 (.text (.ok (.register sampleDnaText aliceText))) 4 ++ frames 0 .close 4

theorem tombstone_signable_olderLeaves : ∃ c, Task.conn 0 = .conn c ∧
    (Signable ((program sampleLibraries).execute olderLeaves (.start (.start true false))).shared c
        alice ↔
      SignedElsewhere ((program sampleLibraries).moments olderLeaves (.start (.start true false))) c
        alice) :=
  tombstone_signable_iff sampleLibraries true false olderLeaves (.conn 0) aliceKey
    [.unregisterWsSender 0, .close 0] rfl

/-- Alice's only connection unregisters her, and its handler comes to leave the space. -/
def aliceLeaves : List (Event Task Request Input) :=
  registerAlice 0 ++ frames 0 (.text (.ok (.unregister sampleDnaText aliceText))) 4

theorem tombstone_unsignable_aliceLeaves :
    ¬∀ (libs : Libraries) (kitsune auth : Bool) (schedule : List (Event Task Request Input)) (t : Task)
      (key : AgentRegistration) (rest : List Section),
      ((program libs).execute schedule (.start (.start kitsune auth))).tasks t =
        .kitsune (.localAgentLeave key) :: rest →
      ∃ c, t = .conn c ∧
        Signable ((program libs).execute schedule (.start (.start kitsune auth))).shared c key.2 := by
  intro always
  obtain ⟨c, _, signable⟩ := always sampleLibraries true false aliceLeaves (.conn 0) aliceKey
    [.reply 0 (.unregistered sampleDnaText aliceText)] rfl
  obtain ⟨sender, finds⟩ := signable.found
  obtain ⟨dna, routed⟩ := finds_iff.mp finds
  have none : ((program sampleLibraries).execute aliceLeaves
      (.start (.start true false))).shared.agentProxy.registrations = ∅ := by
    decide
  rw [none] at routed
  cases routed

end H2hcLinker.WebSocket
