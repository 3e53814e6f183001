import H2hcLinker.ConnectionChannel
import H2hcLinker.Locking

/-! What can hold a handler up. No task waits for another: a handler, a cleanup, an admin call and a
signing request come to their end unless the browser's channel stays full. -/
namespace H2hcLinker.Gateway

def Section.rank : Section → Nat
  | .joinCheck _ => 9
  | .spaceLookup _ _ => 8
  | .spaceCreate _ _ => 7
  | .spaceStore _ _ => 6
  | .localAgentJoin _ => 5
  | .storeAgent _ => 0
  | .removeAgent _ => 5
  | .leaveSpace _ => 4
  | .localAgentLeave _ => 3
  | .cleanupCheck _ => 2
  | .cleanupRemove _ => 0

theorem Follows.rank_lt {g : GatewayKitsune} {act new : Section} (follows : Follows g act new) :
    new.rank < act.rank := by
  cases follows <;> simp [Section.rank]

end H2hcLinker.Gateway

namespace H2hcLinker.WebSocket

open HashTable Interleaving

variable {libs : Libraries} {s : System} {p : Running} {c : WsSender} {act new : Section}
  {input : Input}

/-- The section waits for room in the channel. -/
def Section.blockedOn : Section → Option WsSender
  | .reply c _ | .notify c _ | .signSend c _ _ _ => some c
  | _ => none

/-- A browser that does not read: the channel is there, and as full as it gets. -/
def Full (s : System) (c : WsSender) : Prop :=
  (s.conns c).receiverGone = false ∧ (s.conns c).queue.length = System.channelCapacity

/-- The section is not put back: there is room for what it sends, the environment picks an entry of
the agent that is asked to sign, and what a signing request waits for comes, or its time is over. -/
def Moving (s : System) (act : Section) (input : Input) : Prop :=
  (∀ c, act.blockedOn = some c → (s.conns c).receiverGone = true ∨ s.hasRoom c = true) ∧
  match act with
  | .signFind agent _ => (∃ key ∈ s.agentProxy.registrations.keys, key.2 = agent) →
      input.pick.2 = agent ∧ input.pick ∈ s.agentProxy.registrations
  | .signWait _ oneshot => ((s.oneshots[oneshot]?).bind Oneshot.value).isSome = true ∨
      s.cancelled oneshot = true ∨ input.timedOut = true
  | _ => True

/-- The signals that a frame has forwarded. -/
def Frame.signals : Frame → Nat
  | .text (.ok (.sendRemoteSignal _ signals)) => signals.length
  | _ => 0

def Section.rank : Section → Nat
  | .receive _ f => 100 + Frame.signals f
  | .isAgentAllowed _ _ | .peerCount _ | .register _ _ _ _ | .unregister _ _ _ _ => 30
  | .sessionLookup _ _ => 33
  | .sessionInsert _ _ _ => 32
  | .registerWsSender _ _ _ => 31
  | .signFind _ _ => 29
  | .signNumber _ _ _ => 28
  | .signStore _ _ _ _ => 27
  | .signSend _ _ _ _ => 26
  | .signWait _ _ => 25
  | .reply _ _ | .notify _ _ => 20
  | .remoteSignals _ signals => 40 + signals.length
  | .isRegistered _ _ => 15
  | .kitsune act => act.rank
  | .removeAgent _ => 1
  | _ => 0

theorem Cleans.rank_lt (cleans : Cleans c s new) : new.rank < 20 := by
  rcases cleans with rfl | ⟨key, _, rfl⟩ | rfl | rfl <;> simp [Section.rank, Gateway.Section.rank]

theorem Admitted.rank_lt {message : ClientMessage} {state : ConnectionState} {auth : Bool}
    (admitted : Admitted libs c message state auth new) :
    new.rank < 100 + Frame.signals (.text (.ok message)) := by
  cases new with
  | remoteSignals dna signals =>
    obtain ⟨⟨dnaText, rfl⟩, _⟩ := admitted
    simp only [Section.rank, Frame.signals]
    omega
  | isAgentAllowed | sessionLookup | peerCount | register | unregister | reply | deliverSignature =>
    simp only [Section.rank]
    omega
  | _ => cases admitted

/-- A section that sends, where it does not wait, is done or goes on with less. -/
theorem send_rank_lt {message : ServerMessage} {sent closed waiting : List Section} {bound : Nat}
    (moves : (s.conns c).receiverGone = true ∨ s.hasRoom c = true)
    (afterSent : ∀ new ∈ sent, new.rank < bound) (afterClosed : ∀ new ∈ closed, new.rank < bound) :
    ∀ new ∈ (send c message sent closed waiting s).2, new.rank < bound := by
  unfold send
  split
  next => exact afterClosed
  next present =>
    rw [if_pos (moves.resolve_left present)]
    exact afterSent

theorem reply_rank_lt {message : ServerMessage}
    (moves : (s.conns c).receiverGone = true ∨ s.hasRoom c = true) :
    ∀ new ∈ (reply c message s).2, new.rank < 20 := by
  unfold reply
  split
  next => exact fun new pushed => (mem_cleanup pushed).rank_lt
  next present =>
    rw [if_pos (moves.resolve_left present)]
    exact fun new pushed => (List.not_mem_nil pushed).elim

theorem signFind_rank_lt {agent : AgentPubKey} {agentInfo : String}
    (moves : Moving s (.signFind agent agentInfo) input) :
    ∀ new ∈ signFind agent agentInfo input.pick s, new.rank < 29 := by
  intro new pushed
  unfold signFind at pushed
  split at pushed
  next some =>
    obtain ⟨own, entered⟩ := moves.2 some
    obtain ⟨sender, routed⟩ := Option.isSome_iff_exists.mp (Finmap.lookup_isSome.mpr entered)
    simp only [routed, own, if_true] at pushed
    cases List.mem_singleton.mp pushed
    simp [Section.rank]
  next => cases pushed

theorem signWait_rank_lt {requestId : String} {oneshot : Nat}
    (moves : Moving s (.signWait requestId oneshot) input) :
    ∀ new ∈ signWait requestId oneshot input.timedOut s, new.rank < 25 := by
  intro new pushed
  unfold signWait at pushed
  split at pushed
  next result delivered =>
    cases List.mem_singleton.mp pushed
    simp [Section.rank]
  next undelivered =>
    split at pushed
    next =>
      cases List.mem_singleton.mp pushed
      simp [Section.rank]
    next kept =>
      split at pushed
      next =>
        cases List.mem_singleton.mp pushed
        simp [Section.rank]
      next waits =>
        rcases moves.2 with delivered | cancelled | elapsed
        · simp [undelivered] at delivered
        · exact absurd cancelled kept
        · exact absurd elapsed waits

theorem remoteSignals_rank_lt {dna : DnaHash} (signals : List SignedRemoteSignalInput) :
    ∀ new ∈ remoteSignals libs dna signals, new.rank < 40 + signals.length := by
  intro new pushed
  cases signals with
  | nil => cases pushed
  | cons signal rest =>
    simp only [remoteSignals] at pushed
    split at pushed
    next =>
      cases List.mem_singleton.mp pushed
      simp [Section.rank]
    next target =>
      simp only [List.mem_cons, List.not_mem_nil, or_false] at pushed
      rcases pushed with rfl | rfl
      · simp only [Section.rank]
        omega
      · simp [Section.rank]

/-- A section that moves leaves less to do. -/
theorem lowers (libs : Libraries) : (program libs).Lowers Moving Section.rank := by
  intro act input s moves new pushed
  have next := perform_next act input s new pushed
  cases act with
  | receive c f =>
    rcases next with ⟨message, rfl, _, admitted⟩ | ⟨message, rfl⟩ | ⟨rfl, cleans⟩
    · exact admitted.rank_lt
    · simp only [Section.rank]
      omega
    · exact Nat.lt_of_lt_of_le cleans.rank_lt (by simp [Section.rank, Frame.signals])
  | reply c message => exact reply_rank_lt (moves.1 c rfl) new pushed
  | notify c message => exact send_rank_lt (moves.1 c rfl) (by simp) (by simp) new pushed
  | signSend c requestId oneshot message =>
    exact send_rank_lt (moves.1 c rfl) (by simp [Section.rank]) (by simp [Section.rank]) new pushed
  | signFind agent agentInfo => exact signFind_rank_lt moves new pushed
  | signWait requestId oneshot => exact signWait_rank_lt moves new pushed
  | kitsune act =>
    obtain ⟨g, inner, _, follows, rfl⟩ := next
    exact (Gateway.perform_follows act input.ok g inner follows).rank_lt
  | remoteSignals dna signals => exact remoteSignals_rank_lt signals new pushed
  | isAgentAllowed c agent | peerCount c =>
    obtain ⟨message, rfl⟩ := next
    simp [Section.rank]
  | sessionLookup c agent =>
    rcases next with ⟨message, rfl⟩ | ⟨capabilities, _, rfl⟩ <;> simp [Section.rank]
  | register c key dnaText agentText =>
    rcases next with rfl | rfl | ⟨message, rfl⟩ <;> simp [Section.rank, Gateway.Section.rank]
  | unregister c key dnaText agentText =>
    rcases next with rfl | ⟨message, rfl⟩ <;> simp [Section.rank, Gateway.Section.rank]
  | isRegistered key signal =>
    rcases next with rfl | rfl <;> simp [Section.rank, Gateway.Section.rank]
  | signNumber agent agentInfo sender =>
    obtain ⟨id, rfl⟩ := next
    simp [Section.rank]
  | signStore agent agentInfo sender id =>
    obtain ⟨message, rfl⟩ := next
    simp [Section.rank]
  | sessionInsert c agent capabilities | registerWsSender c agent token | removeAgent agent =>
    cases next
    simp [Section.rank]
  | _ => cases next

/-- A section that waits for nothing but room. -/
theorem moving_of_blockedOn (blocked : act.blockedOn = some c)
    (moves : (s.conns c).receiverGone = true ∨ s.hasRoom c = true) (input : Input) :
    Moving s act input := by
  refine ⟨fun other same => ?_, ?_⟩
  · cases blocked.symm.trans same
    exact moves
  · cases act <;> trivial

/-- A section that waits for no room moves when the environment lets it. -/
theorem moving_of_unblocked (act : Section) (free : act.blockedOn = none) :
    ∃ input, Moving s act input := by
  have noRoom (input : Input) : ∀ c, act.blockedOn = some c →
      (s.conns c).receiverGone = true ∨ s.hasRoom c = true := by
    simp [free]
  cases act with
  | signFind agent agentInfo =>
    by_cases some : ∃ key ∈ s.agentProxy.registrations.keys, key.2 = agent
    · obtain ⟨key, entered, own⟩ := some
      exact ⟨{ sampleInput 0 with pick := key }, noRoom (sampleInput 0),
        fun _ => ⟨own, Finmap.mem_keys.mp entered⟩⟩
    · exact ⟨sampleInput 0, noRoom (sampleInput 0), fun there => absurd there some⟩
  | signWait requestId oneshot =>
    exact ⟨{ sampleInput 0 with timedOut := true }, noRoom (sampleInput 0), .inr (.inr rfl)⟩
  | reply | notify | signSend => cases free
  | _ => exact ⟨sampleInput 0, noRoom (sampleInput 0), trivial⟩

/-- A section that cannot move waits for a browser that does not read. -/
theorem moving_or_full (act : Section)
    (bounded : ∀ c, (s.conns c).queue.length ≤ System.channelCapacity) :
    (∃ input, Moving s act input) ∨ ∃ c, act.blockedOn = some c ∧ Full s c := by
  cases waits : act.blockedOn with
  | none => exact .inl (moving_of_unblocked act waits)
  | some c =>
    by_cases moves : (s.conns c).receiverGone = true ∨ s.hasRoom c = true
    · exact .inl ⟨sampleInput 0, moving_of_blockedOn waits moves _⟩
    · refine .inr ⟨c, rfl, ?_⟩
      obtain ⟨present, full⟩ := not_or.mp moves
      have most := bounded c
      simp only [System.hasRoom, decide_eq_true_eq, not_lt] at full
      exact ⟨by simpa using present, Nat.le_antisymm most full⟩

/-- One message read makes room. -/
theorem Full.forward (full : Full s c) (libs : Libraries) (input : Input) :
    (perform libs (.forward c) input s).1.hasRoom c = true := by
  obtain ⟨present, length⟩ := full
  simp [perform, present, System.hasRoom, length, System.channelCapacity]

/-- Whatever else runs, every task comes to its end in finitely many moves, and one that cannot move
waits for a browser with a full channel, which the next message read lets go on. -/
theorem handlers_progress (libs : Libraries) (kitsune auth : Bool)
    (schedule : List (Event Task Request Input)) :
    let p := (program libs).execute schedule (.start (.start kitsune auth))
    Acc ((program libs).Moves Moving) p ∧ ∀ t act rest, p.tasks t = act :: rest →
      (∃ input, (program libs).Moves Moving ((program libs).advance (.turn t input) p) p) ∨
      ∃ c, act.blockedOn = some c ∧ Full p.shared c ∧
        ∀ read input, Moving (perform libs (.forward c) read p.shared).1 act input := by
  intro p
  refine ⟨acc_moves (lowers libs) _ schedule, fun t act rest running => ?_⟩
  have bounded : ∀ c, (p.shared.conns c).queue.length ≤ System.channelCapacity :=
    fun c => (delivers_execute libs kitsune auth schedule c).bound
  rcases moving_or_full act bounded with ⟨input, moves⟩ | ⟨c, waits, full⟩
  · exact .inl ⟨input, t, input, act, rest, running, moves, rfl⟩
  · exact .inr ⟨c, waits, full, fun read input =>
      moving_of_blockedOn waits (.inr (full.forward libs read)) input⟩

end H2hcLinker.WebSocket
