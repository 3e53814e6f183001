import H2hcLinker.DhtTypes
import H2hcLinker.RemoteSignals

/-! The two ways of a signal to a browser: directly, or through the network and `recv_notify`. -/
namespace H2hcLinker.RemoteSignals

open WebSocket

structure SpaceId where
  raw : List UInt8
  deriving DecidableEq

/-- The wire library's batches, and the conversions between DNA hashes and space ids. -/
structure WireLibrary where
  encodeBatch : List WireMessage → Except String (List UInt8)
  decodeBatch : List UInt8 → Except String (List WireMessage)
  toK2Space : DnaHash → SpaceId
  fromK2Space : SpaceId → DnaHash

structure WireLibrary.Inverts (wire : WireLibrary) : Prop where
  batch : ∀ messages data, wire.encodeBatch messages = .ok data → wire.decodeBatch data = .ok messages
  space : ∀ dna, wire.fromK2Space (wire.toK2Space dna) = dna

abbrev SignalTask := AgentRegistration × ServerMessage

variable (libs : Libraries) (wire : WireLibrary)

/-- `handle_wire_message`: the task that it spawns for a signal. -/
def handleWireMessage (spaceId : SpaceId) : WireMessage → Option SignalTask
  | .remoteSignalEvt toAgent zomeCallParams _ =>
    let dna := wire.fromK2Space spaceId
    some ((dna, toAgent),
      .signal (libs.codec.dnaToStr dna) (libs.codec.agentToStr toAgent) "remote" "recv_remote_signal"
        (libs.base64Encode zomeCallParams))
  | .other _ => none

/-- The tasks that `recv_notify` spawns for the signals of a batch. -/
def recvNotify (spaceId : SpaceId) (data : List UInt8) : List SignalTask :=
  match wire.decodeBatch data with
  | .ok messages => messages.filterMap (handleWireMessage libs wire spaceId)
  | .error _ => []

/-- Whether `send_signal` for the pair returns true. -/
def accepts (key : AgentRegistration) (s : System) : Bool :=
  match s.agentProxy.registrations.lookup key with
  | none => false
  | some c => ¬(s.conns c).receiverGone ∧ s.hasRoom c

/-- What reaches an agent's channel when the tasks run in this order. -/
def deliveries : List SignalTask → System → List (AgentPubKey × ServerMessage)
  | [], _ => []
  | task :: rest, s =>
    (if accepts task.1 s then [(task.1.2, task.2)] else []) ++
      deliveries rest (s.sendSignal task.1 task.2)

/-- The outcomes of the loop's calls on the agent proxy, with nothing else touching it meanwhile;
`net` has what kitsune2 does. -/
def proxyTurns (dna : DnaHash) (net : SignedRemoteSignalInput → Turn) :
    List SignedRemoteSignalInput → System → List (SignedRemoteSignalInput × Turn)
  | [], _ => []
  | signal :: rest, s =>
    match libs.codec.agentOfRaw39 signal.targetAgent with
    | none => (signal, net signal) :: proxyTurns dna net rest s
    | some target =>
      let registered := s.agentProxy.isRegistered (dna, target)
      (signal, { net signal with registered, delivered := accepts (dna, target) s }) ::
        proxyTurns dna net rest
          (if registered then
            s.sendSignal (dna, target) (directMessage libs dna target signal.zomeCallParams)
          else s)

def Fate.direct? : Fate → Option (AgentPubKey × ServerMessage)
  | .direct target message true => some (target, message)
  | _ => none

def directDeliveries (dna : DnaHash) (net : SignedRemoteSignalInput → Turn)
    (signals : List SignedRemoteSignalInput) (s : System) : List (AgentPubKey × ServerMessage) :=
  (sendRemoteSignals libs dna (proxyTurns libs dna net signals s)).fates.filterMap (·.2.direct?)

def signalKey (dna : DnaHash) (signal : SignedRemoteSignalInput) : Option AgentRegistration :=
  (libs.codec.agentOfRaw39 signal.targetAgent).map (dna, ·)

/-- The direct route as a task of the network route. -/
def signalTask (dna : DnaHash) (signal : SignedRemoteSignalInput) : Option SignalTask :=
  (libs.codec.agentOfRaw39 signal.targetAgent).map fun target =>
    ((dna, target), directMessage libs dna target signal.zomeCallParams)

def signalEvt (signature : SignedRemoteSignalInput → Signature) (signal : SignedRemoteSignalInput) :
    Option WireMessage :=
  (libs.codec.agentOfRaw39 signal.targetAgent).map fun target =>
    .remoteSignalEvt target signal.zomeCallParams (signature signal)

/-- Each pair leads to an open channel with room for a signal to every pair that leads there. -/
def Room (s : System) (keys : List AgentRegistration) : Prop :=
  ∀ key ∈ keys, ∃ c, s.agentProxy.registrations.lookup key = some c ∧
    (s.conns c).receiverGone = false ∧
    (s.conns c).queue.length +
      keys.countP (s.agentProxy.registrations.lookup · = some c) ≤ System.channelCapacity

variable {libs wire} {s : System} {dna : DnaHash} {key : AgentRegistration}
  {keys : List AgentRegistration}

theorem sendSignal_agentProxy (key : AgentRegistration) (message : ServerMessage) (s : System) :
    (s.sendSignal key message).agentProxy = s.agentProxy := by
  unfold System.sendSignal System.trySend
  split
  · rfl
  · split <;> rfl

theorem accepts_iff (key : AgentRegistration) (s : System) :
    accepts key s = true ↔ ∃ c, s.agentProxy.registrations.lookup key = some c ∧
      (s.conns c).receiverGone = false ∧ (s.conns c).queue.length < System.channelCapacity := by
  unfold accepts
  split
  next none => simp [none]
  next c found => simp [found, System.hasRoom]

/-- An accepted message is appended to the queue that its pair leads to. -/
theorem sendSignal_of_accepts (accepted : accepts key s = true) (message : ServerMessage) :
    ∃ c, s.agentProxy.registrations.lookup key = some c ∧
      s.sendSignal key message = s.enqueue c message := by
  obtain ⟨c, found, open', free⟩ := (accepts_iff key s).mp accepted
  refine ⟨c, found, ?_⟩
  simp [System.sendSignal, found, System.trySend, open', System.hasRoom, free]

theorem sendSignal_of_not_accepts (refused : ¬accepts key s = true) (message : ServerMessage) :
    s.sendSignal key message = s := by
  unfold System.sendSignal
  split
  next => rfl
  next c found =>
    rw [System.trySend, if_neg]
    rintro ⟨open', free⟩
    have accepted : accepts key s = true := by
      simp [accepts, found, open', free]
    exact refused accepted

/-- The tasks whose `send_signal` returns true, when they run in this order. -/
def acceptedTasks : List SignalTask → System → List SignalTask
  | [], _ => []
  | task :: rest, s =>
    (if accepts task.1 s then [task] else []) ++ acceptedTasks rest (s.sendSignal task.1 task.2)

theorem deliveries_eq_accepted (tasks : List SignalTask) (s : System) :
    deliveries tasks s = (acceptedTasks tasks s).map fun task => (task.1.2, task.2) := by
  induction tasks generalizing s with
  | nil => rfl
  | cons task rest ih =>
    rw [deliveries, acceptedTasks, List.map_append, ih]
    split <;> rfl

/-- Each channel holds afterwards what it held and the deliveries of the pairs that lead to it. -/
theorem queue_after_tasks (tasks : List SignalTask) (s : System) (c : WsSender) :
    ((tasks.foldl (fun s task => s.sendSignal task.1 task.2) s).conns c).queue =
      (s.conns c).queue ++ ((acceptedTasks tasks s).filter fun task =>
        s.agentProxy.registrations.lookup task.1 = some c).map Prod.snd := by
  induction tasks generalizing s with
  | nil => simp [acceptedTasks]
  | cons task rest ih =>
    rw [List.foldl_cons, ih, sendSignal_agentProxy, acceptedTasks, List.filter_append, List.map_append,
      ← List.append_assoc]
    congr 1
    by_cases accepted : accepts task.1 s = true
    · obtain ⟨d, found, sent⟩ := sendSignal_of_accepts accepted task.2
      rw [sent, if_pos accepted]
      by_cases here : c = d
      · subst here
        simp [System.enqueue, System.updateConn, found]
      · simp [System.enqueue, System.updateConn, found, here, Ne.symm here]
    · rw [sendSignal_of_not_accepts accepted, if_neg accepted]
      simp

theorem Room.perm {others : List AgentRegistration} (room : Room s keys) (same : keys.Perm others) :
    Room s others := by
  intro key member
  obtain ⟨c, found, open', fits⟩ := room key (same.mem_iff.mpr member)
  exact ⟨c, found, open', by rwa [← same.countP_eq]⟩

theorem Room.accepts (room : Room s (key :: keys)) : accepts key s = true := by
  obtain ⟨c, found, open', fits⟩ := room key List.mem_cons_self
  rw [List.countP_cons_of_pos (by simpa using found)] at fits
  exact (accepts_iff key s).mpr ⟨c, found, open', by omega⟩

theorem Room.tail (room : Room s (key :: keys)) (message : ServerMessage) :
    Room (s.sendSignal key message) keys := by
  obtain ⟨c, found, open', fits⟩ := room key List.mem_cons_self
  have sent : s.sendSignal key message = s.enqueue c message := by
    obtain ⟨d, there, sent⟩ := sendSignal_of_accepts room.accepts message
    obtain rfl := Option.some.inj (found.symm.trans there)
    exact sent
  intro other member
  obtain ⟨d, there, open'', fits'⟩ := room other (List.mem_cons_of_mem _ member)
  have kept : (s.enqueue c message).agentProxy = s.agentProxy := rfl
  rw [sent, kept]
  refine ⟨d, there, ?_⟩
  by_cases same : d = c
  · subst same
    rw [List.countP_cons_of_pos (by simpa using found)] at fits'
    simp only [System.enqueue, System.updateConn, Function.update_self, List.length_append,
      List.length_singleton]
    exact ⟨open'', by omega⟩
  · have apart : ¬s.agentProxy.registrations.lookup key = some d := fun leads =>
      same (Option.some.inj (leads.symm.trans found))
    rw [List.countP_cons_of_neg (by simpa using apart)] at fits'
    simp only [System.enqueue, System.updateConn, Function.update_of_ne same]
    exact ⟨open'', fits'⟩

theorem deliveries_eq {tasks : List SignalTask} (room : Room s (tasks.map Prod.fst)) :
    deliveries tasks s = tasks.map fun task => (task.1.2, task.2) := by
  induction tasks generalizing s with
  | nil => rfl
  | cons task rest ih =>
    rw [List.map_cons] at room
    rw [deliveries, if_pos room.accepts, ih (room.tail task.2)]
    rfl

theorem directDeliveries_eq (net : SignedRemoteSignalInput → Turn)
    (signals : List SignedRemoteSignalInput)
    (valid : ∀ signal ∈ signals, (signalKey libs dna signal).isSome)
    (registered : ∀ key ∈ signals.filterMap (signalKey libs dna),
      s.agentProxy.isRegistered key = true) :
    directDeliveries libs dna net signals s =
      deliveries (signals.filterMap (signalTask libs dna)) s := by
  unfold directDeliveries
  rw [sendRemoteSignals_fates]
  induction signals generalizing s with
  | nil => rfl
  | cons signal rest ih =>
    obtain ⟨target, read⟩ : ∃ target, libs.codec.agentOfRaw39 signal.targetAgent = some target := by
      simpa [signalKey, Option.isSome_iff_exists] using valid signal List.mem_cons_self
    have here : signalKey libs dna signal = some (dna, target) := by simp [signalKey, read]
    rw [List.filterMap_cons_some here] at registered
    have known := registered _ List.mem_cons_self
    have later := @ih (s.sendSignal (dna, target) (directMessage libs dna target signal.zomeCallParams))
      (fun signal member => valid signal (List.mem_cons_of_mem _ member)) (by
        intro key member
        rw [sendSignal_agentProxy]
        exact registered key (List.mem_cons_of_mem _ member))
    have task : signalTask libs dna signal =
        some ((dna, target), directMessage libs dna target signal.zomeCallParams) := by
      simp [signalTask, read]
    rw [List.filterMap_cons_some task, deliveries, ← later]
    simp only [proxyTurns, read, known, if_true, List.map_cons, List.filterMap_cons,
      sendRemoteSignal, Fate.direct?]
    cases accepts (dna, target) s <;> rfl

theorem handleWireMessage_signalEvt (inverts : wire.Inverts)
    (signature : SignedRemoteSignalInput → Signature) (signal : SignedRemoteSignalInput) :
    (signalEvt libs signature signal).bind (handleWireMessage libs wire (wire.toK2Space dna)) =
      signalTask libs dna signal := by
  unfold signalEvt signalTask
  cases libs.codec.agentOfRaw39 signal.targetAgent with
  | none => rfl
  | some target =>
    simp only [Option.map_some, Option.bind_some, handleWireMessage, inverts.space]
    rfl

theorem recvNotify_batches (inverts : wire.Inverts) (signature : SignedRemoteSignalInput → Signature)
    {batches : List (List SignedRemoteSignalInput)} {datas : List (List UInt8)}
    (encoded : List.Forall₂ (fun batch data =>
      wire.encodeBatch (batch.filterMap (signalEvt libs signature)) = .ok data) batches datas) :
    datas.flatMap (recvNotify libs wire (wire.toK2Space dna)) =
      batches.flatten.filterMap (signalTask libs dna) := by
  induction encoded with
  | nil => rfl
  | cons head _ ih =>
    rw [List.flatMap_cons, ih, List.flatten_cons, List.filterMap_append]
    congr 1
    rw [recvNotify, inverts.batch _ _ head]
    dsimp only
    rw [List.filterMap_filterMap]
    exact List.filterMap_congr fun signal _ => handleWireMessage_signalEvt inverts signature signal

theorem signalTask_keys (signals : List SignedRemoteSignalInput) :
    (signals.filterMap (signalTask libs dna)).map Prod.fst =
      signals.filterMap (signalKey libs dna) := by
  rw [List.map_filterMap]
  apply List.filterMap_congr
  intro signal _
  unfold signalTask signalKey
  rw [Option.map_map]
  rfl

/-- For signals whose targets are registered, with room for them: the loop delivers what any
batching of them delivers that comes in from the network, whatever order the spawned tasks run in. -/
theorem direct_delivers_as_network (libs : Libraries) (wire : WireLibrary) (inverts : wire.Inverts)
    (dna : DnaHash) (s : System) (net : SignedRemoteSignalInput → Turn)
    (signature : SignedRemoteSignalInput → Signature) (signals : List SignedRemoteSignalInput)
    (valid : ∀ signal ∈ signals, (signalKey libs dna signal).isSome)
    (room : Room s (signals.filterMap (signalKey libs dna)))
    (batches : List (List SignedRemoteSignalInput)) (batched : batches.flatten.Perm signals)
    (datas : List (List UInt8)) (encoded : List.Forall₂ (fun batch data =>
      wire.encodeBatch (batch.filterMap (signalEvt libs signature)) = .ok data) batches datas)
    (order : List SignalTask)
    (spawned : order.Perm (datas.flatMap (recvNotify libs wire (wire.toK2Space dna)))) :
    (directDeliveries libs dna net signals s : Multiset (AgentPubKey × ServerMessage)) =
      deliveries order s := by
  have registered : ∀ key ∈ signals.filterMap (signalKey libs dna),
      s.agentProxy.isRegistered key = true := by
    intro key member
    obtain ⟨c, found, _⟩ := room key member
    exact decide_eq_true (Finmap.mem_of_lookup_eq_some found)
  rw [recvNotify_batches inverts signature encoded] at spawned
  have tasks : order.Perm (signals.filterMap (signalTask libs dna)) :=
    spawned.trans (batched.filterMap _)
  rw [← signalTask_keys] at room
  have network : Room s (order.map Prod.fst) := room.perm (tasks.symm.map Prod.fst)
  rw [directDeliveries_eq net signals valid registered, deliveries_eq room, deliveries_eq network]
  exact Multiset.coe_eq_coe.mpr (tasks.symm.map _)

instance : Encodable Signature :=
  Encodable.ofLeftInjection Signature.bytes Signature.tryFrom fun signature => by
    simp [Signature.tryFrom, signature.size]

deriving instance Encodable for WireMessage

/-- Batches by their numbering; a space id has the bytes of its DNA. -/
def numberedWire : WireLibrary where
  encodeBatch messages := .ok (Numbering.toBytes messages)
  decodeBatch data :=
    match Numbering.ofBytes data with
    | some messages => .ok messages
    | none => .error "InvalidMarkerRead"
  toK2Space dna := ⟨dna.raw⟩
  fromK2Space space := ⟨space.raw⟩

theorem numberedWire_inverts : numberedWire.Inverts where
  batch messages data encoded := by
    cases encoded
    simp [numberedWire, Numbering.ofBytes_toBytes]
  space _ := rfl

def aliceRegistered : System :=
  { System.start true false with
    agentProxy := AgentProxyManager.new.register (sampleDna, alice) 0
    conns := fun _ => ⟨.open, .default, [], false⟩ }

theorem room_aliceRegistered (count : Nat) (fits : count ≤ System.channelCapacity) :
    Room aliceRegistered (List.replicate count (sampleDna, alice)) := by
  intro key member
  obtain rfl := List.eq_of_mem_replicate member
  refine ⟨0, Finmap.lookup_insert _, rfl, ?_⟩
  exact (Nat.zero_add _).trans_le (List.countP_le_length.trans (by simpa using fits))

/-- Two signals directly, and one after the other in reverse order from the network. -/
theorem direct_delivers_as_network_aliceRegistered :
    let first : SignedRemoteSignalInput := ⟨alice.raw, [1], []⟩
    let second : SignedRemoteSignalInput := ⟨alice.raw, [2], []⟩
    let evts := fun signal => [signal].filterMap (signalEvt sampleLibraries fun _ => .zero)
    (directDeliveries sampleLibraries sampleDna (fun _ => reachedTurn) [first, second]
        aliceRegistered : Multiset (AgentPubKey × ServerMessage)) =
      deliveries ([Numbering.toBytes (evts second), Numbering.toBytes (evts first)].flatMap
        (recvNotify sampleLibraries numberedWire ⟨sampleDna.raw⟩)) aliceRegistered := by
  intro first second evts
  refine direct_delivers_as_network sampleLibraries numberedWire numberedWire_inverts sampleDna
    aliceRegistered (fun _ => reachedTurn) (fun _ => .zero) [first, second] ?_
    (room_aliceRegistered 2 (by decide)) [[second], [first]] (.swap first second [])
    _ (.cons rfl (.cons rfl .nil)) _ (.refl _)
  intro signal member
  rcases List.mem_cons.mp member with rfl | last
  · rfl
  · obtain rfl := List.mem_singleton.mp last
    rfl

end H2hcLinker.RemoteSignals
