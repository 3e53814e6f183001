import H2hcLinker.Layering
import H2hcLinker.PeerSelection
import H2hcLinker.ResponseOutcomes

/-! The DHT queries in time. A query spawns a task for each peer it asks and awaits the tasks in peer
order, while other queries, the timers and the peers' messages run; a task goes on after the query
that spawned it has answered. -/
namespace H2hcLinker.Dht

open Interleaving Past

/-- What the response to a request carries. -/
def Wire : ResponseKind → Type
  | .getRes => WireOps
  | .getLinksRes => WireLinkOps
  | .countLinksRes => CountLinksResponse
  | .getAgentActivityRes => AgentActivityResponse
  | .mustGetAgentActivityRes => MustGetAgentActivityResponse

/-- The response that ends the query. -/
def decisive : (kind : ResponseKind) → Wire kind → Bool
  | .getRes, (ops : WireOps) => ¬isWireOpsEmpty ops
  | .getLinksRes, (ops : WireLinkOps) => ¬ops.creates.isEmpty
  | .countLinksRes, _ => true
  | .getAgentActivityRes, (response : AgentActivityResponse) => response.status ≠ .empty
  | .mustGetAgentActivityRes, (response : MustGetAgentActivityResponse) => response.isActivity

/-- One of the five queries. -/
structure Asking where
  kind : ResponseKind
  dna : DnaHash
  loc : Nat

/-- The task that was spawned for a peer: it has not started, runs its request, or has returned. -/
inductive Spawned where
  | waiting (kind : ResponseKind) (space : DnaHash) (toUrl : String)
  | running (q : Query)
  | done (q : Query) (result : Except LinkerError (Option (Wire q.kind)))

structure Handle where
  toAgent : AgentPubKey
  task : Spawned

structure Queries where
  pending : PendingDhtResponses Wire
  handles : List Handle

structure QueryInput extends Input where
  /-- What the space and the peer store answer. -/
  network : DhtQuery
  /-- The next id of the wire library's counter. -/
  msgId : UInt64

inductive QuerySection where
  | query (asking : Asking)
  | awaitHandles (asking : Asking) (handles : List Nat)
      (last : Option (Except LinkerError (Option (Wire asking.kind))))
  | answered (asking : Asking) (result : Except LinkerError (Option (Wire asking.kind)))
  /-- A spawned task starts. -/
  | spawned (handle : Nat)
  | request (handle : Nat) (act : Section Wire)
  | serve (act : Section Wire)

def Queries.new : Queries := ⟨.new, []⟩

def Handle.spawn (asking : Asking) (peer : AgentPubKey × String) : Handle :=
  ⟨peer.1, .waiting asking.kind asking.dna peer.2⟩

/-- What awaiting a task of this kind yields, once it has returned. -/
def Spawned.outcome (kind : ResponseKind) : Spawned → Option (PeerOutcome (Wire kind))
  | .done q result =>
    if same : q.kind = kind then
      match result with
      | .ok response => some (.reply (same ▸ response))
      | .error e => some (.failed e)
    else none
  | _ => none

def Queries.outcome (s : Queries) (kind : ResponseKind) (handle : Nat) :
    Option (PeerOutcome (Wire kind)) :=
  s.handles[handle]?.bind fun h => h.task.outcome kind

def Queries.setTask (s : Queries) (handle : Nat) (task : Spawned) : Queries :=
  { s with handles := s.handles.modify handle fun h => { h with task := task } }

/-- One pass of the loop: the answer, or the next `last_result`. -/
def awaitOne {α : Type} (decisive : α → Bool) :
    PeerOutcome α → Option (Except LinkerError (Option α)) →
      Except LinkerError (Option α) ⊕ Option (Except LinkerError (Option α))
  | .reply (some answer), _ =>
    if decisive answer then .inl (.ok (some answer)) else .inr (some (.ok (some answer)))
  | .reply none, _ => .inr (some (.ok none))
  | .failed e, last => .inr (if last.isNone then some (.error e) else last)
  | .joinError, last => .inr last

def performQuery (debug : WireMessage Wire → String) (act : QuerySection) (input : QueryInput)
    (s : Queries) : Queries × List QuerySection :=
  match act with
  | .query asking =>
    match input.network.getOrCreateSpace asking.dna with
    | .error e => (s, [.answered asking (.error (.internal e))])
    | .ok _ =>
      match getPeersForLocation input.network asking.dna asking.loc with
      | .error e => (s, [.answered asking (.error e)])
      | .ok peers =>
        if peers.isEmpty then (s, [.answered asking (.ok none)])
        else
          let spawned := (peers.take parallelGetAgentsCount).map (Handle.spawn asking)
          ({ s with handles := s.handles ++ spawned },
            [.awaitHandles asking (List.range' s.handles.length spawned.length) none])
  | .awaitHandles asking handles last =>
    match handles with
    | [] => (s, [.answered asking (last.getD (.ok none))])
    | handle :: others =>
      match s.outcome asking.kind handle with
      | none => (s, [.awaitHandles asking (handle :: others) last])
      | some outcome =>
        match awaitOne (decisive asking.kind) outcome last with
        | .inl result => (s, [.answered asking result])
        | .inr last => (s, [.awaitHandles asking others last])
  | .answered _ _ => (s, [])
  | .spawned handle =>
    match s.handles[handle]? with
    | some ⟨_, .waiting kind space toUrl⟩ =>
      (s.setTask handle (.running ⟨kind, space, toUrl, input.msgId⟩),
        [.request handle (.beginRequest ⟨kind, space, toUrl, input.msgId⟩)])
    | _ => (s, [])
  | .request handle (.returned q result) => (s.setTask handle (.done q result), [])
  | .request handle act =>
    let after := perform debug act input.toInput s.pending
    ({ s with pending := after.1 }, after.2.map (.request handle))
  | .serve act =>
    let after := perform debug act input.toInput s.pending
    ({ s with pending := after.1 }, after.2.map .serve)

/-- A spawned task runs as soon as some thread of the runtime is free. -/
inductive QueryCall where
  | query (asking : Asking)
  | run (handle : Nat)
  | timer (msgId : UInt64)
  | recvNotify (fromPeer : String) (space : DnaHash) (msg : WireMessage Wire)

def QueryCall.start : QueryCall → QuerySection
  | .query asking => .query asking
  | .run handle => .spawned handle
  | .timer msgId => .serve (.remove msgId)
  | .recvNotify fromPeer space msg => .serve (.recvNotify fromPeer space msg)

def queries (debug : WireMessage Wire → String) :
    Program Nat QueryCall QuerySection QueryInput Queries where
  body _ call := [call.start]
  perform := performQuery debug

abbrev Querying := Pool Nat QuerySection Queries

abbrev QueryTurn := Moment Nat QuerySection QueryInput Queries

/-- The section of the response tracker, if it is one. -/
def QuerySection.inner : QuerySection → Option (Section Wire)
  | .request _ act | .serve act => some act
  | _ => none

def innerPool (p : Querying) : Serving Wire := p.within QuerySection.inner Queries.pending

/-- The turns of the response tracker. -/
def innerPast (past : List QueryTurn) : List (Turn Wire) :=
  past.filterMap (Moment.within QuerySection.inner Queries.pending QueryInput.toInput)

variable {debug : WireMessage Wire → String} {s : Queries} {p : Querying} {past : List QueryTurn}
  {act : QuerySection} {rest : List QuerySection} {input : QueryInput} {t : Nat}

theorem filterMap_inner (wrap : Section Wire → QuerySection)
    (shows : ∀ act, (wrap act).inner = some act) (acts : List (Section Wire)) :
    (acts.map wrap).filterMap QuerySection.inner = acts := by
  have shown : QuerySection.inner ∘ wrap = some := funext shows
  rw [List.filterMap_map, shown, List.filterMap_some]

/-- The queries are a layer around the requests. -/
theorem queries_layers (debug : WireMessage Wire → String) :
    (queries debug).Layers (requests debug) QuerySection.inner Queries.pending QueryInput.toInput where
  call t request := by
    cases request with
    | query asking => exact .hidden _ rfl
    | run handle => exact .hidden _ rfl
    | timer msgId =>
      exact .calls _ (.timer msgId) rfl fun act member => by rw [List.mem_singleton.mp member]; rfl
    | recvNotify fromPeer space msg =>
      exact .calls _ (.recvNotify fromPeer space msg) rfl fun act member => by
        rw [List.mem_singleton.mp member]; rfl
  hidden t act input s unseen := by
    cases act with
    | query asking =>
      simp only [queries, performQuery]
      split
      · exact ⟨rfl, .hidden _ rfl⟩
      · split
        · exact ⟨rfl, .hidden _ rfl⟩
        · split
          · exact ⟨rfl, .hidden _ rfl⟩
          · exact ⟨rfl, .hidden _ rfl⟩
    | awaitHandles asking handles last =>
      simp only [queries, performQuery]
      split
      · exact ⟨rfl, .hidden _ rfl⟩
      · split
        · exact ⟨rfl, .hidden _ rfl⟩
        · split
          · exact ⟨rfl, .hidden _ rfl⟩
          · exact ⟨rfl, .hidden _ rfl⟩
    | answered asking result => exact ⟨rfl, .ends⟩
    | spawned handle =>
      simp only [queries, performQuery]
      split
      next toAgent kind space toUrl found =>
        refine ⟨rfl, .calls _ (.send ⟨kind, space, toUrl, input.msgId⟩) rfl fun act member => ?_⟩
        rw [List.mem_singleton.mp member]
        rfl
      next => exact ⟨rfl, .ends⟩
    | request handle act => cases unseen
    | serve act => cases unseen
  seen act shown input s sees := by
    have wrapped (wrap : Section Wire → QuerySection) (shows : ∀ act, (wrap act).inner = some act)
        (acts : List (Section Wire)) : ∀ new ∈ acts.map wrap, (new.inner).isSome := by
      intro new member
      obtain ⟨act, _, rfl⟩ := List.mem_map.mp member
      simp [shows]
    cases act with
    | request handle act =>
      obtain rfl := Option.some.inj sees
      cases act with
      | returned q result => exact ⟨rfl, rfl, fun new member => by cases member⟩
      | _ => exact ⟨rfl, filterMap_inner _ (fun _ => rfl) _, wrapped _ (fun _ => rfl) _⟩
    | serve act =>
      cases sees
      exact ⟨rfl, filterMap_inner _ (fun _ => rfl) _, wrapped _ (fun _ => rfl) _⟩
    | _ => cases sees

end H2hcLinker.Dht
