import H2hcLinker.Interleaving
import H2hcLinker.Numbering

/-! The preflight cache: the list of cached agent infos and the encoded message bytes, each
behind its own mutex. `add_agent` is one section on the list, which copies the encodings, and
one on the bytes. -/
namespace H2hcLinker.Preflight

open Interleaving

/-- The fields of a signed agent info that are read here; the rest is in the encoded text. -/
structure AgentInfoSigned where
  agent : List UInt8
  space : List UInt8
  expiresAt : Int
  encoded : String
  signature : List UInt8
  deriving DecidableEq

def hcp2pProtoVer : Nat := 2

structure NetworkCompatParams where
  protoVer : Nat
  deriving DecidableEq, Encodable

def NetworkCompatParams.default : NetworkCompatParams := ⟨hcp2pProtoVer⟩

structure WirePreflightMessage where
  compat : NetworkCompatParams
  agents : List String
  deriving DecidableEq, Encodable

def WirePreflightMessage.new : WirePreflightMessage := ⟨.default, []⟩

/-- The serialisers of the two libraries. -/
structure WireCodec where
  encodeAgent : AgentInfoSigned → Except String String
  encode : WirePreflightMessage → Except String (List UInt8)
  decode : List UInt8 → Except String WirePreflightMessage

structure WireCodec.Lawful (codec : WireCodec) : Prop where
  agent_encodes : ∀ info, ∃ text, codec.encodeAgent info = .ok text
  message_encodes : ∀ message, ∃ bytes, codec.encode message = .ok bytes
  round_trip : ∀ message bytes, codec.encode message = .ok bytes → codec.decode bytes = .ok message

structure PreflightCache where
  preflight : List UInt8
  compat : NetworkCompatParams
  agents : List AgentInfoSigned
  deriving DecidableEq

/-- `none` is the panic on an empty message that does not encode. -/
def PreflightCache.new (codec : WireCodec) : Option PreflightCache :=
  match codec.encode .new with
  | .ok initial => some ⟨initial, .default, []⟩
  | .error _ => none

def PreflightCache.get (c : PreflightCache) : List UInt8 := c.preflight

/-- Drop the expired infos and the previous one of the same agent and space, add the new one. -/
def updateAgents (now : Int) (info : AgentInfoSigned) (agents : List AgentInfoSigned) :
    List AgentInfoSigned :=
  agents.filter (fun cached =>
    ¬cached.expiresAt < now ∧ ¬(cached.agent = info.agent ∧ cached.space = info.space)) ++ [info]

/-- An info that does not encode is left out. -/
def encodings (codec : WireCodec) (agents : List AgentInfoSigned) : List String :=
  agents.filterMap fun agent => (codec.encodeAgent agent).toOption

inductive Section where
  | update (info : AgentInfoSigned)
  | write (encodedAgents : List String)
  deriving DecidableEq

/-- The environment supplies the clock. -/
def perform (codec : WireCodec) (act : Section) (now : Int) (c : PreflightCache) :
    PreflightCache × List Section :=
  match act with
  | .update info =>
    let agents := updateAgents now info c.agents
    ({ c with agents }, [.write (encodings codec agents)])
  | .write encodedAgents =>
    match codec.encode ⟨c.compat, encodedAgents⟩ with
    | .ok bytes => ({ c with preflight := bytes }, [])
    | .error _ => (c, [])

/-- Any number of concurrent `add_agent` calls on clones of one cache; a call is its info. -/
def program (codec : WireCodec) : Program Nat AgentInfoSigned Section Int PreflightCache where
  body _ info := [.update info]
  perform := perform codec

variable {codec : WireCodec} {p : Pool Nat Section PreflightCache}

/-- Nothing is left out when every info encodes. -/
theorem map_encodings_of {agents : List AgentInfoSigned}
    (encodes : ∀ info ∈ agents, ∃ text, codec.encodeAgent info = .ok text) :
    (encodings codec agents).map .ok = agents.map codec.encodeAgent := by
  induction agents with
  | nil => rfl
  | cons info rest ih =>
    obtain ⟨text, encoded⟩ := encodes info List.mem_cons_self
    simpa [encodings, encoded, Except.toOption] using
      ih fun other member => encodes other (List.mem_cons_of_mem _ member)

theorem map_encodings (lawful : codec.Lawful) (agents : List AgentInfoSigned) :
    (encodings codec agents).map .ok = agents.map codec.encodeAgent :=
  map_encodings_of fun info _ => lawful.agent_encodes info

/-- The bytes decode to the infos now in the list. -/
def Current (codec : WireCodec) (c : PreflightCache) : Prop :=
  codec.decode c.preflight = .ok ⟨c.compat, encodings codec c.agents⟩

/-- Some call holds the encodings of the list as it is and has still to write them. -/
def WritePending (codec : WireCodec) (p : Pool Nat Section PreflightCache) : Prop :=
  p.Pending (· = .write (encodings codec p.shared.agents))

/-- Bytes are written only while a call, this one or another, holds the current encodings. -/
def NotStale (codec : WireCodec) (p : Pool Nat Section PreflightCache) : Section → Prop
  | .write _ => WritePending codec p
  | .update _ => True

/-- The bytes are current or will be. -/
def Refreshing (codec : WireCodec) (p : Pool Nat Section PreflightCache) : Prop :=
  Current codec p.shared ∨ WritePending codec p

theorem current_new (lawful : codec.Lawful) {cache : PreflightCache}
    (created : PreflightCache.new codec = some cache) : Current codec cache := by
  unfold PreflightCache.new at created
  split at created
  next initial encoded =>
    cases created
    exact lawful.round_trip _ _ encoded
  next => cases created

theorem current_write (lawful : codec.Lawful) (now : Int) (c : PreflightCache) :
    Current codec (perform codec (.write (encodings codec c.agents)) now c).1 := by
  obtain ⟨bytes, encoded⟩ := lawful.message_encodes ⟨c.compat, encodings codec c.agents⟩
  simp only [Current, perform, encoded]
  exact lawful.round_trip _ _ encoded

/-- Writing leaves the list alone. -/
theorem agents_write (encodedAgents : List String) (now : Int) (c : PreflightCache) :
    (perform codec (.write encodedAgents) now c).1.agents = c.agents := by
  simp only [perform]
  split <;> rfl

theorem refreshing_call (task : Nat) (info : AgentInfoSigned) (idle : p.tasks task = [])
    (fresh : Refreshing codec p) :
    Refreshing codec ⟨p.shared, Function.update p.tasks task ((program codec).body task info)⟩ := by
  cases fresh with
  | inl current => exact .inl current
  | inr pending => exact .inr ((pending_call_iff idle _ _ _).mpr (.inl pending))

theorem refreshing_update {task : Nat} {rest : List Section} (now : Int) (info : AgentInfoSigned) :
    Refreshing codec ⟨(perform codec (.update info) now p.shared).1,
      Function.update p.tasks task ((perform codec (.update info) now p.shared).2 ++ rest)⟩ := by
  apply Or.inr
  exact pending_pushed _ _ _ (List.mem_singleton.mpr rfl) rfl

theorem refreshing_write (lawful : codec.Lawful) {task : Nat} {encodedAgents : List String}
    {rest : List Section} (now : Int) (running : p.tasks task = .write encodedAgents :: rest)
    (pending : WritePending codec p) :
    Refreshing codec ⟨(perform codec (.write encodedAgents) now p.shared).1, Function.update p.tasks
      task ((perform codec (.write encodedAgents) now p.shared).2 ++ rest)⟩ := by
  by_cases same : encodedAgents = encodings codec p.shared.agents
  · subst same
    exact .inl (current_write lawful now p.shared)
  · have other : ¬Section.write encodedAgents = .write (encodings codec p.shared.agents) := by
      intro equal
      exact same (Section.write.inj equal)
    have left := pending_turn running (perform codec (.write encodedAgents) now p.shared).1
      (perform codec (.write encodedAgents) now p.shared).2 pending other
    refine .inr ?_
    unfold WritePending
    rw [agents_write]
    exact left

theorem refreshing_execute (lawful : codec.Lawful) {cache : PreflightCache}
    (created : PreflightCache.new codec = some cache) (schedule : List (Event Nat AgentInfoSigned Int))
    (guarded : (program codec).Guarded (OnSection (NotStale codec)) schedule (.start cache)) :
    Refreshing codec ((program codec).execute schedule (.start cache)) := by
  apply execute_sections (Refreshing codec) (NotStale codec) _ _ schedule _ guarded
    (.inl (current_new lawful created))
  · intro task info p idle fresh
    exact refreshing_call task info idle fresh
  · intro task now act rest p running notStale fresh
    cases act with
    | update info => exact refreshing_update now info
    | write encodedAgents => exact refreshing_write lawful now running notStale

/-- When all calls have returned the preflight decodes to the encodings of the cached agents in
order, if no call wrote older encodings after the newest were written. -/
theorem preflight_current (lawful : codec.Lawful) {cache : PreflightCache}
    (created : PreflightCache.new codec = some cache) (schedule : List (Event Nat AgentInfoSigned Int))
    (guarded : (program codec).Guarded (OnSection (NotStale codec)) schedule (.start cache))
    (returned : ((program codec).execute schedule (.start cache)).Quiescent) :
    ∃ message,
      codec.decode ((program codec).execute schedule (.start cache)).shared.get = .ok message ∧
      message.agents.map .ok = ((program codec).execute schedule (.start cache)).shared.agents.map
        codec.encodeAgent := by
  cases refreshing_execute lawful created schedule guarded with
  | inl current => exact ⟨_, current, map_encodings lawful _⟩
  | inr pending => exact absurd pending (returned.not_pending _)

def numberedCodec : WireCodec where
  encodeAgent info := .ok info.encoded
  encode message := .ok (Numbering.toBytes message)
  decode bytes := (Numbering.ofBytes bytes).elim (.error "invalid type") .ok

theorem numberedCodec_lawful : numberedCodec.Lawful where
  agent_encodes info := ⟨info.encoded, rfl⟩
  message_encodes _ := ⟨_, rfl⟩
  round_trip := by
    intro message bytes encoded
    cases encoded
    simp [numberedCodec, Numbering.ofBytes_toBytes]

def firstInfo : AgentInfoSigned := ⟨[1], [9], 100, "first", []⟩

def secondInfo : AgentInfoSigned := ⟨[2], [9], 100, "second", []⟩

def emptyCache : PreflightCache := ⟨Numbering.toBytes WirePreflightMessage.new, .default, []⟩

/-- Both calls change the list before either writes, and they write in the same order. -/
def writesInOrder : List (Event Nat AgentInfoSigned Int) :=
  [.call 0 firstInfo, .call 1 secondInfo, .turn 0 0, .turn 1 0, .turn 0 0, .turn 1 0]

theorem preflight_current_writesInOrder :
    ∃ message, numberedCodec.decode ((program numberedCodec).execute writesInOrder
        (.start emptyCache)).shared.get = .ok message ∧
      message.agents.map .ok = ((program numberedCodec).execute writesInOrder
        (.start emptyCache)).shared.agents.map numberedCodec.encodeAgent := by
  apply preflight_current numberedCodec_lawful rfl
  · have second : WritePending numberedCodec
        ((program numberedCodec).execute (writesInOrder.take 4) (.start emptyCache)) :=
      ⟨1, .write ["first", "second"], by decide, by decide⟩
    have last : WritePending numberedCodec
        ((program numberedCodec).execute (writesInOrder.take 5) (.start emptyCache)) :=
      ⟨1, .write ["first", "second"], by decide, by decide⟩
    exact ⟨trivial, trivial, trivial, trivial, second, last, trivial⟩
  · exact quiescent_execute_start _ _ (by decide)

def firstOnly : WirePreflightMessage := ⟨.default, ["first"]⟩

/-- The second call writes first, and the first call overwrites it with its older copy. -/
def writesReversed : List (Event Nat AgentInfoSigned Int) :=
  [.call 0 firstInfo, .call 1 secondInfo, .turn 0 0, .turn 1 0, .turn 1 0, .turn 0 0]

theorem preflight_lost_writesReversed :
    ¬∀ (codec : WireCodec) (cache : PreflightCache) (schedule : List (Event Nat AgentInfoSigned Int)),
      codec.Lawful → PreflightCache.new codec = some cache →
      ((program codec).execute schedule (.start cache)).Quiescent →
      ∃ message, codec.decode ((program codec).execute schedule (.start cache)).shared.get =
          .ok message ∧
        message.agents.map .ok = ((program codec).execute schedule (.start cache)).shared.agents.map
          codec.encodeAgent := by
  intro always
  have quiet : ((program numberedCodec).execute writesReversed (.start emptyCache)).Quiescent :=
    quiescent_execute_start _ _ (by decide)
  have stale : ((program numberedCodec).execute writesReversed (.start emptyCache)).shared =
      ⟨Numbering.toBytes firstOnly, .default, [firstInfo, secondInfo]⟩ := rfl
  obtain ⟨message, decoded, all⟩ :=
    always numberedCodec emptyCache writesReversed numberedCodec_lawful rfl quiet
  rw [stale] at decoded all
  have held : numberedCodec.decode (Numbering.toBytes firstOnly) = .ok firstOnly :=
    numberedCodec_lawful.round_trip _ _ rfl
  simp only [PreflightCache.get, held] at decoded
  have same := Except.ok.inj decoded
  subst same
  have counts := congrArg List.length all
  simp [firstOnly] at counts

end H2hcLinker.Preflight
