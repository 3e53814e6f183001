import H2hcLinker.Handshake

/-! Who gets a signal. A pair leads to the channel of a connection that has shown to hold the key of
the pair's agent, whoever else has registered the pair since and whoever it speaks for now. -/
namespace H2hcLinker.WebSocket

open HashTable Interleaving Past

variable {libs : Libraries}

/-- The connection has completed a handshake for the agent. -/
def Completed (libs : Libraries) (c : WsSender) (agent : AgentPubKey) : List Instant → Prop :=
  Once fun before m => LookedUp libs c agent before ∧ ∃ token, m.act = .registerWsSender c agent token

/-- Connections speak for agents, and pairs lead to connections, whose handshakes are completed. -/
structure KeyHolders (libs : Libraries) (past : List Instant) (p : Running) : Prop where
  handshaking : Handshaking libs past p
  speaks : ∀ c agent, (p.shared.conns c).state.authenticatedAgent = some agent →
    Completed libs c agent past
  routed : ∀ key c, p.shared.agentProxy.registrations.lookup key = some c →
    Completed libs c key.2 past

theorem keyHolders_turn (past : List Instant) (t : Task) (input : Input) (act : Section)
    (rest : List Section) (p : Running) (running : p.tasks t = act :: rest) (sound : Sound p)
    (inv : KeyHolders libs past p) :
    KeyHolders libs (past ++ [⟨p, t, act, input⟩]) ⟨(perform libs act input p.shared).1,
      Function.update p.tasks t ((perform libs act input p.shared).2 ++ rest)⟩ where
  handshaking := handshaking_turn past t input act rest p running sound inv.handshaking
  speaks c agent speaks := by
    have identity := perform_identity libs act input c sound.identified.auth
    rcases identityAfter_some ((congrArg Prod.snd identity).symm.trans speaks) with before | ⟨token, rfl⟩
    · exact (inv.speaks c agent before).later
    · have shown := inv.handshaking.proven t (.registerWsSender c agent token) (by simp [running])
      exact since_now ⟨shown, token, rfl⟩
  routed key c found := by
    rw [perform_registrations] at found
    rcases lookup_registrationsAfter found with before | ⟨dnaText, agentText, rfl⟩
    · exact (inv.routed key c before).later
    · -- The task of the connection registers for the agent it speaks for.
      have head : .register c key dnaText agentText ∈ p.tasks t := by simp [running]
      have belongs : t = .conn c := sound.holding t _ head
      subst belongs
      exact (inv.speaks c key.2 (sound.identified.owned c _ head)).later

theorem keyHolders_execute (kitsune : Bool) (schedule : List (Event Task Request Input)) :
    KeyHolders libs ((program libs).moments schedule (.start (.start kitsune true)))
      ((program libs).execute schedule (.start (.start kitsune true))) := by
  apply execute_moments (KeyHolders libs) _ _ keyHolders_turn schedule [] _
    (guarded_sound kitsune schedule)
  · exact ⟨handshaking_start _ fun _ => rfl, fun c agent speaks => (nomatch speaks),
      fun key c found => (nomatch found)⟩
  · intro past t request p _ inv
    exact ⟨handshaking_call past t request p inv.handshaking, inv.speaks, inv.routed⟩

/-- Wherever a run has come to, a signal is queued for connections only that have completed a
handshake for its agent. -/
theorem signal_to_key_holder (libs : Libraries) (kitsune : Bool)
    (schedule : List (Event Task Request Input)) (key : AgentRegistration) (signal : ServerMessage)
    (input : Input) (c : WsSender) (enqueued :
      let s := ((program libs).execute schedule (.start (.start kitsune true))).shared
      ((perform libs (.sendSignal key signal) input s).1.conns c).queue ≠ (s.conns c).queue) :
    Completed libs c key.2 ((program libs).moments schedule (.start (.start kitsune true))) := by
  have inv := @keyHolders_execute libs kitsune schedule
  generalize (program libs).execute schedule (.start (.start kitsune true)) = p at *
  dsimp only at enqueued
  have step := perform_connStep libs (.sendSignal key signal) input p.shared c
  generalize (perform libs (.sendSignal key signal) input p.shared).1.conns c = conn at step enqueued
  cases step with
  | kept act spares => exact absurd rfl enqueued
  | queued act routed message => exact inv.routed key c routed
  | ended act ends => exact absurd rfl enqueued

theorem signal_to_key_holder_aliceOnline : Completed sampleLibraries 0 alice
    ((program sampleLibraries).moments aliceOnline (.start (.start true true))) :=
  signal_to_key_holder sampleLibraries true aliceOnline aliceKey
    (signalMessage sampleLibraries aliceKey []) (sampleInput 0) 0 (by decide +kernel)

end H2hcLinker.WebSocket
