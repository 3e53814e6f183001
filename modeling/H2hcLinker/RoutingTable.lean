import H2hcLinker.Identity

/-! The routing table against the connections' own lists. An entry is made for a connection that
holds the pair and goes before the connection has left; what a holder has in the table can be taken
out by others. -/
namespace H2hcLinker.WebSocket

open HashTable Interleaving

variable {libs : Libraries} {s : System} {p : Running} {act : Section} {rest : List Section}
  {input : Input} {t : Task} {c : WsSender} {key : AgentRegistration}

/-- The loop of the connection runs and has the pair registered. -/
def Holds (s : System) (c : WsSender) (key : AgentRegistration) : Prop :=
  (s.conns c).phase = .open ∧ key ∈ (s.conns c).state.registrations

instance : Decidable (Holds s c key) := inferInstanceAs (Decidable (_ ∧ _))

/-- The connection's handler is about to enter the pair. -/
def Registering (c : WsSender) (key : AgentRegistration) : Section → Prop
  | .register c' k _ _ => c' = c ∧ k = key
  | _ => False

theorem Registering.conn (registering : Registering c key act) (belongs : Belongs t act) :
    t = .conn c := by
  cases act with
  | register c' k dnaText agentText => exact registering.1 ▸ belongs
  | _ => cases registering

/-- The connection's handler is about to take the pair out. -/
def Departs (c : WsSender) (key : AgentRegistration) : Section → Prop
  | .unregister c' k _ _ => c' = c ∧ k = key
  | .unregisterAll c' => c' = c
  | _ => False

/-- The sections in which a loop drops a pair. -/
def Drops (c : WsSender) : Section → Prop
  | .receive c' _ | .reply c' _ | .close c' => c' = c
  | _ => False

theorem Drops.conn (drops : Drops c act) (belongs : Belongs t act) : t = .conn c := by
  cases act with
  | receive c' f => exact drops ▸ belongs
  | reply c' message => exact drops ▸ belongs
  | close c' => exact drops ▸ belongs
  | _ => cases drops

/-- What runs elsewhere leaves an open connection open, with its pairs. -/
theorem open_kept (libs : Libraries) (opened : (s.conns c).phase = .open) (act : Section) (input : Input)
    (other : ¬Drops c act) : ((perform libs act input s).1.conns c).phase = .open ∧
      ((perform libs act input s).1.conns c).state.registrations = (s.conns c).state.registrations := by
  have step := perform_connStep libs act input s c
  generalize (perform libs act input s).1.conns c = conn at step ⊢
  cases step with
  | opened fresh => simp [fresh] at opened
  | handled message state next opened handled => exact absurd rfl other
  | ended act ends => rcases ends with rfl | ⟨message, rfl⟩ <;> exact absurd rfl other
  | closed => exact absurd rfl other
  | _ => exact ⟨opened, rfl⟩

theorem Holds.kept (holds : Holds s c key) (act : Section) (input : Input) (other : ¬Drops c act) :
    Holds (perform libs act input s).1 c key := by
  obtain ⟨opened, same⟩ := open_kept libs holds.1 act input other
  exact ⟨opened, same ▸ holds.2⟩

theorem Handled.held {message : ClientMessage} {state : ConnectionState} {next : Section}
    (handled : Handled libs s c message state next) (member : key ∈ (s.conns c).state.registrations) :
    key ∈ state.registrations ∨ Departs c key next := by
  cases handled with
  | registered dnaText agentText k authenticated own =>
    refine .inl ?_
    dsimp only
    split
    · exact member
    · exact List.mem_append_left _ member
  | unregistered dnaText agentText k authenticated =>
    by_cases same : key = k
    · exact .inr ⟨rfl, same.symm⟩
    · exact .inl (List.mem_filter.mpr ⟨member, by simpa using same⟩)
  | _ => exact .inl member

/-- A pair that a loop drops is on its way out of the table. -/
theorem Holds.perform (holds : Holds s c key) (act : Section) (input : Input)
    (running : act ≠ .close c) : Holds (perform libs act input s).1 c key ∨
      ∃ new ∈ (perform libs act input s).2, Departs c key new := by
  by_cases drops : Drops c act
  · cases act with
    | receive c' f =>
      cases drops
      have turn := receive_received libs (s := s) c f
      unfold Holds
      simp only [WebSocket.perform]
      generalize receive libs c f s = after at turn ⊢
      cases turn with
      | notOpen f phase => exact absurd holds.1 phase
      | handled message state next opened handled =>
        rcases handled.held holds.2 with still | departs
        · exact .inl (by simpa [System.setState] using ⟨opened, still⟩)
        · exact .inr ⟨next, List.mem_singleton.mpr rfl, departs⟩
      | malformed e opened => exact .inl holds
      | ended opened => exact .inr ⟨.unregisterAll c, by simp [beginCleanup, cleanup], rfl⟩
    | reply c' message =>
      cases drops
      simp only [WebSocket.perform, reply]
      split
      · exact .inr ⟨.unregisterAll c, by simp [beginCleanup, cleanup], rfl⟩
      · split
        · exact .inl (by simpa [Holds, System.enqueue] using holds)
        · exact .inl holds
    | close c' => exact absurd (congrArg Section.close drops) running
    | _ => cases drops
  · exact .inl (holds.kept act input drops)

/-- A pair that a loop takes up is on its way into the table. -/
theorem holds_of_perform (holds : Holds (perform libs act input s).1 c key) :
    Holds s c key ∨ ∃ new ∈ (perform libs act input s).2, Registering c key new := by
  by_cases receives : ∃ f, act = .receive c f
  · obtain ⟨f, rfl⟩ := receives
    have turn := receive_received libs (s := s) c f
    unfold Holds at *
    simp only [perform] at holds ⊢
    generalize receive libs c f s = after at turn holds ⊢
    cases turn with
    | notOpen f phase => exact .inl holds
    | handled message state next opened handled =>
      simp only [System.setState, System.updateConn_conns_self] at holds
      cases handled with
      | registered dnaText agentText k authenticated own =>
        by_cases same : k = key
        · exact .inr ⟨_, List.mem_singleton.mpr rfl, rfl, same⟩
        · obtain ⟨phase, member⟩ := holds
          dsimp only at member
          split at member
          · exact .inl ⟨phase, member⟩
          · exact .inl ⟨phase, by simpa [Ne.symm same] using member⟩
      | unregistered dnaText agentText k authenticated =>
        exact .inl ⟨holds.1, List.mem_of_mem_filter holds.2⟩
      | _ => exact .inl holds
    | malformed e opened => exact .inl holds
    | ended opened => simp [beginCleanup] at holds
  · refine .inl ?_
    have step := perform_connStep libs act input s c
    unfold Holds at *
    generalize (perform libs act input s).1.conns c = conn at step holds
    cases step with
    | opened fresh => cases holds.2
    | handled message state next opened handled => exact absurd ⟨_, rfl⟩ receives
    | ended act ends => cases holds.1
    | closed => cases holds.1
    | _ => exact holds

theorem register_holds {dnaText agentText : String}
    (pushed : .register c key dnaText agentText ∈ (perform libs act input s).2) :
    Holds (perform libs act input s).1 c key := by
  have next := perform_next act input s _ pushed
  cases act with
  | receive c' f =>
    have turn := receive_received libs (s := s) c' f
    unfold Holds
    simp only [perform] at pushed ⊢
    generalize receive libs c' f s = after at turn pushed ⊢
    cases turn with
    | notOpen f phase => cases pushed
    | handled message state next opened handled =>
      cases List.mem_singleton.mp pushed
      cases handled with
      | passed message next admitted unanswered stays =>
        cases admitted.1
        exact absurd rfl (stays.2 key dnaText agentText).1
      | registered dnaText agentText key authenticated own =>
        simp only [System.setState, System.updateConn_conns_self]
        refine ⟨opened, ?_⟩
        split
        next known => exact known
        next => exact List.mem_append_right _ (List.mem_singleton.mpr rfl)
    | malformed e opened => cases List.mem_singleton.mp pushed
    | ended opened => rcases mem_cleanup pushed with other | ⟨k, _, other⟩ | other | other <;> cases other
  | _ => simp [Next, Cleans] at next

/-- What the connection is about to enter it holds, and what is entered for it it holds, or is about
to take out. -/
structure Backed (p : Running) : Prop where
  registering : ∀ t c key dnaText agentText, .register c key dnaText agentText ∈ p.tasks t →
    Holds p.shared c key
  entries : ∀ key c, p.shared.agentProxy.registrations.lookup key = some c →
    Holds p.shared c key ∨ p.Pending (Departs c key)

/-- A section that takes the pair out leaves no entry for the connection. -/
theorem Departs.no_entry {registrations : Table AgentRegistration WsSender} (departs : Departs c key act) :
    (registrationsAfter act registrations).lookup key ≠ some c := by
  cases act with
  | unregister c' k dnaText agentText =>
    obtain ⟨rfl, rfl⟩ := departs
    simp [registrationsAfter]
  | unregisterAll c' =>
    cases departs
    rw [registrationsAfter, lookup_retain]
    intro found
    obtain ⟨_, other⟩ := Option.filter_eq_some_iff.mp found
    simp at other
  | _ => cases departs

/-- While a handler's only section waits, no other section drops a pair of its connection. -/
theorem Orderly.not_drops {new : Section} (orderly : Orderly p) (belongs : Belongs t act)
    (running : p.tasks t = act :: rest) (member : new ∈ p.tasks (.conn c)) (alone : Alone new)
    (other : ¬Drops c new) : ¬Drops c act := by
  intro drops
  have here := drops.conn belongs
  subst here
  have only := orderly.alone _ new member alone
  rw [running] at only
  cases only
  exact other drops

theorem backed_turn (running : p.tasks t = act :: rest) (holding : ∀ u, ∀ new ∈ p.tasks u, Belongs u new)
    (orderly : Orderly p) (inv : Backed p) :
    Backed ⟨(perform libs act input p.shared).1,
      Function.update p.tasks t ((perform libs act input p.shared).2 ++ rest)⟩ := by
  have head : act ∈ p.tasks t := by simp [running]
  have belongs := holding t act head
  constructor
  · intro u c key dnaText agentText member
    rcases mem_of_turn running member with ⟨rfl, pushed⟩ | old
    · exact register_holds pushed
    · have waiting := old
      rw [show u = .conn c from holding u _ old] at waiting
      have spared := orderly.not_drops belongs running waiting trivial id
      exact (inv.registering u c key dnaText agentText old).kept act input spared
  · intro key c found
    rw [perform_registrations] at found
    have stays : ¬Departs c key act := fun departs => departs.no_entry found
    have after (holds : Holds p.shared c key) :
        Holds (perform libs act input p.shared).1 c key ∨
          Pool.Pending ⟨(perform libs act input p.shared).1,
            Function.update p.tasks t ((perform libs act input p.shared).2 ++ rest)⟩ (Departs c key) := by
      have opened : act ≠ .close c := by
        rintro rfl
        have ended := orderly.ending t c _ head rfl
        simp [Ended, holds.1] at ended
      rcases holds.perform act input opened with still | ⟨new, pushed, departs⟩
      · exact .inl still
      · exact .inr (pending_pushed _ _ _ pushed departs)
    rcases lookup_registrationsAfter found with old | ⟨dnaText, agentText, rfl⟩
    · rcases inv.entries key c old with holds | departing
      · exact after holds
      · exact .inr (pending_turn running _ _ departing stays)
    · exact after (inv.registering t c key dnaText agentText head)

theorem backed_call (t : Task) (request : Request) (idle : p.tasks t = []) (inv : Backed p) :
    Backed ⟨p.shared, Function.update p.tasks t (Request.body t request)⟩ where
  registering u c key dnaText agentText member := by
    rcases mem_of_call member with ⟨rfl, first⟩ | old
    · cases (body_starts first).1
    · exact inv.registering u c key dnaText agentText old
  entries key c found := by
    rcases inv.entries key c found with holds | departing
    · exact .inl holds
    · exact .inr ((pending_call_iff idle _ _ _).mpr (.inl departing))

/-- In every run the tasks are orderly, and each runs its own sections. -/
theorem guarded_orderly (kitsune auth : Bool) (schedule : List (Event Task Request Input)) :
    (program libs).Guarded (OnTurn fun p _ _ _ => (∀ u, ∀ new ∈ p.tasks u, Belongs u new) ∧ Orderly p)
      schedule (.start (.start kitsune auth)) :=
  guarded_of_execute _ (fun p => (∀ u, ∀ new ∈ p.tasks u, Belongs u new) ∧ Orderly p) schedule _
    fun before _ => ⟨tasks_belong libs kitsune auth before, orderly_execute kitsune auth before⟩

theorem backed_execute (kitsune auth : Bool) (schedule : List (Event Task Request Input)) :
    Backed ((program libs).execute schedule (.start (.start kitsune auth))) := by
  apply execute_turns Backed _ _ _ schedule _ (guarded_orderly kitsune auth schedule)
  · exact ⟨fun t c key dnaText agentText member => (nomatch member), fun key c found => (nomatch found)⟩
  · intro t request p idle inv
    exact backed_call t request idle inv
  · intro t input act rest p running known inv
    exact backed_turn running known.1 known.2 inv

/-- A connection whose `Unregister` is to take effect runs. -/
def Unregistering (p : Running) : Prop :=
  ∀ t c key dnaText agentText, .unregister c key dnaText agentText ∈ p.tasks t →
    (p.shared.conns c).phase = .open

theorem unregister_open {dnaText agentText : String}
    (pushed : .unregister c key dnaText agentText ∈ (perform libs act input s).2) :
    ((perform libs act input s).1.conns c).phase = .open := by
  have next := perform_next act input s _ pushed
  cases act with
  | receive c' f =>
    rcases next with ⟨message, _, _, rfl, _⟩ | ⟨message, other⟩ | ⟨_, cleaning⟩
    · have alone : Alone (.unregister c key dnaText agentText) := trivial
      exact receive_open alone pushed
    · cases other
    · simp [Cleans] at cleaning
  | _ => simp [Next, Cleans] at next

theorem unregistering_turn (running : p.tasks t = act :: rest)
    (holding : ∀ u, ∀ new ∈ p.tasks u, Belongs u new) (orderly : Orderly p) (inv : Unregistering p) :
    Unregistering ⟨(perform libs act input p.shared).1,
      Function.update p.tasks t ((perform libs act input p.shared).2 ++ rest)⟩ := by
  intro u c key dnaText agentText member
  rcases mem_of_turn running member with ⟨rfl, pushed⟩ | old
  · exact unregister_open pushed
  · have opened := inv u c key dnaText agentText old
    rw [show u = .conn c from holding u _ old] at old
    have belongs := holding t act (by simp [running])
    exact (open_kept libs opened act input (orderly.not_drops belongs running old trivial id)).1

theorem unregistering_execute (kitsune auth : Bool) (schedule : List (Event Task Request Input)) :
    Unregistering ((program libs).execute schedule (.start (.start kitsune auth))) := by
  apply execute_turns Unregistering _ _ _ schedule _ (guarded_orderly kitsune auth schedule)
  · intro t c key dnaText agentText member
    cases member
  · intro t request p _ inv u c key dnaText agentText member
    rcases mem_of_call member with ⟨rfl, first⟩ | old
    · cases (body_starts first).1
    · exact inv u c key dnaText agentText old
  · intro t input act rest p running known inv
    exact unregistering_turn running known.1 known.2 inv

/-- An entry that is not about to be cleared leads to a running connection. -/
theorem Backed.opened (inv : Backed p) (unregistering : Unregistering p)
    (found : p.shared.agentProxy.registrations.lookup key = some c)
    (kept : ∀ t, .unregisterAll c ∉ p.tasks t) : (p.shared.conns c).phase = .open := by
  rcases inv.entries key c found with holds | ⟨t, act, member, departs⟩
  · exact holds.1
  · cases act with
    | unregister c' k dnaText agentText =>
      obtain ⟨rfl, rfl⟩ := departs
      exact unregistering t c' k dnaText agentText member
    | unregisterAll c' =>
      cases departs
      exact absurd member (kept t)
    | _ => cases departs

theorem Departs.conn (departs : Departs c key act) (belongs : Belongs t act) : t = .conn c := by
  cases act with
  | unregister c' k dnaText agentText => exact departs.1 ▸ belongs
  | unregisterAll c' => exact departs ▸ belongs
  | _ => cases departs

theorem Backed.holds (inv : Backed p) (holding : ∀ u, ∀ act ∈ p.tasks u, Belongs u act)
    (returned : ∀ c, p.tasks (.conn c) = [])
    (found : p.shared.agentProxy.registrations.lookup key = some c) : Holds p.shared c key := by
  rcases inv.entries key c found with holds | ⟨t, act, member, departs⟩
  · exact holds
  · rw [departs.conn (holding t act member), returned c] at member
    cases member

/-- After the cleanup has cleared the table of a channel, nothing leads to it. -/
def Cleared (h : List (Task × Section)) (p : Running) : Prop :=
  ∀ t c, (t, .unregisterAll c) ∈ h → Ended (p.shared.conns c) ∧
    ∀ key, p.shared.agentProxy.registrations.lookup key ≠ some c

theorem cleared_turn {h : List (Task × Section)} (running : p.tasks t = act :: rest)
    (orderly : Orderly p) (backed : Backed p) (inv : Cleared h p) :
    Cleared (h ++ [(t, act)]) ⟨(perform libs act input p.shared).1,
      Function.update p.tasks t ((perform libs act input p.shared).2 ++ rest)⟩ := by
  intro u c member
  have head : act ∈ p.tasks t := by simp [running]
  have ended : Ended (p.shared.conns c) := by
    rcases List.mem_append.mp member with old | new
    · exact (inv _ c old).1
    · cases List.mem_singleton.mp new
      exact orderly.ending _ c _ head rfl
  refine ⟨ended.perform act input, fun key found => ?_⟩
  rw [perform_registrations] at found
  rcases lookup_registrationsAfter found with old | ⟨dnaText, agentText, rfl⟩
  · rcases List.mem_append.mp member with before | new
    · exact (inv u c before).2 key old
    · cases List.mem_singleton.mp new
      have departs : Departs c key (.unregisterAll c) := rfl
      exact departs.no_entry found
  · have opened := (backed.registering t c key dnaText agentText head).1
    simp [Ended, opened] at ended

theorem cleared_execute (kitsune auth : Bool) (schedule : List (Event Task Request Input)) :
    Cleared ((program libs).history schedule (.start (.start kitsune auth)))
      ((program libs).execute schedule (.start (.start kitsune auth))) := by
  have known := guarded_of_execute (program libs) (fun p : Running => Orderly p ∧ Backed p)
    schedule (.start (.start kitsune auth)) fun before _ =>
      ⟨orderly_execute kitsune auth before, backed_execute kitsune auth before⟩
  apply execute_history Cleared _ _ _ schedule [] _ known
  · exact fun t c member => nomatch member
  · exact fun h t request p _ inv => inv
  · intro h t input act rest p running ⟨orderly, backed⟩ inv
    exact cleared_turn running orderly backed inv

/-- With no handler mid-way every entry leads to an open connection that has the pair registered, and
after the cleanup of a connection no entry ever leads to it. -/
theorem entries_backed (libs : Libraries) (kitsune auth : Bool)
    (schedule : List (Event Task Request Input)) :
    let p := (program libs).execute schedule (.start (.start kitsune auth))
    ((∀ c, p.tasks (.conn c) = []) → ∀ key c,
      p.shared.agentProxy.registrations.lookup key = some c → Holds p.shared c key) ∧
    ∀ t c, (t, .unregisterAll c) ∈ (program libs).history schedule (.start (.start kitsune auth)) →
      ∀ key, p.shared.agentProxy.registrations.lookup key ≠ some c := by
  refine ⟨?_, fun t c member => (cleared_execute kitsune auth schedule t c member).2⟩
  intro returned key c found
  exact (backed_execute kitsune auth schedule).holds (tasks_belong libs kitsune auth schedule) returned
    found

/-- Whoever has the pair registered is about to enter it. -/
def Unheld (p : Running) (key : AgentRegistration) : Prop :=
  ∀ c, Holds p.shared c key → p.Pending (Registering c key)

/-- An entry that goes is not needed by another connection. -/
def SparesHolders (p : Running) : Section → Prop
  | .unregister _ key _ _ => key ∈ p.shared.agentProxy.registrations → Unheld p key
  | .unregisterAll c => ∀ key, p.shared.agentProxy.registrations.lookup key = some c → Unheld p key
  | _ => True

/-- Every pair that an open connection has registered is in the table, or about to be entered. -/
def Routable (p : Running) : Prop :=
  ∀ c key, Holds p.shared c key →
    key ∈ p.shared.agentProxy.registrations ∨ p.Pending (Registering c key)

/-- An entry stays, or its removal had to spare the holders. -/
theorem entry_kept (spares : SparesHolders p act) (entered : key ∈ p.shared.agentProxy.registrations) :
    key ∈ registrationsAfter act p.shared.agentProxy.registrations ∨ Unheld p key := by
  cases act with
  | register c k dnaText agentText => exact .inl (Finmap.mem_insert.mpr (.inr entered))
  | unregister c k dnaText agentText =>
    by_cases same : key = k
    · subst same
      exact .inr (spares entered)
    · exact .inl (Finmap.mem_erase.mpr ⟨same, entered⟩)
  | unregisterAll c =>
    obtain ⟨sender, found⟩ := Finmap.mem_iff.mp entered
    by_cases same : sender = c
    · subst same
      exact .inr (spares key found)
    · refine .inl (Finmap.mem_iff.mpr ⟨sender, ?_⟩)
      rw [registrationsAfter, lookup_retain, found]
      simp [Option.filter, same]
  | _ => exact .inl entered

theorem routable_turn (running : p.tasks t = act :: rest) (spares : SparesHolders p act)
    (inv : Routable p) : Routable ⟨(perform libs act input p.shared).1,
      Function.update p.tasks t ((perform libs act input p.shared).2 ++ rest)⟩ := by
  intro c key holds
  change Holds (perform libs act input p.shared).1 c key at holds
  change key ∈ (perform libs act input p.shared).1.agentProxy.registrations ∨ _
  rw [perform_registrations]
  rcases holds_of_perform holds with before | ⟨new, pushed, registering⟩
  · have waiting (pending : p.Pending (Registering c key)) :
        key ∈ registrationsAfter act p.shared.agentProxy.registrations ∨
          Pool.Pending ⟨(perform libs act input p.shared).1,
            Function.update p.tasks t ((perform libs act input p.shared).2 ++ rest)⟩
            (Registering c key) := by
      by_cases now : Registering c key act
      · cases act with
        | register c' k dnaText agentText =>
          obtain ⟨rfl, rfl⟩ := now
          exact .inl (Finmap.mem_insert.mpr (.inl rfl))
        | _ => cases now
      · exact .inr (pending_turn running _ _ pending now)
    rcases inv c key before with entered | pending
    · rcases entry_kept spares entered with still | unheld
      · exact .inl still
      · exact waiting (unheld c before)
    · exact waiting pending
  · exact .inr (pending_pushed _ _ _ pushed registering)

theorem routable_execute (kitsune auth : Bool) (schedule : List (Event Task Request Input))
    (spares : (program libs).Guarded (OnSection SparesHolders) schedule (.start (.start kitsune auth))) :
    Routable ((program libs).execute schedule (.start (.start kitsune auth))) := by
  apply execute_sections Routable SparesHolders _ _ schedule _ spares
  · intro c key holds
    cases holds.1
  · intro t request p idle inv c key holds
    rcases inv c key holds with entered | pending
    · exact .inl entered
    · exact .inr ((pending_call_iff idle _ _ _).mpr (.inl pending))
  · intro t input act rest p running spares inv
    exact routable_turn running spares inv

/-- With no handler mid-way the pairs of every open connection are routed, to an open connection
that has them registered, as long as no entry goes that another connection still needs. -/
theorem registration_routable (libs : Libraries) (kitsune auth : Bool)
    (schedule : List (Event Task Request Input))
    (spares : (program libs).Guarded (OnSection SparesHolders) schedule (.start (.start kitsune auth)))
    (returned : ∀ c, ((program libs).execute schedule (.start (.start kitsune auth))).tasks (.conn c) = [])
    (c : WsSender) (key : AgentRegistration)
    (holds : Holds ((program libs).execute schedule (.start (.start kitsune auth))).shared c key) :
    ∃ c', ((program libs).execute schedule
        (.start (.start kitsune auth))).shared.agentProxy.registrations.lookup key = some c' ∧
      Holds ((program libs).execute schedule (.start (.start kitsune auth))).shared c' key := by
  have holding := tasks_belong libs kitsune auth schedule
  rcases routable_execute kitsune auth schedule spares c key holds with entered | ⟨t, act, member, registers⟩
  · obtain ⟨c', found⟩ := Finmap.mem_iff.mp entered
    exact ⟨c', found, (backed_execute kitsune auth schedule).holds holding returned found⟩
  · rw [registers.conn (holding t act member), returned c] at member
    cases member

/-- Only connections that events address come to hold pairs. -/
theorem holds_addressed {kitsune auth : Bool} {schedule : List (Event Task Request Input)}
    (holds : Holds ((program libs).execute schedule (.start (.start kitsune auth))).shared c key) :
    Task.conn c ∈ schedule.map Event.task := by
  have addressed : (program libs).Guarded
      (OnTurn fun _ t act _ => t ∈ schedule.map Event.task ∧ Belongs t act) schedule
      (.start (.start kitsune auth)) := by
    apply guarded_of_turns
    intro before t input after act rest split running
    refine ⟨List.mem_map.mpr ⟨.turn t input, by simp [split], rfl⟩, ?_⟩
    exact tasks_belong libs kitsune auth before t act (by simp [running])
  revert c key
  apply execute_turns (fun p => ∀ c key, Holds p.shared c key → Task.conn c ∈ schedule.map Event.task)
    _ _ _ schedule _ addressed
  · intro c key holds
    cases holds.1
  · intro t request p _ inv
    exact inv
  · intro t input act rest p _ known inv c key holds
    rcases holds_of_perform holds with before | ⟨new, pushed, registering⟩
    · exact inv c key before
    · have here := registering.conn (perform_belongs t act input p.shared known.2 new pushed)
      exact here ▸ known.1

/-- An entry goes when none of these connections holds its pair. -/
def sparesAmong (cs : List WsSender) (p : Running) : Section → Bool
  | .unregister _ key _ _ => ∀ c ∈ cs, ¬Holds p.shared c key
  | .unregisterAll c => ∀ key ∈ p.shared.agentProxy.registrations.keys,
      p.shared.agentProxy.registrations.lookup key = some c → ∀ c' ∈ cs, ¬Holds p.shared c' key
  | _ => true

theorem sparesHolders_of_among {cs : List WsSender}
    (all : ∀ c key, Holds p.shared c key → c ∈ cs) (spares : sparesAmong cs p act = true) :
    SparesHolders p act := by
  cases act with
  | unregister c key dnaText agentText =>
    intro _ c' holds
    exact absurd holds (of_decide_eq_true spares c' (all c' key holds))
  | unregisterAll c =>
    intro key found c' holds
    have entered := Finmap.mem_keys.mpr (Finmap.mem_of_lookup_eq_some found)
    exact absurd holds (of_decide_eq_true spares key entered found c' (all c' key holds))
  | _ => trivial

theorem registration_routable_aliceReconnects : ∃ c',
    ((program sampleLibraries).execute aliceReconnects
        (.start (.start true false))).shared.agentProxy.registrations.lookup aliceKey = some c' ∧
      Holds ((program sampleLibraries).execute aliceReconnects (.start (.start true false))).shared c'
        aliceKey := by
  have known : (program sampleLibraries).Guarded
      (OnTurn fun p _ _ _ => ∀ c key, Holds p.shared c key → c ∈ [0, 1]) aliceReconnects
      (.start (.start true false)) := by
    apply guarded_of_execute
    intro before within c key holds
    have addressed := (within.map Event.task).mem (holds_addressed holds)
    have all : ∀ t ∈ aliceReconnects.map Event.task, t = .conn 0 ∨ t = .conn 1 := by decide
    simpa using all _ addressed
  have spares : (program sampleLibraries).Guarded
      (OnTurn fun p _ act _ => sparesAmong [0, 1] p act = true) aliceReconnects
      (.start (.start true false)) := by
    decide +kernel
  apply registration_routable sampleLibraries true false aliceReconnects _ _ 1 aliceKey
  · decide +kernel
  · exact guarded_mono (guarded_and known spares) fun p _ act _ both =>
      sparesHolders_of_among both.1 both.2
  · intro c
    exact quiescent_execute_start aliceReconnects _ (by decide +kernel) (Task.conn c)

/-- Two browsers register Alice; the newer connection closes. -/
def newerCloses : List (Event Task Request Input) :=
  registerAlice 0 ++ connects 1 ++ frames 1 (.text (.ok (.auth aliceText))) 2 ++
    frames 1 (.text (.ok (.register sampleDnaText aliceText))) 4 ++ frames 1 .close 9

theorem registration_not_routable_newerCloses :
    ¬∀ (libs : Libraries) (kitsune auth : Bool) (schedule : List (Event Task Request Input)),
      ((program libs).execute schedule (.start (.start kitsune auth))).Quiescent →
      ∀ c key, Holds ((program libs).execute schedule (.start (.start kitsune auth))).shared c key →
        ∃ c', ((program libs).execute schedule
            (.start (.start kitsune auth))).shared.agentProxy.registrations.lookup key = some c' ∧
          Holds ((program libs).execute schedule (.start (.start kitsune auth))).shared c' key := by
  intro always
  have quiet : ((program sampleLibraries).execute newerCloses (.start (.start true false))).Quiescent :=
    quiescent_execute_start _ _ (by decide)
  obtain ⟨c', found, _⟩ := always sampleLibraries true false newerCloses quiet 0 aliceKey (by decide)
  have gone : ((program sampleLibraries).execute newerCloses
      (.start (.start true false))).shared.agentProxy.registrations.lookup aliceKey = none := by
    decide
  rw [gone] at found
  cases found

end H2hcLinker.WebSocket
