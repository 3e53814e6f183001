import H2hcLinker.ConductorConnections

/-! Reconnection of the admin websocket. Nobody connects while there is a websocket, and every
connection but the first makes up for a websocket error. -/
namespace H2hcLinker.Conductor

open HashTable Interleaving Past

variable {settings : Settings} {s s' : AppConn} {act : Section} {reply : Reply}
  {next rest : List Section} {p : Connecting} {ms : List Turn} {t : Nat}

/-- The turn connected to the admin interface. -/
def adminConnected (m : Turn) : Bool :=
  match m.act, m.input with
  | .adminConnect _, .adminConnected => true
  | _, _ => false

/-- The turn learned that the admin websocket is broken. -/
def disconnected (m : Turn) : Bool :=
  match m.act, m.input with
  | .listApps _ _ _, .refused (.websocketError _) => true
  | _, _ => false

def Section.resets : Section → Bool
  | .handleReset _ _ => true
  | _ => false

/-- The turn gave the admin websocket up. -/
def handleReset (m : Turn) : Bool :=
  m.act.resets && !m.pool.shared.adminConn.locked && m.input != .dropped

/-- What becomes of the admin websocket: it stays, the section connects anew, or it is given up. -/
theorem step_handle (step : Step settings p.shared act reply s' next) :
    (s'.adminConn.handle = p.shared.adminConn.handle ∧
      adminConnected ⟨p, t, act, reply⟩ = false ∧ handleReset ⟨p, t, act, reply⟩ = false ∧
      ∀ new ∈ next, new.ConnectsAdmin → act.ConnectsAdmin ∨ p.shared.adminConn.handle = none) ∨
    (act.ConnectsAdmin ∧ s'.adminConn.handle.isSome ∧ adminConnected ⟨p, t, act, reply⟩ = true ∧
      handleReset ⟨p, t, act, reply⟩ = false ∧ ∀ new ∈ next, ¬new.ConnectsAdmin) ∨
    (s'.adminConn.handle = none ∧ adminConnected ⟨p, t, act, reply⟩ = false ∧
      handleReset ⟨p, t, act, reply⟩ = true) := by
  cases step with
  | dropped act => refine .inl ⟨rfl, ?_, ?_, by simp⟩ <;> simp [adminConnected, handleReset]
  | waits act reply stuck =>
    refine .inl ⟨rfl, ?_, ?_, fun new pushed connects => .inl ?_⟩
    · cases act <;> cases reply <;>
        simp_all [adminConnected, Section.Ready, Section.Awaits]
    · cases act <;> cases reply <;>
        simp_all [handleReset, Section.resets, Section.Ready, Section.Awaits, Section.asks]
    · cases List.mem_singleton.mp pushed
      exact connects
  | handleFound act reply use admin seeks free found =>
    refine .inl ⟨rfl, ?_, ?_, ?_⟩
    · rcases seeks with rfl | rfl <;> rfl
    · rcases seeks with rfl | rfl <;> rfl
    · simp [Section.ConnectsAdmin]
  | handleTaken use reply free missing => exact .inl ⟨rfl, rfl, rfl, fun _ _ _ => .inr missing⟩
  | adminConnected use =>
    exact .inr (.inl ⟨rfl, rfl, rfl, rfl, by simp [Section.ConnectsAdmin]⟩)
  | retried call attempt reply waited free first =>
    exact .inr (.inr ⟨rfl, rfl, by simp [handleReset, Section.resets, free, waited]⟩)
  | exhausted call attempt reply waited free last =>
    exact .inr (.inr ⟨rfl, rfl, by simp [handleReset, Section.resets, free, waited]⟩)
  | connectionFound act reply target app seeks free found =>
    refine .inl ⟨rfl, ?_, ?_, ?_⟩
    · rcases seeks with rfl | rfl <;> rfl
    · rcases seeks with rfl | rfl <;> rfl
    · simp [Section.ConnectsAdmin, Section.connectsAdmin]
  | appConnected target admin request info loop =>
    rcases authorizeNext_cases loop with ⟨_, _, _, rfl, rfl⟩ | ⟨_, rfl, rfl⟩ <;>
      exact .inl ⟨rfl, rfl, rfl, by simp [Section.ConnectsAdmin, Section.connectsAdmin]⟩
  | authorized target admin app cell cells credentials loop =>
    rcases authorizeNext_cases loop with ⟨_, _, _, rfl, rfl⟩ | ⟨_, rfl, rfl⟩ <;>
      exact .inl ⟨rfl, rfl, rfl, by simp [Section.ConnectsAdmin, Section.connectsAdmin]⟩
  | failed act e asks final =>
    refine .inl ⟨rfl, ?_, ?_, by simp [Section.ConnectsAdmin, Section.connectsAdmin]⟩
    · simp [adminConnected]
    · cases act <;> simp_all [handleReset, Section.resets, Section.asks]
  | _ => exact .inl ⟨rfl, rfl, rfl, by simp [Section.ConnectsAdmin, Section.connectsAdmin]⟩

/-- A reset pays for a websocket error, at once or when its turn comes. -/
theorem step_resets (step : Step settings p.shared act reply s' next) :
    next.countP Section.resets + (handleReset ⟨p, t, act, reply⟩).toNat ≤
      act.resets.toNat + (disconnected ⟨p, t, act, reply⟩).toNat := by
  cases step with
  | dropped act => simp [handleReset]
  | waits act reply stuck =>
    have idle : handleReset ⟨p, t, act, reply⟩ = false := by
      cases act <;> cases reply <;>
        simp_all [handleReset, Section.resets, Section.Ready, Section.Awaits, Section.asks]
    cases again : act.resets <;> simp [idle, again]
  | handleFound act reply use admin seeks free found =>
    rcases seeks with rfl | rfl <;> cases use <;>
      simp [handleReset, Section.resets, AdminUse.proceed]
  | adminConnected use => cases use <;> simp [handleReset, Section.resets, AdminUse.proceed]
  | connectionFound act reply target app seeks free found =>
    rcases seeks with rfl | rfl <;> simp [handleReset, Section.resets]
  | appConnected target admin request info loop =>
    rcases authorizeNext_cases loop with ⟨_, _, _, rfl, rfl⟩ | ⟨_, rfl, rfl⟩ <;>
      simp [handleReset, Section.resets]
  | authorized target admin app cell cells credentials loop =>
    rcases authorizeNext_cases loop with ⟨_, _, _, rfl, rfl⟩ | ⟨_, rfl, rfl⟩ <;>
      simp [handleReset, Section.resets]
  | failed act e asks final => cases act <;> simp_all [handleReset, Section.resets, Section.asks]
  | disconnected call attempt admin text => simp [handleReset, Section.resets, disconnected]
  | retried call attempt reply waited free first | exhausted call attempt reply waited free last =>
    have one := Bool.toNat_le (handleReset ⟨p, t, .handleReset call attempt, reply⟩)
    simp only [List.countP_singleton, Section.resets, Bool.false_eq_true, if_false, Bool.toNat_true]
    omega
  | _ => simp [handleReset, Section.resets]

/-- While a call connects there is no admin websocket. -/
def Disconnected (p : Connecting) : Prop :=
  p.Pending Section.ConnectsAdmin → p.shared.adminConn.handle = none

structure Reconnecting (ms : List Turn) (p : Connecting) : Prop where
  missing : Disconnected p
  connects : ms.countP adminConnected ≤
    ms.countP handleReset + p.shared.adminConn.handle.isSome.toNat
  resets : ∀ t, ms.countP (fun m => handleReset m && decide (m.task = t)) +
    (p.tasks t).countP Section.resets ≤ ms.countP fun m => disconnected m && decide (m.task = t)

theorem reconnecting_start : Reconnecting [] (.start .new) where
  missing pending := absurd pending (not_pending_start _ _)
  connects := by simp
  resets _ := by simp [Pool.start]

theorem reconnecting_call (idle : p.tasks t = []) (call : ZomeCall) (inv : Reconnecting ms p) :
    Reconnecting ms ⟨p.shared, Function.update p.tasks t [.searchCache call]⟩ where
  missing pending := by
    apply inv.missing
    apply ((pending_call_iff idle _ _ _).mp pending).resolve_right
    simp [Section.ConnectsAdmin, Section.connectsAdmin]
  connects := inv.connects
  resets u := by
    by_cases same : u = t
    · subst same
      simpa [idle, Section.resets] using inv.resets u
    · simpa [same] using inv.resets u

theorem reconnecting_turn (step : Step settings p.shared act reply s' next)
    (running : p.tasks t = act :: rest)
    (locked : p.Locked (fun s => s.adminConn.locked = true) Section.ConnectsAdmin)
    (inv : Reconnecting ms p) :
    Reconnecting (ms ++ [⟨p, t, act, reply⟩]) ⟨s', Function.update p.tasks t (next ++ rest)⟩ := by
  obtain rfl := rest_eq_nil (locked.short t) running
  have here (connects : act.ConnectsAdmin) : p.shared.adminConn.handle = none :=
    inv.missing (pending_head running connects)
  refine ⟨?_, ?_, ?_⟩
  · intro pending
    rcases step_handle (t := t) step with ⟨same, _, _, enters⟩ | ⟨connects, _, _, _, left⟩ |
      ⟨none, _⟩
    · rw [same]
      rcases pending_of_turn running pending with ⟨new, pushed, connects⟩ | old
      · exact (enters new pushed connects).elim here id
      · exact inv.missing old
    · rw [List.append_nil] at pending
      exact absurd pending (not_pending_of_left locked.exclusive running connects left)
    · exact none
  · have before := inv.connects
    rw [List.countP_append, List.countP_append, List.countP_singleton, List.countP_singleton]
    rcases step_handle (t := t) step with ⟨same, no, kept, _⟩ |
      ⟨connects, there, yes, kept, _⟩ | ⟨none, no, reset⟩
    · simpa [same, no, kept] using before
    · -- the websocket that is replaced was given up before
      rw [here connects] at before
      simpa [yes, kept, there] using before
    · have given : p.shared.adminConn.handle.isSome.toNat ≤ 1 := Bool.toNat_le _
      simp only [none, no, reset, Option.isSome_none, Bool.toNat_false, if_true, Bool.false_eq_true,
        if_false]
      omega
  · intro u
    have before := inv.resets u
    rw [List.countP_append, List.countP_append, List.countP_singleton, List.countP_singleton]
    by_cases same : u = t
    · subst same
      have paid := step_resets (t := u) step
      have count (b : Bool) : (if b = true then 1 else 0) = b.toNat := by cases b <;> rfl
      simp only [running, List.countP_singleton, Function.update_self, List.append_nil,
        decide_true, Bool.and_true, count] at before ⊢
      omega
    · have other : t ≠ u := Ne.symm same
      simpa [same, other] using before

theorem reconnecting_execute (settings : Settings) (es : List (Event Nat ZomeCall Reply)) :
    Reconnecting ((program settings).moments es (.start .new))
      ((program settings).execute es (.start .new)) := by
  have locked := guarded_of_execute (program settings)
    (fun p => p.Locked (fun s => s.adminConn.locked = true) Section.ConnectsAdmin) es (.start .new)
    fun before _ => handle_locked settings before
  refine execute_moments Reconnecting _ ?_ ?_ es [] _ locked reconnecting_start
  · intro ms t call p idle inv
    exact reconnecting_call idle call inv
  · intro ms t reply act rest p running locked inv
    exact reconnecting_turn (perform_step act reply p.shared) running locked inv

/-- The admin interface is connected to at most once more often than its websocket broke. -/
theorem admin_connections_le (settings : Settings) (es : List (Event Nat ZomeCall Reply)) :
    ((program settings).moments es (.start .new)).countP adminConnected ≤
      ((program settings).moments es (.start .new)).countP disconnected + 1 := by
  have inv := reconnecting_execute settings es
  have resets : ((program settings).moments es (.start .new)).countP handleReset ≤
      ((program settings).moments es (.start .new)).countP disconnected :=
    countP_le_of_classes Moment.task _ fun t => Nat.le_of_add_right_le (inv.resets t)
  have one := Bool.toNat_le ((program settings).execute es (.start .new)).shared.adminConn.handle.isSome
  have connects := inv.connects
  omega

/-- One call at most connects to the admin interface and one at most to an app, and only where
there is no websocket yet. -/
theorem connecting_exclusive (settings : Settings) (es : List (Event Nat ZomeCall Reply)) :
    let p := (program settings).execute es (.start .new)
    p.Exclusive Section.ConnectsAdmin ∧ p.Exclusive Section.ConnectsApp ∧
      (∀ t, ∀ act ∈ p.tasks t, act.ConnectsAdmin → p.shared.adminConn.handle = none) ∧
      ∀ t, ∀ act ∈ p.tasks t, ∀ target, act.connecting = some target →
        p.shared.connections.lookup target.app.installedAppId = none :=
  ⟨(handle_locked settings es).exclusive, (connections_locked settings es).exclusive,
    fun t act member connects => (reconnecting_execute settings es).missing ⟨t, act, member, connects⟩,
    (sharing_execute settings es).missing⟩

end H2hcLinker.Conductor
