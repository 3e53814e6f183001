import H2hcLinker.ConductorLocks
import H2hcLinker.Past

/-! One connection per app: `connections` never changes an entry, and every zome call goes over the
websocket that is cached for its app. -/
namespace H2hcLinker.Conductor

open HashTable Interleaving Past

variable {settings : Settings} {s s' : AppConn} {act : Section} {reply : Reply}
  {next rest : List Section} {p : Connecting} {ms : List (Moment Nat Section Reply AppConn)} {t : Nat}

abbrev Turn := Moment Nat Section Reply AppConn

/-- A section that runs on under the write lock runs on for the same app, and one that takes it
found no connection of its app. -/
theorem step_connecting (step : Step settings s act reply s' next) {new : Section} {target : Target}
    (pushed : new ∈ next) (connects : new.connecting = some target) :
    act.connecting = some target ∨ s.connections.lookup target.app.installedAppId = none := by
  cases step with
  | waits act reply stuck =>
    cases List.mem_singleton.mp pushed
    exact .inl connects
  | handleFound act reply use admin seeks free found =>
    cases List.mem_singleton.mp pushed
    rw [proceed_connecting] at connects
    rcases seeks with rfl | rfl <;> exact .inl connects
  | adminConnected use =>
    cases List.mem_singleton.mp pushed
    rw [proceed_connecting] at connects
    exact .inl connects
  | connectionTaken target reply free missing =>
    cases List.mem_singleton.mp pushed
    cases connects
    exact .inr missing
  | appConnected target admin request info loop =>
    rcases authorizeNext_cases loop with ⟨_, _, _, _, rfl⟩ | ⟨_, _, rfl⟩ <;>
      cases List.mem_singleton.mp pushed
    · exact .inl connects
    · cases connects
  | authorized target admin app cell cells credentials loop =>
    rcases authorizeNext_cases loop with ⟨_, _, _, _, rfl⟩ | ⟨_, _, rfl⟩ <;>
      cases List.mem_singleton.mp pushed
    · exact .inl connects
    · cases connects
  | dropped act => cases pushed
  | left call result reply => cases pushed
  | handleMissing use reply free | handleTaken use reply free missing =>
    cases List.mem_singleton.mp pushed
    exact .inl connects
  | _ =>
    cases List.mem_singleton.mp pushed
    first
      | exact .inl connects
      | cases connects

/-- A section leaves the cached connections as they are, and a call it makes goes over one of them;
or it adds the connection it has made and calls over it. -/
theorem step_connections (step : Step settings s act reply s' next) :
    (s'.connections = s.connections ∧ ∀ target app, .callZome target app ∈ next →
      act = .callZome target app ∨ s.connections.lookup target.app.installedAppId = some app) ∨
    ∃ target app, act.connecting = some target ∧
      s'.connections = s.connections.insert target.app.installedAppId app ∧
      next = [.callZome target app] := by
  cases step with
  | waits act reply stuck => exact .inl ⟨rfl, fun _ _ pushed => .inl (List.mem_singleton.mp pushed).symm⟩
  | handleFound act reply use admin seeks free found =>
    refine .inl ⟨rfl, fun _ _ pushed => ?_⟩
    cases use <;> cases List.mem_singleton.mp pushed
  | adminConnected use =>
    refine .inl ⟨rfl, fun _ _ pushed => ?_⟩
    cases use <;> cases List.mem_singleton.mp pushed
  | connectionFound act reply target app seeks free found =>
    refine .inl ⟨rfl, fun _ _ pushed => .inr ?_⟩
    cases List.mem_singleton.mp pushed
    exact found
  | appConnected target admin request info loop =>
    rcases authorizeNext_cases loop with ⟨_, _, _, rfl, rfl⟩ | ⟨_, rfl, rfl⟩
    · exact .inl ⟨rfl, fun _ _ pushed => by cases List.mem_singleton.mp pushed⟩
    · exact .inr ⟨target, _, rfl, rfl, rfl⟩
  | authorized target admin app cell cells credentials loop =>
    rcases authorizeNext_cases loop with ⟨_, _, _, rfl, rfl⟩ | ⟨_, rfl, rfl⟩
    · exact .inl ⟨rfl, fun _ _ pushed => by cases List.mem_singleton.mp pushed⟩
    · exact .inr ⟨target, _, rfl, rfl, rfl⟩
  | dropped act => exact .inl ⟨rfl, fun _ _ pushed => by cases pushed⟩
  | left call result reply => exact .inl ⟨rfl, fun _ _ pushed => by cases pushed⟩
  | _ => exact .inl ⟨rfl, fun _ _ pushed => by cases List.mem_singleton.mp pushed⟩

/-- The websocket is the one cached for the app. -/
def CachedFor (target : Target) (app : AppWebsocket) (s : AppConn) : Prop :=
  s.connections.lookup target.app.installedAppId = some app

structure Sharing (ms : List Turn) (p : Connecting) : Prop where
  missing : ∀ t, ∀ act ∈ p.tasks t, ∀ target, act.connecting = some target →
    p.shared.connections.lookup target.app.installedAppId = none
  calling : ∀ t target app, .callZome target app ∈ p.tasks t → CachedFor target app p.shared
  called : ∀ m ∈ ms, ∀ target app, m.act = .callZome target app → CachedFor target app p.shared

theorem sharing_start : Sharing [] (.start .new) where
  missing _ _ member := by cases member
  calling _ _ _ member := by cases member
  called _ member := by cases member

theorem sharing_call (call : ZomeCall) (inv : Sharing ms p) :
    Sharing ms ⟨p.shared, Function.update p.tasks t [.searchCache call]⟩ where
  missing u act member target connects := by
    rcases mem_of_call member with ⟨_, first⟩ | old
    · cases List.mem_singleton.mp first
      cases connects
    · exact inv.missing u act old target connects
  calling u target app member := by
    rcases mem_of_call member with ⟨_, first⟩ | old
    · cases List.mem_singleton.mp first
    · exact inv.calling u target app old
  called := inv.called

theorem sharing_turn (step : Step settings p.shared act reply s' next)
    (running : p.tasks t = act :: rest)
    (locked : p.Locked (fun s => s.locked = true) Section.ConnectsApp) (inv : Sharing ms p) :
    Sharing (ms ++ [⟨p, t, act, reply⟩]) ⟨s', Function.update p.tasks t (next ++ rest)⟩ := by
  have head : act ∈ p.tasks t := by simp [running]
  rcases step_connections step with ⟨same, calls⟩ | ⟨target, app, connects, added, rfl⟩
  · have cached (target : Target) (app : AppWebsocket) :
        CachedFor target app s' ↔ CachedFor target app p.shared := by
      rw [CachedFor, CachedFor, same]
    have here (target : Target) (app : AppWebsocket) (mine : act = .callZome target app) :
        CachedFor target app p.shared := inv.calling t target app (mine ▸ head)
    refine ⟨?_, ?_, ?_⟩
    · intro u new member target connects
      rw [same]
      rcases mem_of_turn running member with ⟨_, pushed⟩ | old
      · rcases step_connecting step pushed connects with already | none
        · exact inv.missing t act head target already
        · exact none
      · exact inv.missing u new old target connects
    · intro u target app member
      rw [cached]
      rcases mem_of_turn running member with ⟨_, pushed⟩ | old
      · exact (calls target app pushed).elim (here target app) id
      · exact inv.calling u target app old
    · intro m member target app mine
      rw [cached]
      rcases List.mem_append.mp member with old | new
      · exact inv.called m old target app mine
      · cases List.mem_singleton.mp new
        exact here target app mine
  · have none : p.shared.connections.lookup target.app.installedAppId = none :=
      inv.missing t act head target connects
    -- no entry is replaced: the app had none
    have kept {target' : Target} {app' : AppWebsocket} (before : CachedFor target' app' p.shared) :
        CachedFor target' app' s' := by
      have other : target'.app.installedAppId ≠ target.app.installedAppId := by
        intro same
        rw [CachedFor, same, none] at before
        cases before
      rw [CachedFor, added, lookup_insert_eq, if_neg other]
      exact before
    have inside : act.ConnectsApp := by simp [Section.ConnectsApp, connects]
    refine ⟨?_, ?_, ?_⟩
    · intro u new member target' connects'
      rcases mem_of_turn running member with ⟨_, pushed⟩ | old
      · cases List.mem_singleton.mp pushed
        cases connects'
      · obtain rfl : t = u := locked.exclusive t u act head new old inside
          (by simp [Section.ConnectsApp, connects'])
        obtain rfl := rest_eq_nil (locked.short t) running
        have last : new = .callZome target app := by simpa using member
        subst last
        cases connects'
    · intro u target' app' member
      rcases mem_of_turn running member with ⟨_, pushed⟩ | old
      · cases List.mem_singleton.mp pushed
        simp [CachedFor, added]
      · exact kept (inv.calling u target' app' old)
    · intro m member target' app' mine
      rcases List.mem_append.mp member with old | new
      · exact kept (inv.called m old target' app' mine)
      · cases List.mem_singleton.mp new
        exact kept (inv.calling t target' app' (mine ▸ head))

theorem sharing_execute (settings : Settings) (es : List (Event Nat ZomeCall Reply)) :
    Sharing ((program settings).moments es (.start .new))
      ((program settings).execute es (.start .new)) := by
  have locked := guarded_of_execute (program settings)
    (fun p => p.Locked (fun s => s.locked = true) Section.ConnectsApp) es (.start .new)
    fun before _ => connections_locked settings before
  refine execute_moments Sharing _ ?_ ?_ es [] _ locked sharing_start
  · intro ms t call p _ inv
    exact sharing_call call inv
  · intro ms t reply act rest p running locked inv
    exact sharing_turn (perform_step act reply p.shared) running locked inv

/-- Every zome call of a run goes over the websocket that stays cached for its app. -/
theorem zome_call_connection (settings : Settings) (es : List (Event Nat ZomeCall Reply)) :
    ∀ m ∈ (program settings).moments es (.start .new), ∀ target app, m.act = .callZome target app →
      CachedFor target app ((program settings).execute es (.start .new)).shared :=
  (sharing_execute settings es).called

def chatSettings : Settings := ⟨⟨[127, 0, 0, 1], 4444⟩, 10, fun _ => sampleDnaText⟩

def chatApp : AppInfo := ⟨"chat", [("main", [.provisioned ⟨sampleDna, alice⟩])]⟩

def chatCall : ZomeCall := ⟨sampleDna, "posts", "list", []⟩

def chatTarget : Target := ⟨chatCall, chatApp, ⟨sampleDna, alice⟩⟩

/-- The second call finds no connection, waits for the lock and then finds the one of the first. -/
def twoCalls : List (Event Nat ZomeCall Reply) :=
  [.call 0 chatCall, .call 1 chatCall] ++
    ([.adminConnected, .adminConnected, .adminConnected, .adminConnected, .apps [chatApp],
      .adminConnected, .adminConnected].map (.turn 0)) ++
    ([.adminConnected, .adminConnected].map (.turn 1)) ++
    ([.adminConnected, .adminConnected, .token [1], .interfaces [⟨9000, .any⟩],
      .appConnected chatApp].map (.turn 0)) ++
    [.turn 1 .adminConnected, .turn 0 (.authorized [2]), .turn 1 .adminConnected,
      .turn 1 (.result []), .turn 0 (.result [])]

def chatWebsocket : AppWebsocket where
  number := 1
  request := connectRequest chatSettings [1] 9000
  cachedAppInfo := chatApp
  credentials := (∅ : Table CellId ExternIO).insert ⟨sampleDna, alice⟩ [2]

theorem zome_call_connection_twoCalls :
    CachedFor chatTarget chatWebsocket
      ((program chatSettings).execute twoCalls (.start .new)).shared := by
  have called : .callZome chatTarget chatWebsocket ∈
      ((program chatSettings).moments twoCalls (.start .new)).map (·.act) := by decide
  obtain ⟨m, member, calls⟩ := List.mem_map.mp called
  exact zome_call_connection chatSettings twoCalls m member chatTarget chatWebsocket calls

end H2hcLinker.Conductor
