import H2hcLinker.ConductorConnections

/-! What an app websocket has behind it before a zome call goes over it: a token that the conductor
issued for the app, a port that it offered to the gateway's origin, and credentials that it granted
for every provisioned cell that the websocket reported. -/
namespace H2hcLinker.Conductor

open HashTable Interleaving Past

variable {settings : Settings} {s s' : AppConn} {act new : Section} {reply : Reply}
  {next rest : List Section} {p : Connecting} {ms : List Turn} {m : Turn} {t : Nat}
  {installedAppId : String} {app : AppWebsocket} {cell : CellId} {cells : List CellId}

/-- The conductor issued the token for the app. -/
def TokenIssued (installedAppId : String) (token : ExternIO) (_ : List Turn) (m : Turn) : Prop :=
  ∃ target admin, m.act = .issueToken target admin ∧ m.input = .token token ∧
    target.app.installedAppId = installedAppId

/-- A call that holds the token was told of the port: the conductor listed it as open to the
gateway's origin, or attached it. -/
def PortOffered (installedAppId : String) (token : ExternIO) (port : UInt16) (_ : List Turn)
    (m : Turn) : Prop :=
  ∃ target admin, target.app.installedAppId = installedAppId ∧
    (m.act = .attachInterface target admin token ∧ m.input = .attached port ∨
      ∃ list, m.act = .listInterfaces target admin token ∧ m.input = .interfaces list ∧
        ∃ interface ∈ list, interface.port = port ∧
          interface.allowedOrigins.isAllowed gatewayOrigin)

def Authorized (cell : CellId) (credentials : ExternIO) (_ : List Turn) (m : Turn) : Prop :=
  ∃ target admin app cells, m.act = .authorize target admin app cell cells ∧
    m.input = .authorized credentials

/-- The request is the configured one, with a token for the app and a port on offer. -/
structure ConnectRequest.Entitled (settings : Settings) (installedAppId : String) (ms : List Turn)
    (request : ConnectRequest) : Prop where
  configured : request = connectRequest settings request.token request.port
  token : Once (TokenIssued installedAppId request.token) ms
  port : Once (PortOffered installedAppId request.token request.port) ms

/-- The websocket was opened for the app, and of the cells it reported only the listed ones still
lack credentials. -/
structure AppWebsocket.Prepared (settings : Settings) (installedAppId : String) (ms : List Turn)
    (app : AppWebsocket) (cells : List CellId) : Prop where
  request : app.request.Entitled settings installedAppId ms
  signs : ∀ cell ∈ app.cachedAppInfo.provisionedCells, cell ∈ cells ∨
    ∃ credentials, app.credentials.lookup cell = some credentials ∧ Once (Authorized cell credentials) ms

/-- What is behind a section. -/
def Section.Backed (settings : Settings) (ms : List Turn) : Section → Prop
  | .listInterfaces target _ token | .attachInterface target _ token =>
    Once (TokenIssued target.app.installedAppId token) ms
  | .appConnect target _ request => request.Entitled settings target.app.installedAppId ms
  | .authorize target _ app cell cells =>
    app.Prepared settings target.app.installedAppId ms (cell :: cells)
  | .callZome target app => app.Prepared settings target.app.installedAppId ms []
  | _ => True

theorem ConnectRequest.Entitled.later {request : ConnectRequest}
    (entitled : request.Entitled settings installedAppId ms) :
    request.Entitled settings installedAppId (ms ++ [m]) :=
  ⟨entitled.configured, entitled.token.later, entitled.port.later⟩

theorem AppWebsocket.Prepared.later (prepared : app.Prepared settings installedAppId ms cells) :
    app.Prepared settings installedAppId (ms ++ [m]) cells where
  request := prepared.request.later
  signs cell reported := (prepared.signs cell reported).imp_right
    fun ⟨credentials, found, granted⟩ => ⟨credentials, found, granted.later⟩

theorem Section.Backed.later (backed : act.Backed settings ms) : act.Backed settings (ms ++ [m]) := by
  cases act with
  | listInterfaces target admin token => exact Once.later backed
  | attachInterface target admin token => exact Once.later backed
  | appConnect target admin request => exact ConnectRequest.Entitled.later backed
  | authorize target admin app cell cells => exact AppWebsocket.Prepared.later backed
  | callZome target app => exact AppWebsocket.Prepared.later backed
  | _ => trivial

/-- Credentials that the conductor grants for a cell go to the signer. -/
theorem AppWebsocket.Prepared.add (prepared : app.Prepared settings installedAppId ms (cell :: cells))
    {credentials : ExternIO} (granted : Once (Authorized cell credentials) ms) :
    ({ app with credentials := app.credentials.insert cell credentials } : AppWebsocket).Prepared
      settings installedAppId ms cells where
  request := prepared.request
  signs other reported := by
    by_cases same : other = cell
    · subst same
      exact .inr ⟨credentials, by simp, granted⟩
    · rcases prepared.signs other reported with waiting | ⟨old, found, given⟩
      · exact .inl ((List.mem_cons.mp waiting).resolve_left same)
      · exact .inr ⟨old, by rw [lookup_insert_eq, if_neg same]; exact found, given⟩

/-- Every cached connection is fully prepared. -/
def AppConn.Prepared (settings : Settings) (ms : List Turn) (s : AppConn) : Prop :=
  ∀ installedAppId app, s.connections.lookup installedAppId = some app →
    app.Prepared settings installedAppId ms []

theorem AppConn.Prepared.later (prepared : s.Prepared settings ms) : s.Prepared settings (ms ++ [m]) :=
  fun installedAppId app found => (prepared installedAppId app found).later

theorem AppConn.Prepared.insert (prepared : s.Prepared settings ms)
    (added : app.Prepared settings installedAppId ms [])
    (same : s'.connections = s.connections.insert installedAppId app) : s'.Prepared settings ms := by
  intro id other found
  rw [same, lookup_insert_eq] at found
  split at found
  next mine =>
    cases found
    exact mine ▸ added
  next => exact prepared id other found

/-- The loop over the cells ends with all of them done. -/
theorem backed_authorizeNext {target : Target} {admin : AdminWebsocket}
    (loop : authorizeNext target admin app cells s = (s', next))
    (prepared : app.Prepared settings target.app.installedAppId ms cells)
    (cached : s.Prepared settings ms) :
    (∀ new ∈ next, new.Backed settings ms) ∧ s'.Prepared settings ms := by
  rcases authorizeNext_cases loop with ⟨cell, others, rfl, rfl, rfl⟩ | ⟨rfl, rfl, rfl⟩
  · refine ⟨?_, cached⟩
    simpa [Section.Backed] using prepared
  · refine ⟨?_, cached.insert prepared rfl⟩
    simpa [Section.Backed] using prepared

theorem step_backed (step : Step settings p.shared act reply s' next)
    (backed : act.Backed settings ms) (prepared : p.shared.Prepared settings ms) :
    (∀ new ∈ next, new.Backed settings (ms ++ [⟨p, t, act, reply⟩])) ∧
      s'.Prepared settings (ms ++ [⟨p, t, act, reply⟩]) := by
  have kept := backed.later (m := ⟨p, t, act, reply⟩)
  have cached := prepared.later (m := ⟨p, t, act, reply⟩)
  cases step with
  | dropped act => exact ⟨by simp, cached⟩
  | left call result reply => exact ⟨by simp, cached⟩
  | waits act reply stuck => exact ⟨by simpa using kept, cached⟩
  | handleFound act reply use admin seeks free found =>
    refine ⟨?_, cached⟩
    cases use <;> simp [AdminUse.proceed, Section.Backed]
  | adminConnected use =>
    refine ⟨?_, cached⟩
    cases use <;> simp [AdminUse.proceed, Section.Backed]
  | connectionFound act reply target app seeks free found =>
    refine ⟨?_, cached⟩
    simpa [Section.Backed] using cached _ app found
  | issued target admin token =>
    refine ⟨?_, cached⟩
    have fresh : Once (TokenIssued target.app.installedAppId token)
        (ms ++ [⟨p, t, .issueToken target admin, .token token⟩]) :=
      since_now ⟨target, admin, rfl, rfl, rfl⟩
    simpa [Section.Backed] using fresh
  | allowed target admin token list interface found =>
    refine ⟨?_, cached⟩
    have offered : Once (PortOffered target.app.installedAppId token interface.port)
        (ms ++ [⟨p, t, .listInterfaces target admin token, .interfaces list⟩]) :=
      since_now ⟨target, admin, rfl, .inr ⟨list, rfl, rfl, interface,
        List.mem_of_find?_eq_some found, rfl, by simpa using List.find?_some found⟩⟩
    simpa [Section.Backed] using ⟨rfl, kept, offered⟩
  | unallowed target admin token list => exact ⟨by simpa [Section.Backed] using kept, cached⟩
  | attached target admin token port =>
    refine ⟨?_, cached⟩
    have offered : Once (PortOffered target.app.installedAppId token port)
        (ms ++ [⟨p, t, .attachInterface target admin token, .attached port⟩]) :=
      since_now ⟨target, admin, rfl, .inl ⟨rfl, rfl⟩⟩
    simpa [Section.Backed] using ⟨rfl, kept, offered⟩
  | appConnected target admin request info loop =>
    exact backed_authorizeNext loop ⟨kept, fun cell reported => .inl reported⟩ cached
  | authorized target admin app cell cells credentials loop =>
    have granted : Once (Authorized cell credentials)
        (ms ++ [⟨p, t, .authorize target admin app cell cells, .authorized credentials⟩]) :=
      since_now ⟨target, admin, app, cells, rfl, rfl⟩
    exact backed_authorizeNext loop (AppWebsocket.Prepared.add kept granted) cached
  | _ => exact ⟨by simp [Section.Backed], cached⟩

/-- The turn ran with everything it needs behind it. -/
def RanBacked (settings : Settings) (before : List Turn) (m : Turn) : Prop :=
  m.act.Backed settings before

structure Backing (settings : Settings) (ms : List Turn) (p : Connecting) : Prop where
  prepared : p.shared.Prepared settings ms
  backed : ∀ t, ∀ act ∈ p.tasks t, act.Backed settings ms
  ran : Always (RanBacked settings) ms

theorem backing_execute (settings : Settings) (es : List (Event Nat ZomeCall Reply)) :
    Backing settings ((program settings).moments es (.start .new))
      ((program settings).execute es (.start .new)) := by
  refine execute_moments (Backing settings) (fun _ _ _ _ => True) ?_ ?_ es [] _
    (guarded_trivial es _) ⟨?_, ?_, always_nil⟩
  · intro ms t call p _ inv
    refine ⟨inv.prepared, ?_, inv.ran⟩
    intro u act member
    rcases mem_of_call member with ⟨_, first⟩ | old
    · cases List.mem_singleton.mp first
      trivial
    · exact inv.backed u act old
  · intro ms t reply act rest p running _ inv
    have head : act ∈ p.tasks t := by simp [running]
    have mine := inv.backed t act head
    obtain ⟨pushed, prepared⟩ := step_backed (t := t) (perform_step act reply p.shared) mine inv.prepared
    refine ⟨prepared, ?_, inv.ran.snoc mine⟩
    intro u new member
    rcases mem_of_turn running member with ⟨_, fresh⟩ | old
    · exact pushed new fresh
    · exact (inv.backed u new old).later
  · intro id app found
    simp [AppConn.new, Pool.start] at found
  · intro t act member
    cases member

/-- A zome call goes over a websocket that was opened with a token the conductor issued for that
app, and that can sign for every provisioned cell the websocket reported. -/
theorem zome_call_prepared (settings : Settings) (es : List (Event Nat ZomeCall Reply)) :
    Always (fun before m => ∀ target app, m.act = .callZome target app →
      app.Prepared settings target.app.installedAppId before [])
      ((program settings).moments es (.start .new)) := by
  intro before m after split target app calls
  have ran := (backing_execute settings es).ran before m after split
  rw [RanBacked, calls] at ran
  exact ran

end H2hcLinker.Conductor
