import H2hcLinker.Conductor
import H2hcLinker.Locking

/-! What a section of a zome call can do, and the two locks over it: one task at most connects to
the admin interface, and one at most to an app. -/
namespace H2hcLinker.Conductor

open HashTable Interleaving

/-- The lock a section needs is free. -/
def Section.Ready (act : Section) (s : AppConn) : Prop :=
  match act with
  | .handleLookup _ | .handleWrite _ | .handleReset _ _ => s.adminConn.locked = false
  | .connectionLookup _ | .connectionWrite _ => s.locked = false
  | _ => True

/-- The section awaits the conductor. -/
def Section.asks : Section → Bool
  | .adminConnect _ | .listApps _ _ _ | .issueToken _ _ | .listInterfaces _ _ _
  | .attachInterface _ _ _ | .appConnect _ _ _ | .authorize _ _ _ _ _ | .callZome _ _ => true
  | _ => false

/-- The reply answers the section's request, if it has one. -/
def Section.Awaits (act : Section) (reply : Reply) : Prop :=
  match act, reply with
  | .adminConnect _, .adminConnected | .listApps _ _ _, .apps _ | .issueToken _ _, .token _
  | .listInterfaces _ _ _, .interfaces _ | .attachInterface _ _ _, .attached _
  | .appConnect _ _ _, .appConnected _ | .authorize _ _ _ _ _, .authorized _
  | .callZome _ _, .result _ | _, .refused _ => True
  | act, _ => act.asks = false

/-- What a refused request is reported as: a failed connect is logged and hidden. -/
def Section.error (act : Section) (e : ConductorApiError) : LinkerError :=
  match act with
  | .adminConnect _ | .appConnect _ _ _ => .upstreamUnavailable
  | _ => .holochainError e.text

/-- A refusal that `list_apps` answers by reconnecting. -/
def Section.retries (act : Section) (e : ConductorApiError) : Bool :=
  match act, e with
  | .listApps _ _ _, .websocketError _ => true
  | _, _ => false

/-- Everything a section can do. -/
inductive Step (settings : Settings) (s : AppConn) : Section → Reply → AppConn → List Section → Prop where
  | dropped (act : Section) : Step settings s act .dropped (act.release s) []
  | waits (act : Section) (reply : Reply) (stuck : ¬act.Ready s ∨ ¬act.Awaits reply) :
      Step settings s act reply s [act]
  | failed (act : Section) (e : ConductorApiError) (asks : act.asks = true)
      (final : act.retries e = false) :
      Step settings s act (.refused e) (act.release s) [.returned act.call (.error (act.error e))]
  | cached (call : ZomeCall) (reply : Reply) (app : AppInfo) (cellId : CellId)
      (found : findInApps s.appInfoCache call.dnaHash = some (app, cellId)) :
      Step settings s (.searchCache call) reply s [.connectionLookup ⟨call, app, cellId⟩]
  | uncached (call : ZomeCall) (reply : Reply) :
      Step settings s (.searchCache call) reply s [.handleLookup (.listApps call 0)]
  | handleFound (act : Section) (reply : Reply) (use : AdminUse) (admin : AdminWebsocket)
      (seeks : act = .handleLookup use ∨ act = .handleWrite use) (free : s.adminConn.locked = false)
      (found : s.adminConn.handle = some admin) : Step settings s act reply s [use.proceed admin]
  | handleMissing (use : AdminUse) (reply : Reply) (free : s.adminConn.locked = false) :
      Step settings s (.handleLookup use) reply s [.handleWrite use]
  | handleTaken (use : AdminUse) (reply : Reply) (free : s.adminConn.locked = false)
      (missing : s.adminConn.handle = none) :
      Step settings s (.handleWrite use) reply s.lockHandle [.adminConnect use]
  | adminConnected (use : AdminUse) : Step settings s (.adminConnect use) .adminConnected
      (s.setHandle (some ⟨s.opened⟩)).countOpened [use.proceed ⟨s.opened⟩]
  | listed (call : ZomeCall) (attempt : Nat) (admin : AdminWebsocket) (apps : List AppInfo) :
      Step settings s (.listApps call attempt admin) (.apps apps) s [.storeApps call apps]
  | disconnected (call : ZomeCall) (attempt : Nat) (admin : AdminWebsocket) (text : String) :
      Step settings s (.listApps call attempt admin) (.refused (.websocketError text)) s
        [.handleReset call attempt]
  | retried (call : ZomeCall) (attempt : Nat) (reply : Reply) (waited : reply ≠ .dropped)
      (free : s.adminConn.locked = false) (first : attempt + 1 < 2) : Step settings s (.handleReset call attempt) reply (s.setHandle none)
        [.handleLookup (.listApps call (attempt + 1))]
  | exhausted (call : ZomeCall) (attempt : Nat) (reply : Reply) (waited : reply ≠ .dropped)
      (free : s.adminConn.locked = false) (last : ¬attempt + 1 < 2) : Step settings s (.handleReset call attempt) reply (s.setHandle none)
        [.returned call (.error .upstreamUnavailable)]
  | stored (call : ZomeCall) (apps : List AppInfo) (reply : Reply) (app : AppInfo) (cellId : CellId)
      (found : findInApps apps call.dnaHash = some (app, cellId)) :
      Step settings s (.storeApps call apps) reply { s with appInfoCache := apps }
        [.connectionLookup ⟨call, app, cellId⟩]
  | unknown (call : ZomeCall) (apps : List AppInfo) (reply : Reply)
      (missing : findInApps apps call.dnaHash = none) :
      Step settings s (.storeApps call apps) reply { s with appInfoCache := apps } [.returned call
        (.error (.notFound ("No app found with DNA " ++ settings.dnaToStr call.dnaHash)))]
  | connectionFound (act : Section) (reply : Reply) (target : Target) (app : AppWebsocket)
      (seeks : act = .connectionLookup target ∨ act = .connectionWrite target)
      (free : s.locked = false)
      (found : s.connections.lookup target.app.installedAppId = some app) :
      Step settings s act reply s [.callZome target app]
  | connectionMissing (target : Target) (reply : Reply) (free : s.locked = false) :
      Step settings s (.connectionLookup target) reply s [.connectionWrite target]
  | connectionTaken (target : Target) (reply : Reply) (free : s.locked = false)
      (missing : s.connections.lookup target.app.installedAppId = none) :
      Step settings s (.connectionWrite target) reply s.lockConnections
        [.handleLookup (.connectApp target)]
  | issued (target : Target) (admin : AdminWebsocket) (token : ExternIO) :
      Step settings s (.issueToken target admin) (.token token) s [.listInterfaces target admin token]
  | allowed (target : Target) (admin : AdminWebsocket) (token : ExternIO)
      (list : List AppInterfaceInfo) (interface : AppInterfaceInfo)
      (found : list.find? (·.allowedOrigins.isAllowed gatewayOrigin) = some interface) :
      Step settings s (.listInterfaces target admin token) (.interfaces list) s
        [.appConnect target admin (connectRequest settings token interface.port)]
  | unallowed (target : Target) (admin : AdminWebsocket) (token : ExternIO)
      (list : List AppInterfaceInfo) :
      Step settings s (.listInterfaces target admin token) (.interfaces list) s
        [.attachInterface target admin token]
  | attached (target : Target) (admin : AdminWebsocket) (token : ExternIO) (port : UInt16) :
      Step settings s (.attachInterface target admin token) (.attached port) s
        [.appConnect target admin (connectRequest settings token port)]
  | appConnected (target : Target) (admin : AdminWebsocket) (request : ConnectRequest)
      (info : AppInfo) {s' : AppConn} {next : List Section}
      (loop : authorizeNext target admin ⟨s.opened, request, info, ∅⟩ info.provisionedCells s.countOpened =
        (s', next)) :
      Step settings s (.appConnect target admin request) (.appConnected info) s' next
  | authorized (target : Target) (admin : AdminWebsocket) (app : AppWebsocket) (cell : CellId)
      (cells : List CellId) (credentials : ExternIO) {s' : AppConn} {next : List Section}
      (loop : authorizeNext target admin
        { app with credentials := app.credentials.insert cell credentials } cells s = (s', next)) :
      Step settings s (.authorize target admin app cell cells) (.authorized credentials) s' next
  | answered (target : Target) (app : AppWebsocket) (bytes : ExternIO) :
      Step settings s (.callZome target app) (.result bytes) s [.returned target.call (.ok bytes)]
  | left (call : ZomeCall) (result : Except LinkerError ExternIO) (reply : Reply) :
      Step settings s (.returned call result) reply s []

variable {settings : Settings}

/-- `run` takes one of these steps. -/
theorem run_step (act : Section) (reply : Reply) (s : AppConn) (waited : reply ≠ .dropped) :
    Step settings s act reply (run settings act reply s).1 (run settings act reply s).2 := by
  cases act with
  | searchCache call =>
    simp only [run]
    split
    next app cellId found => exact .cached call reply app cellId found
    next => exact .uncached call reply
  | handleLookup use =>
    by_cases free : s.adminConn.locked = false
    · cases found : s.adminConn.handle with
      | some admin => simpa [run, free, found] using .handleFound _ reply use admin (.inl rfl) free found
      | none => simpa [run, free, found] using .handleMissing use reply free
    · simpa [run, free] using .waits (.handleLookup use) reply (.inl free)
  | handleWrite use =>
    by_cases free : s.adminConn.locked = false
    · cases found : s.adminConn.handle with
      | some admin => simpa [run, free, found] using .handleFound _ reply use admin (.inr rfl) free found
      | none => simpa [run, free, found] using .handleTaken use reply free found
    · simpa [run, free] using .waits (.handleWrite use) reply (.inl free)
  | adminConnect use =>
    cases reply with
    | adminConnected => exact .adminConnected use
    | refused e => exact .failed _ e rfl rfl
    | dropped => exact absurd rfl waited
    | _ => exact .waits _ _ (.inr (by simp [Section.Awaits, Section.asks]))
  | listApps call attempt admin =>
    cases reply with
    | apps apps => exact .listed call attempt admin apps
    | refused e =>
      cases e with
      | websocketError text => exact .disconnected call attempt admin text
      | other text => exact .failed _ (.other text) rfl rfl
    | dropped => exact absurd rfl waited
    | _ => exact .waits _ _ (.inr (by simp [Section.Awaits, Section.asks]))
  | handleReset call attempt =>
    by_cases free : s.adminConn.locked = false
    · by_cases first : attempt + 1 < 2
      · simpa [run, free, first] using .retried call attempt reply waited free first
      · simpa [run, free, first] using .exhausted call attempt reply waited free first
    · simpa [run, free] using .waits (.handleReset call attempt) reply (.inl free)
  | storeApps call apps =>
    simp only [run]
    split
    next app cellId found => exact .stored call apps reply app cellId found
    next missing => exact .unknown call apps reply missing
  | connectionLookup target =>
    by_cases free : s.locked = false
    · cases found : s.connections.lookup target.app.installedAppId with
      | some app => simpa [run, free, found] using .connectionFound _ reply target app (.inl rfl) free found
      | none => simpa [run, free, found] using .connectionMissing target reply free
    · simpa [run, free] using .waits (.connectionLookup target) reply (.inl free)
  | connectionWrite target =>
    by_cases free : s.locked = false
    · cases found : s.connections.lookup target.app.installedAppId with
      | some app => simpa [run, free, found] using .connectionFound _ reply target app (.inr rfl) free found
      | none => simpa [run, free, found] using .connectionTaken target reply free found
    · simpa [run, free] using .waits (.connectionWrite target) reply (.inl free)
  | issueToken target admin =>
    cases reply with
    | token token => exact .issued target admin token
    | refused e => exact .failed _ e rfl rfl
    | dropped => exact absurd rfl waited
    | _ => exact .waits _ _ (.inr (by simp [Section.Awaits, Section.asks]))
  | listInterfaces target admin token =>
    cases reply with
    | interfaces list =>
      simp only [run]
      split
      next interface found => exact .allowed target admin token list interface found
      next => exact .unallowed target admin token list
    | refused e => exact .failed _ e rfl rfl
    | dropped => exact absurd rfl waited
    | _ => exact .waits _ _ (.inr (by simp [Section.Awaits, Section.asks]))
  | attachInterface target admin token =>
    cases reply with
    | attached port => exact .attached target admin token port
    | refused e => exact .failed _ e rfl rfl
    | dropped => exact absurd rfl waited
    | _ => exact .waits _ _ (.inr (by simp [Section.Awaits, Section.asks]))
  | appConnect target admin request =>
    cases reply with
    | appConnected info => exact .appConnected target admin request info rfl
    | refused e => exact .failed _ e rfl rfl
    | dropped => exact absurd rfl waited
    | _ => exact .waits _ _ (.inr (by simp [Section.Awaits, Section.asks]))
  | authorize target admin app cell cells =>
    cases reply with
    | authorized credentials => exact .authorized target admin app cell cells credentials rfl
    | refused e => exact .failed _ e rfl rfl
    | dropped => exact absurd rfl waited
    | _ => exact .waits _ _ (.inr (by simp [Section.Awaits, Section.asks]))
  | callZome target app =>
    cases reply with
    | result bytes => exact .answered target app bytes
    | refused e => exact .failed _ e rfl rfl
    | dropped => exact absurd rfl waited
    | _ => exact .waits _ _ (.inr (by simp [Section.Awaits, Section.asks]))
  | returned call result => exact .left call result reply

theorem perform_step (act : Section) (reply : Reply) (s : AppConn) :
    Step settings s act reply (perform settings act reply s).1 (perform settings act reply s).2 := by
  cases reply with
  | dropped => exact .dropped act
  | _ => exact run_step act _ s (by simp)

theorem authorizeNext_cases {target : Target} {admin : AdminWebsocket} {app : AppWebsocket}
    {cells : List CellId} {s s' : AppConn} {next : List Section}
    (loop : authorizeNext target admin app cells s = (s', next)) :
    (∃ cell others, cells = cell :: others ∧ s' = s ∧
      next = [.authorize target admin app cell others]) ∨
    (cells = [] ∧ s' = s.insert target.app.installedAppId app ∧ next = [.callZome target app]) := by
  cases cells with
  | nil =>
    obtain ⟨rfl, rfl⟩ := Prod.mk.inj loop
    exact .inr ⟨rfl, rfl, rfl⟩
  | cons cell others =>
    obtain ⟨rfl, rfl⟩ := Prod.mk.inj loop
    exact .inl ⟨cell, others, rfl, rfl, rfl⟩

theorem step_length {s s' : AppConn} {act : Section} {reply : Reply} {next : List Section}
    (step : Step settings s act reply s' next) : next.length ≤ 1 := by
  cases step with
  | appConnected target admin request info loop =>
    rcases authorizeNext_cases loop with ⟨_, _, _, _, rfl⟩ | ⟨_, _, rfl⟩ <;> simp
  | authorized target admin app cell cells credentials loop =>
    rcases authorizeNext_cases loop with ⟨_, _, _, _, rfl⟩ | ⟨_, _, rfl⟩ <;> simp
  | _ => simp

theorem sequential (settings : Settings) : (program settings).Sequential where
  body _ _ := by simp [program]
  perform act reply s := step_length (perform_step act reply s)

/-- A section under the write lock of `connections`. -/
def Section.ConnectsApp (act : Section) : Prop := act.connecting.isSome = true

def Section.ConnectsAdmin (act : Section) : Prop := act.connectsAdmin = true

@[simp] theorem proceed_connecting (use : AdminUse) (admin : AdminWebsocket) :
    (use.proceed admin).connecting = use.connecting := by
  cases use <;> rfl

@[simp] theorem proceed_connectsAdmin (use : AdminUse) (admin : AdminWebsocket) :
    (use.proceed admin).connectsAdmin = false := by
  cases use <;> rfl

@[simp] theorem proceed_call (use : AdminUse) (admin : AdminWebsocket) :
    (use.proceed admin).call = use.call := by
  cases use <;> rfl

theorem release_locked (act : Section) (s : AppConn) :
    (act.release s).locked = true ↔ s.locked = true ∧ ¬act.ConnectsApp := by
  cases connecting : act.connecting <;> simp [Section.release, Section.ConnectsApp, connecting]

theorem release_handleLocked (act : Section) (s : AppConn) :
    (act.release s).adminConn.locked = true ↔ s.adminConn.locked = true ∧ ¬act.ConnectsAdmin := by
  cases connects : act.connectsAdmin <;> simp [Section.release, Section.ConnectsAdmin, connects]

/-- What becomes of the write lock of `connections`: a call takes it where it is free, keeps it
while it connects, and releases it at the end. -/
theorem step_locked {s s' : AppConn} {act : Section} {reply : Reply} {next : List Section}
    (step : Step settings s act reply s' next) (held : act.ConnectsApp → s.locked = true) :
    (∃ new ∈ next, new.ConnectsApp) ∧ s'.locked = true ∧ (act.ConnectsApp ∨ ¬s.locked = true) ∨
    (∀ new ∈ next, ¬new.ConnectsApp) ∧ (s'.locked = true ↔ s.locked = true ∧ ¬act.ConnectsApp) := by
  cases step with
  | dropped act => exact .inr ⟨by simp, release_locked act s⟩
  | failed act e asks final =>
    exact .inr ⟨by simp [Section.ConnectsApp, Section.connecting], release_locked act s⟩
  | waits act reply stuck =>
    by_cases connects : act.ConnectsApp
    · exact .inl ⟨⟨act, by simp, connects⟩, held connects, .inl connects⟩
    · exact .inr ⟨by simpa using connects, by simp [connects]⟩
  | handleFound act reply use admin seeks free found =>
    rcases seeks with rfl | rfl <;> cases use <;>
      simp_all [Section.ConnectsApp, Section.connecting, AdminUse.proceed, AdminUse.connecting]
  | handleMissing use reply free | handleTaken use reply free missing | adminConnected use =>
    cases use <;> simp_all [Section.ConnectsApp, Section.connecting, AdminUse.connecting,
      AdminUse.proceed, AppConn.lockHandle, AppConn.setHandle, AppConn.countOpened]
  | connectionFound act reply target app seeks free found =>
    rcases seeks with rfl | rfl <;> simp [Section.ConnectsApp, Section.connecting]
  | appConnected target admin request info loop =>
    rcases authorizeNext_cases loop with ⟨cell, others, _, rfl, rfl⟩ | ⟨_, rfl, rfl⟩ <;>
      simp_all [Section.ConnectsApp, Section.connecting, AppConn.countOpened, AppConn.insert]
  | authorized target admin app cell cells credentials loop =>
    rcases authorizeNext_cases loop with ⟨cell, others, _, rfl, rfl⟩ | ⟨_, rfl, rfl⟩ <;>
      simp_all [Section.ConnectsApp, Section.connecting, AppConn.insert]
  | _ => simp_all [Section.ConnectsApp, Section.connecting, AdminUse.connecting, AppConn.setHandle,
      AppConn.lockConnections]

/-- What becomes of the write lock of `handle`. -/
theorem step_handleLocked {s s' : AppConn} {act : Section} {reply : Reply} {next : List Section}
    (step : Step settings s act reply s' next)
    (held : act.ConnectsAdmin → s.adminConn.locked = true) :
    (∃ new ∈ next, new.ConnectsAdmin) ∧ s'.adminConn.locked = true ∧
      (act.ConnectsAdmin ∨ ¬s.adminConn.locked = true) ∨
    (∀ new ∈ next, ¬new.ConnectsAdmin) ∧
      (s'.adminConn.locked = true ↔ s.adminConn.locked = true ∧ ¬act.ConnectsAdmin) := by
  cases step with
  | dropped act => exact .inr ⟨by simp, release_handleLocked act s⟩
  | failed act e asks final =>
    exact .inr ⟨by simp [Section.ConnectsAdmin, Section.connectsAdmin], release_handleLocked act s⟩
  | waits act reply stuck =>
    by_cases connects : act.ConnectsAdmin
    · exact .inl ⟨⟨act, by simp, connects⟩, held connects, .inl connects⟩
    · exact .inr ⟨by simpa using connects, by simp [connects]⟩
  | handleFound act reply use admin seeks free found =>
    rcases seeks with rfl | rfl <;> cases use <;>
      simp [Section.ConnectsAdmin, Section.connectsAdmin, AdminUse.proceed]
  | adminConnected use =>
    cases use <;> simp [Section.ConnectsAdmin, Section.connectsAdmin, AdminUse.proceed,
      AppConn.setHandle, AppConn.countOpened]
  | connectionFound act reply target app seeks free found =>
    rcases seeks with rfl | rfl <;> simp [Section.ConnectsAdmin, Section.connectsAdmin]
  | appConnected target admin request info loop =>
    rcases authorizeNext_cases loop with ⟨cell, others, _, rfl, rfl⟩ | ⟨_, rfl, rfl⟩ <;>
      simp [Section.ConnectsAdmin, Section.connectsAdmin, AppConn.countOpened, AppConn.insert]
  | authorized target admin app cell cells credentials loop =>
    rcases authorizeNext_cases loop with ⟨cell, others, _, rfl, rfl⟩ | ⟨_, rfl, rfl⟩ <;>
      simp [Section.ConnectsAdmin, Section.connectsAdmin, AppConn.insert]
  | _ => simp_all [Section.ConnectsAdmin, Section.connectsAdmin, AppConn.setHandle,
      AppConn.lockHandle, AppConn.lockConnections]

/-- The write lock of `connections` guards the making of an app connection. -/
theorem guards_connections (settings : Settings) :
    (program settings).Guards (fun s => s.locked = true) Section.ConnectsApp where
  outside _ _ act member := by simp_all [program, Section.ConnectsApp, Section.connecting]
  step act reply s held := step_locked (perform_step act reply s) held

/-- The write lock of `handle` guards the connecting to the admin interface. -/
theorem guards_handle (settings : Settings) :
    (program settings).Guards (fun s => s.adminConn.locked = true) Section.ConnectsAdmin where
  outside _ _ act member := by simp_all [program, Section.ConnectsAdmin, Section.connectsAdmin]
  step act reply s held := step_handleLocked (perform_step act reply s) held

abbrev Connecting := Pool Nat Section AppConn

theorem connections_locked (settings : Settings) (es : List (Event Nat ZomeCall Reply)) :
    ((program settings).execute es (.start .new)).Locked (fun s => s.locked = true)
      Section.ConnectsApp :=
  locked_execute (guards_connections settings) (sequential settings) (by simp [AppConn.new]) es

theorem handle_locked (settings : Settings) (es : List (Event Nat ZomeCall Reply)) :
    ((program settings).execute es (.start .new)).Locked (fun s => s.adminConn.locked = true)
      Section.ConnectsAdmin :=
  locked_execute (guards_handle settings) (sequential settings) (by simp [AppConn.new]) es

end H2hcLinker.Conductor
