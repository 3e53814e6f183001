import H2hcLinker.Config
import H2hcLinker.Interleaving

/-! Zome calls over the conductor: `AppConn` and the `AdminConn` under it, cut at their awaits.
Both keep a lock while they connect; a section that finds the lock taken stays where it is, and
so does one whose reply has not come. A call may be dropped at any await, and its locks with it. -/
namespace H2hcLinker.Conductor

open HashTable Interleaving

abbrev ExternIO := List UInt8

structure CellId where
  dnaHash : DnaHash
  agentPubkey : AgentPubKey
  deriving DecidableEq, Repr

inductive CellInfo where
  | provisioned (cellId : CellId)
  | cloned (cellId : CellId)
  | stem (dnaHash : DnaHash)
  deriving DecidableEq, Repr

/-- An installed app with the cells of each of its roles. -/
structure AppInfo where
  installedAppId : String
  cellInfo : List (String × List CellInfo)
  deriving DecidableEq, Repr

def CellInfo.provisionedCell : CellInfo → Option CellId
  | .provisioned cellId => some cellId
  | _ => none

/-- The provisioned cells, in the order of the roles. -/
def AppInfo.provisionedCells (app : AppInfo) : List CellId :=
  (app.cellInfo.flatMap (·.2)).filterMap CellInfo.provisionedCell

/-- The first provisioned cell of the DNA, with its app. -/
def findInApps : List AppInfo → DnaHash → Option (AppInfo × CellId)
  | [], _ => none
  | app :: apps, dnaHash =>
    match app.provisionedCells.find? (·.dnaHash = dnaHash) with
    | some cellId => some (app, cellId)
    | none => findInApps apps dnaHash

/-- Websockets are numbered as they are opened. -/
structure AdminWebsocket where
  number : Nat
  deriving DecidableEq, Repr

inductive AllowedOrigins where
  | any
  | origins (list : List String)
  deriving DecidableEq, Repr

def AllowedOrigins.isAllowed (allowed : AllowedOrigins) (origin : String) : Bool :=
  match allowed with
  | .any => true
  | .origins list => list.contains origin

structure AppInterfaceInfo where
  port : UInt16
  allowedOrigins : AllowedOrigins
  deriving DecidableEq, Repr

/-- Origin header for gateway connections. -/
def gatewayOrigin : String := "h2hc-linker"

/-- What an app websocket is opened with. -/
structure ConnectRequest where
  ip : List UInt8
  port : UInt16
  origin : String
  requestTimeout : Nat
  token : ExternIO
  deriving DecidableEq, Repr

/-- An app websocket with the app info it reported and the credentials of its signer. -/
structure AppWebsocket where
  number : Nat
  request : ConnectRequest
  cachedAppInfo : AppInfo
  credentials : Table CellId ExternIO
  deriving DecidableEq

structure AdminConn where
  handle : Option AdminWebsocket
  /-- A call holds the write lock of `handle` over an await. -/
  locked : Bool
  deriving DecidableEq

structure AppConn where
  adminConn : AdminConn
  connections : Table String AppWebsocket
  /-- A call holds the write lock of `connections` over an await. -/
  locked : Bool
  appInfoCache : List AppInfo
  opened : Nat
  deriving DecidableEq

def AppConn.new : AppConn := ⟨⟨none, false⟩, ∅, false, [], 0⟩

/-- What `AppConn` is configured with. -/
structure Settings where
  adminAddr : Config.SocketAddr
  zomeCallTimeout : Nat
  dnaToStr : DnaHash → String

structure ZomeCall where
  dnaHash : DnaHash
  zomeName : String
  fnName : String
  payload : ExternIO
  deriving DecidableEq, Repr

/-- A call with the app and the cell found for it. -/
structure Target where
  call : ZomeCall
  app : AppInfo
  cellId : CellId
  deriving DecidableEq, Repr

/-- What the admin websocket is wanted for: the attempts of `list_apps`, or `connect_app`. -/
inductive AdminUse where
  | listApps (call : ZomeCall) (attempt : Nat)
  | connectApp (target : Target)
  deriving DecidableEq, Repr

inductive ConductorApiError where
  | websocketError (text : String)
  | other (text : String)
  deriving DecidableEq, Repr

def ConductorApiError.text : ConductorApiError → String
  | .websocketError text | .other text => text

/-- What a section's await comes back with. -/
inductive Reply where
  | adminConnected
  | apps (list : List AppInfo)
  | token (token : ExternIO)
  | interfaces (list : List AppInterfaceInfo)
  | attached (port : UInt16)
  | appConnected (info : AppInfo)
  | authorized (credentials : ExternIO)
  | result (bytes : ExternIO)
  | refused (error : ConductorApiError)
  /-- Nobody waits for the call any more. -/
  | dropped
  deriving DecidableEq, Repr

inductive Section where
  | searchCache (call : ZomeCall)
  | handleLookup (use : AdminUse)
  | handleWrite (use : AdminUse)
  | adminConnect (use : AdminUse)
  | listApps (call : ZomeCall) (attempt : Nat) (admin : AdminWebsocket)
  | handleReset (call : ZomeCall) (attempt : Nat)
  | storeApps (call : ZomeCall) (apps : List AppInfo)
  | connectionLookup (target : Target)
  | connectionWrite (target : Target)
  | issueToken (target : Target) (admin : AdminWebsocket)
  | listInterfaces (target : Target) (admin : AdminWebsocket) (token : ExternIO)
  | attachInterface (target : Target) (admin : AdminWebsocket) (token : ExternIO)
  | appConnect (target : Target) (admin : AdminWebsocket) (request : ConnectRequest)
  | authorize (target : Target) (admin : AdminWebsocket) (app : AppWebsocket) (cell : CellId)
      (cells : List CellId)
  | callZome (target : Target) (app : AppWebsocket)
  /-- `call_zome` returns. -/
  | returned (call : ZomeCall) (result : Except LinkerError ExternIO)
  deriving DecidableEq

def AdminUse.call : AdminUse → ZomeCall
  | .listApps call _ => call
  | .connectApp target => target.call

def AdminUse.proceed (admin : AdminWebsocket) : AdminUse → Section
  | .listApps call attempt => .listApps call attempt admin
  | .connectApp target => .issueToken target admin

/-- The app whose connection is being made. -/
def AdminUse.connecting : AdminUse → Option Target
  | .listApps _ _ => none
  | .connectApp target => some target

def Section.call : Section → ZomeCall
  | .searchCache call | .listApps call _ _ | .handleReset call _ | .storeApps call _
  | .returned call _ => call
  | .handleLookup use | .handleWrite use | .adminConnect use => use.call
  | .connectionLookup target | .connectionWrite target | .issueToken target _
  | .listInterfaces target _ _ | .attachInterface target _ _ | .appConnect target _ _
  | .authorize target _ _ _ _ | .callZome target _ => target.call

/-- The app a section connects to, under the write lock of `connections`. -/
def Section.connecting : Section → Option Target
  | .handleLookup use | .handleWrite use | .adminConnect use => use.connecting
  | .issueToken target _ | .listInterfaces target _ _ | .attachInterface target _ _
  | .appConnect target _ _ | .authorize target _ _ _ _ => some target
  | _ => none

/-- A section that runs under the write lock of `handle`. -/
def Section.connectsAdmin : Section → Bool
  | .adminConnect _ => true
  | _ => false

/-- The guards a section holds are dropped. -/
def Section.release (act : Section) (s : AppConn) : AppConn :=
  { s with
    adminConn.locked := if act.connectsAdmin then false else s.adminConn.locked
    locked := if act.connecting.isSome then false else s.locked }

/-- An error leaves the call where it stands. -/
def Section.fail (act : Section) (error : LinkerError) (s : AppConn) : AppConn × List Section :=
  (act.release s, [.returned act.call (.error error)])

def AppConn.setHandle (handle : Option AdminWebsocket) (s : AppConn) : AppConn :=
  { s with adminConn := ⟨handle, false⟩ }

def AppConn.lockHandle (s : AppConn) : AppConn := { s with adminConn.locked := true }

def AppConn.lockConnections (s : AppConn) : AppConn := { s with locked := true }

/-- A websocket has been opened. -/
def AppConn.countOpened (s : AppConn) : AppConn := { s with opened := s.opened + 1 }

/-- The connection is cached and the write lock of `connections` released. -/
def AppConn.insert (installedAppId : String) (app : AppWebsocket) (s : AppConn) : AppConn :=
  { s with connections := s.connections.insert installedAppId app, locked := false }

/-- The loop over the provisioned cells; behind it the connection is cached. -/
def authorizeNext (target : Target) (admin : AdminWebsocket) (app : AppWebsocket)
    (cells : List CellId) (s : AppConn) : AppConn × List Section :=
  match cells with
  | cell :: cells => (s, [.authorize target admin app cell cells])
  | [] => (s.insert target.app.installedAppId app, [.callZome target app])

def connectRequest (settings : Settings) (token : ExternIO) (port : UInt16) : ConnectRequest where
  ip := settings.adminAddr.ip
  port := port
  origin := gatewayOrigin
  requestTimeout := settings.zomeCallTimeout
  token := token

/-- One section of a call that is still waited for. -/
def run (settings : Settings) (act : Section) (reply : Reply) (s : AppConn) :
    AppConn × List Section :=
  match act with
  | .searchCache call =>
    (s, match findInApps s.appInfoCache call.dnaHash with
      | some (app, cellId) => [.connectionLookup ⟨call, app, cellId⟩]
      | none => [.handleLookup (.listApps call 0)])
  | .handleLookup use =>
    if s.adminConn.locked then (s, [act])
    else match s.adminConn.handle with
      | some admin => (s, [use.proceed admin])
      | none => (s, [.handleWrite use])
  | .handleWrite use =>
    if s.adminConn.locked then (s, [act])
    else match s.adminConn.handle with
      | some admin => (s, [use.proceed admin])
      | none => (s.lockHandle, [.adminConnect use])
  | .adminConnect use =>
    match reply with
    | .adminConnected => ((s.setHandle (some ⟨s.opened⟩)).countOpened, [use.proceed ⟨s.opened⟩])
    | .refused _ => act.fail .upstreamUnavailable s
    | _ => (s, [act])
  | .listApps call attempt _ =>
    match reply with
    | .apps apps => (s, [.storeApps call apps])
    | .refused (.websocketError _) => (s, [.handleReset call attempt])
    | .refused e => act.fail (.holochainError e.text) s
    | _ => (s, [act])
  | .handleReset call attempt =>
    if s.adminConn.locked then (s, [act])
    else (s.setHandle none,
      if attempt + 1 < 2 then [.handleLookup (.listApps call (attempt + 1))]
      else [.returned call (.error .upstreamUnavailable)])
  | .storeApps call apps =>
    ({ s with appInfoCache := apps },
      match findInApps apps call.dnaHash with
      | some (app, cellId) => [.connectionLookup ⟨call, app, cellId⟩]
      | none => [.returned call
          (.error (.notFound ("No app found with DNA " ++ settings.dnaToStr call.dnaHash)))])
  | .connectionLookup target =>
    if s.locked then (s, [act])
    else match s.connections.lookup target.app.installedAppId with
      | some app => (s, [.callZome target app])
      | none => (s, [.connectionWrite target])
  | .connectionWrite target =>
    if s.locked then (s, [act])
    else match s.connections.lookup target.app.installedAppId with
      | some app => (s, [.callZome target app])
      | none => (s.lockConnections, [.handleLookup (.connectApp target)])
  | .issueToken target admin =>
    match reply with
    | .token token => (s, [.listInterfaces target admin token])
    | .refused e => act.fail (.holochainError e.text) s
    | _ => (s, [act])
  | .listInterfaces target admin token =>
    match reply with
    | .interfaces list =>
      (s, match list.find? (·.allowedOrigins.isAllowed gatewayOrigin) with
        | some interface => [.appConnect target admin (connectRequest settings token interface.port)]
        | none => [.attachInterface target admin token])
    | .refused e => act.fail (.holochainError e.text) s
    | _ => (s, [act])
  | .attachInterface target admin token =>
    match reply with
    | .attached port => (s, [.appConnect target admin (connectRequest settings token port)])
    | .refused e => act.fail (.holochainError e.text) s
    | _ => (s, [act])
  | .appConnect target admin request =>
    match reply with
    | .appConnected info =>
      authorizeNext target admin ⟨s.opened, request, info, ∅⟩ info.provisionedCells s.countOpened
    | .refused _ => act.fail .upstreamUnavailable s
    | _ => (s, [act])
  | .authorize target admin app cell cells =>
    match reply with
    | .authorized credentials =>
      authorizeNext target admin
        { app with credentials := app.credentials.insert cell credentials } cells s
    | .refused e => act.fail (.holochainError e.text) s
    | _ => (s, [act])
  | .callZome target _ =>
    match reply with
    | .result bytes => (s, [.returned target.call (.ok bytes)])
    | .refused e => act.fail (.holochainError e.text) s
    | _ => (s, [act])
  | .returned _ _ => (s, [])

def perform (settings : Settings) (act : Section) (reply : Reply) (s : AppConn) :
    AppConn × List Section :=
  match reply with
  | .dropped => (act.release s, [])
  | reply => run settings act reply s

/-- Any number of concurrent calls, numbered by their task. -/
def program (settings : Settings) : Program Nat ZomeCall Section Reply AppConn where
  body _ call := [.searchCache call]
  perform := perform settings

end H2hcLinker.Conductor
