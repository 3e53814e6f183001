import H2hcLinker.Registration
import H2hcLinker.HandleSocket

/-! The configuration that the linker reads from its environment, and the admin url that it derives
from its public one. -/
namespace H2hcLinker.Config

open Registration HandleSocket

structure SocketAddr where
  ip : List UInt8
  port : UInt16

inductive SessionStoreConfig where
  | memory
  | sqlite (path : String)

inductive ReportConfig where
  | none
  | jsonLines (daysRetained fetchedOpIntervalS : Nat)

structure IdentityConfig where
  keyFile : String
  privateKeyBase64 : Option String

/-- Sizes count bytes, durations nanoseconds; a path is its text. -/
structure Configuration where
  conductorUrl : Option SocketAddr
  bootstrapUrl : String
  relayUrl : Option String
  payloadLimitBytes : Nat
  websocket : WebSocketConfig
  zomeCallTimeout : Nat
  adminSecret : Option String
  sessionStore : SessionStoreConfig
  report : ReportConfig
  reportPath : String
  identity : IdentityConfig
  registration : Option RegistrationConfig

def Configuration.default : Configuration where
  conductorUrl := none
  bootstrapUrl := ""
  relayUrl := none
  payloadLimitBytes := 20 * 1024 * 1024
  websocket := .default
  zomeCallTimeout := seconds 10
  adminSecret := none
  sessionStore := .memory
  report := .none
  reportPath := "/tmp/h2hc-linker-reports"
  identity := ⟨"./linker-key.ed25519", none⟩
  registration := none

/-- A parsed url: its scheme, and all that follows it in the serialised form. -/
structure Url where
  scheme : String
  rest : String
  deriving DecidableEq

/-- The parsers that the configuration calls; an error is its text. -/
structure Parsers where
  url : String → Except String Url
  socketAddr : String → Except String SocketAddr
  /-- `str::to_lowercase`. -/
  toLowercase : String → String

/-- The variables that are set to Unicode text. -/
abbrev Environment := String → Option String

/-- `parse` of an unsigned type, once past the sign. -/
def parseDigits (bits acc : Nat) : List Char → Except String Nat
  | [] => .ok acc
  | c :: rest =>
    if ¬c.isDigit then .error "invalid digit found in string"
    else
      let next := acc * 10 + (c.toNat - '0'.toNat)
      if next < 2 ^ bits then parseDigits bits next rest
      else .error "number too large to fit in target type"

def parseUnsigned (bits : Nat) (s : String) : Except String Nat :=
  match s.toList with
  | [] => .error "cannot parse integer from empty string"
  | ['+'] => .error "invalid digit found in string"
  | '+' :: digits => parseDigits bits 0 digits
  | digits => parseDigits bits 0 digits

/-- `.ok().and_then(|v| v.parse().ok()).unwrap_or(default)`. -/
def unsignedOr (bits default : Nat) (value : Option String) : Nat :=
  (value.bind fun v => (parseUnsigned bits v).toOption).getD default

/-- `trim_start_matches`: the prefix goes as often as it is there. -/
def trimStartMatches (pre text : List Char) : List Char :=
  (fun rest => (pre.isPrefixOf? rest).getD rest)^[text.length] text

variable (parsers : Parsers) (env : Environment)

def reportFromEnv : Except String ReportConfig :=
  match env "H2HC_LINKER_REPORT" with
  | none => .ok .none
  | some reportType =>
    let other := parsers.toLowercase reportType
    if other = "json_lines" ∨ other = "jsonlines" ∨ other = "jsonl" then
      .ok (.jsonLines (unsignedOr 32 5 (env "H2HC_LINKER_REPORT_DAYS_RETAINED"))
        (unsignedOr 32 60 (env "H2HC_LINKER_REPORT_INTERVAL_S")))
    else if other = "none" ∨ other = "" then .ok .none
    else
      .error ("Unknown H2HC_LINKER_REPORT value: '" ++ other ++ "'. Use 'json_lines' or 'none'.")

/-- Parse the url in a variable and check its scheme. -/
def checkUrl (variableName url : String) (schemes : List String) (spelled : String) :
    Except String Unit :=
  match parsers.url url with
  | .error e => .error (variableName ++ " is not a valid URL: " ++ e)
  | .ok parsed =>
    if parsed.scheme ∈ schemes then .ok ()
    else .error (variableName ++ " must use " ++ spelled ++ " scheme, got: " ++ parsed.scheme)

def checkJoiningServiceUrl (url : String) : Except String Unit :=
  checkUrl parsers "H2HC_LINKER_JOINING_SERVICE_URL" url ["http", "https"] "http:// or https://"

def checkPublicUrl (url : String) : Except String Unit :=
  checkUrl parsers "H2HC_LINKER_PUBLIC_URL" url ["ws", "wss", "http", "https"]
    "ws://, wss://, http://, or https://"

def registrationFromEnv : Except String (Option RegistrationConfig) :=
  match env "H2HC_LINKER_JOINING_SERVICE_URL", env "H2HC_LINKER_PUBLIC_URL" with
  | some jsUrl, some pubUrl => do
    checkJoiningServiceUrl parsers jsUrl
    checkPublicUrl parsers pubUrl
    return some {
      joiningServiceUrl := jsUrl
      inviteToken := env "H2HC_LINKER_INVITE_TOKEN"
      publicUrl := pubUrl
      initialHeartbeatIntervalSecs :=
        unsignedOr 64 200 (env "H2HC_LINKER_HEARTBEAT_INTERVAL_SECS") }
  | some _, none => .error ("H2HC_LINKER_JOINING_SERVICE_URL is set but H2HC_LINKER_PUBLIC_URL is " ++
      "missing. Both are required for registration.")
  | none, some _ => .error ("H2HC_LINKER_PUBLIC_URL is set but H2HC_LINKER_JOINING_SERVICE_URL is " ++
      "missing. Both are required for registration.")
  | none, none => .ok none

def sessionStoreFromEnv : Except String SessionStoreConfig :=
  match env "H2HC_LINKER_SESSION_STORE" with
  | none => .ok .memory
  | some val =>
    if val = "" ∨ val = "memory" then .ok .memory
    else if "sqlite://".toList.isPrefixOf val.toList then
      .ok (.sqlite (.ofList (trimStartMatches "sqlite://".toList val.toList)))
    else
      .error ("Unknown H2HC_LINKER_SESSION_STORE value: '" ++ val ++
        "'. Use 'memory' or 'sqlite:///path/to/sessions.db'.")

def bootstrapUrlFromEnv : Except String String :=
  match env "H2HC_LINKER_BOOTSTRAP_URL" with
  | some url => .ok url
  | none => .error ("H2HC_LINKER_BOOTSTRAP_URL is required. " ++
      "h2hc-linker cannot operate without kitsune2 networking. " ++
      "Set it to your bootstrap server URL (e.g. http://127.0.0.1:PORT)")

/-- `Configuration::from_env`. -/
def fromEnv : Except String Configuration := do
  let conductorUrl ← (env "H2HC_LINKER_CONDUCTOR_URL").mapM parsers.socketAddr
  let bootstrapUrl ← bootstrapUrlFromEnv env
  let payloadLimitBytes ← (env "H2HC_LINKER_PAYLOAD_LIMIT_BYTES").mapM (parseUnsigned 64)
  let zomeCallMillis ← (env "H2HC_LINKER_ZOME_CALL_TIMEOUT_MS").mapM (parseUnsigned 64)
  let report ← reportFromEnv parsers env
  let registration ← registrationFromEnv parsers env
  let sessionStore ← sessionStoreFromEnv env
  let config := Configuration.default
  return { config with
    conductorUrl
    bootstrapUrl
    relayUrl := env "H2HC_LINKER_RELAY_URL"
    payloadLimitBytes := payloadLimitBytes.getD config.payloadLimitBytes
    zomeCallTimeout := (zomeCallMillis.map (· * 10 ^ 6)).getD config.zomeCallTimeout
    adminSecret := env "H2HC_LINKER_ADMIN_SECRET"
    sessionStore
    report
    reportPath := (env "H2HC_LINKER_REPORT_PATH").getD config.reportPath
    identity := {
      keyFile := (env "H2HC_LINKER_KEY_FILE").getD config.identity.keyFile
      privateKeyBase64 := env "H2HC_LINKER_PRIVATE_KEY" }
    registration }

end H2hcLinker.Config
