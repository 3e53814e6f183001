import H2hcLinker.SessionStore
import Mathlib.Data.Finset.Union

/-! The SQLite session store: three tables of text, each statement as one update of a keyed table.
The text of a hash is the hash library's, that of a capability set is serde_json's. Of the errors
of the database the model has the one a statement can run into, a duplicate key. -/
namespace H2hcLinker.SqliteStore

open HashTable

structure AgentRow where
  capabilities : String
  label : Option String
  deriving DecidableEq

structure SessionRow where
  agentPubkey : String
  capabilities : String
  deriving DecidableEq

structure SqliteTables where
  /-- Keyed by `agent_pubkey`. -/
  allowedAgents : Table String AgentRow
  /-- Keyed by `token`. -/
  sessions : Table String SessionRow
  /-- The `agent_pubkey` under the key `(token, dna_hash)`. -/
  sessionDnas : Table (String × String) String

/-- The tables that `init` creates. -/
def SqliteTables.init : SqliteTables := ⟨∅, ∅, ∅⟩

/-- How serde_json writes and reads a set of capabilities. -/
structure CapabilityJson where
  toText : Finset Capability → String
  ofText : String → Option (Finset Capability)

/-- What was written is read back. -/
structure CapabilityJson.Lawful (json : CapabilityJson) : Prop where
  ofText_toText : ∀ caps, json.ofText (json.toText caps) = some caps

variable (codec : HashCodec) (json : CapabilityJson)

/-- `unwrap_or_default`: what does not parse is the empty set. -/
def capsFromJson (text : String) : Finset Capability := (json.ofText text).getD ∅

def addAgent (agent : AllowedAgent) (db : SqliteTables) : SqliteTables :=
  let row := ⟨json.toText agent.capabilities, agent.label⟩
  { db with allowedAgents := db.allowedAgents.insert (codec.agentToStr agent.agentPubkey) row }

/-- `DELETE FROM sessions WHERE ..`, with the rows of `session_dnas` that reference a deleted row:
the number of rows and the tables after. -/
def deleteSessions (doomed : String → SessionRow → Bool) (db : SqliteTables) : Nat × SqliteTables :=
  (size (retain doomed db.sessions), { db with
    sessions := retain (fun token row => !doomed token row) db.sessions
    sessionDnas := retain (fun key _ => ¬(db.sessions.lookup key.1).any (doomed key.1))
      db.sessionDnas })

def removeAgent (agent : AgentPubKey) (db : SqliteTables) : Bool × SqliteTables :=
  let pk := codec.agentToStr agent
  let orphans := { db with sessionDnas := retain (fun _ owner => owner ≠ pk) db.sessionDnas }
  let sessions := (deleteSessions (fun _ row => row.agentPubkey = pk) orphans).2
  let rows := size (retain (fun key _ => key = pk) sessions.allowedAgents)
  (rows > 0, { sessions with allowedAgents := retain (fun key _ => key ≠ pk) sessions.allowedAgents })

/-- A row of the allowlist; one whose key does not parse is skipped. -/
def readAgent (key : String) (row : AgentRow) : Option AllowedAgent :=
  match codec.agentOfStr key with
  | .ok agent => some ⟨agent, capsFromJson json row.capabilities, row.label⟩
  | .error _ => none

def listAgents (db : SqliteTables) : Finset AllowedAgent :=
  (db.allowedAgents.entries.filterMap fun e => readAgent codec json e.1 e.2).toFinset

def isAgentAllowed (agent : AgentPubKey) (db : SqliteTables) : Bool :=
  size (retain (fun key _ => key = codec.agentToStr agent) db.allowedAgents) > 0

def getAgent (agent : AgentPubKey) (db : SqliteTables) : Option AllowedAgent :=
  (db.allowedAgents.lookup (codec.agentToStr agent)).map fun row =>
    ⟨agent, capsFromJson json row.capabilities, row.label⟩

def createSession (agent : AgentPubKey) (token : SessionToken) (db : SqliteTables) :
    SessionStoreResult (Option SessionToken) × SqliteTables :=
  let pk := codec.agentToStr agent
  match db.allowedAgents.lookup pk with
  | none => (.ok none, db)
  | some row =>
    if token.text ∈ db.sessions then
      (.error (.database "UNIQUE constraint failed: sessions.token"), db)
    else
      (.ok (some token), { db with sessions := db.sessions.insert token.text ⟨pk, row.capabilities⟩ })

/-- The DNAs that the rows of a token name, as far as they parse. -/
def registeredDnas (token : String) (db : SqliteTables) : Finset DnaHash :=
  (db.sessionDnas.keys.filter (·.1 = token)).biUnion fun key =>
    match codec.dnaOfStr key.2 with
    | .ok dna => {dna}
    | .error _ => ∅

def validateSession (token : String) (db : SqliteTables) : Option SessionInfo :=
  match db.sessions.lookup token with
  | none => none
  | some row =>
    match codec.agentOfStr row.agentPubkey with
    | .error _ => none
    | .ok agent => some ⟨agent, capsFromJson json row.capabilities, registeredDnas codec token db⟩

def revokeSession (token : String) (db : SqliteTables) : Bool × SqliteTables :=
  (deleteSessions (fun key _ => key = token) db).map (· > 0) id

/-- The key of a token's row for one DNA. -/
def dnaKey (dna : String) : String ↪ String × String :=
  ⟨fun token => (token, dna), fun _ _ same => (Prod.mk.inj same).1⟩

/-- `INSERT OR IGNORE .. SELECT`: a row for every session of the agent, present rows stay. -/
def registerDnaForAgent (agent : AgentPubKey) (dna : DnaHash) (db : SqliteTables) : SqliteTables :=
  let pk := codec.agentToStr agent
  let sessions := retain (fun _ row => row.agentPubkey = pk) db.sessions
  let rows := mapEntries (dnaKey (codec.dnaToStr dna)) (fun _ _ => pk) sessions
  { db with sessionDnas := db.sessionDnas ∪ rows }

def revokeSessionsForAgent (agent : AgentPubKey) (db : SqliteTables) : Nat × SqliteTables :=
  deleteSessions (fun _ row => row.agentPubkey = codec.agentToStr agent) db

def sessionCount (db : SqliteTables) : Nat := size db.sessions

end SqliteStore

open SqliteStore in
def sqliteSessionStore (codec : HashCodec) (json : CapabilityJson) : SessionStore SqliteTables where
  addAgent agent db := (.ok (), addAgent codec json agent db)
  removeAgent agent db := (removeAgent codec agent db).map .ok id
  listAgents db := .ok (listAgents codec json db)
  isAgentAllowed agent db := .ok (isAgentAllowed codec agent db)
  getAgent agent db := .ok (getAgent codec json agent db)
  createSession agent token db := createSession codec agent token db
  validateSession token db := .ok (validateSession codec json token db)
  revokeSession token db := (revokeSession token db).map .ok id
  registerDnaForAgent agent dna db := (.ok (), registerDnaForAgent codec agent dna db)
  revokeSessionsForAgent agent db := (revokeSessionsForAgent codec agent db).map .ok id
  sessionCount db := .ok (sessionCount db)

end H2hcLinker
