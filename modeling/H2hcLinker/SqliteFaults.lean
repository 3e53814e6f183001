import H2hcLinker.SqliteStore

/-! The writes of the allowlist, statement by statement. Each statement is a transaction of its own,
so one that fails leaves what those before it did. -/
namespace H2hcLinker.SqliteStore

open HashTable

/-- The statements of `add_agent` and `remove_agent`. -/
inductive Statement where
  | insertAgent
  | deleteSessionDnas
  | deleteSessions
  | deleteAgent
  deriving DecidableEq, Repr

/-- What the database answers to each statement of one call, where it fails. -/
abbrev Faults := Statement → Option SessionStoreError

variable (codec : HashCodec) (json : CapabilityJson)

def addAgentStatements (faults : Faults) (agent : AllowedAgent) (db : SqliteTables) :
    SessionStoreResult Unit × SqliteTables :=
  match faults .insertAgent with
  | some e => (.error e, db)
  | none => (.ok (), addAgent codec json agent db)

def deleteSessionDnas (pk : String) (db : SqliteTables) : SqliteTables :=
  { db with sessionDnas := retain (fun _ owner => owner ≠ pk) db.sessionDnas }

/-- The number of rows and the tables after. -/
def deleteAgent (pk : String) (db : SqliteTables) : Nat × SqliteTables :=
  (size (retain (fun key _ => key = pk) db.allowedAgents),
    { db with allowedAgents := retain (fun key _ => key ≠ pk) db.allowedAgents })

def removeAgentStatements (faults : Faults) (agent : AgentPubKey) (db : SqliteTables) :
    SessionStoreResult Bool × SqliteTables :=
  let pk := codec.agentToStr agent
  match faults .deleteSessionDnas with
  | some e => (.error e, db)
  | none =>
    let orphans := deleteSessionDnas pk db
    match faults .deleteSessions with
    | some e => (.error e, orphans)
    | none =>
      let sessions := (deleteSessions (fun _ row => row.agentPubkey = pk) orphans).2
      match faults .deleteAgent with
      | some e => (.error e, sessions)
      | none =>
        let (rows, removed) := deleteAgent pk sessions
        (.ok (rows > 0), removed)

/-- The error of the first statement of a removal that fails. -/
def removalFault (faults : Faults) : Option SessionStoreError :=
  (faults .deleteSessionDnas).or ((faults .deleteSessions).or (faults .deleteAgent))

/-- With no failure the statements are the operation. -/
theorem removeAgentStatements_ok {faults : Faults} (fine : removalFault faults = none)
    (agent : AgentPubKey) (db : SqliteTables) :
    removeAgentStatements codec faults agent db = (removeAgent codec agent db).map .ok id := by
  simp only [removalFault, Option.or_eq_none_iff] at fine
  obtain ⟨first, second, third⟩ := fine
  simp only [removeAgentStatements, first, second, third]
  rfl

/-- Whichever statement fails, the allowlist stays. -/
theorem removeAgentStatements_error {faults : Faults} {e : SessionStoreError}
    (fault : removalFault faults = some e) (agent : AgentPubKey) (db : SqliteTables) :
    (removeAgentStatements codec faults agent db).1 = .error e ∧
      (removeAgentStatements codec faults agent db).2.allowedAgents = db.allowedAgents := by
  unfold removalFault at fault
  unfold removeAgentStatements
  cases first : faults .deleteSessionDnas with
  | some e' =>
    rw [first, Option.some_or] at fault
    cases fault
    exact ⟨rfl, rfl⟩
  | none =>
    rw [first, Option.none_or] at fault
    cases second : faults .deleteSessions with
    | some e' =>
      rw [second, Option.some_or] at fault
      cases fault
      exact ⟨rfl, rfl⟩
    | none =>
      rw [second, Option.none_or] at fault
      rw [fault]
      exact ⟨rfl, rfl⟩

theorem removeAgent_existed (agent : AgentPubKey) (db : SqliteTables) :
    (removeAgent codec agent db).1 =
      (db.allowedAgents.lookup (codec.agentToStr agent)).isSome := by
  have rows : (removeAgent codec agent db).1 = true ↔ codec.agentToStr agent ∈ db.allowedAgents :=
    decide_eq_true_iff.trans (size_retain_key_pos _ _)
  rw [Bool.eq_iff_iff, rows, Finmap.mem_iff, Option.isSome_iff_exists]

def SqliteTables.NoSessions (db : SqliteTables) (pk : String) : Prop :=
  ∀ token row, db.sessions.lookup token = some row → row.agentPubkey ≠ pk

def SqliteTables.NoSessionDnas (db : SqliteTables) (pk : String) : Prop :=
  ∀ key owner, db.sessionDnas.lookup key = some owner → owner ≠ pk

/-- No table has a row for the agent. -/
structure SqliteTables.Without (db : SqliteTables) (pk : String) : Prop where
  agents : pk ∉ db.allowedAgents
  sessions : db.NoSessions pk
  sessionDnas : db.NoSessionDnas pk

/-- An error leaves the tables alone, a success leaves no row for the agent. -/
structure RemovalAtomic (faults : Faults) (agent : AgentPubKey) (db : SqliteTables) : Prop where
  failed (e : SessionStoreError) (error : (removeAgentStatements codec faults agent db).1 = .error e) :
    (removeAgentStatements codec faults agent db).2 = db
  removed (existed : Bool) (ok : (removeAgentStatements codec faults agent db).1 = .ok existed) :
    (removeAgentStatements codec faults agent db).2.Without (codec.agentToStr agent)

/-- The statements before the first that fails have no row to delete. -/
def NothingBeforeFault (faults : Faults) (pk : String) (db : SqliteTables) : Prop :=
  match faults .deleteSessionDnas, faults .deleteSessions, faults .deleteAgent with
  | some _, _, _ => True
  | none, some _, _ => db.NoSessionDnas pk
  | none, none, some _ => db.NoSessionDnas pk ∧ db.NoSessions pk
  | none, none, none => True

variable {codec} {faults : Faults} {agent : AgentPubKey} {db : SqliteTables} {pk : String}

theorem noSessionDnas_deleteSessionDnas : (deleteSessionDnas pk db).NoSessionDnas pk := by
  intro key owner found
  rw [deleteSessionDnas, lookup_retain, Option.filter_eq_some_iff] at found
  exact of_decide_eq_true found.2

theorem deleteSessionDnas_eq_self_iff : deleteSessionDnas pk db = db ↔ db.NoSessionDnas pk := by
  obtain ⟨agents, sessions, dnas⟩ := db
  simp only [deleteSessionDnas, SqliteTables.NoSessionDnas, SqliteTables.mk.injEq, true_and,
    retain_eq_self_iff, decide_eq_true_eq]

theorem noSessions_deleteSessions :
    (deleteSessions (fun _ row => row.agentPubkey = pk) db).2.NoSessions pk := by
  intro token row found
  rw [deleteSessions, lookup_retain, Option.filter_eq_some_iff] at found
  simpa using found.2

/-- The cascade only ever deletes. -/
theorem SqliteTables.NoSessionDnas.deleteSessions (none : db.NoSessionDnas pk)
    (doomed : String → SessionRow → Bool) :
    (SqliteStore.deleteSessions doomed db).2.NoSessionDnas pk := by
  intro key owner found
  rw [SqliteStore.deleteSessions, lookup_retain, Option.filter_eq_some_iff] at found
  exact none key owner found.1

theorem deleteSessions_eq_self (none : db.NoSessions pk) :
    (deleteSessions (fun _ row => row.agentPubkey = pk) db).2 = db := by
  have sessions : retain (fun _ row => !decide (row.agentPubkey = pk)) db.sessions = db.sessions := by
    rw [retain_eq_self_iff]
    intro token row found
    simpa using none token row found
  have dnas : retain (fun key _ => ¬(db.sessions.lookup key.1).any
      fun row => decide (row.agentPubkey = pk)) db.sessionDnas = db.sessionDnas := by
    rw [retain_eq_self_iff]
    intro key owner _
    cases found : db.sessions.lookup key.1 with
    | none => rfl
    | some row => simpa using none key.1 row found
  rw [deleteSessions, sessions, dnas]

/-- Two deletes leave the tables alone only where neither has a row to delete. -/
theorem deleteSessions_orphans_eq_self_iff :
    (deleteSessions (fun _ row => row.agentPubkey = pk) (deleteSessionDnas pk db)).2 = db ↔
      db.NoSessionDnas pk ∧ db.NoSessions pk := by
  constructor
  · intro same
    constructor
    · rw [← same]
      exact noSessionDnas_deleteSessionDnas.deleteSessions _
    · rw [← same]
      exact noSessions_deleteSessions
  · rintro ⟨noDnas, noSessions⟩
    rw [deleteSessionDnas_eq_self_iff.mpr noDnas, deleteSessions_eq_self noSessions]

/-- What all three statements leave. -/
theorem removeAgent_without (codec : HashCodec) (agent : AgentPubKey) (db : SqliteTables) :
    (removeAgent codec agent db).2.Without (codec.agentToStr agent) where
  agents := by
    intro member
    obtain ⟨_, _, kept⟩ := mem_retain member
    exact of_decide_eq_true kept rfl
  sessions := noSessions_deleteSessions
  sessionDnas := noSessionDnas_deleteSessionDnas.deleteSessions
    fun _ row => row.agentPubkey = codec.agentToStr agent

theorem removalAtomic_error_iff {e : SessionStoreError} {left : SqliteTables}
    (outcome : removeAgentStatements codec faults agent db = (.error e, left)) :
    RemovalAtomic codec faults agent db ↔ left = db := by
  constructor
  · intro atomic
    have whole := atomic.failed e (by rw [outcome])
    rwa [outcome] at whole
  · intro same
    refine ⟨?failed, ?removed⟩
    case failed =>
      intro _ _
      rw [outcome, same]
    case removed =>
      intro existed ok
      rw [outcome] at ok
      cases ok

theorem removalAtomic_ok {existed : Bool} {left : SqliteTables}
    (outcome : removeAgentStatements codec faults agent db = (.ok existed, left))
    (without : left.Without (codec.agentToStr agent)) : RemovalAtomic codec faults agent db where
  failed e error := by
    rw [outcome] at error
    cases error
  removed _ _ := by rwa [outcome]

/-- The removal is atomic exactly where the statements before a failure delete nothing. -/
theorem removeAgent_atomic_iff (codec : HashCodec) (faults : Faults) (agent : AgentPubKey)
    (db : SqliteTables) :
    RemovalAtomic codec faults agent db ↔ NothingBeforeFault faults (codec.agentToStr agent) db := by
  cases first : faults .deleteSessionDnas with
  | some e =>
    have outcome : removeAgentStatements codec faults agent db = (.error e, db) := by
      simp only [removeAgentStatements, first]
    rw [removalAtomic_error_iff outcome, NothingBeforeFault, first]
    exact iff_of_true rfl trivial
  | none =>
    cases second : faults .deleteSessions with
    | some e =>
      have outcome : removeAgentStatements codec faults agent db =
          (.error e, deleteSessionDnas (codec.agentToStr agent) db) := by
        simp only [removeAgentStatements, first, second]
      rw [removalAtomic_error_iff outcome, deleteSessionDnas_eq_self_iff]
      simp only [NothingBeforeFault, first, second]
    | none =>
      cases third : faults .deleteAgent with
      | some e =>
        have outcome : removeAgentStatements codec faults agent db =
            (.error e, (deleteSessions (fun _ row => row.agentPubkey = codec.agentToStr agent)
              (deleteSessionDnas (codec.agentToStr agent) db)).2) := by
          simp only [removeAgentStatements, first, second, third]
        rw [removalAtomic_error_iff outcome, deleteSessions_orphans_eq_self_iff]
        simp only [NothingBeforeFault, first, second, third]
      | none =>
        have outcome : removeAgentStatements codec faults agent db =
            (removeAgent codec agent db).map .ok id := by
          apply removeAgentStatements_ok
          simp only [removalFault, first, second, third, Option.or_none]
        have atomic := removalAtomic_ok outcome (removeAgent_without codec agent db)
        exact iff_of_true atomic (by simp only [NothingBeforeFault, first, second, third])

/-- The last statement meets a full disk. -/
def diskFull : Faults
  | .deleteAgent => some (.database "database or disk is full")
  | _ => none

/-- Alice is allowed and has one session. -/
def aliceLoggedIn : SqliteTables where
  allowedAgents := Finmap.singleton aliceText ⟨"[]", none⟩
  sessions := Finmap.singleton "00" ⟨aliceText, "[]"⟩
  sessionDnas := ∅

/-- The removal fails, Alice stays allowed, and her session is gone. -/
theorem removeAgent_not_atomic :
    ¬∀ (codec : HashCodec) (faults : Faults) (agent : AgentPubKey) (db : SqliteTables),
      RemovalAtomic codec faults agent db := by
  intro always
  have atomic := always sampleCodec diskFull alice aliceLoggedIn
  have left := atomic.failed (.database "database or disk is full") rfl
  have found : aliceLoggedIn.sessions.lookup "00" = some ⟨aliceText, "[]"⟩ :=
    Finmap.lookup_singleton_eq
  rw [← left] at found
  exact noSessions_deleteSessions "00" _ found rfl

end H2hcLinker.SqliteStore
