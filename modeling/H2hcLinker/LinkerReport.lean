import H2hcLinker.Holdings
import H2hcLinker.SignalRoutes

/-! Usage reports: ops come in over a bounded channel, and a run of `process_reports` drains it into
one entry of the report file for each space. Notifications and runs interleave at every access to
the channel, its lock and the file. -/
namespace H2hcLinker.Reports

open HashTable Interleaving RemoteSignals

/-- The one command, `FetchedOp`. -/
structure Cmd where
  spaceId : SpaceId
  sizeBytes : Nat
  deriving DecidableEq

structure ReportEntryFetchedOps where
  timestamp : String
  space : String
  opCount : String
  totalBytes : String
  agentPubkeys : List String
  signatures : List String
  deriving DecidableEq

inductive ReportEntry where
  | start
  | fetchedOps (entry : ReportEntryFetchedOps)
  deriving DecidableEq

/-- The texts and the signature of an entry. -/
structure ReportLibrary where
  spaceToStr : SpaceId → String
  encodeForVerification : ReportEntryFetchedOps → List UInt8
  /-- The base64 of the linker's signature. -/
  sign : List UInt8 → String

structure LinkerReport where
  agentPubkeyStr : String
  /-- What the channel holds. -/
  cmds : List Cmd
  /-- Whether a run holds the lock on the receiver. -/
  receiving : Bool
  file : List ReportEntry

def LinkerReport.create (agentPubkeyStr : String) : LinkerReport where
  agentPubkeyStr := agentPubkeyStr
  cmds := []
  receiving := false
  file := [.start]

def channelCapacity : Nat := 4096

def LinkerReport.hasRoom (s : LinkerReport) : Bool := s.cmds.length < channelCapacity

/-- The map from a space to its op count and total bytes. -/
abbrev FetchedOps := Table SpaceId (Nat × Nat)

def FetchedOps.totals (fetchedOps : FetchedOps) (space : SpaceId) : Nat × Nat :=
  (fetchedOps.lookup space).getD (0, 0)

/-- Both sums are of `u64`. -/
def FetchedOps.add (fetchedOps : FetchedOps) (cmd : Cmd) : FetchedOps :=
  let e := fetchedOps.totals cmd.spaceId
  Finmap.insert cmd.spaceId ((e.1 + 1) % 2 ^ 64, (e.2 + cmd.sizeBytes) % 2 ^ 64) fetchedOps

inductive Request where
  | fetchedOp (cmd : Cmd)
  | processReports

inductive Section where
  | fetchedOp (cmd : Cmd)
  | lock
  /-- One `try_recv` of the loop. -/
  | receive (fetchedOps : FetchedOps)
  /-- One entry of the loop over the map. -/
  | report (fetchedOps : FetchedOps)

def Request.body : Nat → Request → List Section
  | _, .fetchedOp cmd => [.fetchedOp cmd]
  | _, .processReports => [.lock]

/-- What the environment supplies to one section. -/
structure Input where
  timestamp : String
  /-- The space that iterating the map meets next. -/
  pick : SpaceId

variable (lib : ReportLibrary)

def reportEntry (agentPubkeyStr timestamp : String) (space : SpaceId) (totals : Nat × Nat) :
    ReportEntryFetchedOps :=
  let entry : ReportEntryFetchedOps := {
    timestamp
    space := lib.spaceToStr space
    opCount := toString totals.1
    totalBytes := toString totals.2
    agentPubkeys := [agentPubkeyStr]
    signatures := [] }
  { entry with signatures := [lib.sign (lib.encodeForVerification entry)] }

/-- A run is over once its map is empty. -/
def reporting (fetchedOps : FetchedOps) : List Section :=
  if fetchedOps = ∅ then [] else [.report fetchedOps]

def perform (act : Section) (input : Input) (s : LinkerReport) : LinkerReport × List Section :=
  match act with
  | .fetchedOp cmd => (if s.hasRoom then { s with cmds := s.cmds ++ [cmd] } else s, [])
  | .lock => if s.receiving then (s, [.lock]) else ({ s with receiving := true }, [.receive ∅])
  | .receive fetchedOps =>
    match s.cmds with
    | cmd :: cmds => ({ s with cmds }, [.receive (fetchedOps.add cmd)])
    | [] => ({ s with receiving := false }, reporting fetchedOps)
  | .report fetchedOps =>
    match fetchedOps.lookup input.pick with
    | none => (s, [.report fetchedOps])
    | some totals =>
      ({ s with file := s.file ++
          [.fetchedOps (reportEntry lib s.agentPubkeyStr input.timestamp input.pick totals)] },
        reporting (fetchedOps.erase input.pick))

/-- Any number of notifications and runs at once. -/
def program : Program Nat Request Section Input LinkerReport where
  body := Request.body
  perform := perform lib

abbrev Running := Pool Nat Section LinkerReport

abbrev Instant := Moment Nat Section Input LinkerReport

end H2hcLinker.Reports
