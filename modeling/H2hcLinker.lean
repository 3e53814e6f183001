import H2hcLinker.HashTable
import H2hcLinker.Past
import H2hcLinker.Interleaving
import H2hcLinker.Numbering
import H2hcLinker.Grouping
import H2hcLinker.PrefixCode
import H2hcLinker.Types
import H2hcLinker.GatewayKitsune
import H2hcLinker.GatewayMirror
import H2hcLinker.GatewaySpaces
import H2hcLinker.MemoryStore
import H2hcLinker.AuthStore
import H2hcLinker.SessionHistory
import H2hcLinker.Observation
import H2hcLinker.SessionStore
import H2hcLinker.SqliteStore
import H2hcLinker.StoreEquivalence
import H2hcLinker.Preflight
import H2hcLinker.DhtTypes
import H2hcLinker.DhtRender
import H2hcLinker.DhtLiveness
import H2hcLinker.DhtQuery
import H2hcLinker.DhtContent
import H2hcLinker.PendingResponses
import H2hcLinker.ResponseRouting
import H2hcLinker.ResponseSource
import H2hcLinker.Middleware
import H2hcLinker.Router
import H2hcLinker.AccessMatrix
import H2hcLinker.AgentProxy
import H2hcLinker.Messages
import H2hcLinker.WebSocket
import H2hcLinker.WebSocketSteps
import H2hcLinker.RemoteSignals
import H2hcLinker.SignalRoutes
import H2hcLinker.RegisteredJoined
import H2hcLinker.SignatureSource
import H2hcLinker.SigningRequests
import H2hcLinker.Identity
import H2hcLinker.Handshake
import H2hcLinker.SignalRouting
import H2hcLinker.RoutingTable
import H2hcLinker.Tombstone
import H2hcLinker.AgentIsolation
import H2hcLinker.AgentRemoval
import H2hcLinker.SessionLifetime
import H2hcLinker.DnaScope
import H2hcLinker.RequestAuthorization
import H2hcLinker.Grants
import H2hcLinker.CapabilityCopies
import H2hcLinker.Noninterference
import H2hcLinker.TempOpStore
import H2hcLinker.Publish
import H2hcLinker.OpIsolation
import H2hcLinker.PublishAccounting
import H2hcLinker.EntryRecord
import H2hcLinker.WireForm
import H2hcLinker.DhtQueries
import H2hcLinker.LinkRender
import H2hcLinker.PublishPeers
import H2hcLinker.PeerSelection
import H2hcLinker.Registration
import H2hcLinker.Heartbeats
import H2hcLinker.HandleSocket
import H2hcLinker.LinkFilter
import H2hcLinker.SqliteFaults
import H2hcLinker.AdminAgents
import H2hcLinker.OpAvailability
import H2hcLinker.PreflightContents
import H2hcLinker.PreflightExchange
import H2hcLinker.SigningCleanup
import H2hcLinker.SenderTracking
import H2hcLinker.ConnectionChannel
import H2hcLinker.Conversation
import H2hcLinker.WebSocketProgress
import H2hcLinker.AdminUrl
import H2hcLinker.Config
import H2hcLinker.CanonicalJson
import H2hcLinker.PathSegment
import H2hcLinker.Holdings
import H2hcLinker.LinkerReport
import H2hcLinker.ReportTotals
import H2hcLinker.Locking
import H2hcLinker.Conductor
import H2hcLinker.ConductorLocks
import H2hcLinker.ConductorConnections
import H2hcLinker.ConductorAdmin
import H2hcLinker.ConductorTargets
import H2hcLinker.ConductorCredentials
import H2hcLinker.ConductorProgress
import H2hcLinker.ConductorErrors
import H2hcLinker.SqliteConsistency
import H2hcLinker.SqliteHistory
import H2hcLinker.ResponseOutcomes
import H2hcLinker.Layering
import H2hcLinker.ParallelQuery
import H2hcLinker.QueryAnswers
import H2hcLinker.KeyFile
