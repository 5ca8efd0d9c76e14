import GreenRoom.Lib.TransitionSystem
import GreenRoom.Lib.KeyedTable
import GreenRoom.Iphone.TaskRegistry
import GreenRoom.Iphone.TaskRegistryInvariant
import GreenRoom.Lib.JsString
import GreenRoom.Lib.Json
import GreenRoom.Lib.JsonRoundTrip
import GreenRoom.Core.Director
import GreenRoom.Core.DirectorInvariant
import GreenRoom.Core.DirectorSnapshot
import GreenRoom.Lib.Program
import GreenRoom.Db.Schema
import GreenRoom.Db.Events
import GreenRoom.Db.ProviderDecisions
import GreenRoom.Db.Cast
import GreenRoom.Runtime.RoomService
import GreenRoom.Runtime.RoomChange
import GreenRoom.Runtime.RoomEffects
import GreenRoom.Runtime.LogIntegrity
import GreenRoom.Runtime.RoomSystem
import GreenRoom.Runtime.RoomInvariant
import GreenRoom.Runtime.ExactlyOnce
import GreenRoom.Runtime.ClaimFencing
import GreenRoom.Runtime.EventLog
import GreenRoom.Runtime.GenerationFence
import GreenRoom.Runtime.Schedulers
import GreenRoom.Db.Digest
import GreenRoom.Runtime.Requests
import GreenRoom.Runtime.Idempotency
import GreenRoom.Db.ProviderProfiles
import GreenRoom.Db.ProviderStore
import GreenRoom.Db.DecisionCommit
import GreenRoom.Runtime.Frames
import GreenRoom.Runtime.ProviderPins
import GreenRoom.Runtime.ProviderPinning
import GreenRoom.Db.RoomLibrary
import GreenRoom.Runtime.RoomSelection
import GreenRoom.Runtime.SelectionGuards
import GreenRoom.Lib.Interruption
import GreenRoom.Api.ProviderRoutes
import GreenRoom.Api.ConnectionSecrets
import GreenRoom.Api.ConnectionRequests
import GreenRoom.Iphone.Tables
import GreenRoom.Iphone.Statements
import GreenRoom.Iphone.CommandUpdates
import GreenRoom.Iphone.Writes
import GreenRoom.Iphone.AtomicTurns
import GreenRoom.Iphone.ConsentGate
import GreenRoom.Iphone.Batch
import GreenRoom.Iphone.Callbacks
import GreenRoom.Iphone.GenerationRuns
import GreenRoom.Iphone.GenerationInvariant
import GreenRoom.Iphone.LiveAttempt
import GreenRoom.Iphone.FailedCalls
import GreenRoom.Iphone.UncertainAttempts
import GreenRoom.Iphone.LockOrder
import GreenRoom.Core.DirectorRestore
import GreenRoom.Core.DuplicateWindow
import GreenRoom.Core.DirectorFairness
import GreenRoom.Api.ModelRoutes
import GreenRoom.Db.Readiness
import GreenRoom.Api.ModelRequests
import GreenRoom.Api.ReadinessEvidence
import GreenRoom.Lib.Crc32
import GreenRoom.Persona.Archive
import GreenRoom.Persona.ArchiveScan
import GreenRoom.Persona.MemberTree
import GreenRoom.Lib.Tiling
import GreenRoom.Persona.ArchiveTiling
import GreenRoom.Providers.SecureHttpTransport
import GreenRoom.Providers.TransportPermits
import GreenRoom.Api.EventStream
import GreenRoom.Api.GaplessStream
import GreenRoom.Iphone.ProviderContext
import GreenRoom.Providers.IpAddress
import GreenRoom.Providers.CanonicalAddress
import GreenRoom.Providers.DnsAnswers
import GreenRoom.Api.Avatar
import GreenRoom.Api.AvatarChunks
import GreenRoom.Lib.Pattern
import GreenRoom.Providers.ResponsePolicy
import GreenRoom.Providers.BoundedResponse
import GreenRoom.Db.MigrationHistory
import GreenRoom.Db.Purge
import GreenRoom.Db.PurgeFaults
import GreenRoom.Db.CanonicalJson
import GreenRoom.Providers.PlainData
import GreenRoom.Providers.SnapshotParser
import GreenRoom.Db.SnapshotRoundTrip
import GreenRoom.Api.Inspection
import GreenRoom.Api.InspectionSlots
import GreenRoom.Lib.SqlText
import GreenRoom.Providers.SnapshotRestores
import GreenRoom.Db.ProviderSnapshots
