import CheckpointRuntime.Library.KeyedTable
import CheckpointRuntime.Library.PartialRun
import CheckpointRuntime.Library.CallProgram
import CheckpointRuntime.RunModels
import CheckpointRuntime.RunStateMachine
import CheckpointRuntime.Coordinator
import CheckpointRuntime.ObjectStore
import CheckpointRuntime.ShardWriter
import CheckpointRuntime.Library.Chunking
import CheckpointRuntime.Library.StableListing
import CheckpointRuntime.CheckpointStorage
import CheckpointRuntime.CheckpointService
import CheckpointRuntime.StorageKeys
import CheckpointRuntime.WriterContract
import CheckpointRuntime.RestHandlers
import CheckpointRuntime.UploadPath
import CheckpointRuntime.ServiceContracts
import CheckpointRuntime.CheckpointWorld
import CheckpointRuntime.CommitAtomicity
import CheckpointRuntime.WorldEffects
import CheckpointRuntime.UploadHistory
import CheckpointRuntime.CommitCompleteness
import CheckpointRuntime.LastUploadWins
import CheckpointRuntime.ShardRoundTrip
import CheckpointRuntime.Library.ProtoWire
import CheckpointRuntime.MessageSize
import CheckpointRuntime.RecoveryManager
import CheckpointRuntime.RequestSequence
import CheckpointRuntime.InterleavedSystem
import CheckpointRuntime.HandlerEffects
import CheckpointRuntime.RunCheckpointCoupling
import CheckpointRuntime.SystemRecords
import CheckpointRuntime.CommitChoice
import CheckpointRuntime.OutcomesFinal
import CheckpointRuntime.SystemPools
import CheckpointRuntime.RpcContracts
import CheckpointRuntime.RecordManifestAgreement
import CheckpointRuntime.ManifestBacked
import CheckpointRuntime.ManifestWriters
import CheckpointRuntime.TrainingHarness
import CheckpointRuntime.RestartedRank
import CheckpointRuntime.RankRestore
import CheckpointRuntime.Backpressure
import CheckpointRuntime.WorkerRecords
import CheckpointRuntime.WorkerManager
import CheckpointRuntime.WorkerRoster
import CheckpointRuntime.WorkerRosterRuns
import CheckpointRuntime.WorkerFences
import CheckpointRuntime.WorkerLiveness
import CheckpointRuntime.WorkerRanks
import CheckpointRuntime.WorkerRestart
import CheckpointRuntime.CoordinatorRestart
import CheckpointRuntime.FaultyCoordinator
import CheckpointRuntime.FailedWrites
import CheckpointRuntime.LatestCheckpoint
import CheckpointRuntime.InterruptedRetention
import CheckpointRuntime.FailedRunRetention
import CheckpointRuntime.RestartReports
import CheckpointRuntime.WorkerIsolation
import CheckpointRuntime.StoreEquivalence
import CheckpointRuntime.RunSelection
import CheckpointRuntime.RetentionRace
import CheckpointRuntime.UndisturbedPass
import CheckpointRuntime.Library.TableParts
import CheckpointRuntime.StoreTables
import CheckpointRuntime.RetentionPromises
import CheckpointRuntime.CronCleanup
import CheckpointRuntime.FailureHandling
import CheckpointRuntime.Library.UniqueLargest
import CheckpointRuntime.RecoveryAgreement
import CheckpointRuntime.LeaseScan
import CheckpointRuntime.AutoRestart
import CheckpointRuntime.OneRestart
import CheckpointRuntime.MultipartPlan
import CheckpointRuntime.WriterRuns
import CheckpointRuntime.FailedShardWrites
import CheckpointRuntime.ShardAcceptance
import CheckpointRuntime.ObjectListing
import CheckpointRuntime.AbortRemoval
import CheckpointRuntime.OrphanCollection
import CheckpointRuntime.TrainingLoop
import CheckpointRuntime.PrefixRange
import CheckpointRuntime.RetryPolicy
import CheckpointRuntime.Library.Broadcast
import CheckpointRuntime.EventStreams
import CheckpointRuntime.EventFeed
import CheckpointRuntime.EventAudience
import CheckpointRuntime.HeartbeatThreads
import CheckpointRuntime.HeartbeatRecovery
import CheckpointRuntime.RestorableCheckpoints
import CheckpointRuntime.RunLifecycle
import CheckpointRuntime.CheckpointContents
import CheckpointRuntime.CheckpointedTraining
import CheckpointRuntime.Library.TextPatterns
import CheckpointRuntime.TrainingLogs
import CheckpointRuntime.Library.Merging
import CheckpointRuntime.Library.RecentItems
import CheckpointRuntime.LogStream
import CheckpointRuntime.KillEndpoint
import CheckpointRuntime.LocalCheckpoints
import CheckpointRuntime.Library.Tallies
import CheckpointRuntime.Metrics
