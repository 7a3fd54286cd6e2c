import FraudStream.Library.FallibleList
import FraudStream.Library.LastWrite
import FraudStream.Processing.Device.IdleTimer
import FraudStream.Processing.Job.Clock
import FraudStream.Processing.Velocity.Windows
import FraudStream.Processing.FeatureMaterializer
import FraudStream.Shared.FeatureSchema
import FraudStream.Scoring.JobExtension
import FraudStream.Scoring.Rules.Loader
import FraudStream.Scoring.Rules.Evaluable
import FraudStream.Scoring.Rules.Firing
import FraudStream.Scoring.Suppression
import FraudStream.Scoring.FeatureRoundTrip
import FraudStream.Scoring.FeatureHistory
import FraudStream.Library.JsonValue
import FraudStream.Library.IpAddress
import FraudStream.Ingestion.PiiMasker
import FraudStream.Ingestion.Producer
import FraudStream.Ingestion.FailurePath
import FraudStream.Ingestion.EventContents
import FraudStream.Library.BatchBuffer
import FraudStream.Scoring.IcebergDecisionsSink
import FraudStream.Processing.IcebergEnrichedSink
import FraudStream.Analytics.FlushOutcomes
import FraudStream.Analytics.TransactionAudit
import FraudStream.Library.PolledLog
import FraudStream.Replay.SourceAdapters
import FraudStream.Replay.DLQCount
import FraudStream.Replay.KafkaRange
import FraudStream.Replay.Bookkeeping
import FraudStream.Replay.Cancellation
import FraudStream.Library.JsonImage
import FraudStream.Library.CriticalSection
import FraudStream.Scoring.Management.Api
import FraudStream.Scoring.Management.RuleFile
import FraudStream.Scoring.Management.ModeRewrites
import FraudStream.Scoring.Management.PersistFailures
import FraudStream.Scoring.Management.ConcurrentChanges
import FraudStream.Processing.Job.Reconciliation
import FraudStream.Scoring.AlertSinks
import FraudStream.Analytics.AlertConsumer
import FraudStream.Processing.MetricsBridge
import FraudStream.Scoring.Rules.ShadowEvaluator
import FraudStream.Scoring.ShadowDecisions
import FraudStream.Scoring.ShadowMetrics
import FraudStream.Library.LastStamp
import FraudStream.Processing.Staleness
import FraudStream.Library.Rounding
import FraudStream.Ingestion.Amounts
import FraudStream.Library.DecimalText
import FraudStream.Processing.Timestamps
import FraudStream.Ingestion.ExactAmounts
import FraudStream.Ingestion.Validation
import FraudStream.Ingestion.RequestHandler
import FraudStream.Ingestion.WireAmounts
import FraudStream.Library.FirstOfKey
import FraudStream.Processing.Job.Duplicates
import FraudStream.Library.Custody
import FraudStream.Library.SharedThreads
import FraudStream.Replay.ResultSink
import FraudStream.Scoring.ClientLifecycle
import FraudStream.Library.Attempts
import FraudStream.Processing.FeastPushes
import FraudStream.Library.SerialWorker
import FraudStream.Processing.FeastFailures
import FraudStream.Scoring.CircuitBreaker
import FraudStream.Ingestion.CardNumbers
import FraudStream.Library.IpText
import FraudStream.Ingestion.AddressTruncation
import FraudStream.Ingestion.LeakGuard
import FraudStream.Processing.Velocity.OrderIndependence
import FraudStream.Processing.Device.Disorder
import FraudStream.Processing.Velocity.IdleAccounts
import FraudStream.Scoring.DecisionTable
import FraudStream.Analytics.SinkPrograms
import FraudStream.Analytics.BoundedBuffering
import FraudStream.Processing.TestedSink
import FraudStream.Analytics.AlertQueue
import FraudStream.Analytics.ConsumerRestarts
import FraudStream.Library.Regex
import FraudStream.Scoring.Management.FailedReloads
import FraudStream.Scoring.Management.RuleIdPatterns
import FraudStream.Library.Tally
import FraudStream.Replay.Summaries
import FraudStream.Replay.SinkOrder
import FraudStream.Shared.BreakerListeners
import FraudStream.Library.TextLines
import FraudStream.Replay.DLQTolerance
import FraudStream.Scripts.IcebergDdl
import FraudStream.Scripts.DdlText
import FraudStream.Scripts.SchemaEvolution
import FraudStream.Ingestion.AmountLengths
import FraudStream.Library.SeenLoop
import FraudStream.Shared.Deduplication
import FraudStream.Analytics.DlqInspector
import FraudStream.Library.InsertNew
import FraudStream.Library.Triples
import FraudStream.Scoring.AlertPersistence
import FraudStream.Library.LruCache
import FraudStream.Processing.GeolocationCache
import FraudStream.Analytics.LiveFeed
import FraudStream.Scoring.Management.ReplayApi
import FraudStream.Scoring.RestartedDecisions
import FraudStream.Library.JsonScalars
import FraudStream.Library.JsonRoundTrip
import FraudStream.Ingestion.DeliveryReports
import FraudStream.Replay.ApiDeadLetters
import FraudStream.Library.Binary32
import FraudStream.Library.AvroRecord
import FraudStream.Ingestion.WireFormat
import FraudStream.Ingestion.WireEvents
import FraudStream.Processing.Job.WireTransactions
import FraudStream.Processing.DeadLetterWire
import FraudStream.Replay.EnrichedEvents
import FraudStream.Replay.RawMessages
