import CosMonitor.Foundation.Transition
import CosMonitor.Base.Json
import CosMonitor.Base.Database
import CosMonitor.Foundation.Table
import CosMonitor.Perception.ContextStore
import CosMonitor.Access.Rbac
import CosMonitor.Access.UserService
import CosMonitor.Access.Security
import CosMonitor.Gateway.MachineToken
import CosMonitor.Base.Stdlib
import CosMonitor.Perception.Observation
import CosMonitor.Telemetry.Canonical
import CosMonitor.Telemetry.Ingest
import CosMonitor.Telemetry.Publisher
import CosMonitor.Action.Decision
import CosMonitor.Base.PyFloat
import CosMonitor.Foundation.Bins
import CosMonitor.Learning.CalibrationModel
import CosMonitor.Perception.Evidence
import CosMonitor.Reasoning.Hypothesis
import CosMonitor.Reasoning.Pattern
import CosMonitor.Foundation.Sorting
import CosMonitor.Foundation.Paging
import CosMonitor.Foundation.Spacing
import CosMonitor.Reasoning.PatternDetector
import CosMonitor.Reasoning.AnomalyDetector
import CosMonitor.Reasoning.Cadence
import CosMonitor.Learning.Outcomes
import CosMonitor.Confidence.Calibrator
import CosMonitor.Confidence.Service
import CosMonitor.Confidence.Feedback
import CosMonitor.Foundation.Versions
import CosMonitor.Learning.Execution
import CosMonitor.Learning.ExecutionStore
import CosMonitor.Learning.ExecutionSteps
import CosMonitor.Learning.ExecutionRuns
import CosMonitor.Memory.Consolidation
import CosMonitor.Base.Uuid
import CosMonitor.Foundation.Result
import CosMonitor.Access.AgentTables
import CosMonitor.Learning.Confidence
import CosMonitor.Memory.Ledger
import CosMonitor.Memory.LearningLoop
import CosMonitor.Memory.LoopSteps
import CosMonitor.Memory.LearningOnce
import CosMonitor.Memory.Attribution
import CosMonitor.Memory.FailedRuns
import CosMonitor.Foundation.Settled
import CosMonitor.Foundation.Claims
import CosMonitor.Foundation.Grouping
import CosMonitor.Memory.Takeover
import CosMonitor.Memory.LedgerRuns
import CosMonitor.Memory.LegacyLoop
import CosMonitor.Action.FormulatorTables
import CosMonitor.Action.Formulator
import CosMonitor.Action.Committer
import CosMonitor.Action.ActionSpace
import CosMonitor.Action.DecisionPolicy
import CosMonitor.Action.DecisionService
import CosMonitor.Action.RecommendationService
import CosMonitor.Action.PipelineSteps
import CosMonitor.Action.Commitments
import CosMonitor.Action.Starvation
import CosMonitor.Foundation.Tasks
import CosMonitor.Evaluation.Policy
import CosMonitor.Evaluation.Cycle
import CosMonitor.Base.Numerals
import CosMonitor.Memory.LearnedSuccess
import CosMonitor.Gateway.SubmitOutcomes
import CosMonitor.Gateway.JsonColumns
import CosMonitor.Telemetry.PublisherWorkers
import CosMonitor.Collector.Rules
import CosMonitor.Collector.Consumer
import CosMonitor.Collector.Engine
import CosMonitor.Collector.Delivery
import CosMonitor.Collector.Buffer
import CosMonitor.Collector.Isolation
import CosMonitor.Foundation.Tally
import CosMonitor.Memory.Listings
import CosMonitor.Memory.Refinement
import CosMonitor.Evaluation.Runs
import CosMonitor.Access.AuthService
import CosMonitor.Access.LogoutRuns
import CosMonitor.Gateway.MachineSteps
import CosMonitor.Gateway.MachineRuns
import CosMonitor.Perception.Activator
import CosMonitor.Memory.Competitors
import CosMonitor.Telemetry.IngestSteps
import CosMonitor.Foundation.Purging
import CosMonitor.Telemetry.TenantIsolation
import CosMonitor.Telemetry.StorableBatch
import CosMonitor.Telemetry.IngestRuns
import CosMonitor.Report.Documents
import CosMonitor.Report.Renderers
import CosMonitor.Report.ReportService
import CosMonitor.Report.ReportRuns
import CosMonitor.Gateway.CognitiveTrace
import CosMonitor.Foundation.Lookups
import CosMonitor.Gateway.TraceAgreement
import CosMonitor.Action.RefutedKnowledge
import CosMonitor.Memory.DistinctDecisions
import CosMonitor.Gateway.TraceCompleteness
import CosMonitor.Perception.ContextMigration
import CosMonitor.Foundation.PageLoop
import CosMonitor.Evaluation.PageCycles
import CosMonitor.Memory.OutcomeAgreement
import CosMonitor.Gateway.StoreCalls
import CosMonitor.Collector.ResourcePairs
import CosMonitor.Collector.Gauges
import CosMonitor.Collector.Choosing
import CosMonitor.Collector.RuleChoices
import CosMonitor.Collector.Percentages
import CosMonitor.Collector.LoweredReadings
import CosMonitor.Collector.Capacity
import CosMonitor.Learning.ScoreLists
import CosMonitor.Confidence.CalibratedScore
import CosMonitor.Memory.ComparedLists
import CosMonitor.Memory.ConsolidationTotals
import CosMonitor.Memory.ScoreRanges
import CosMonitor.Foundation.Escaping
import CosMonitor.Base.NumeralTexts
import CosMonitor.Base.Lowering
import CosMonitor.Reasoning.PredictionMatcher
import CosMonitor.Reasoning.LegiblePredictions
import CosMonitor.Evaluation.HypothesisEvaluation
import CosMonitor.Evaluation.ConfidenceChoice
import CosMonitor.Evaluation.EvidenceWindow
import CosMonitor.Telemetry.CanonicalForm
import CosMonitor.Telemetry.BodyErrors
import CosMonitor.Perception.Competition
import CosMonitor.Perception.ContextService
import CosMonitor.Reasoning.ActiveArgument
import CosMonitor.Reasoning.DetectionLaws
import CosMonitor.Foundation.Fields
import CosMonitor.Base.Bytes
import CosMonitor.Learning.ConfidenceIds
import CosMonitor.Confidence.Recalibration
import CosMonitor.Telemetry.JsonWriters
import CosMonitor.Telemetry.Dumps
import CosMonitor.Learning.ContentIds
import CosMonitor.Gateway.TenantResolvers
import CosMonitor.Gateway.RevokedTokens
import CosMonitor.Foundation.Listings
import CosMonitor.Gateway.TraceOrder
import CosMonitor.Learning.StaleTakeovers
import CosMonitor.Action.DecisionStore
import CosMonitor.Gateway.OutcomeRoutes
import CosMonitor.Gateway.ExecutionRecords
import CosMonitor.Gateway.OutcomeStatus
import CosMonitor.Base.CircuitBreaker
import CosMonitor.Foundation.SlidingWindow
import CosMonitor.Access.RateLimiter
import CosMonitor.Reasoning.Insights
import CosMonitor.Foundation.Written
import CosMonitor.Memory.SignalCounts
import CosMonitor.Gateway.MachineHandler
import CosMonitor.Telemetry.Retries
import CosMonitor.Base.Dates
import CosMonitor.Memory.Timeline
import CosMonitor.Foundation.Growing
import CosMonitor.Reasoning.HypothesisGenerator
import CosMonitor.Pipeline.Knowledge
import CosMonitor.Pipeline.Traceable
import CosMonitor.Collector.Grounded
import CosMonitor.Pipeline.Services
import CosMonitor.Pipeline.Provenance
import CosMonitor.Pipeline.Lineage
import CosMonitor.Pipeline.Settling
import CosMonitor.Foundation.Histories
import CosMonitor.Gateway.InstanceLifecycle
import CosMonitor.Access.Rotation
import CosMonitor.Web.ApiClient
import CosMonitor.Web.Session
