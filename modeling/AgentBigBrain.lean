import AgentBigBrain.Js.Text
import AgentBigBrain.Js.Sort
import AgentBigBrain.Js.HostSort
import AgentBigBrain.Js.Persisted
import AgentBigBrain.Js.Json
import AgentBigBrain.Js.SameValue
import AgentBigBrain.Js.Host
import AgentBigBrain.Lib.HashChain
import AgentBigBrain.Core.Canonicalization
import AgentBigBrain.Core.Sha256
import AgentBigBrain.Core.Types
import AgentBigBrain.Core.ExecutionReceipts
import AgentBigBrain.Core.ReceiptChain
import AgentBigBrain.Core.ActionCostPolicy
import AgentBigBrain.Core.MissionStateMachine
import AgentBigBrain.Orchestration.TaskRunnerSummary
import AgentBigBrain.Orchestration.TaskRunnerLiveRunOverrides
import AgentBigBrain.Orchestration.TaskRunnerLiveRunGuards
import AgentBigBrain.Core.ApprovalPolicy
import AgentBigBrain.Orchestration.TaskRunnerNetworkPreflight
import AgentBigBrain.Orchestration.NetworkApproval
import AgentBigBrain.Core.HardConstraints
import AgentBigBrain.Orchestration.TaskRunnerPreflight
import AgentBigBrain.Orchestration.TaskRunnerGovernance
import AgentBigBrain.Orchestration.CouncilVote
import AgentBigBrain.Orchestration.TaskRunnerExecution
import AgentBigBrain.Orchestration.TaskRunner
import AgentBigBrain.Orchestration.TaskRunnerSafety
import AgentBigBrain.Orchestration.Orchestrator
import AgentBigBrain.Interfaces.SessionMerging
import AgentBigBrain.Interfaces.SessionMutations
import AgentBigBrain.Interfaces.JobLedger
import AgentBigBrain.Interfaces.JobQueue
import AgentBigBrain.Interfaces.QueueOrder
import AgentBigBrain.Interfaces.QueueSafety
import AgentBigBrain.Interfaces.QueueRuns
import AgentBigBrain.Interfaces.SessionRecovery
import AgentBigBrain.Interfaces.StoredLedgers
import AgentBigBrain.Interfaces.SessionStore
import AgentBigBrain.Interfaces.ClearedState
import AgentBigBrain.Interfaces.SelfMerge
import AgentBigBrain.Core.OpenLoops
import AgentBigBrain.Core.TopicInterpretation
import AgentBigBrain.Core.RuntimeThreads
import AgentBigBrain.Core.StackInvariant
import AgentBigBrain.Core.StackRefresh
import AgentBigBrain.Interfaces.BoundedLedgers
import AgentBigBrain.Core.EntityGraph
import AgentBigBrain.Core.EntityExtraction
import AgentBigBrain.Core.EntityGraphExtraction
import AgentBigBrain.Core.AliasOwnership
import AgentBigBrain.Core.BridgeQuestions
import AgentBigBrain.Core.EntityContinuity
import AgentBigBrain.Core.EdgeCaps
import AgentBigBrain.Core.BridgeEmission
import AgentBigBrain.Core.EntityGraphRuns
import AgentBigBrain.Core.OneEdgePerPair
import AgentBigBrain.Lib.Runs
import AgentBigBrain.Core.FileLock
import AgentBigBrain.Core.FileLockExclusion
import AgentBigBrain.Core.PulseCandidates
import AgentBigBrain.Core.PulseRuns
import AgentBigBrain.Core.ProfileFactLifecycle
import AgentBigBrain.Core.ProfileFactLedger
import AgentBigBrain.Core.DisplacementPolicy
import AgentBigBrain.Core.RuntimeState
import AgentBigBrain.Core.BridgeRuns
import AgentBigBrain.Core.BridgeLimits
import AgentBigBrain.Core.BridgeAnswers
import AgentBigBrain.Core.ProfileFactGovernance
import AgentBigBrain.Core.ProfileFactNormalization
import AgentBigBrain.Core.ProfileStoreRuns
import AgentBigBrain.Core.ProfileLiveReload
import AgentBigBrain.Core.MutationJournal
import AgentBigBrain.Core.JournalWatermarks
import AgentBigBrain.Core.EpisodeClosure
import AgentBigBrain.Core.WorkflowObservations
import AgentBigBrain.Core.LedgerStores
import AgentBigBrain.Core.RecallAccess
import AgentBigBrain.Core.RecallLifecycle
import AgentBigBrain.Core.LessonVisibility
import AgentBigBrain.Core.TruthGovernance
import AgentBigBrain.Autonomy.MissionEvidence
import AgentBigBrain.Autonomy.LoopCleanupPolicy
import AgentBigBrain.Autonomy.StructuredRecovery
import AgentBigBrain.Autonomy.AgentLoop
import AgentBigBrain.Autonomy.LoopIterations
import AgentBigBrain.Autonomy.LoopStops
import AgentBigBrain.Autonomy.ManagedProcesses
import AgentBigBrain.Lib.KeyedViews
import AgentBigBrain.Interfaces.FederatedServer
import AgentBigBrain.Interfaces.FederatedIsolation
import AgentBigBrain.Interfaces.FederatedPersistence
import AgentBigBrain.Interfaces.FederatedOutcomes
import AgentBigBrain.Lib.SlashPaths
import AgentBigBrain.Core.PathConstraints
import AgentBigBrain.Core.ConstrainedPaths
import AgentBigBrain.Skills.SkillManifest
import AgentBigBrain.Skills.SkillActions
import AgentBigBrain.Skills.SkillTrust
import AgentBigBrain.Lib.Sightings
import AgentBigBrain.LiveRun.ManagedProcessRegistry
import AgentBigBrain.LiveRun.ManagedProcessHandlers
import AgentBigBrain.LiveRun.ManagedProcessStops
import AgentBigBrain.Lib.StaleMerge
import AgentBigBrain.Interfaces.RecordPrecedence
import AgentBigBrain.Interfaces.LedgerUpdates
import AgentBigBrain.Interfaces.StaleSaves
import AgentBigBrain.Lib.Occurrences
import AgentBigBrain.Js.CaseMapping
import AgentBigBrain.Core.CurrentRequest
import AgentBigBrain.Core.RequestEnvelope
import AgentBigBrain.Core.PatternLedger
import AgentBigBrain.Core.PatternDecay
import AgentBigBrain.Interfaces.PulseGateway
import AgentBigBrain.Core.RecallFairness
import AgentBigBrain.Lib.Windows
import AgentBigBrain.Js.Utf16
import AgentBigBrain.Core.RecallQuotes
import AgentBigBrain.Core.DomainContextReload
import AgentBigBrain.LiveRun.BrowserSessionRegistry
import AgentBigBrain.LiveRun.BrowserSessionTruth
import AgentBigBrain.Js.TieOrder
import AgentBigBrain.Core.CanonicalIdentity
import AgentBigBrain.Interfaces.ClarificationAnswers
import AgentBigBrain.Js.HostOrder
import AgentBigBrain.Lib.MixedOrder
import AgentBigBrain.Lib.KeyedOrder
import AgentBigBrain.Core.JournalReplayOrder
import AgentBigBrain.Core.JournalSurvivors
import AgentBigBrain.Core.JournalNormalization
import AgentBigBrain.Core.OpenLoopMaintenance
import AgentBigBrain.Core.OpenLoopSelection
import AgentBigBrain.Js.UrlHost
import AgentBigBrain.Orchestration.EgressPolicy
import AgentBigBrain.Js.JsonPath
import AgentBigBrain.Core.StackPaths
import AgentBigBrain.Orchestration.DuplicateActions
import AgentBigBrain.Orchestration.LiveRunDependencies
import AgentBigBrain.Orchestration.LiveRunRetargeting
import AgentBigBrain.Js.OwnProperties
import AgentBigBrain.Core.ReviewActions
import AgentBigBrain.Core.ReviewActionRewrite
import AgentBigBrain.Core.AliasReconciliation
import AgentBigBrain.Core.BridgeBackoff
import AgentBigBrain.Core.ConfirmedRelations
import AgentBigBrain.Orchestration.PlannerFailures
import AgentBigBrain.Autonomy.CompletionEvidence
