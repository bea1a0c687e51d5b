import AgentBigBrain.Core.ConversationStack
import AgentBigBrain.Core.SessionContext
import AgentBigBrain.Js.SameValue

/-!
# Session state

The records of a conversation session as they are persisted. A field that the source
declares optional is an `Option` as well: a property that is absent and one that is `null`
are told apart nowhere below. Counters and process ids are numbers of the host language,
here rationals.
-/
namespace AgentBigBrain.Interfaces

open AgentBigBrain.Js AgentBigBrain.Core

/-! ## Principals -/

inductive PrincipalRole where
  | owner | operator | allowedUser | conversationParticipant | externalAgent
  | runtimeContinuation | localOperator | legacyUnknown | unknown
  deriving DecidableEq

def PrincipalRole.text : PrincipalRole → String
  | .owner => "owner"
  | .operator => "operator"
  | .allowedUser => "allowed_user"
  | .conversationParticipant => "conversation_participant"
  | .externalAgent => "external_agent"
  | .runtimeContinuation => "runtime_continuation"
  | .localOperator => "local_operator"
  | .legacyUnknown => "legacy_unknown"
  | .unknown => "unknown"

inductive IdentityAuthority where
  | configuredOwnerProviderUserId | configuredOperatorProviderUserId | allowlistedProviderUserId
  | allowlistedUsername | externalAgentContract | runtimeInherited | transportHint | legacyUnknown
  deriving DecidableEq

inductive LegacyIdentityState where
  | principalVerified | legacyActorUnknown | legacyGlobalMemory | runtimeContinuationMissingOrigin
  | externalAgentLimited | testOverride
  deriving DecidableEq

inductive OwnerMatchSource where
  | providerUserId | localOperatorTrustedMode | operatorProviderUserId | none | legacyUnknown
  deriving DecidableEq

inductive PrincipalAccessClass where
  | ownerPrivate | operatorPrivate | speakerPrivate | sharedPublic | sessionOnly | workspaceLocal
  | agentGlobalSafe | externalAgentLimited | runtimeContinuationLimited | reviewOnly | blocked
  deriving DecidableEq

inductive PrincipalAccessReason where
  | ownerPrincipalMatched | operatorPrincipalMatched | speakerScopeMatched | sessionOnlyAllowed
  | publicSafe | externalAgentLimited | runtimeContinuationInherited | sameNameCollision
  | nonOwnerOwnerPrivateBlocked | publicRoutePrivateMemoryBlocked
  | unknownVisibilityPrivateMemoryBlocked | legacyGlobalOwnerOnly | missingPrincipalScope
  | subjectUnresolved | blockedByPolicy
  deriving DecidableEq

inductive PrincipalAccessOperation where
  | commandDispatch | routeMetadataIngress | directReply | taskExecution | queuedJobOwnership
  | profileRead | profileWrite | profileContinuityQuery | memoryReview | sourceRecallCapture
  | sourceRecallRetrieve | sourceRecallProject | entityGraphWrite | projectionReviewAction
  | proposalControl | clarificationControl | activePromptState | deliveryPreviewRender
  | consentApprovalText | approval | governanceVote | executionReceipt | runtimeTrace
  | learningWrite | pulseDelivery | skillLifecycle | backendProfileOverride | autonomousAbort
  | mediaFileDownloadOrCache | timerOrDelayedDelivery | workspaceRecoveryControl
  | workspaceArtifactOwnership | browserOrProcessLeaseOwnership | localPathAuthority
  | resourceCloseOrCleanup | providerCredentialOrCostBudget | diagnosticOrDebugSurface
  | modelPromptEgress
  deriving DecidableEq

inductive ConversationJobPrincipalSnapshotState where
  | verified | legacyActorUnknown | malformedBlocked
  deriving DecidableEq

structure ConversationJobPrincipalSnapshot where
  snapshotState : ConversationJobPrincipalSnapshotState
  principalRole : PrincipalRole
  routeVisibility : RouteVisibility
  accessOperation : PrincipalAccessOperation
  accessClass : PrincipalAccessClass
  accessAllowed : Bool
  accessReason : PrincipalAccessReason
  identityAuthority : IdentityAuthority
  ownerMatchSource : OwnerMatchSource
  legacyIdentityState : LegacyIdentityState
  principalIdHash : Option String
  providerUserIdHash : Option String
  decisionId : Option String
  deriving DecidableEq

structure ConversationResourceOwnerMetadata where
  principalRole : PrincipalRole
  routeVisibility : RouteVisibility
  accessClass : PrincipalAccessClass
  legacyIdentityState : LegacyIdentityState
  providerUserIdHash : Option String
  sourceJobId : Option String
  deriving DecidableEq

/-! ## Turns -/

inductive ConversationTurnActorMetadataSource where
  | sessionPrincipalContext | assistantRuntime | legacyRecovery
  deriving DecidableEq

def ConversationTurnActorMetadataSource.text : ConversationTurnActorMetadataSource → String
  | .sessionPrincipalContext => "session_principal_context"
  | .assistantRuntime => "assistant_runtime"
  | .legacyRecovery => "legacy_recovery"

structure ConversationTurnActorMetadata where
  source : ConversationTurnActorMetadataSource
  principalRole : PrincipalRole
  principalIdHash : Option String
  providerUserIdHash : Option String
  routeVisibility : RouteVisibility
  identityAuthority : IdentityAuthority
  legacyIdentityState : LegacyIdentityState
  ownerMatchSource : OwnerMatchSource
  displayNameHint : Option String
  sourceEventIdHash : Option String
  deriving DecidableEq

inductive SourceRecallStatus where
  | captured | blocked | failed
  deriving DecidableEq

inductive TurnSourceRecallSourceKind where
  | conversationTurn | assistantTurn | taskInput | taskSummary
  deriving DecidableEq

inductive TurnSourceRecallSourceRole where
  | user | assistant | runtime
  deriving DecidableEq

inductive TurnSourceRecallCaptureClass where
  | ordinarySource | assistantOutput | operationalOutput
  deriving DecidableEq

inductive SourceRecallSourceTimeKind where
  | observedEvent | capturedRecord | generatedSummary | unknown
  deriving DecidableEq

structure ConversationTurnSourceRecallMetadata where
  status : SourceRecallStatus
  sourceRecordId : Option String
  sourceKind : TurnSourceRecallSourceKind
  sourceRole : TurnSourceRecallSourceRole
  captureClass : TurnSourceRecallCaptureClass
  sourceTimeKind : SourceRecallSourceTimeKind
  sourceRefAvailable : Bool
  capturedAt : Option String
  diagnosticErrorCode : Option String
  deriving DecidableEq

inductive ConversationAssistantTurnKind where
  | clarification | informationalAnswer | workflowProgress | other
  deriving DecidableEq

inductive ConversationTurnMetadataSource where
  | runtimeMetadata | legacyTextInference
  deriving DecidableEq

structure ConversationTurnMetadata where
  assistantTurnKind : Option ConversationAssistantTurnKind
  assistantTurnKindSource : Option ConversationTurnMetadataSource
  actor : Option ConversationTurnActorMetadata
  sourceRecall : Option ConversationTurnSourceRecallMetadata
  deriving DecidableEq

structure ConversationTurn where
  id : Option String
  role : TurnRole
  text : String
  «at» : String
  metadata : Option ConversationTurnMetadata
  deriving DecidableEq

/-- What the conversation stack reads of a turn. -/
def ConversationTurn.stackTurn (turn : ConversationTurn) : ConversationStackTurnV1 where
  role := turn.role
  text := turn.text
  «at» := turn.at

/-! ## Jobs -/

inductive ConversationJobStatus where
  | queued | running | completed | failed
  deriving DecidableEq

inductive ConversationAckLifecycleState where
  | notSent | sent | replaced | finalSentNoEdit | cancelled
  deriving DecidableEq

inductive ConversationFinalDeliveryOutcome where
  | notAttempted | sent | rateLimited | failed
  deriving DecidableEq

inductive ConversationRecoveryKind where
  | structuredExecutorRecovery | workspaceAutoRecovery | staleSessionRecovery
  deriving DecidableEq

inductive ConversationRecoveryStatus where
  | attempting | recovered | failed
  deriving DecidableEq

inductive RecoveryFailureClass where
  | executableNotFound | commandTooLong | dependencyMissing | versionIncompatible
  | processPortInUse | processNotReady | targetNotRunning | authNotInitialized | remoteRateLimited
  | remoteUnavailable | browserStartBlocked | workspaceHolderConflict
  | transcriptionBackendUnavailable | unknownExecutionFailure
  deriving DecidableEq

structure ConversationRecoveryTrace where
  kind : ConversationRecoveryKind
  status : ConversationRecoveryStatus
  summary : String
  updatedAt : String
  recoveryClass : Option RecoveryFailureClass
  fingerprint : Option String
  deriving DecidableEq

inductive PulsePromptKind where
  | stage686DynamicPulse | legacyPulse | semanticInquiryPulse
  deriving DecidableEq

structure PulseSystemJobMetadata where
  pulseId : Option String
  candidateId : Option String
  deliveryDecisionId : String
  decisionRecordId : String
  promptKind : PulsePromptKind
  deriving DecidableEq

structure ConversationJob where
  id : String
  input : String
  executionInput : Option String
  createdAt : String
  startedAt : Option String
  completedAt : Option String
  status : ConversationJobStatus
  resultSummary : Option String
  errorMessage : Option String
  recoveryTrace : Option ConversationRecoveryTrace
  isSystemJob : Bool
  ackTimerGeneration : ℚ
  ackEligibleAt : Option String
  ackLifecycleState : ConversationAckLifecycleState
  ackMessageId : Option String
  ackSentAt : Option String
  ackEditAttemptCount : ℚ
  ackLastErrorCode : Option String
  finalDeliveryOutcome : ConversationFinalDeliveryOutcome
  finalDeliveryAttemptCount : ℚ
  finalDeliveryLastErrorCode : Option String
  finalDeliveryLastAttemptAt : Option String
  pauseRequestedAt : Option String
  pulseMetadata : Option PulseSystemJobMetadata
  principalSnapshot : Option ConversationJobPrincipalSnapshot
  deriving DecidableEq

/-! ## Proposals, clarifications, progress and handoff -/

inductive ProposalStatus where
  | pending | approved | cancelled | executed
  deriving DecidableEq

structure PendingProposal where
  id : String
  originalInput : String
  currentInput : String
  createdAt : String
  updatedAt : String
  status : ProposalStatus
  controller : Option ConversationTurnActorMetadata
  deriving DecidableEq

inductive ClarificationOptionId where
  | plan | build | staticHtml | nextjs | react | explain | fixNow | skills | continueRecovery
  | retryWithShutdown | cancel
  deriving DecidableEq

structure ActiveClarificationOption where
  id : ClarificationOptionId
  label : String
  deriving DecidableEq

inductive ClarificationKind where
  | executionMode | buildFormat | taskRecovery
  deriving DecidableEq

inductive ClarificationRenderingIntent where
  | buildFormat | planOrBuild | fixOrExplain | taskRecovery
  deriving DecidableEq

inductive ClarificationRiskClass where
  | low | medium | high
  deriving DecidableEq

structure ActiveClarificationState where
  id : String
  kind : ClarificationKind
  sourceInput : String
  question : String
  requestedAt : String
  matchedRuleId : String
  renderingIntent : ClarificationRenderingIntent
  riskClass : Option ClarificationRiskClass
  promptFingerprint : Option String
  recoveryInstruction : Option String
  options : List ActiveClarificationOption
  controller : Option ConversationTurnActorMetadata
  deriving DecidableEq

inductive ConversationClassifierConfidenceTier where
  | high | med | low
  deriving DecidableEq

inductive ConversationIntentModeSource where
  | slashCommand | voiceCommand | naturalIntent | clarificationAnswer
  deriving DecidableEq

structure ConversationModeContinuityState where
  activeMode : ConversationDomainRoutingMode
  source : ConversationIntentModeSource
  confidence : ConversationClassifierConfidenceTier
  lastAffirmedAt : String
  lastUserInput : String
  lastClarificationId : Option String
  deriving DecidableEq

inductive ConversationProgressStatus where
  | idle | starting | working | retrying | verifying | waitingForUser | completed | stopped
  deriving DecidableEq

structure ConversationProgressState where
  status : ConversationProgressStatus
  message : String
  jobId : Option String
  updatedAt : String
  recoveryTrace : Option ConversationRecoveryTrace
  deriving DecidableEq

inductive ConversationReturnHandoffStatus where
  | completed | stopped | waitingForUser
  deriving DecidableEq

structure ConversationReturnHandoffRecord where
  id : String
  status : ConversationReturnHandoffStatus
  goal : String
  summary : String
  nextSuggestedStep : Option String
  workspaceRootPath : Option String
  primaryArtifactPath : Option String
  previewUrl : Option String
  changedPaths : List String
  sourceJobId : Option String
  domainSnapshotLane : Option ConversationDomainLane
  domainSnapshotRecordedAt : Option String
  updatedAt : String
  deriving DecidableEq

/-! ## Actions, browser sessions, destinations and workspace -/

inductive ConversationRecentActionKind where
  | file | folder | browserSession | process | url | report | taskSummary
  deriving DecidableEq

inductive ConversationRecentActionStatus where
  | created | updated | opened | closed | running | completed | failed
  deriving DecidableEq

structure ConversationRecentActionRecord where
  id : String
  kind : ConversationRecentActionKind
  label : String
  location : Option String
  status : ConversationRecentActionStatus
  sourceJobId : Option String
  «at» : String
  summary : String
  resourceOwner : Option ConversationResourceOwnerMetadata
  deriving DecidableEq

inductive ConversationBrowserSessionStatus where
  | opened | closed
  deriving DecidableEq

inductive BrowserVisibility where
  | visible | headless
  deriving DecidableEq

inductive ConversationBrowserSessionControllerKind where
  | playwrightManaged | osDefault
  deriving DecidableEq

structure ConversationBrowserSessionRecord where
  id : String
  label : String
  url : String
  status : ConversationBrowserSessionStatus
  openedAt : String
  closedAt : Option String
  sourceJobId : Option String
  visibility : BrowserVisibility
  controllerKind : ConversationBrowserSessionControllerKind
  controlAvailable : Bool
  browserProcessPid : Option ℚ
  workspaceRootPath : Option String
  linkedProcessLeaseId : Option String
  linkedProcessCwd : Option String
  linkedProcessPid : Option ℚ
  resourceOwner : Option ConversationResourceOwnerMetadata
  deriving DecidableEq

structure ConversationPathDestinationRecord where
  id : String
  label : String
  resolvedPath : String
  sourceJobId : Option String
  updatedAt : String
  «at» : Option String
  resourceOwner : Option ConversationResourceOwnerMetadata
  deriving DecidableEq

inductive ConversationWorkspaceOwnershipState where
  | tracked | stale | orphaned
  deriving DecidableEq

inductive ConversationWorkspacePreviewStackState where
  | browserAndPreview | browserOnly | previewOnly | detached
  deriving DecidableEq

structure ConversationActiveWorkspaceRecord where
  id : String
  label : String
  rootPath : Option String
  primaryArtifactPath : Option String
  previewUrl : Option String
  browserSessionId : Option String
  browserSessionIds : List String
  browserSessionStatus : Option ConversationBrowserSessionStatus
  browserProcessPid : Option ℚ
  previewProcessLeaseId : Option String
  previewProcessLeaseIds : List String
  previewProcessCwd : Option String
  lastKnownPreviewProcessPid : Option ℚ
  stillControllable : Bool
  ownershipState : ConversationWorkspaceOwnershipState
  previewStackState : ConversationWorkspacePreviewStackState
  lastChangedPaths : List String
  sourceJobId : Option String
  domainSnapshotLane : Option ConversationDomainLane
  domainSnapshotRecordedAt : Option String
  updatedAt : String
  resourceOwner : Option ConversationResourceOwnerMetadata
  deriving DecidableEq

/-! ## Classifier events and pulse -/

inductive ConversationClassifierKind where
  | followUp | proposalReply | pulseLexical
  deriving DecidableEq

def ConversationClassifierKind.text : ConversationClassifierKind → String
  | .followUp => "follow_up"
  | .proposalReply => "proposal_reply"
  | .pulseLexical => "pulse_lexical"

inductive ConversationClassifierCategory where
  | ack | approve | deny | unclear | command | nonCommand
  deriving DecidableEq

inductive ConversationClassifierIntent where
  | approve | cancel | adjust | question | on | off | isPrivate | isPublic | status
  deriving DecidableEq

def ConversationClassifierIntent.text : ConversationClassifierIntent → String
  | .approve => "APPROVE"
  | .cancel => "CANCEL"
  | .adjust => "ADJUST"
  | .question => "QUESTION"
  | .on => "on"
  | .off => "off"
  | .isPrivate => "private"
  | .isPublic => "public"
  | .status => "status"

structure ConversationClassifierEvent where
  classifier : ConversationClassifierKind
  input : String
  «at» : String
  isShortFollowUp : Bool
  category : ConversationClassifierCategory
  confidenceTier : ConversationClassifierConfidenceTier
  matchedRuleId : String
  rulepackVersion : String
  intent : Option ConversationClassifierIntent
  conflict : Bool
  deriving DecidableEq

inductive AgentPulseMode where
  | isPrivate | isPublic
  deriving DecidableEq

inductive AgentPulseRouteStrategy where
  | lastPrivateUsed | currentConversation
  deriving DecidableEq

inductive AgentPulseDecisionCode where
  | allowed | disabled | optOut | noPrivateRoute | noStaleFacts | noUnresolvedCommitments
  | noContextualLinkage | relationshipRoleSuppressed | contextDriftSuppressed
  | contextualTopicCooldown | sessionDomainSuppressed | quietHours | rateLimit | dailyCap
  | reasonNotAllowed | publicPrivacyBlocked | activeMission | sourceRecallBlocked
  | runtimeActionNotSchedulerAuthorized | dependencyUnavailable | skippedActiveWork
  | blockedByPolicy | notEvaluated | dynamicSent | dynamicSuppressed
  deriving DecidableEq

inductive AgentPulseControlSource where
  | exactSlashCommand | naturalIntent | operatorReview
  deriving DecidableEq

structure AgentPulseContextualLexicalEvidence where
  matchedRuleId : String
  rulepackVersion : String
  rulepackFingerprint : String
  confidenceTier : ConversationClassifierConfidenceTier
  confidence : ℚ
  conflict : Bool
  candidateTokens : List String
  evaluatedAt : String
  deriving DecidableEq

/-- Emissions and decision records are kept as they were written. -/
structure AgentPulseSessionState where
  optIn : Bool
  mode : AgentPulseMode
  routeStrategy : AgentPulseRouteStrategy
  lastPulseSentAt : Option String
  lastPulseReason : Option String
  lastPulseTargetConversationId : Option String
  lastDecisionCode : AgentPulseDecisionCode
  lastEvaluatedAt : Option String
  lastContextualLexicalEvidence : Option AgentPulseContextualLexicalEvidence
  recentEmissions : List Json
  lastDecisionRecord : Option Json
  decisionRecords : List Json
  userStyleFingerprint : Option String
  userTimezone : Option String
  controlUpdatedAt : Option String
  controlSource : Option AgentPulseControlSource
  deriving DecidableEq

/-! ## Sessions -/

inductive ConversationTransportProvider where
  | telegram | discord
  deriving DecidableEq

structure ConversationTransportIdentityRecord where
  provider : ConversationTransportProvider
  username : Option String
  displayName : Option String
  givenName : Option String
  familyName : Option String
  observedAt : String
  deriving DecidableEq

inductive ModelBackend where
  | mock | openaiApi | ollama | codexOauth
  deriving DecidableEq

/-- The principal context and the override record are kept as they were written. -/
structure ConversationSession where
  conversationId : String
  userId : String
  username : String
  transportIdentity : Option ConversationTransportIdentityRecord
  conversationVisibility : RouteVisibility
  principalContext : Option Json
  sessionSchemaVersion : Option SessionSchemaVersion
  conversationStack : Option ConversationStackV1
  updatedAt : String
  modelBackendOverride : Option ModelBackend
  codexAuthProfileId : Option String
  modelOverrideAccess : Option Json
  activeProposal : Option PendingProposal
  activeClarification : Option ActiveClarificationState
  domainContext : ConversationDomainContext
  modeContinuity : Option ConversationModeContinuityState
  progressState : Option ConversationProgressState
  returnHandoff : Option ConversationReturnHandoffRecord
  runningJobId : Option String
  queuedJobs : List ConversationJob
  recentJobs : List ConversationJob
  recentActions : List ConversationRecentActionRecord
  browserSessions : List ConversationBrowserSessionRecord
  pathDestinations : List ConversationPathDestinationRecord
  activeWorkspace : Option ConversationActiveWorkspaceRecord
  conversationTurns : List ConversationTurn
  classifierEvents : List ConversationClassifierEvent
  agentPulse : AgentPulseSessionState
  deriving DecidableEq

end AgentBigBrain.Interfaces
