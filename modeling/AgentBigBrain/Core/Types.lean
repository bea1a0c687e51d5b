import AgentBigBrain.Js.Host

/-!
# Runtime contracts

The records that the planner, the governors, the executor and the ledgers exchange.
Enumerations carry the text under which the source writes them, since that text enters
digests and idempotency keys.
-/
namespace AgentBigBrain.Core

open Js

inductive ActionType where
  | respond
  | readFile
  | writeFile
  | deleteFile
  | listDirectory
  | createSkill
  | updateSkill
  | deprecateSkill
  | approveSkill
  | rejectSkill
  | runSkill
  | networkWrite
  | selfModify
  | shellCommand
  | startProcess
  | checkProcess
  | stopProcess
  | probePort
  | probeHttp
  | verifyBrowser
  | openBrowser
  | closeBrowser
  | stopFolderRuntimeProcesses
  | inspectPathHolders
  | inspectWorkspaceResources
  | memoryMutation
  | pulseEmit
  deriving DecidableEq, Repr

def ActionType.text : ActionType → String
  | .respond => "respond"
  | .readFile => "read_file"
  | .writeFile => "write_file"
  | .deleteFile => "delete_file"
  | .listDirectory => "list_directory"
  | .createSkill => "create_skill"
  | .updateSkill => "update_skill"
  | .deprecateSkill => "deprecate_skill"
  | .approveSkill => "approve_skill"
  | .rejectSkill => "reject_skill"
  | .runSkill => "run_skill"
  | .networkWrite => "network_write"
  | .selfModify => "self_modify"
  | .shellCommand => "shell_command"
  | .startProcess => "start_process"
  | .checkProcess => "check_process"
  | .stopProcess => "stop_process"
  | .probePort => "probe_port"
  | .probeHttp => "probe_http"
  | .verifyBrowser => "verify_browser"
  | .openBrowser => "open_browser"
  | .closeBrowser => "close_browser"
  | .stopFolderRuntimeProcesses => "stop_folder_runtime_processes"
  | .inspectPathHolders => "inspect_path_holders"
  | .inspectWorkspaceResources => "inspect_workspace_resources"
  | .memoryMutation => "memory_mutation"
  | .pulseEmit => "pulse_emit"

inductive GovernorId where
  | ethics
  | logic
  | resource
  | security
  | continuity
  | utility
  | compliance
  | codeReview
  deriving DecidableEq, Repr

def GovernorId.text : GovernorId → String
  | .ethics => "ethics"
  | .logic => "logic"
  | .resource => "resource"
  | .security => "security"
  | .continuity => "continuity"
  | .utility => "utility"
  | .compliance => "compliance"
  | .codeReview => "codeReview"

inductive ConstraintViolationCode where
  | costLimitExceeded
  | cumulativeCostLimitExceeded
  | immutableViolation
  | deleteMissingPath
  | deleteProtectedPath
  | deleteOutsideSandbox
  | readMissingPath
  | readProtectedPath
  | writeMissingPath
  | writeProtectedPath
  | listMissingPath
  | listProtectedPath
  | listOutsideSandbox
  | createSkillDisabled
  | createSkillMissingName
  | createSkillInvalidName
  | createSkillMissingCode
  | createSkillCodeTooLarge
  | skillActionMissingName
  | skillActionInvalidName
  | skillActionUnsafeContent
  | skillActionArtifactMissing
  | runSkillMissingName
  | runSkillInvalidName
  | runSkillArtifactMissing
  | runSkillInvalidExport
  | runSkillLoadFailed
  | shellDisabledByPolicy
  | shellProfileInvalid
  | shellProfileNotSupportedOnPlatform
  | shellExecutableNotFound
  | shellMissingCommand
  | shellProfileMismatch
  | shellCommandTooLong
  | shellTimeoutInvalid
  | shellCwdOutsideSandbox
  | shellDangerousCommand
  | shellTargetsProtectedPath
  | processDisabledByPolicy
  | processMissingCommand
  | processCommandTooLong
  | processProfileMismatch
  | processCwdOutsideSandbox
  | processDangerousCommand
  | processTargetsProtectedPath
  | processMissingLeaseId
  | processLeaseNotFound
  | processStartFailed
  | processStopFailed
  | processNotReady
  | probeMissingPort
  | probePortInvalid
  | probeMissingUrl
  | probeUrlInvalid
  | probeHostNotLocal
  | probeUrlNotLocal
  | probeTimeoutInvalid
  | browserVerifyMissingUrl
  | browserVerifyUrlInvalid
  | browserVerifyUrlNotLocal
  | browserVerifyTimeoutInvalid
  | browserSessionMissingId
  | browserSessionNotFound
  | browserSessionControlUnavailable
  | browserVerifyRuntimeUnavailable
  | browserVerifyExpectationFailed
  | browserVerifyFailed
  | explicitBrowserOpenDisallowed
  | explicitPreviewStartDisallowed
  | explicitPreviewVerificationDisallowed
  | networkWriteDisabled
  | identityImpersonationDenied
  | personalDataApprovalRequired
  | governorSetEmpty
  | governanceDecisionMissing
  | globalDeadlineExceeded
  | modelSpendLimitExceeded
  | modelCallLimitExceeded
  | missionStopLimitReached
  | idempotencyKeyReplayDetected
  | actionIdDuplicateDetected
  | stateStaleReplanRequired
  | conflictObjectUnresolved
  | approvalDiffHashMismatch
  | approvalExpired
  | approvalScopeMismatch
  | approvalMaxUsesExceeded
  | connectorOperationNotSupportedInStage675
  | workflowDriftDetected
  | actionExecutionFailed
  | createSkillNonExecutable
  | createSkillUnsafeCode
  | memoryMutationBlocked
  | pulseBlocked
  | memoryMutationInvalidStore
  | memoryMutationInvalidOperation
  | memoryMutationMissingPayload
  | pulseEmitInvalidKind
  | verificationGateFailed
  | networkEgressPolicyBlocked
  | jitApprovalRequired
  deriving DecidableEq, Repr

def ConstraintViolationCode.text : ConstraintViolationCode → String
  | .costLimitExceeded => "COST_LIMIT_EXCEEDED"
  | .cumulativeCostLimitExceeded => "CUMULATIVE_COST_LIMIT_EXCEEDED"
  | .immutableViolation => "IMMUTABLE_VIOLATION"
  | .deleteMissingPath => "DELETE_MISSING_PATH"
  | .deleteProtectedPath => "DELETE_PROTECTED_PATH"
  | .deleteOutsideSandbox => "DELETE_OUTSIDE_SANDBOX"
  | .readMissingPath => "READ_MISSING_PATH"
  | .readProtectedPath => "READ_PROTECTED_PATH"
  | .writeMissingPath => "WRITE_MISSING_PATH"
  | .writeProtectedPath => "WRITE_PROTECTED_PATH"
  | .listMissingPath => "LIST_MISSING_PATH"
  | .listProtectedPath => "LIST_PROTECTED_PATH"
  | .listOutsideSandbox => "LIST_OUTSIDE_SANDBOX"
  | .createSkillDisabled => "CREATE_SKILL_DISABLED"
  | .createSkillMissingName => "CREATE_SKILL_MISSING_NAME"
  | .createSkillInvalidName => "CREATE_SKILL_INVALID_NAME"
  | .createSkillMissingCode => "CREATE_SKILL_MISSING_CODE"
  | .createSkillCodeTooLarge => "CREATE_SKILL_CODE_TOO_LARGE"
  | .skillActionMissingName => "SKILL_ACTION_MISSING_NAME"
  | .skillActionInvalidName => "SKILL_ACTION_INVALID_NAME"
  | .skillActionUnsafeContent => "SKILL_ACTION_UNSAFE_CONTENT"
  | .skillActionArtifactMissing => "SKILL_ACTION_ARTIFACT_MISSING"
  | .runSkillMissingName => "RUN_SKILL_MISSING_NAME"
  | .runSkillInvalidName => "RUN_SKILL_INVALID_NAME"
  | .runSkillArtifactMissing => "RUN_SKILL_ARTIFACT_MISSING"
  | .runSkillInvalidExport => "RUN_SKILL_INVALID_EXPORT"
  | .runSkillLoadFailed => "RUN_SKILL_LOAD_FAILED"
  | .shellDisabledByPolicy => "SHELL_DISABLED_BY_POLICY"
  | .shellProfileInvalid => "SHELL_PROFILE_INVALID"
  | .shellProfileNotSupportedOnPlatform => "SHELL_PROFILE_NOT_SUPPORTED_ON_PLATFORM"
  | .shellExecutableNotFound => "SHELL_EXECUTABLE_NOT_FOUND"
  | .shellMissingCommand => "SHELL_MISSING_COMMAND"
  | .shellProfileMismatch => "SHELL_PROFILE_MISMATCH"
  | .shellCommandTooLong => "SHELL_COMMAND_TOO_LONG"
  | .shellTimeoutInvalid => "SHELL_TIMEOUT_INVALID"
  | .shellCwdOutsideSandbox => "SHELL_CWD_OUTSIDE_SANDBOX"
  | .shellDangerousCommand => "SHELL_DANGEROUS_COMMAND"
  | .shellTargetsProtectedPath => "SHELL_TARGETS_PROTECTED_PATH"
  | .processDisabledByPolicy => "PROCESS_DISABLED_BY_POLICY"
  | .processMissingCommand => "PROCESS_MISSING_COMMAND"
  | .processCommandTooLong => "PROCESS_COMMAND_TOO_LONG"
  | .processProfileMismatch => "PROCESS_PROFILE_MISMATCH"
  | .processCwdOutsideSandbox => "PROCESS_CWD_OUTSIDE_SANDBOX"
  | .processDangerousCommand => "PROCESS_DANGEROUS_COMMAND"
  | .processTargetsProtectedPath => "PROCESS_TARGETS_PROTECTED_PATH"
  | .processMissingLeaseId => "PROCESS_MISSING_LEASE_ID"
  | .processLeaseNotFound => "PROCESS_LEASE_NOT_FOUND"
  | .processStartFailed => "PROCESS_START_FAILED"
  | .processStopFailed => "PROCESS_STOP_FAILED"
  | .processNotReady => "PROCESS_NOT_READY"
  | .probeMissingPort => "PROBE_MISSING_PORT"
  | .probePortInvalid => "PROBE_PORT_INVALID"
  | .probeMissingUrl => "PROBE_MISSING_URL"
  | .probeUrlInvalid => "PROBE_URL_INVALID"
  | .probeHostNotLocal => "PROBE_HOST_NOT_LOCAL"
  | .probeUrlNotLocal => "PROBE_URL_NOT_LOCAL"
  | .probeTimeoutInvalid => "PROBE_TIMEOUT_INVALID"
  | .browserVerifyMissingUrl => "BROWSER_VERIFY_MISSING_URL"
  | .browserVerifyUrlInvalid => "BROWSER_VERIFY_URL_INVALID"
  | .browserVerifyUrlNotLocal => "BROWSER_VERIFY_URL_NOT_LOCAL"
  | .browserVerifyTimeoutInvalid => "BROWSER_VERIFY_TIMEOUT_INVALID"
  | .browserSessionMissingId => "BROWSER_SESSION_MISSING_ID"
  | .browserSessionNotFound => "BROWSER_SESSION_NOT_FOUND"
  | .browserSessionControlUnavailable => "BROWSER_SESSION_CONTROL_UNAVAILABLE"
  | .browserVerifyRuntimeUnavailable => "BROWSER_VERIFY_RUNTIME_UNAVAILABLE"
  | .browserVerifyExpectationFailed => "BROWSER_VERIFY_EXPECTATION_FAILED"
  | .browserVerifyFailed => "BROWSER_VERIFY_FAILED"
  | .explicitBrowserOpenDisallowed => "EXPLICIT_BROWSER_OPEN_DISALLOWED"
  | .explicitPreviewStartDisallowed => "EXPLICIT_PREVIEW_START_DISALLOWED"
  | .explicitPreviewVerificationDisallowed => "EXPLICIT_PREVIEW_VERIFICATION_DISALLOWED"
  | .networkWriteDisabled => "NETWORK_WRITE_DISABLED"
  | .identityImpersonationDenied => "IDENTITY_IMPERSONATION_DENIED"
  | .personalDataApprovalRequired => "PERSONAL_DATA_APPROVAL_REQUIRED"
  | .governorSetEmpty => "GOVERNOR_SET_EMPTY"
  | .governanceDecisionMissing => "GOVERNANCE_DECISION_MISSING"
  | .globalDeadlineExceeded => "GLOBAL_DEADLINE_EXCEEDED"
  | .modelSpendLimitExceeded => "MODEL_SPEND_LIMIT_EXCEEDED"
  | .modelCallLimitExceeded => "MODEL_CALL_LIMIT_EXCEEDED"
  | .missionStopLimitReached => "MISSION_STOP_LIMIT_REACHED"
  | .idempotencyKeyReplayDetected => "IDEMPOTENCY_KEY_REPLAY_DETECTED"
  | .actionIdDuplicateDetected => "ACTION_ID_DUPLICATE_DETECTED"
  | .stateStaleReplanRequired => "STATE_STALE_REPLAN_REQUIRED"
  | .conflictObjectUnresolved => "CONFLICT_OBJECT_UNRESOLVED"
  | .approvalDiffHashMismatch => "APPROVAL_DIFF_HASH_MISMATCH"
  | .approvalExpired => "APPROVAL_EXPIRED"
  | .approvalScopeMismatch => "APPROVAL_SCOPE_MISMATCH"
  | .approvalMaxUsesExceeded => "APPROVAL_MAX_USES_EXCEEDED"
  | .connectorOperationNotSupportedInStage675 => "CONNECTOR_OPERATION_NOT_SUPPORTED_IN_STAGE_6_75"
  | .workflowDriftDetected => "WORKFLOW_DRIFT_DETECTED"
  | .actionExecutionFailed => "ACTION_EXECUTION_FAILED"
  | .createSkillNonExecutable => "CREATE_SKILL_NON_EXECUTABLE"
  | .createSkillUnsafeCode => "CREATE_SKILL_UNSAFE_CODE"
  | .memoryMutationBlocked => "MEMORY_MUTATION_BLOCKED"
  | .pulseBlocked => "PULSE_BLOCKED"
  | .memoryMutationInvalidStore => "MEMORY_MUTATION_INVALID_STORE"
  | .memoryMutationInvalidOperation => "MEMORY_MUTATION_INVALID_OPERATION"
  | .memoryMutationMissingPayload => "MEMORY_MUTATION_MISSING_PAYLOAD"
  | .pulseEmitInvalidKind => "PULSE_EMIT_INVALID_KIND"
  | .verificationGateFailed => "VERIFICATION_GATE_FAILED"
  | .networkEgressPolicyBlocked => "NETWORK_EGRESS_POLICY_BLOCKED"
  | .jitApprovalRequired => "JIT_APPROVAL_REQUIRED"

inductive GovernorRejectCategory where
  | abuseMalwareOrFraud
  | securityBoundary
  | identityIntegrity
  | compliancePolicy
  | resourceBudget
  | rationaleQuality
  | utilityAlignment
  | modelAdvisoryBlock
  | governorTimeoutOrFailure
  | governorMalformedVote
  | governorMissing
  | otherPolicy
  deriving DecidableEq, Repr

def GovernorRejectCategory.text : GovernorRejectCategory → String
  | .abuseMalwareOrFraud => "ABUSE_MALWARE_OR_FRAUD"
  | .securityBoundary => "SECURITY_BOUNDARY"
  | .identityIntegrity => "IDENTITY_INTEGRITY"
  | .compliancePolicy => "COMPLIANCE_POLICY"
  | .resourceBudget => "RESOURCE_BUDGET"
  | .rationaleQuality => "RATIONALE_QUALITY"
  | .utilityAlignment => "UTILITY_ALIGNMENT"
  | .modelAdvisoryBlock => "MODEL_ADVISORY_BLOCK"
  | .governorTimeoutOrFailure => "GOVERNOR_TIMEOUT_OR_FAILURE"
  | .governorMalformedVote => "GOVERNOR_MALFORMED_VOTE"
  | .governorMissing => "GOVERNOR_MISSING"
  | .otherPolicy => "OTHER_POLICY"

inductive ExecutionMode where
  | fastPath
  | escalationPath
  deriving DecidableEq, Repr

inductive ExecutorExecutionStatus where
  | success
  | blocked
  | failed
  deriving DecidableEq, Repr

/-- Who or what blocked an action: a governor, or a constraint. -/
inductive ActionBlockReason where
  | governor (id : GovernorId)
  | constraint (code : ConstraintViolationCode)
  deriving DecidableEq, Repr

def ActionBlockReason.text : ActionBlockReason → String
  | .governor id => id.text
  | .constraint code => code.text

structure ConstraintViolation where
  code : ConstraintViolationCode
  message : String
  deriving DecidableEq, Repr

/-- A trimmed non-blank string, or `null`. -/
def normalizeOptionalString : Option Json → Option String
  | some (.str s) => if isPresent s then some (trim s) else none
  | _ => none

structure PlannedAction where
  id : String
  type : ActionType
  description : String
  params : JsonObject
  estimatedCostUsd : ℚ

structure GovernorVote where
  governorId : GovernorId
  approve : Bool
  reason : String
  confidence : NumberText
  rejectCategory : Option GovernorRejectCategory

structure MasterDecision where
  approved : Bool
  yesVotes : ℕ
  noVotes : ℕ
  threshold : ℕ
  dissent : List GovernorVote

structure ActionRunResult where
  action : PlannedAction
  mode : ExecutionMode
  approved : Bool
  output : Option String
  executionStatus : Option ExecutorExecutionStatus
  executionFailureCode : Option ConstraintViolationCode
  executionMetadata : Option JsonObject
  blockedBy : List ActionBlockReason
  violations : List ConstraintViolation
  votes : List GovernorVote
  decision : Option MasterDecision

structure GovernanceProposal where
  id : String
  taskId : String
  requestedBy : String
  rationale : String
  action : PlannedAction
  touchesImmutable : Bool

structure PrincipalAccessAuditMetadata where
  principalRole : Option String
  accessOperation : Option String
  accessClass : Option String
  accessAllowed : Option Bool
  accessReason : Option String
  routeVisibility : Option String
  identityAuthority : Option String
  legacyIdentityState : Option String
  ownerMatchSource : Option String
  deriving DecidableEq

structure AccessDecision where
  decisionId : String
  requestId : String
  operation : String
  accessClass : String
  allowed : Bool
  reason : String

/-- The principal part of a task: who asked, and what the access policy decided. -/
structure TaskPrincipalAccessEnvelope where
  actor : Option Json
  route : Option Json
  accessDecision : AccessDecision

structure TaskRequest where
  id : String
  goal : String
  userInput : String
  createdAt : String
  principalAccess : Option TaskPrincipalAccessEnvelope

structure Plan where
  taskId : String
  plannerNotes : String
  actions : List PlannedAction

end AgentBigBrain.Core
