import AgentBigBrain.Autonomy.LoopCleanupPolicy

/-!
# Structured recovery

A failed action result may name what went wrong. For some of these classes there is a repair, which
the loop may try a few times for each fingerprint of the failure before it stops.
-/
namespace AgentBigBrain.Autonomy

open AgentBigBrain.Js AgentBigBrain.Core

/-! ## Failure signals -/

inductive RecoveryFailureClass where
  | executableNotFound
  | commandTooLong
  | dependencyMissing
  | versionIncompatible
  | processPortInUse
  | processNotReady
  | targetNotRunning
  | authNotInitialized
  | remoteRateLimited
  | remoteUnavailable
  | browserStartBlocked
  | workspaceHolderConflict
  | transcriptionBackendUnavailable
  | unknownExecutionFailure
  deriving DecidableEq

namespace RecoveryFailureClass

def text : RecoveryFailureClass → String
  | .executableNotFound => "EXECUTABLE_NOT_FOUND"
  | .commandTooLong => "COMMAND_TOO_LONG"
  | .dependencyMissing => "DEPENDENCY_MISSING"
  | .versionIncompatible => "VERSION_INCOMPATIBLE"
  | .processPortInUse => "PROCESS_PORT_IN_USE"
  | .processNotReady => "PROCESS_NOT_READY"
  | .targetNotRunning => "TARGET_NOT_RUNNING"
  | .authNotInitialized => "AUTH_NOT_INITIALIZED"
  | .remoteRateLimited => "REMOTE_RATE_LIMITED"
  | .remoteUnavailable => "REMOTE_UNAVAILABLE"
  | .browserStartBlocked => "BROWSER_START_BLOCKED"
  | .workspaceHolderConflict => "WORKSPACE_HOLDER_CONFLICT"
  | .transcriptionBackendUnavailable => "TRANSCRIPTION_BACKEND_UNAVAILABLE"
  | .unknownExecutionFailure => "UNKNOWN_EXECUTION_FAILURE"

def all : List RecoveryFailureClass :=
  [.executableNotFound, .commandTooLong, .dependencyMissing, .versionIncompatible,
    .processPortInUse, .processNotReady, .targetNotRunning, .authNotInitialized,
    .remoteRateLimited, .remoteUnavailable, .browserStartBlocked, .workspaceHolderConflict,
    .transcriptionBackendUnavailable, .unknownExecutionFailure]

def ofText (value : String) : Option RecoveryFailureClass :=
  all.find? (·.text = value)

end RecoveryFailureClass

inductive RecoveryFailureProvenance where
  | executorMechanical
  | runtimeLiveRun
  | runtimeConnector
  | plannerShape
  | governanceOrApproval
  | userTurnRequired
  | unknown
  deriving DecidableEq

namespace RecoveryFailureProvenance

def text : RecoveryFailureProvenance → String
  | .executorMechanical => "executor_mechanical"
  | .runtimeLiveRun => "runtime_live_run"
  | .runtimeConnector => "runtime_connector"
  | .plannerShape => "planner_shape"
  | .governanceOrApproval => "governance_or_approval"
  | .userTurnRequired => "user_turn_required"
  | .unknown => "unknown"

def all : List RecoveryFailureProvenance :=
  [.executorMechanical, .runtimeLiveRun, .runtimeConnector, .plannerShape, .governanceOrApproval,
    .userTurnRequired, .unknown]

def ofText (value : String) : Option RecoveryFailureProvenance :=
  all.find? (·.text = value)

end RecoveryFailureProvenance

structure RecoveryFailureSignal where
  recoveryClass : RecoveryFailureClass
  provenance : RecoveryFailureProvenance
  sourceCode : Option String
  actionType : ActionType
  realm : Option String
  deriving DecidableEq

def resolveRecoveryRealm (entry : ActionRunResult) : Option String :=
  match entry.action.type with
  | .shellCommand => some "shell"
  | .startProcess | .checkProcess | .stopProcess | .probePort | .probeHttp | .verifyBrowser
  | .openBrowser | .closeBrowser => some "local_runtime"
  | _ => none

def resolveActionResultFailureCode (entry : ActionRunResult) : Option String :=
  entry.executionFailureCode.map (·.text) <|> entry.blockedBy.head?.map (·.text) <|>
    entry.violations.head?.map (·.code.text)

/-- The signal that the executor reports itself. -/
def nativeRecoveryFailureSignal (entry : ActionRunResult) : Option RecoveryFailureSignal := do
  let recoveryClass ← RecoveryFailureClass.ofText
    (← normalizeOptionalString (metadataOf entry "recoveryFailureClass"))
  let provenance ← RecoveryFailureProvenance.ofText
    (← normalizeOptionalString (metadataOf entry "recoveryFailureProvenance"))
  some
    { recoveryClass := recoveryClass
      provenance := provenance
      sourceCode := resolveActionResultFailureCode entry
      actionType := entry.action.type
      realm := resolveRecoveryRealm entry }

def recoverySignal (entry : ActionRunResult) (recoveryClass : RecoveryFailureClass)
    (provenance : RecoveryFailureProvenance) (realm : String) : RecoveryFailureSignal where
  recoveryClass := recoveryClass
  provenance := provenance
  sourceCode := resolveActionResultFailureCode entry
  actionType := entry.action.type
  realm := some realm

/-- The signal that is derived from the failure code or the state of the process. -/
def derivedRecoveryFailureSignal (entry : ActionRunResult) : Option RecoveryFailureSignal :=
  let sourceCode := resolveActionResultFailureCode entry
  if sourceCode = some "SHELL_EXECUTABLE_NOT_FOUND" then
    some (recoverySignal entry .executableNotFound .executorMechanical "shell")
  else if sourceCode = some "SHELL_COMMAND_TOO_LONG" ∨
      sourceCode = some "PROCESS_COMMAND_TOO_LONG" then
    some (recoverySignal entry .commandTooLong .executorMechanical
      (if entry.action.type = .startProcess then "process" else "shell"))
  else if sourceCode = some "PROCESS_NOT_READY" then
    some (recoverySignal entry .processNotReady .runtimeLiveRun "local_runtime")
  else if sourceCode = some "BROWSER_VERIFY_RUNTIME_UNAVAILABLE" then
    some (recoverySignal entry .dependencyMissing .runtimeLiveRun "browser_verification")
  else if metadataOf entry "processStartupFailureKind" = some (.str "PORT_IN_USE") then
    some (recoverySignal entry .processPortInUse .runtimeLiveRun "local_runtime")
  else if normalizeOptionalString (metadataOf entry "processLifecycleStatus") =
      some "PROCESS_STOPPED" ∧ entry.action.type ≠ .stopProcess then
    some (recoverySignal entry .targetNotRunning .runtimeLiveRun "local_runtime")
  else none

def resolveRecoveryFailureSignal (entry : ActionRunResult) : Option RecoveryFailureSignal :=
  nativeRecoveryFailureSignal entry <|> derivedRecoveryFailureSignal entry

/-- The first signal of the snapshot; the others, which are told apart by their fingerprints, only
add to the options. -/
def failureSignals (result : TaskRunResult) : List RecoveryFailureSignal :=
  result.actionResults.filterMap resolveRecoveryFailureSignal

/-! ## Rules -/

structure RecoveryPolicyRule where
  optionId : String
  maxAttempts : ℕ
  deriving DecidableEq

def RECOVERY_POLICY_RULES : RecoveryFailureClass → Option RecoveryPolicyRule
  | .executableNotFound => some ⟨"resolve_known_executable", 0⟩
  | .commandTooLong => some ⟨"stage_command_via_script", 0⟩
  | .dependencyMissing => some ⟨"repair_missing_dependency", 1⟩
  | .versionIncompatible => some ⟨"align_dependency_version", 1⟩
  | .processPortInUse => some ⟨"retry_with_alternate_port", 1⟩
  | .processNotReady =>
      some ⟨"retry_readiness_proof", MAX_MANAGED_PROCESS_READINESS_FAILURES⟩
  | .targetNotRunning => some ⟨"restart_target_then_reverify", 1⟩
  | .authNotInitialized | .remoteRateLimited | .remoteUnavailable | .browserStartBlocked
  | .workspaceHolderConflict | .transcriptionBackendUnavailable | .unknownExecutionFailure => none

/-- The repair options of a snapshot; those of the classes without a rule are none. -/
def resolveRecoveryRepairOptions (signals : List RecoveryFailureSignal) : List String :=
  signals.filterMap fun signal => (RECOVERY_POLICY_RULES signal.recoveryClass).map (·.optionId)

def buildRecoveryAttemptFingerprint (signal : RecoveryFailureSignal) (optionId : String) :
    String :=
  "|".intercalate [signal.recoveryClass.text, optionId, signal.provenance.text,
    signal.realm.getD "", signal.sourceCode.getD ""]

inductive StructuredRecoveryPolicyDecision where
  | none (recoveryClass : Option RecoveryFailureClass)
  | stop (recoveryClass : RecoveryFailureClass)
  | attemptRepair (recoveryClass : RecoveryFailureClass) (optionId fingerprint : String)
  deriving DecidableEq

def evaluateStructuredRecoveryPolicy (signals : List RecoveryFailureSignal)
    (attemptCounts : String → ℕ) : StructuredRecoveryPolicyDecision :=
  match signals with
  | [] => .none Option.none
  | primarySignal :: _ =>
      match RECOVERY_POLICY_RULES primarySignal.recoveryClass with
      | Option.none => .none (some primarySignal.recoveryClass)
      | some rule =>
          if rule.optionId ∉ resolveRecoveryRepairOptions signals then
            .stop primarySignal.recoveryClass
          else
            let fingerprint := buildRecoveryAttemptFingerprint primarySignal rule.optionId
            if rule.maxAttempts ≤ attemptCounts fingerprint then .stop primarySignal.recoveryClass
            else .attemptRepair primarySignal.recoveryClass rule.optionId fingerprint

/-! ## Decisions of the loop -/

structure LoopbackTargetHint where
  url : Option String
  host : Option String
  port : Option ℕ

/-- What the decision is made from. -/
structure RecoveryContext where
  overarchingGoal : String
  missionContract : MissionCompletionContract
  result : TaskRunResult
  attemptCounts : String → ℕ
  trackedManagedProcessLeaseId : Option String
  trackedManagedProcessStartContext : Option ApprovedManagedProcessStartContext
  trackedLoopbackTarget : Option LoopbackTargetHint

inductive StructuredRecoveryExecutionPlan where
  /-- The builder fails closed. -/
  | stop (recoveryClass : RecoveryFailureClass)
  | retry (nextUserInput : String)

/-- The texts of requests, and the inputs built for the executor, that the decision looks at. -/
structure RecoveryPolicies where
  shouldSuppressManagedProcessReadinessRecovery :
    TaskRunResult → MissionCompletionContract → Bool
  buildStructuredRecoveryExecutionPlan :
    RecoveryContext → String → Option StructuredRecoveryExecutionPlan

inductive StructuredRecoveryRuntimeDecision where
  | none
  | retry (fingerprint nextUserInput : String)
  | abort (cleanupManagedProcess : Bool)

def isManagedProcessReadinessRecoveryClass (recoveryClass : RecoveryFailureClass) : Bool :=
  recoveryClass = .processPortInUse ∨ recoveryClass = .processNotReady ∨
    recoveryClass = .targetNotRunning

def shouldCleanupManagedProcessForRecoveryClass (recoveryClass : RecoveryFailureClass) : Bool :=
  isManagedProcessReadinessRecoveryClass recoveryClass

def StructuredRecoveryPolicyDecision.recoveryClass :
    StructuredRecoveryPolicyDecision → Option RecoveryFailureClass
  | .none recoveryClass => recoveryClass
  | .stop recoveryClass => some recoveryClass
  | .attemptRepair recoveryClass _ _ => some recoveryClass

def resolveStructuredRecoveryRuntimeDecision (policies : RecoveryPolicies)
    (context : RecoveryContext) : StructuredRecoveryRuntimeDecision :=
  let decision := evaluateStructuredRecoveryPolicy (failureSignals context.result)
    context.attemptCounts
  if decision.recoveryClass.any isManagedProcessReadinessRecoveryClass &&
      policies.shouldSuppressManagedProcessReadinessRecovery context.result
        context.missionContract then .none
  else
    match decision with
    | .none _ => .none
    | .stop recoveryClass => .abort (shouldCleanupManagedProcessForRecoveryClass recoveryClass)
    | .attemptRepair _ optionId fingerprint =>
        match policies.buildStructuredRecoveryExecutionPlan context optionId with
        | Option.none => .none
        | some (.stop recoveryClass) =>
            .abort (shouldCleanupManagedProcessForRecoveryClass recoveryClass)
        | some (.retry nextUserInput) => .retry fingerprint nextUserInput

end AgentBigBrain.Autonomy
