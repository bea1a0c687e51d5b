import AgentBigBrain.Core.ActionCostPolicy
import AgentBigBrain.Orchestration.TaskRunnerLiveRunOverrides
import AgentBigBrain.Orchestration.TaskRunnerNetworkPreflight

/-!
# Task-runner execution

One approved action is handed to the stage runtime, to the preparation of an output, or to
the executor. An outcome other than success becomes a blocked result that costs nothing;
a success becomes an approved result with the deterministic cost of the action.
-/
namespace AgentBigBrain.Orchestration

open AgentBigBrain.Js AgentBigBrain.Core

structure ExecutorExecutionOutcome where
  status : ExecutorExecutionStatus
  output : String
  failureCode : Option ConstraintViolationCode
  executionMetadata : Option JsonObject

structure Stage686RuntimeActionResult where
  approved : Bool
  output : String
  violationCode : Option ConstraintViolationCode
  executionMetadata : JsonObject

/-- What answers while one approved action is executed. An error is an exception. -/
structure ExecutionRuntime where
  aborted : Bool
  stage686 : PlannedAction → Except String (Option Stage686RuntimeActionResult)
  abortedBeforeExecutor : Bool
  /-- The prepared output; a failed preparation counts as none. -/
  prepare : PlannedAction → Option String
  executeWithOutcome : PlannedAction → Except String ExecutorExecutionOutcome
  shellExecutionTelemetry : Option JsonObject
  observedAt : String

structure ExecuteTaskRunnerActionInput where
  action : PlannedAction
  combinedVotes : List GovernorVote
  connectorReceiptInput : Option TaskRunnerConnectorReceiptSeed
  decision : MasterDecision
  deterministicActionId : String
  missionAttemptId : ℕ
  missionPhase : String
  mode : ExecutionMode
  runtime : ExecutionRuntime

structure ExecuteTaskRunnerActionResult where
  actionResult : ActionRunResult
  approvedEstimatedCostDeltaUsd : ℚ
  outputLength : ℕ

def throwIfAborted (aborted : Bool) : Except String Unit :=
  if aborted then .error "Cancelled by user." else .ok ()

/-- The outcome, the shell telemetry and the metadata of the stage runtime. -/
structure ExecutionTrace where
  outcome : ExecutorExecutionOutcome
  telemetry : Option JsonObject
  stage686Metadata : Option JsonObject

def outcomeOfStage686 (result : Stage686RuntimeActionResult) : ExecutorExecutionOutcome :=
  if result.approved then
    { status := .success
      output := result.output
      failureCode := none
      executionMetadata := some result.executionMetadata }
  else
    { status := .blocked
      output := result.output
      failureCode := some (result.violationCode.getD .actionExecutionFailed)
      executionMetadata := some result.executionMetadata }

def obtainOutcome (runtime : ExecutionRuntime) (action : PlannedAction) :
    Except String ExecutionTrace := do
  throwIfAborted runtime.aborted
  match ← runtime.stage686 action with
  | some result =>
      return {
        outcome := outcomeOfStage686 result
        telemetry := none
        stage686Metadata := some result.executionMetadata }
  | none =>
      throwIfAborted runtime.abortedBeforeExecutor
      match runtime.prepare action with
      | some output =>
          return {
            outcome := {
              status := .success
              output := output
              failureCode := none
              executionMetadata := none }
            telemetry := none
            stage686Metadata := none }
      | none =>
          let outcome ← runtime.executeWithOutcome action
          return {
            outcome := outcome
            telemetry := runtime.shellExecutionTelemetry
            stage686Metadata := none }

def resolveExecutionOutcomeViolation (action : PlannedAction) (outcome : ExecutorExecutionOutcome) :
    Option ConstraintViolation :=
  let violation (ending : String) : ConstraintViolation :=
    { code := outcome.failureCode.getD .actionExecutionFailed
      message :=
        if trim outcome.output = "" then
          "Approved " ++ action.type.text ++ " action " ++ ending
        else
          trim outcome.output }
  match outcome.status with
  | .success => none
  | .blocked => some (violation "was blocked during execution.")
  | .failed => some (violation "failed during execution.")

/-- The metadata that the collaborators reported. -/
def reportedMetadata (trace : ExecutionTrace) : JsonObject :=
  let outcome := trace.outcome.executionMetadata.getD JsonObject.empty
  let withTelemetry := outcome.spread (trace.telemetry.getD JsonObject.empty)
  withTelemetry.spread (trace.stage686Metadata.getD JsonObject.empty)

variable (sha : Sha256) (host : Host)

def connectorMetadata (observedAt : String) (metadata : JsonObject) :
    Option TaskRunnerConnectorReceiptSeed → JsonObject
  | none => metadata
  | some seed =>
      let fingerprint (payload : Json) := sha.digest (canonicalJson host.locale payload)
      let connector := match seed.connector with
        | .gmail => "gmail"
        | .calendar => "calendar"
      let named := setText (setText metadata "stage675Connector" connector)
        "stage675ConnectorOperation" seed.operation.text
      let requested := setText named "stage675ConnectorRequestFingerprint"
        (fingerprint seed.requestPayload)
      let answered := setText requested "stage675ConnectorResponseFingerprint"
        (fingerprint (.obj [("endpoint", .str seed.responseEndpoint)]))
      setInteger (setText answered "stage675ConnectorObservedAt" observedAt)
        "stage675ConnectorExternalIdCount" seed.externalIds.length

def approvedExecutionMetadata (input : ExecuteTaskRunnerActionInput) (trace : ExecutionTrace) :
    JsonObject :=
  let counted := setInteger (reportedMetadata trace) "missionAttemptId" input.missionAttemptId
  let placed := setText (setText counted "missionPhase" input.missionPhase)
    "deterministicActionId" input.deterministicActionId
  connectorMetadata sha host input.runtime.observedAt placed input.connectorReceiptInput

/-- The result of an obtained outcome. -/
def resultOfOutcome (input : ExecuteTaskRunnerActionInput) (trace : ExecutionTrace) :
    ExecuteTaskRunnerActionResult :=
  let outcome := trace.outcome
  match resolveExecutionOutcomeViolation input.action outcome with
  | some violation =>
      let metadata := reportedMetadata trace
      { actionResult := buildBlockedActionResult input.action input.mode
          [.constraint violation.code] [violation] input.combinedVotes (some input.decision)
          { output := some outcome.output
            executionStatus := some outcome.status
            executionFailureCode := some violation.code
            executionMetadata := if metadata.members = [] then none else some metadata }
        approvedEstimatedCostDeltaUsd := 0
        outputLength := utf16Length outcome.output }
  | none =>
      { actionResult := buildApprovedActionResult input.action input.mode outcome.output
          outcome.status (some (approvedExecutionMetadata sha host input trace))
          input.combinedVotes (some input.decision)
        approvedEstimatedCostDeltaUsd := estimateActionCostUsd input.action.type input.action.params
        outputLength := utf16Length outcome.output }

def executeTaskRunnerAction (input : ExecuteTaskRunnerActionInput) :
    Except String ExecuteTaskRunnerActionResult :=
  (obtainOutcome input.runtime input.action).map (resultOfOutcome sha host input)

/-! ## What an execution says -/

/-- The result is about the handed action, and its cost counts exactly when it is approved. -/
theorem executeTaskRunnerAction_result {input : ExecuteTaskRunnerActionInput}
    {result : ExecuteTaskRunnerActionResult}
    (h : executeTaskRunnerAction sha host input = .ok result) :
    result.actionResult.action = input.action ∧
      result.approvedEstimatedCostDeltaUsd =
        if result.actionResult.approved then
          estimateActionCostUsd input.action.type input.action.params
        else 0 := by
  unfold executeTaskRunnerAction at h
  cases htrace : obtainOutcome input.runtime input.action with
  | error message => simp [htrace, Except.map] at h
  | ok trace =>
      simp only [htrace, Except.map, Except.ok.injEq] at h
      subst h
      cases hviolation : resolveExecutionOutcomeViolation input.action trace.outcome with
      | some violation =>
          simp only [resultOfOutcome, hviolation]
          exact ⟨rfl, rfl⟩
      | none =>
          simp only [resultOfOutcome, hviolation]
          exact ⟨rfl, rfl⟩

end AgentBigBrain.Orchestration
