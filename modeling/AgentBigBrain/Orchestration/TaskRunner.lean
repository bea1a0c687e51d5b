import AgentBigBrain.Core.MissionStateMachine
import AgentBigBrain.Orchestration.TaskRunnerExecution
import AgentBigBrain.Orchestration.TaskRunnerGovernance
import AgentBigBrain.Orchestration.TaskRunnerLiveRunGuards
import AgentBigBrain.Orchestration.TaskRunnerPreflight

/-!
# The task runner

`runPlanActions` takes the actions of a plan one by one. Each is rewritten, guarded by the
mission state, checked by the preflight, voted on and handed to the executor; whatever
happens, one result is recorded and the mission state advances. What the collaborators
answer is one `Iteration` for each action. An exception ends the run.
-/
namespace AgentBigBrain.Orchestration

open AgentBigBrain.Js AgentBigBrain.Core

/-- What the collaborators answer while one planned action is processed. -/
structure Iteration (host : Host) where
  aborted : Bool
  now : ClockReading host
  preflight : PreflightRuntime
  governance : GovernanceRuntime
  execution : ExecutionRuntime
  /-- The exception of the ledgers that record the outcome, if they throw one. -/
  ledgerError : Option String

/-- The completion-claim classifier of `respond` actions. -/
structure VerificationPolicy where
  shouldEnforceVerificationGateForRespond : String → Bool
  resolveVerificationCategoryForPrompt : String → String

structure RunPlanActionsInput where
  task : TaskRequest
  missionAttemptId : ℕ
  cumulativeApprovedEstimatedCostUsd : ℚ
  config : BrainConfig
  verification : VerificationPolicy

/-- A call of `executeTaskRunnerAction`, and whether it ended in success. -/
structure Execution where
  action : PlannedAction
  idempotencyKey : String
  deterministicActionId : String
  succeeded : Bool

/-- The variables of the loop, and the executions so far. -/
structure RunnerState where
  attemptResults : List ActionRunResult
  approvedEstimatedCostDeltaUsd : ℚ
  missionState : MissionState
  deterministicActionIds : List String
  approvalGrantById : ApprovalGrants
  connectorReceiptByActionId : String → Option TaskRunnerConnectorReceiptSeed
  failedManagedProcessStartTargets : List FailedManagedProcessStartTarget
  failedWorkspaceExecutionDependencies : List FailedWorkspaceExecutionDependency
  liveRunTargetOverrides : List LoopbackTargetOverride
  executions : List Execution

/-- A run that an exception has ended. -/
structure Stopped where
  state : RunnerState
  message : String

def buildTaskRunnerMissionStopLimits (config : BrainConfig) : MissionStopLimits where
  maxActions := max 1 config.limits.maxActionsPerTask
  maxDenies := max 1 (config.limits.maxPlanAttemptsPerTask * 2)
  maxBytes := 1048576

variable (sha : Sha256) (host : Host) (input : RunPlanActionsInput)

def initialState : RunnerState where
  attemptResults := []
  approvedEstimatedCostDeltaUsd := 0
  missionState := buildInitialMissionState input.task.id input.missionAttemptId
  deterministicActionIds := []
  approvalGrantById := fun _ => none
  connectorReceiptByActionId := fun _ => none
  failedManagedProcessStartTargets := []
  failedWorkspaceExecutionDependencies := []
  liveRunTargetOverrides := []
  executions := []

/-! ## Recording -/

def recordBlockedActionOutcome (state : RunnerState) (actionResult : ActionRunResult)
    (idempotencyKey : String) (outputLength : ℕ) : RunnerState :=
  { state with
    attemptResults := state.attemptResults ++ [actionResult]
    missionState := advanceMissionPhase
      (registerMissionActionOutcome state.missionState idempotencyKey outputLength true) }

def recordApprovedActionOutcome (state : RunnerState) (actionResult : ActionRunResult)
    (idempotencyKey : String) (outputLength : ℕ) : RunnerState :=
  { state with
    attemptResults := state.attemptResults ++ [actionResult]
    missionState := advanceMissionPhase
      (registerMissionActionOutcome state.missionState idempotencyKey outputLength false) }

/-- Remember what later actions depend on and did not come about. -/
def rememberFailure (state : RunnerState) (actionResult : ActionRunResult) : RunnerState :=
  { state with
    failedManagedProcessStartTargets := rememberFailedManagedProcessStartTarget host
      state.failedManagedProcessStartTargets actionResult
    failedWorkspaceExecutionDependencies := rememberFailedWorkspaceExecutionDependency
      state.failedWorkspaceExecutionDependencies actionResult }

/-! ## One action -/

/-- The action after both rewritings. -/
def rewriteAction (action : PlannedAction) (state : RunnerState) : PlannedAction :=
  applyRuntimeInspectionTargetOverrides host
    (applyLiveRunTargetOverrides host action state.liveRunTargetOverrides) input.task.userInput

def defaultIdempotencyKey (action : PlannedAction) : String :=
  input.task.id ++ ":" ++ toString input.missionAttemptId ++ ":" ++ action.id

/-- The key that the planner chose, or the default one. -/
def resolveIdempotencyKey (action effectiveAction : PlannedAction) : String :=
  (normalizeOptionalString (action.params.get "idempotencyKey")).getD
    (defaultIdempotencyKey input effectiveAction)

/-- The id is derived from the planned parameters, not from the rewritten ones. -/
def missionCheckpoint (it : Iteration host) (action effectiveAction : PlannedAction)
    (state : RunnerState) : MissionCheckpoint :=
  createMissionCheckpoint sha host.locale state.missionState state.missionState.currentPhase
    action.type (resolveIdempotencyKey input action effectiveAction) action.params it.now.iso

/-- An action that has passed the guards of the mission state. -/
structure Admission where
  effectiveAction : PlannedAction
  mode : ExecutionMode
  idempotencyKey : String
  deterministicActionId : String

/-- A blocked result with the key under which it is recorded, or an admission. -/
def admitAction (it : Iteration host) (action : PlannedAction) (state : RunnerState) :
    Except (ActionRunResult × String) Admission :=
  let effectiveAction := rewriteAction host input action state
  let mode := resolveExecutionMode effectiveAction input.config
  let blocked := buildConstraintBlockedResult action mode
  match evaluateDependentWorkspaceExecutionBlock host effectiveAction mode
    state.failedWorkspaceExecutionDependencies with
  | some result => .error (result, defaultIdempotencyKey input action)
  | none =>
      match evaluateDependentLiveRunTargetBlock host effectiveAction mode
        state.failedManagedProcessStartTargets with
      | some result => .error (result, defaultIdempotencyKey input action)
      | none =>
          let idempotencyKey := resolveIdempotencyKey input action effectiveAction
          let checkpoint := missionCheckpoint sha host input it action effectiveAction state
          match evaluateMissionStopDecision state.missionState
            (buildTaskRunnerMissionStopLimits input.config) with
          | some reason => .error (blocked .missionStopLimitReached reason, idempotencyKey)
          | none =>
              if idempotencyKey ∈ state.missionState.seenIdempotencyKeys then
                .error (blocked .idempotencyKeyReplayDetected
                  "Action idempotency key replay detected; execution denied.", idempotencyKey)
              else if checkpoint.actionId ∈ state.deterministicActionIds then
                .error (blocked .actionIdDuplicateDetected
                  "Deterministic mission action id duplicated within this mission attempt.",
                  idempotencyKey)
              else
                .ok {
                  effectiveAction := effectiveAction
                  mode := mode
                  idempotencyKey := idempotencyKey
                  deterministicActionId := checkpoint.actionId }

def preflightInput (it : Iteration host) (admission : Admission) (state : RunnerState) :
    EvaluateTaskRunnerPreflightInput host where
  action := admission.effectiveAction
  approvalGrantById := state.approvalGrantById
  config := input.config
  cumulativeEstimatedCostUsd :=
    input.cumulativeApprovedEstimatedCostUsd + state.approvedEstimatedCostDeltaUsd
  idempotencyKey := admission.idempotencyKey
  mode := admission.mode
  now := it.now
  task := input.task
  runtime := it.preflight

/-- Keep the used grant and the connector seed of a passing preflight. -/
def keepPreflight (action : PlannedAction) (preflight : EvaluateTaskRunnerPreflightResult)
    (state : RunnerState) : RunnerState :=
  { state with
    approvalGrantById :=
      match preflight.approvalGrant with
      | none => state.approvalGrantById
      | some (approvalId, grant) =>
          fun id => if id = approvalId then some grant else state.approvalGrantById id
    connectorReceiptByActionId :=
      match preflight.connectorReceiptInput with
      | none => state.connectorReceiptByActionId
      | some seed =>
          fun id => if id = action.id then some seed else state.connectorReceiptByActionId id }

/-- The proofs that earlier actions of the attempt provide. -/
def proofRefs (state : RunnerState) : List String :=
  (state.attemptResults.filter fun result =>
    result.approved && result.action.type != .respond).map fun result =>
      "action:" ++ result.action.id

def evaluateVerificationGate (refs : List String) : Bool :=
  refs.any isPresent

/-- The result of a completion claim without a proof. -/
def verificationBlock (action : PlannedAction) (admission : Admission)
    (votes : List GovernorVote) (decision : MasterDecision) (state : RunnerState) :
    Option ActionRunResult :=
  let userInput := input.task.userInput
  if action.type = .respond ∧
      input.verification.shouldEnforceVerificationGateForRespond userInput ∧
      evaluateVerificationGate (proofRefs state) = false then
    let message := "Task requires deterministic completion proofs for category '" ++
      input.verification.resolveVerificationCategoryForPrompt userInput ++
      "', but none were provided. " ++
      "The respond action is blocked to prevent false completion claims."
    some (buildBlockedActionResult admission.effectiveAction admission.mode
      [.constraint .verificationGateFailed] [⟨.verificationGateFailed, message⟩] votes
      (some decision) .none)
  else
    none

def executionInput (it : Iteration host) (action : PlannedAction) (admission : Admission)
    (votes : List GovernorVote) (decision : MasterDecision) (state : RunnerState) :
    ExecuteTaskRunnerActionInput where
  action := admission.effectiveAction
  combinedVotes := votes
  connectorReceiptInput := state.connectorReceiptByActionId action.id
  decision := decision
  deterministicActionId := admission.deterministicActionId
  missionAttemptId := input.missionAttemptId
  missionPhase := state.missionState.currentPhase.text
  mode := admission.mode
  runtime := it.execution

/-- The loop variables after one more call of the executor. -/
def noteExecution (admission : Admission) (succeeded : Bool) (state : RunnerState) : RunnerState :=
  { state with
    executions := state.executions ++ [{
      action := admission.effectiveAction
      idempotencyKey := admission.idempotencyKey
      deterministicActionId := admission.deterministicActionId
      succeeded := succeeded }] }

/-- Hand the action to the executor and record the outcome. -/
def executeAdmitted (it : Iteration host) (action : PlannedAction) (admission : Admission)
    (votes : List GovernorVote) (decision : MasterDecision) (state : RunnerState) :
    Except Stopped RunnerState :=
  match executeTaskRunnerAction sha host
    (executionInput host input it action admission votes decision state) with
  | .error message => .error ⟨noteExecution admission false state, message⟩
  | .ok executed =>
      let actionResult := executed.actionResult
      let called := noteExecution admission actionResult.approved state
      if actionResult.approved then
        let moved := { called with
          liveRunTargetOverrides :=
            rememberLiveRunTargetOverride host state.liveRunTargetOverrides actionResult
          approvedEstimatedCostDeltaUsd :=
            state.approvedEstimatedCostDeltaUsd + executed.approvedEstimatedCostDeltaUsd }
        .ok (recordApprovedActionOutcome moved actionResult admission.idempotencyKey
          executed.outputLength)
      else
        .ok (rememberFailure host (recordBlockedActionOutcome called actionResult
          admission.idempotencyKey executed.outputLength) actionResult)

/-- Preflight, vote, verification gate and execution of an admitted action. -/
def governAdmitted (it : Iteration host) (action : PlannedAction) (admission : Admission)
    (state : RunnerState) : Except Stopped RunnerState :=
  let numbered := { state with
    deterministicActionIds := admission.deterministicActionId :: state.deterministicActionIds }
  let blocked := fun (state : RunnerState) result => .ok (rememberFailure host
    (recordBlockedActionOutcome state result admission.idempotencyKey 0) result)
  let preflight := evaluateTaskRunnerPreflight sha host
    (preflightInput host input it admission numbered)
  match preflight.blockedResult with
  | some result => blocked numbered result
  | none =>
      match preflight.proposal with
      | none => .error ⟨numbered,
          "TaskRunner preflight outcome missing proposal after successful evaluation."⟩
      | some proposal =>
          let kept := keepPreflight action preflight numbered
          let governance := evaluateTaskRunnerGovernance it.governance input.config
            admission.effectiveAction admission.mode proposal
          match governance.blockedResult with
          | some result => blocked kept result
          | none =>
              match governance.decision with
              | none => .error ⟨kept,
                  "TaskRunner governance outcome missing decision after successful evaluation."⟩
              | some decision =>
                  let votes := governance.combinedVotes
                  match verificationBlock input action admission votes decision kept with
                  | some result => .ok
                      (recordBlockedActionOutcome kept result admission.idempotencyKey 0)
                  | none => executeAdmitted sha host input it action admission votes decision kept

/-- One turn of the loop, before the ledgers have written. -/
def processAction (it : Iteration host) (action : PlannedAction) (state : RunnerState) :
    Except Stopped RunnerState :=
  if it.aborted then
    .error ⟨state, "Cancelled by user."⟩
  else
    match admitAction sha host input it action state with
    | .error (result, key) => .ok (recordBlockedActionOutcome state result key 0)
    | .ok admission => governAdmitted sha host input it action admission state

def step (it : Iteration host) (action : PlannedAction) (state : RunnerState) :
    Except Stopped RunnerState :=
  match processAction sha host input it action state, it.ledgerError with
  | .ok next, some message => .error ⟨next, message⟩
  | outcome, _ => outcome

/-- The loop over the actions of a plan, each with the answers of its iteration. -/
def runFrom (state : RunnerState) : List (PlannedAction × Iteration host) →
    Except Stopped RunnerState
  | [] => .ok state
  | (action, it) :: rest =>
      match step sha host input it action state with
      | .error stopped => .error stopped
      | .ok next => runFrom next rest

def runPlanActions (actions : List (PlannedAction × Iteration host)) :
    Except Stopped RunnerState :=
  runFrom sha host input (initialState input) actions

/-- The state in which a run has ended, by itself or by an exception. -/
def finalState : Except Stopped RunnerState → RunnerState
  | .ok state => state
  | .error stopped => stopped.state

end AgentBigBrain.Orchestration
