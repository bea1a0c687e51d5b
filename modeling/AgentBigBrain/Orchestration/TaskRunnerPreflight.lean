import AgentBigBrain.Core.HardConstraints
import AgentBigBrain.Orchestration.TaskRunnerNetworkPreflight

/-!
# Task-runner preflight

The checks between the mission bookkeeping and the vote, in the source's order: deadline
and model budget, execution constraints that the user spelled out, hard constraints, the
stage guard, principal access for skill mutations, and the network-write checks. The first
one that objects decides.
-/
namespace AgentBigBrain.Orchestration

open AgentBigBrain.Js AgentBigBrain.Core

inductive ModelBillingMode where
  | apiUsd
  | subscriptionQuota
  | localCompute
  | unknown
  deriving DecidableEq, Repr

/-- The growth of the model usage counters since the task started. -/
structure ModelUsage where
  calls : ℕ
  billingMode : ModelBillingMode
  estimatedSpendUsd : ℚ

/-- What the preflight of one action takes from its surroundings. -/
structure PreflightRuntime where
  constraints : ConstraintRuntime
  /-- Execution constraints that the request of the user spells out. -/
  explicitExecutionConstraint : PlannedAction → String → Option ConstraintViolation
  stage685Guard : PlannedAction → Option ConstraintViolation
  /-- The minted id of the proposal. -/
  proposalId : String
  /-- `Date.now() - startedAtMs`. -/
  elapsedMs : ℤ
  usage : ModelUsage
  defaultExpiresAt : String

structure EvaluateTaskRunnerPreflightInput (host : Host) where
  action : PlannedAction
  approvalGrantById : ApprovalGrants
  config : BrainConfig
  cumulativeEstimatedCostUsd : ℚ
  idempotencyKey : String
  mode : ExecutionMode
  now : ClockReading host
  task : TaskRequest
  runtime : PreflightRuntime

variable (sha : Sha256) (host : Host)

/-- `escalation_path` for the configured action types. -/
def resolveExecutionMode (action : PlannedAction) (config : BrainConfig) : ExecutionMode :=
  if action.type ∈ config.escalationActionTypes then .escalationPath else .fastPath

/-- Deadline and model budget of the turn. -/
def evaluateRuntimeLimitBlock (config : BrainConfig) (elapsedMs : ℤ) (usage : ModelUsage) :
    Option ConstraintViolation :=
  let limits := config.limits
  if limits.perTurnDeadlineMs < elapsedMs then
    some ⟨.globalDeadlineExceeded,
      "Turn exceeded " ++ toString limits.perTurnDeadlineMs ++ "ms deadline."⟩
  else if usage.billingMode = .apiUsd ∧ limits.maxCumulativeModelSpendUsd < usage.estimatedSpendUsd
  then
    some ⟨.modelSpendLimitExceeded, "Model spend " ++ toFixed 6 usage.estimatedSpendUsd ++
      " exceeds max " ++ toFixed 2 limits.maxCumulativeModelSpendUsd ++ "."⟩
  else if usage.billingMode ≠ .apiUsd ∧ limits.maxCumulativeNonApiModelCalls < usage.calls then
    some ⟨.modelCallLimitExceeded, "Model calls " ++ toString usage.calls ++ " exceed max " ++
      toString limits.maxCumulativeNonApiModelCalls ++ "."⟩
  else
    none

/-! ## Proposal -/

def trimmedString : Option Json → String
  | some (.str s) => trim s
  | _ => ""

def extractImmutableTarget (action : PlannedAction) : String :=
  match action.type with
  | .selfModify | .shellCommand => trimmedString (action.params.get "target")
  | _ => ""

def hasExplicitImmutableTouch (action : PlannedAction) : Bool :=
  action.type == .selfModify && isTrue (action.params.get "touchesImmutable")

def buildProposal (id : String) (task : TaskRequest) (action : PlannedAction)
    (config : BrainConfig) : GovernanceProposal where
  id := id
  taskId := task.id
  requestedBy := "planner"
  rationale := "Task goal: " ++ task.goal ++ ". Execute action: " ++ action.description
  action := action
  touchesImmutable := hasExplicitImmutableTouch action ||
    config.immutableKeywords.any fun keyword =>
      includes (host.toLowerCase (extractImmutableTarget action)) (host.toLowerCase keyword)

@[simp]
lemma buildProposal_action (id : String) (task : TaskRequest) (action : PlannedAction)
    (config : BrainConfig) : (buildProposal host id task action config).action = action := rfl

/-! ## Principal access -/

def mutatingSkillActions : List ActionType :=
  [.createSkill, .updateSkill, .deprecateSkill, .approveSkill, .rejectSkill]

def readPrincipalRole (principalAccess : Option TaskPrincipalAccessEnvelope) : Option String :=
  match principalAccess.bind (·.actor) with
  | some (.obj members) =>
      match members.lookup "principalRole" with
      | some (.str role) => some role
      | _ => none
  | _ => none

/-- Skills are changed by an owner or operator with private access only. -/
def evaluateTaskRunnerSkillPrincipalAccess (action : PlannedAction) (task : TaskRequest) :
    Option ConstraintViolation :=
  if action.type ∉ mutatingSkillActions then
    none
  else
    let role := readPrincipalRole task.principalAccess
    let accessAllowed := task.principalAccess.any (·.accessDecision.allowed)
    let accessClass := task.principalAccess.map (·.accessDecision.accessClass)
    let roleAllowed := role = some "owner" ∨ role = some "operator"
    let classAllowed := accessClass = some "owner_private" ∨ accessClass = some "operator_private"
    if roleAllowed ∧ accessAllowed ∧ classAllowed then
      none
    else
      some ⟨.identityImpersonationDenied,
        "Skill lifecycle actions require owner or operator principal access; session-local, " ++
          "public, external, and legacy actors cannot mutate governed skills."⟩

/-! ## Preflight -/

def evaluateTaskRunnerPreflight (input : EvaluateTaskRunnerPreflightInput host) :
    EvaluateTaskRunnerPreflightResult :=
  let runtime := input.runtime
  let blocked := fun proposal violations =>
    preflightBlocked proposal (buildBlockedActionResult input.action input.mode
      (violations.map fun violation => .constraint violation.code) violations [] none .none)
  match evaluateRuntimeLimitBlock input.config runtime.elapsedMs runtime.usage with
  | some violation => blocked none [violation]
  | none =>
      match runtime.explicitExecutionConstraint input.action input.task.userInput with
      | some violation => blocked none [violation]
      | none =>
          let proposal :=
            buildProposal host runtime.proposalId input.task input.action input.config
          let hardConstraintViolations := evaluateHardConstraints host runtime.constraints proposal
            input.config input.cumulativeEstimatedCostUsd
          if hardConstraintViolations ≠ [] then
            blocked (some proposal) hardConstraintViolations
          else
            match runtime.stage685Guard input.action with
            | some violation => blocked (some proposal) [violation]
            | none =>
                match evaluateTaskRunnerSkillPrincipalAccess input.action input.task with
                | some violation => blocked (some proposal) [violation]
                | none =>
                    if input.action.type = .networkWrite then
                      evaluateTaskRunnerNetworkWritePreflight sha host {
                        action := input.action
                        approvalGrantById := input.approvalGrantById
                        idempotencyKey := input.idempotencyKey
                        mode := input.mode
                        now := input.now
                        defaultExpiresAt := runtime.defaultExpiresAt
                        proposal := proposal
                        missionId := input.task.id }
                    else
                      { approvalGrant := none
                        blockedResult := none
                        connectorReceiptInput := none
                        proposal := some proposal }

/-! ## What a preflight says -/

/-- A passing preflight has found no violation, and its proposal is about the action that was
asked about. -/
theorem evaluateTaskRunnerPreflight_passed {input : EvaluateTaskRunnerPreflightInput host}
    {outcome : EvaluateTaskRunnerPreflightResult} {proposal : GovernanceProposal}
    (h : evaluateTaskRunnerPreflight sha host input = outcome)
    (hpassed : outcome.blockedResult = none) (hproposal : outcome.proposal = some proposal) :
    proposal = buildProposal host input.runtime.proposalId input.task input.action input.config ∧
      evaluateHardConstraints host input.runtime.constraints proposal input.config
        input.cumulativeEstimatedCostUsd = [] := by
  simp only [evaluateTaskRunnerPreflight, preflightBlocked] at h
  split at h
  · subst h
    cases hpassed
  split at h
  · subst h
    cases hpassed
  split at h
  · subst h
    cases hpassed
  rename_i hviolations
  have hnil := of_not_not hviolations
  split at h
  · subst h
    cases hpassed
  split at h
  · subst h
    cases hpassed
  split at h
  · subst h
    rw [networkWritePreflight_proposal] at hproposal
    obtain rfl := Option.some.inj hproposal
    exact ⟨rfl, hnil⟩
  · subst h
    obtain rfl := Option.some.inj hproposal
    exact ⟨rfl, hnil⟩

/-- A blocked result of a preflight refuses the action that was asked about. -/
theorem evaluateTaskRunnerPreflight_blocked {input : EvaluateTaskRunnerPreflightInput host}
    {result : ActionRunResult}
    (h : (evaluateTaskRunnerPreflight sha host input).blockedResult = some result) :
    Refuses input.action result := by
  simp only [evaluateTaskRunnerPreflight, preflightBlocked] at h
  repeat' split at h
  all_goals first
    | exact networkWritePreflight_blocked sha host h
    | cases h <;> exact refuses_buildBlockedActionResult ..

end AgentBigBrain.Orchestration
