import AgentBigBrain.Autonomy.StructuredRecovery

/-!
# The autonomous loop

A run works on one goal after another. Within a goal it gives the orchestrator one task after
another and decides after each result whether the goal is met, has to be given up or needs another
task. What the orchestrator, the model and the abort signal answer is the event of a step; what the
run does is kept in a log.
-/
namespace AgentBigBrain.Autonomy

open AgentBigBrain.Js AgentBigBrain.Core

/-! ## Configuration -/

structure LoopConfig where
  maxAutonomousIterations : ℚ
  maxAutonomousConsecutiveNoProgressIterations : ℚ
  isDaemonMode : Bool
  daemonGoalRolloverLimit : Option ℚ

inductive WorkspaceRecoveryRecommendedAction where
  | stopExactTrackedHolders
  | clarifyBeforeExactNonPreviewShutdown
  | clarifyBeforeLikelyNonPreviewShutdown
  | clarifyBeforeUntrackedShutdown
  | stopNoLiveHoldersFound
  | retryAfterInspection
  | inspectFirst
  deriving DecidableEq

structure WorkspaceRecoverySignal where
  recommendedAction : WorkspaceRecoveryRecommendedAction
  trackedPreviewProcessLeaseIds : List String
  recoveredExactHolderPids : List ℕ
  blockedFolderPaths : List String

/-- The helpers that read or build texts, paths and loopback targets. -/
structure LoopPolicies extends MissionTextPolicies, RecoveryPolicies where
  resolveTrackedLoopbackTarget :
    Option LoopbackTargetHint → TaskRunResult → Option LoopbackTargetHint
  /-- `resolveLiveVerificationBlockedAbortReason(...) !== null`. -/
  liveVerificationBlocked :
    TaskRunResult → MissionCompletionContract → List MissionRequirementId → Bool
  deriveWorkspaceRecoverySignal : TaskRunResult → Option WorkspaceRecoverySignal
  deriveWorkspaceRecoveryInspectionSignal : TaskRunResult → Option WorkspaceRecoverySignal
  buildWorkspaceRecoveryNextUserInput : String → WorkspaceRecoverySignal → String
  buildMissionEvidenceRetryInput :
    String → List MissionRequirementId → List String → Bool → String
  /-- `buildAutonomousUserTurnGateReason(reasoning, nextUserInput) !== null`. -/
  userTurnGated : String → String → Bool

/-! ## Texts of workspace recovery -/

def containsWorkspaceRecoveryStopExactMarker (userInput : String) : Bool :=
  includes userInput "[WORKSPACE_RECOVERY_STOP_EXACT]"

def containsWorkspaceRecoveryPostInspectionRetryMarker (userInput : String) : Bool :=
  includes userInput "[WORKSPACE_RECOVERY_POST_INSPECTION_RETRY]"

def buildWorkspaceRecoveryPostShutdownRetryInput (overarchingGoal : String) : String :=
  "[WORKSPACE_RECOVERY_POST_SHUTDOWN_RETRY]\n" ++
    "Retry this original folder-organization goal now: \"" ++ overarchingGoal ++ "\". " ++
    "Verify which matching folders moved into the destination and which, if any, still remain " ++
    "outside it. Do not stop unrelated apps by name. If any remaining folder is still blocked, " ++
    "inspect holders first instead of guessing."

def buildWorkspaceRecoveryPostInspectionRetryInput (overarchingGoal : String) : String :=
  "[WORKSPACE_RECOVERY_POST_INSPECTION_RETRY]\n" ++
    "Retry this original folder-organization goal now: \"" ++ overarchingGoal ++ "\". " ++
    "The last holder inspection did not prove a live exact holder, so retry the actual move " ++
    "once in case the lock already cleared. Verify which matching folders moved into the " ++
    "destination and which, if any, still remain outside it. If any remaining folder is still " ++
    "blocked after this retry, stop and explain that no exact holder was proven safely enough " ++
    "for automatic shutdown."

def buildManagedProcessStopRetryInput (leaseId : String) : String :=
  "stop_process leaseId=\"" ++ leaseId ++ "\". Stop the managed process now so the requested " ++
    "finite live-run flow can finish cleanly."

/-- `/\b(?:move-item|mv|move)\b/i`. -/
def isLocalOrganizationMoveCommand (command : String) : Bool :=
  ["move-item", "mv", "move"].any (hasWord (asciiLower command))

def hasApprovedWorkspaceRecoveryMoveAction (result : TaskRunResult) : Bool :=
  result.actionResults.any fun entry =>
    entry.approved && decide (entry.action.type = .shellCommand) &&
      match entry.action.params.get "command" with
      | some (.str command) => isLocalOrganizationMoveCommand command
      | _ => false

def hasApprovedWorkspaceRecoveryStopProcessAction (result : TaskRunResult) : Bool :=
  result.actionResults.any fun entry =>
    entry.approved && decide (entry.action.type = .stopProcess)

/-- The signal asks for the user, or for nothing to be shut down. -/
def WorkspaceRecoverySignal.stopsLoop (signal : WorkspaceRecoverySignal) : Bool :=
  match signal.recommendedAction with
  | .clarifyBeforeExactNonPreviewShutdown | .clarifyBeforeLikelyNonPreviewShutdown
  | .clarifyBeforeUntrackedShutdown | .stopNoLiveHoldersFound => true
  | .stopExactTrackedHolders | .retryAfterInspection | .inspectFirst => false

def hasReadinessNotReadyFailure (result : TaskRunResult) : Bool :=
  result.actionResults.any fun entry =>
    !entry.approved &&
      decide (entry.action.type = .probePort ∨ entry.action.type = .probeHttp) &&
      (decide (entry.executionFailureCode = some .processNotReady) ||
        entry.blockedBy.any fun blocked => decide (blocked = .constraint .processNotReady))

def hasMissionStopLimitReached (result : TaskRunResult) : Bool :=
  hasTaskRunResultBlockCode result .missionStopLimitReached

/-! ## What is answered and what is done -/

/-- What a promise was rejected with: nothing that has a message, or an error. -/
inductive ThrownError where
  | noMessage
  | error (isAbortError : Bool)
  deriving DecidableEq

inductive TaskOutcome where
  | completed (result : TaskRunResult)
  /-- The task was rejected; the signal is read again. -/
  | threw (error : ThrownError) (aborted : Bool)

structure AutonomousNextStepModelOutput where
  isGoalMet : Bool
  reasoning : String
  nextUserInput : Option String

/-- What one iteration is answered, as far as it asks. -/
structure IterationAnswers where
  abortedBefore : Bool
  task : TaskOutcome
  abortedAfter : Bool
  /-- `none` where the evaluation of the next step is rejected itself. -/
  nextStep : Option AutonomousNextStepModelOutput

inductive StopReason where
  | cancelled
  | taskExecutionFailed
  | missionRetryBudget
  | processNeverReady
  | liveVerificationBlocked
  | workspaceRecovery
  | structuredRecovery
  | stalled
  | userTurnGate
  | emptyNextStep
  | maxIterations
  deriving DecidableEq

inductive LoopAction where
  | missionTask (goal userInput : String)
  | missionResult (result : TaskRunResult)
  | cleanupTask (goal leaseId : String)
  | cleanupResult (result : TaskRunResult)
  | sawAbort
  | askedNextStep
  | askedProactiveGoal
  | goalMet
  | goalAborted (reason : StopReason)

/-! ## One goal -/

structure GoalLoop where
  goal : String
  currentInput : String
  iteration : ℕ
  consecutiveZeroProgress : ℕ
  missionEvidence : MissionEvidenceCounters
  trackedManagedProcessLeaseId : Option String
  trackedManagedProcessStartContext : Option ApprovedManagedProcessStartContext
  trackedLoopbackTarget : Option LoopbackTargetHint
  readinessFailureLeaseId : Option String
  readinessFailureCount : ℕ
  structuredRecoveryAttemptCounts : String → ℕ

def GoalLoop.start (goal : String) (initialInput : Option String) : GoalLoop where
  goal := goal
  currentInput := initialInput.getD goal
  iteration := 0
  consecutiveZeroProgress := 0
  missionEvidence := .zero
  trackedManagedProcessLeaseId := none
  trackedManagedProcessStartContext := none
  trackedLoopbackTarget := none
  readinessFailureLeaseId := none
  readinessFailureCount := 0
  structuredRecoveryAttemptCounts _ := 0

/-- `unlimited || iteration < maxIterations`. -/
def LoopConfig.mayIterate (config : LoopConfig) (iteration : ℕ) : Bool :=
  decide (config.maxAutonomousIterations ≤ 0 ∨ (iteration : ℚ) < config.maxAutonomousIterations)

variable (platform : Platform) (policies : LoopPolicies)

def GoalLoop.contract (loop : GoalLoop) : MissionCompletionContract :=
  buildMissionCompletionContract policies.toMissionTextPolicies loop.goal

def GoalLoop.missing (loop : GoalLoop) : List MissionRequirementId :=
  resolveMissingMissionRequirements (loop.contract policies) loop.missionEvidence

/-- The readiness failures of the tracked process, counted on or forgotten. -/
def GoalLoop.trackReadiness (loop : GoalLoop) (result : TaskRunResult) : GoalLoop :=
  let contract := loop.contract policies
  if contract.requireReadinessProof = true ∧ loop.trackedManagedProcessLeaseId.isSome = true ∧
      hasReadinessNotReadyFailure result = true then
    if loop.readinessFailureLeaseId = loop.trackedManagedProcessLeaseId then
      { loop with readinessFailureCount := loop.readinessFailureCount + 1 }
    else
      { loop with
        readinessFailureLeaseId := loop.trackedManagedProcessLeaseId
        readinessFailureCount := 1 }
  else if 0 < countApprovedReadinessProofActions platform result
        (contract.requireBrowserProof || contract.requireBrowserOpenProof) ∨
      loop.trackedManagedProcessLeaseId = none ∨
      (findApprovedManagedProcessCheckResult result).map (·.lifecycleStatus) =
        some "PROCESS_STOPPED" then
    { loop with readinessFailureLeaseId := none, readinessFailureCount := 0 }
  else loop

/-- The state of the goal after the result of a mission task. -/
def GoalLoop.absorb (loop : GoalLoop) (result : TaskRunResult) : GoalLoop :=
  let tracked : GoalLoop :=
    { loop with
      missionEvidence := loop.missionEvidence.add platform (loop.contract policies) result
      trackedManagedProcessLeaseId :=
        resolveTrackedManagedProcessLeaseId loop.trackedManagedProcessLeaseId result
      trackedManagedProcessStartContext :=
        resolveTrackedManagedProcessStartContext loop.trackedManagedProcessStartContext result
      trackedLoopbackTarget :=
        policies.resolveTrackedLoopbackTarget loop.trackedLoopbackTarget result }
  tracked.trackReadiness platform policies result

lemma GoalLoop.trackReadiness_eq_or (loop : GoalLoop) (result : TaskRunResult) :
    ∃ leaseId count, loop.trackReadiness platform policies result =
      { loop with readinessFailureLeaseId := leaseId, readinessFailureCount := count } := by
  unfold GoalLoop.trackReadiness
  dsimp only
  split_ifs <;> exact ⟨_, _, rfl⟩

@[simp] lemma GoalLoop.absorb_goal (loop : GoalLoop) (result : TaskRunResult) :
    (loop.absorb platform policies result).goal = loop.goal := by
  unfold GoalLoop.absorb
  obtain ⟨leaseId, count, heq⟩ := GoalLoop.trackReadiness_eq_or platform policies _ result
  rw [heq]

@[simp] lemma GoalLoop.absorb_missionEvidence (loop : GoalLoop) (result : TaskRunResult) :
    (loop.absorb platform policies result).missionEvidence =
      loop.missionEvidence.add platform (loop.contract policies) result := by
  unfold GoalLoop.absorb
  obtain ⟨leaseId, count, heq⟩ := GoalLoop.trackReadiness_eq_or platform policies _ result
  rw [heq]

@[simp] lemma GoalLoop.absorb_trackedManagedProcessLeaseId (loop : GoalLoop)
    (result : TaskRunResult) :
    (loop.absorb platform policies result).trackedManagedProcessLeaseId =
      resolveTrackedManagedProcessLeaseId loop.trackedManagedProcessLeaseId result := by
  unfold GoalLoop.absorb
  obtain ⟨leaseId, count, heq⟩ := GoalLoop.trackReadiness_eq_or platform policies _ result
  rw [heq]

@[simp] lemma GoalLoop.absorb_consecutiveZeroProgress (loop : GoalLoop) (result : TaskRunResult) :
    (loop.absorb platform policies result).consecutiveZeroProgress =
      loop.consecutiveZeroProgress := by
  unfold GoalLoop.absorb
  obtain ⟨leaseId, count, heq⟩ := GoalLoop.trackReadiness_eq_or platform policies _ result
  rw [heq]

@[simp] lemma GoalLoop.absorb_structuredRecoveryAttemptCounts (loop : GoalLoop)
    (result : TaskRunResult) :
    (loop.absorb platform policies result).structuredRecoveryAttemptCounts =
      loop.structuredRecoveryAttemptCounts := by
  unfold GoalLoop.absorb
  obtain ⟨leaseId, count, heq⟩ := GoalLoop.trackReadiness_eq_or platform policies _ result
  rw [heq]

/-- What the loop makes of a result before it looks at the progress. -/
inductive EarlyDecision where
  | stop (reason : StopReason) (cleanup : Bool)
  | met
  /-- A workspace-recovery retry with this input. -/
  | retryWorkspace (input : String)
  /-- A structured-recovery retry, counted under its fingerprint. -/
  | retryStructured (fingerprint input : String)
  | assess

/-- The live-run evidence that the contract demands is complete. -/
def GoalLoop.liveRunEvidenceComplete (loop : GoalLoop) : Bool :=
  let contract := loop.contract policies
  contract.executionStyle && decide (loop.missing policies = []) &&
    (contract.requireReadinessProof || contract.requireBrowserProof ||
      contract.requireBrowserOpenProof || contract.requireProcessStopProof)

/-- The retries for a workspace whose folders are in use. -/
def GoalLoop.decideWorkspaceRecovery (loop : GoalLoop) (result : TaskRunResult) :
    Option EarlyDecision :=
  match policies.deriveWorkspaceRecoverySignal result with
  | some signal =>
      if containsWorkspaceRecoveryPostInspectionRetryMarker loop.currentInput = true ∧
          signal.recommendedAction = .inspectFirst then
        some (.stop .workspaceRecovery false)
      else if signal.stopsLoop then some (.stop .workspaceRecovery false)
      else
        some (.retryWorkspace (policies.buildWorkspaceRecoveryNextUserInput loop.goal signal))
  | none =>
      match policies.deriveWorkspaceRecoveryInspectionSignal result with
      | some signal =>
          if signal.stopsLoop then some (.stop .workspaceRecovery false)
          else if signal.recommendedAction = .retryAfterInspection then
            some (.retryWorkspace (buildWorkspaceRecoveryPostInspectionRetryInput loop.goal))
          else
            some (.retryWorkspace
              (policies.buildWorkspaceRecoveryNextUserInput loop.goal signal))
      | none =>
          if containsWorkspaceRecoveryStopExactMarker loop.currentInput = true ∧
              hasApprovedWorkspaceRecoveryStopProcessAction result = true ∧
              hasApprovedWorkspaceRecoveryMoveAction result = false then
            some (.retryWorkspace (buildWorkspaceRecoveryPostShutdownRetryInput loop.goal))
          else none

def GoalLoop.decideStructuredRecovery (loop : GoalLoop) (result : TaskRunResult) :
    EarlyDecision :=
  match resolveStructuredRecoveryRuntimeDecision policies.toRecoveryPolicies
      { overarchingGoal := loop.goal
        missionContract := loop.contract policies
        result := result
        attemptCounts := loop.structuredRecoveryAttemptCounts
        trackedManagedProcessLeaseId := loop.trackedManagedProcessLeaseId
        trackedManagedProcessStartContext := loop.trackedManagedProcessStartContext
        trackedLoopbackTarget := loop.trackedLoopbackTarget } with
  | .none => .assess
  | .retry fingerprint input => .retryStructured fingerprint input
  | .abort cleanup => .stop .structuredRecovery cleanup

/-- The decision on a result that `loop` has absorbed. -/
def GoalLoop.decide (loop : GoalLoop) (result : TaskRunResult) : EarlyDecision :=
  let contract := loop.contract policies
  if hasMissionStopLimitReached result then .stop .missionRetryBudget true
  else if contract.requireReadinessProof = true ∧
      loop.trackedManagedProcessLeaseId.isSome = true ∧
      loop.readinessFailureLeaseId = loop.trackedManagedProcessLeaseId ∧
      MAX_MANAGED_PROCESS_READINESS_FAILURES ≤ loop.readinessFailureCount then
    .stop .processNeverReady true
  else if policies.liveVerificationBlocked result contract (loop.missing policies) then
    .stop .liveVerificationBlocked true
  else if loop.liveRunEvidenceComplete policies then .met
  else (loop.decideWorkspaceRecovery policies result).getD
    (loop.decideStructuredRecovery policies result)

/-- How an iteration ends. -/
inductive IterationEnd where
  | continued (loop : GoalLoop)
  /-- The inner loop is left; the goal was met or given up. -/
  | broken
  /-- The run itself is rejected. -/
  | rejected

structure Iteration where
  actions : List LoopAction
  ends : IterationEnd

/-- The goal is given up, after a cleanup of the tracked process where there is one. -/
def GoalLoop.stopActions (loop : GoalLoop) (reason : StopReason) (cleanup : Bool) :
    List LoopAction :=
  (if cleanup then loop.trackedManagedProcessLeaseId.toList.map (.cleanupTask loop.goal) else []) ++
    [.goalAborted reason]

def GoalLoop.stopWith (loop : GoalLoop) (before : List LoopAction) (reason : StopReason)
    (cleanup : Bool) : Iteration where
  actions := before ++ loop.stopActions reason cleanup
  ends := .broken

/-- The input that is asked for where the model calls a goal met that lacks proof. -/
def GoalLoop.gateInput (loop : GoalLoop) (nextUserInput : Option String) : String :=
  let contract := loop.contract policies
  match (loop.missing policies).head?, loop.trackedManagedProcessLeaseId with
  | some .processStop, some leaseId => buildManagedProcessStopRetryInput leaseId
  | _, _ =>
      match nextUserInput.filter isPresent with
      | some input => input
      | none => policies.buildMissionEvidenceRetryInput loop.goal (loop.missing policies)
          contract.targetPathHints
          (contract.requireBrowserProof || contract.requireBrowserOpenProof)

/-- The rest of the iteration, once the model has answered. -/
def GoalLoop.followNextStep (loop : GoalLoop) (before : List LoopAction)
    (nextStep : AutonomousNextStepModelOutput) : Iteration :=
  if (loop.contract policies).executionStyle = true ∧ nextStep.isGoalMet = true ∧
      loop.missing policies ≠ [] then
    { actions := before
      ends := .continued { loop with currentInput := loop.gateInput policies nextStep.nextUserInput } }
  else if nextStep.isGoalMet then { actions := before ++ [.goalMet], ends := .broken }
  else if policies.userTurnGated nextStep.reasoning (nextStep.nextUserInput.getD "") then
    loop.stopWith before .userTurnGate false
  else
    match nextStep.nextUserInput.filter isPresent with
    | none => loop.stopWith before .emptyNextStep true
    | some input =>
        { actions := before, ends := .continued { loop with currentInput := input } }

/-- The requirements became fewer, or in a goal of another style something was approved. -/
def GoalLoop.madeProgress (loop before : GoalLoop) (result : TaskRunResult) : Bool :=
  if (loop.contract policies).executionStyle then
    Decidable.decide ((loop.missing policies).length < (before.missing policies).length)
  else result.actionResults.any (·.approved)

/-- The iterations without progress, counted on or forgotten. -/
def GoalLoop.countProgress (loop before : GoalLoop) (result : TaskRunResult) : GoalLoop :=
  { loop with
    consecutiveZeroProgress :=
      if loop.madeProgress policies before result then 0 else loop.consecutiveZeroProgress + 1 }

/-- The rest of the iteration, from the look at the progress. -/
def GoalLoop.assess (config : LoopConfig) (loop before : GoalLoop) (actions : List LoopAction)
    (result : TaskRunResult) (nextStep : Option AutonomousNextStepModelOutput) : Iteration :=
  let counted := loop.countProgress policies before result
  if config.maxAutonomousConsecutiveNoProgressIterations ≤ counted.consecutiveZeroProgress then
    counted.stopWith actions .stalled true
  else
    match nextStep with
    | none => { actions := actions ++ [.askedNextStep], ends := .rejected }
    | some nextStep => counted.followNextStep policies (actions ++ [.askedNextStep]) nextStep

/-- The rest of the iteration, once the task has its result. -/
def GoalLoop.handleResult (config : LoopConfig) (loop : GoalLoop) (actions : List LoopAction)
    (result : TaskRunResult) (answers : IterationAnswers) : Iteration :=
  let after := loop.absorb platform policies result
  let seen := actions ++ [.missionResult result]
  if answers.abortedAfter then after.stopWith (seen ++ [.sawAbort]) .cancelled true
  else
    match after.decide policies result with
    | .stop reason cleanup => after.stopWith seen reason cleanup
    | .met => { actions := seen ++ [.goalMet], ends := .broken }
    | .retryWorkspace input =>
        { actions := seen, ends := .continued { after with currentInput := input } }
    | .retryStructured fingerprint input =>
        { actions := seen
          ends := .continued
            { after with
              currentInput := input
              structuredRecoveryAttemptCounts :=
                Function.update after.structuredRecoveryAttemptCounts fingerprint
                  (after.structuredRecoveryAttemptCounts fingerprint + 1) } }
    | .assess => after.assess policies config loop seen result answers.nextStep

/-- One pass through the body of the inner loop. -/
def GoalLoop.iterate (config : LoopConfig) (loop : GoalLoop) (answers : IterationAnswers) :
    Iteration :=
  if answers.abortedBefore then loop.stopWith [.sawAbort] .cancelled true
  else
    let started := { loop with iteration := loop.iteration + 1 }
    let asked := [LoopAction.missionTask loop.goal loop.currentInput]
    match answers.task with
    | .threw error aborted =>
        if aborted then started.stopWith (asked ++ [.sawAbort]) .cancelled true
        else
          match error with
          | .error true => started.stopWith asked .cancelled true
          | .error false => started.stopWith asked .taskExecutionFailed true
          | .noMessage => { actions := asked, ends := .rejected }
    | .completed result =>
        started.handleResult platform policies config asked result answers

/-- The state of the goal after the result of its final cleanup task. -/
def GoalLoop.afterCleanup (loop : GoalLoop) (result : TaskRunResult) : GoalLoop :=
  { loop with
    missionEvidence :=
      { loop.missionEvidence with
        processStopProofs := loop.missionEvidence.processStopProofs +
          countApprovedManagedProcessStopActions result }
    trackedManagedProcessLeaseId :=
      resolveTrackedManagedProcessLeaseId loop.trackedManagedProcessLeaseId result
    trackedManagedProcessStartContext :=
      resolveTrackedManagedProcessStartContext loop.trackedManagedProcessStartContext result }

/-- What follows the inner loop when no iteration is left. -/
def GoalLoop.runOut (loop : GoalLoop) (cleanup : Option TaskRunResult) : List LoopAction :=
  match loop.trackedManagedProcessLeaseId with
  | none => loop.stopActions .maxIterations true
  | some leaseId =>
      if (loop.contract policies).requireProcessStopProof = true ∧
          loop.missing policies = [.processStop] then
        match cleanup with
        | none => .cleanupTask loop.goal leaseId :: loop.stopActions .maxIterations true
        | some result =>
            [.cleanupTask loop.goal leaseId, .cleanupResult result] ++
              if (loop.afterCleanup result).missing policies = [] then [.goalMet]
              else (loop.afterCleanup result).stopActions .maxIterations true
      else loop.stopActions .maxIterations true

/-! ## The run -/

inductive Phase where
  | running (loop : GoalLoop)
  /-- The daemon asks for its next goal. -/
  | choosing
  | returned
  | rejected

/-- What was done in one goal loop. -/
structure GoalRecord where
  goal : String
  log : List LoopAction

structure LoopState where
  phase : Phase
  currentOverarchingGoal : String
  daemonGoalRollovers : ℕ
  currentLoopInitialInput : Option String
  /-- The signal was read as aborted, and stays so. -/
  signalAborted : Bool
  /-- What was done for the current goal. -/
  log : List LoopAction
  /-- What was done for the goals before it. -/
  earlier : List GoalRecord

def LoopState.start (goal : String) (initialGoalInput : Option String) : LoopState :=
  let initialInput := (initialGoalInput.filter isPresent).map trim
  { phase := .running (.start goal initialInput)
    currentOverarchingGoal := goal
    daemonGoalRollovers := 0
    currentLoopInitialInput := initialInput
    signalAborted := false
    log := []
    earlier := [] }

inductive LoopEvent where
  | iterate (answers : IterationAnswers)
  /-- The inner loop has no iteration left; the outcome of the cleanup task that may follow. -/
  | runOut (cleanup : Option TaskRunResult)
  /-- The proactive goal of the model, or none where that fails. -/
  | propose (proactiveGoal : Option String)

/-- The run does not go on after a goal. -/
def LoopConfig.stopsAfterGoal (config : LoopConfig) (rollovers : ℕ) : Bool :=
  !config.isDaemonMode ||
    config.daemonGoalRolloverLimit.any fun limit => decide (0 < limit ∧ limit ≤ (rollovers : ℚ))

/-- The end of a goal: the run returns, or the daemon chooses the next one. -/
def LoopConfig.afterGoal (config : LoopConfig) (rollovers : ℕ) : Phase :=
  if config.stopsAfterGoal rollovers then .returned else .choosing

def LoopAction.isSawAbort : LoopAction → Bool
  | .sawAbort => true
  | _ => false

/-- The state after an iteration. -/
def LoopState.afterIteration (config : LoopConfig) (state : LoopState) (iteration : Iteration) :
    LoopState :=
  { state with
    phase :=
      match iteration.ends with
      | .continued loop => .running loop
      | .broken => config.afterGoal state.daemonGoalRollovers
      | .rejected => .rejected
    signalAborted := state.signalAborted || iteration.actions.any (·.isSawAbort)
    log := state.log ++ iteration.actions }

/-- The next goal loop of the daemon. -/
def LoopState.nextGoal (state : LoopState) (goal : String) (rollovers : ℕ)
    (initialInput : Option String) : LoopState where
  phase := .running (.start goal initialInput)
  currentOverarchingGoal := goal
  daemonGoalRollovers := rollovers
  currentLoopInitialInput := initialInput
  signalAborted := state.signalAborted
  log := []
  earlier := state.earlier ++
    [{ goal := state.currentOverarchingGoal, log := state.log ++ [.askedProactiveGoal] }]

def loopStep (config : LoopConfig) (state : LoopState) : LoopEvent → Option LoopState
  | .iterate answers =>
      match state.phase with
      | .running loop =>
          if config.mayIterate loop.iteration = true ∧
              (state.signalAborted = true → answers.abortedBefore = true) then
            some (state.afterIteration config (loop.iterate platform policies config answers))
          else none
      | _ => none
  | .runOut cleanup =>
      match state.phase with
      | .running loop =>
          if config.mayIterate loop.iteration then none
          else
            some
              { state with
                phase := config.afterGoal state.daemonGoalRollovers
                log := state.log ++ loop.runOut policies cleanup }
      | _ => none
  | .propose proactiveGoal =>
      match state.phase with
      | .choosing =>
          match proactiveGoal with
          | some nextGoal => some (state.nextGoal nextGoal (state.daemonGoalRollovers + 1) none)
          -- The rollover is not counted, and the same goal runs again.
          | none => some (state.nextGoal state.currentOverarchingGoal state.daemonGoalRollovers
              state.currentLoopInitialInput)
      | _ => none

end AgentBigBrain.Autonomy
