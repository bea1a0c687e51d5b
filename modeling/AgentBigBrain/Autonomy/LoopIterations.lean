import AgentBigBrain.Autonomy.AgentLoop
import AgentBigBrain.Lib.Runs

/-!
# What an iteration can do

`Handled` lists the ways in which an iteration can go on once its task has a result, `Iterated` the
ways in which it can go at all, each with what the loop does and how the iteration ends. What a run
keeps is read off these lists.
-/
namespace AgentBigBrain.Autonomy

open AgentBigBrain.Js AgentBigBrain.Core AgentBigBrain.Lib

variable (platform : Platform) (policies : LoopPolicies) (config : LoopConfig)

/-! ## Decisions -/

variable {policies} in
/-- Workspace recovery never calls a goal met, and stops it under its own reason. -/
lemma GoalLoop.decideWorkspaceRecovery_cases {loop : GoalLoop} {result : TaskRunResult}
    {decision : EarlyDecision}
    (h : loop.decideWorkspaceRecovery policies result = some decision) :
    decision = .stop .workspaceRecovery false ∨ ∃ input, decision = .retryWorkspace input := by
  unfold GoalLoop.decideWorkspaceRecovery at h
  split at h
  · split_ifs at h <;> cases h
    · exact .inl rfl
    · exact .inl rfl
    · exact .inr ⟨_, rfl⟩
  · split at h
    · split_ifs at h <;> cases h
      · exact .inl rfl
      · exact .inr ⟨_, rfl⟩
      · exact .inr ⟨_, rfl⟩
    · split_ifs at h
      cases h
      exact .inr ⟨_, rfl⟩

/-- Structured recovery stops a goal under its own reason, or retries it where the attempts made
under the fingerprint are fewer than the rule allows. -/
lemma GoalLoop.decideStructuredRecovery_cases (loop : GoalLoop) (result : TaskRunResult) :
    loop.decideStructuredRecovery policies result = .assess ∨
      (∃ cleanup, loop.decideStructuredRecovery policies result =
        .stop .structuredRecovery cleanup) ∨
      ∃ fingerprint input, loop.decideStructuredRecovery policies result =
        .retryStructured fingerprint input := by
  unfold GoalLoop.decideStructuredRecovery
  split
  · exact .inl rfl
  · exact .inr (.inr ⟨_, _, rfl⟩)
  · exact .inr (.inl ⟨_, rfl⟩)

variable {policies} in
/-- Recovery never calls a goal met, and stops it under a reason of its own. -/
lemma GoalLoop.recovery_cases {loop : GoalLoop} {result : TaskRunResult} {decision : EarlyDecision}
    (h : (loop.decideWorkspaceRecovery policies result).getD
      (loop.decideStructuredRecovery policies result) = decision) :
    decision ≠ .met ∧ ∀ reason cleanup, decision = .stop reason cleanup →
      reason = .workspaceRecovery ∨ reason = .structuredRecovery := by
  subst h
  cases hworkspace : loop.decideWorkspaceRecovery policies result with
  | some decision =>
      rw [Option.getD_some]
      rcases GoalLoop.decideWorkspaceRecovery_cases hworkspace with rfl | ⟨input, rfl⟩ <;> simp
  | none =>
      rw [Option.getD_none]
      rcases GoalLoop.decideStructuredRecovery_cases policies loop result with
        hassess | ⟨_, hstop⟩ | ⟨_, _, hretry⟩
      · simp [hassess]
      · simp [hstop]
      · simp [hretry]

/-- The reasons to stop at a result that come with a cleanup. -/
def StopReason.cleansUpAtResult : StopReason → Bool
  | .missionRetryBudget | .processNeverReady | .liveVerificationBlocked => true
  | _ => false

variable {policies} in
lemma GoalLoop.decide_eq_stop {loop : GoalLoop} {result : TaskRunResult} {reason : StopReason}
    {cleanup : Bool} (h : loop.decide policies result = .stop reason cleanup) :
    reason.cleansUpAtResult = true ∧ cleanup = true ∨ reason = .workspaceRecovery ∨
      reason = .structuredRecovery := by
  unfold GoalLoop.decide at h
  dsimp only at h
  split_ifs at h
  · cases h
    exact .inl ⟨rfl, rfl⟩
  · cases h
    exact .inl ⟨rfl, rfl⟩
  · cases h
    exact .inl ⟨rfl, rfl⟩
  · exact .inr ((GoalLoop.recovery_cases h).2 reason cleanup rfl)

variable {policies} in
/-- A result that ends the goal as met completes the evidence. -/
lemma GoalLoop.decide_eq_met {loop : GoalLoop} {result : TaskRunResult}
    (h : loop.decide policies result = .met) : loop.liveRunEvidenceComplete policies = true := by
  unfold GoalLoop.decide at h
  dsimp only at h
  split_ifs at h with _ _ _ hcomplete
  · exact hcomplete
  · exact absurd rfl (GoalLoop.recovery_cases h).1

variable {policies} in
lemma GoalLoop.missing_of_liveRunEvidenceComplete {loop : GoalLoop}
    (h : loop.liveRunEvidenceComplete policies = true) : loop.missing policies = [] := by
  unfold GoalLoop.liveRunEvidenceComplete at h
  simp only [Bool.and_eq_true, decide_eq_true_eq] at h
  exact h.1.2

/-! ## One iteration -/

/-- The state of the goal after the result and the look at the progress. -/
def GoalLoop.counted (started : GoalLoop) (result : TaskRunResult) : GoalLoop :=
  (started.absorb platform policies result).countProgress policies started result

inductive Handled (started : GoalLoop) (result : TaskRunResult) (answers : IterationAnswers) :
    List LoopAction → IterationEnd → Prop where
  | cancelled (haborted : answers.abortedAfter = true) :
      Handled started result answers
        (.sawAbort :: (started.absorb platform policies result).stopActions .cancelled true) .broken
  | stopped {reason : StopReason} {cleanup : Bool}
      (hdecide : (started.absorb platform policies result).decide policies result =
        .stop reason cleanup) :
      Handled started result answers
        ((started.absorb platform policies result).stopActions reason cleanup) .broken
  | met (hdecide : (started.absorb platform policies result).decide policies result = .met) :
      Handled started result answers [.goalMet] .broken
  | retriedWorkspace {input : String}
      (hdecide : (started.absorb platform policies result).decide policies result =
        .retryWorkspace input) :
      Handled started result answers []
        (.continued { started.absorb platform policies result with currentInput := input })
  | retriedStructured {fingerprint input : String}
      (hdecide : (started.absorb platform policies result).decide policies result =
        .retryStructured fingerprint input) :
      Handled started result answers []
        (.continued
          { started.absorb platform policies result with
            currentInput := input
            structuredRecoveryAttemptCounts :=
              Function.update
                (started.absorb platform policies result).structuredRecoveryAttemptCounts fingerprint
                ((started.absorb platform policies result).structuredRecoveryAttemptCounts
                  fingerprint + 1) })
  | stalled
      (hlimit : config.maxAutonomousConsecutiveNoProgressIterations ≤
        (started.counted platform policies result).consecutiveZeroProgress) :
      Handled started result answers
        ((started.counted platform policies result).stopActions .stalled true) .broken
  | unanswered (hanswer : answers.nextStep = none) :
      Handled started result answers [.askedNextStep] .rejected
  | asked {input : String}
      (hdecide : (started.absorb platform policies result).decide policies result = .assess)
      (hlimit : ¬ config.maxAutonomousConsecutiveNoProgressIterations ≤
        (started.counted platform policies result).consecutiveZeroProgress) :
      Handled started result answers [.askedNextStep]
        (.continued { started.counted platform policies result with currentInput := input })
  | finished
      (hproof : ((started.counted platform policies result).contract policies).executionStyle =
          true → (started.counted platform policies result).missing policies = []) :
      Handled started result answers [.askedNextStep, .goalMet] .broken
  | gaveUp {reason : StopReason} {cleanup : Bool}
      (hreason : reason = .userTurnGate ∨ reason = .emptyNextStep) :
      Handled started result answers
        (.askedNextStep :: (started.counted platform policies result).stopActions reason cleanup)
        .broken

inductive Iterated (loop : GoalLoop) (answers : IterationAnswers) :
    List LoopAction → IterationEnd → Prop where
  | cancelledBefore (haborted : answers.abortedBefore = true) :
      Iterated loop answers (.sawAbort :: loop.stopActions .cancelled true) .broken
  | cancelledTask {error : ThrownError} (htask : answers.task = .threw error true) :
      Iterated loop answers
        (.missionTask loop.goal loop.currentInput :: .sawAbort ::
          loop.stopActions .cancelled true) .broken
  | failedTask {isAbortError : Bool} {reason : StopReason}
      (htask : answers.task = .threw (.error isAbortError) false)
      (hreason : reason = .cancelled ∨ reason = .taskExecutionFailed) :
      Iterated loop answers
        (.missionTask loop.goal loop.currentInput :: loop.stopActions reason true) .broken
  | rejectedTask (htask : answers.task = .threw .noMessage false) :
      Iterated loop answers [.missionTask loop.goal loop.currentInput] .rejected
  | completed {result : TaskRunResult} {rest : List LoopAction} {ends : IterationEnd}
      (htask : answers.task = .completed result)
      (hrest : Handled platform policies config { loop with iteration := loop.iteration + 1 } result
        answers rest ends) :
      Iterated loop answers
        (.missionTask loop.goal loop.currentInput :: .missionResult result :: rest) ends

/-- What the loop does after `before`, and how the iteration ends, stand in the list. -/
def Iteration.Follows (iteration : Iteration) (before : List LoopAction)
    (ways : List LoopAction → IterationEnd → Prop) : Prop :=
  ∃ rest, iteration.actions = before ++ rest ∧ ways rest iteration.ends

variable {platform policies config}

lemma handled_followNextStep {started : GoalLoop} {result : TaskRunResult}
    {answers : IterationAnswers} {before : List LoopAction}
    (nextStep : AutonomousNextStepModelOutput)
    (hdecide : (started.absorb platform policies result).decide policies result = .assess)
    (hlimit : ¬ config.maxAutonomousConsecutiveNoProgressIterations ≤
      (started.counted platform policies result).consecutiveZeroProgress) :
    ((started.counted platform policies result).followNextStep policies
      (before ++ [.askedNextStep]) nextStep).Follows before
        (Handled platform policies config started result answers) := by
  have happend : ∀ rest : List LoopAction,
      before ++ [.askedNextStep] ++ rest = before ++ .askedNextStep :: rest := by
    intro rest
    simp
  unfold GoalLoop.followNextStep
  split_ifs with hgate hmet hturn
  · exact ⟨_, rfl, .asked hdecide hlimit⟩
  · refine ⟨_, happend _, .finished fun hstyle => ?_⟩
    by_contra hmissing
    exact hgate ⟨hstyle, hmet, hmissing⟩
  · exact ⟨_, happend _, .gaveUp (.inl rfl)⟩
  · cases nextStep.nextUserInput.filter isPresent with
    | none => exact ⟨_, happend _, .gaveUp (.inr rfl)⟩
    | some input => exact ⟨_, rfl, .asked hdecide hlimit⟩

lemma handled_assess {started : GoalLoop} {result : TaskRunResult} {answers : IterationAnswers}
    {before : List LoopAction}
    (hdecide : (started.absorb platform policies result).decide policies result = .assess) :
    ((started.absorb platform policies result).assess policies config started before result
      answers.nextStep).Follows before
        (Handled platform policies config started result answers) := by
  unfold GoalLoop.assess
  dsimp only
  split_ifs with hlimit
  · exact ⟨_, rfl, .stalled hlimit⟩
  · cases hanswer : answers.nextStep with
    | none => exact ⟨_, rfl, .unanswered hanswer⟩
    | some nextStep => exact handled_followNextStep nextStep hdecide hlimit

lemma handled_handleResult (started : GoalLoop) (before : List LoopAction)
    (result : TaskRunResult) (answers : IterationAnswers) :
    (started.handleResult platform policies config before result answers).Follows
      (before ++ [.missionResult result])
        (Handled platform policies config started result answers) := by
  unfold GoalLoop.handleResult
  dsimp only
  by_cases haborted : answers.abortedAfter = true
  · rw [if_pos haborted]
    refine ⟨_, ?_, .cancelled haborted⟩
    simp [GoalLoop.stopWith]
  · rw [if_neg haborted]
    cases hdecide : (started.absorb platform policies result).decide policies result with
    | stop reason cleanup => exact ⟨_, rfl, .stopped hdecide⟩
    | met => exact ⟨_, rfl, .met hdecide⟩
    | retryWorkspace input =>
        exact ⟨[], (List.append_nil _).symm, .retriedWorkspace hdecide⟩
    | retryStructured fingerprint input =>
        exact ⟨[], (List.append_nil _).symm, .retriedStructured hdecide⟩
    | assess => exact handled_assess hdecide

theorem iterated_iterate (loop : GoalLoop) (answers : IterationAnswers) :
    Iterated platform policies config loop answers
      (loop.iterate platform policies config answers).actions
      (loop.iterate platform policies config answers).ends := by
  unfold GoalLoop.iterate
  by_cases haborted : answers.abortedBefore = true
  · rw [if_pos haborted]
    exact .cancelledBefore haborted
  · rw [if_neg haborted]
    cases htask : answers.task with
    | threw error aborted =>
        cases aborted with
        | true => exact .cancelledTask htask
        | false =>
            cases error with
            | noMessage => exact .rejectedTask htask
            | error isAbortError =>
                cases isAbortError with
                | true => exact .failedTask htask (.inl rfl)
                | false => exact .failedTask htask (.inr rfl)
    | completed result =>
        obtain ⟨rest, hactions, hhandled⟩ :=
          handled_handleResult { loop with iteration := loop.iteration + 1 }
            [.missionTask loop.goal loop.currentInput] result answers
        dsimp only
        rw [hactions]
        exact .completed htask hhandled

/-! ## One step of the run -/

/-- What a step does: an iteration, the end of a goal that has no iteration left, or the start of
the next goal loop. -/
inductive Stepped (platform : Platform) (policies : LoopPolicies) (config : LoopConfig)
    (state : LoopState) : LoopEvent → LoopState → Prop where
  | iterated {loop : GoalLoop} {answers : IterationAnswers} {actions : List LoopAction}
      {ends : IterationEnd} (hphase : state.phase = .running loop)
      (hmay : config.mayIterate loop.iteration = true)
      (hiterated : Iterated platform policies config loop answers actions ends) :
      Stepped platform policies config state (.iterate answers)
        (state.afterIteration config ⟨actions, ends⟩)
  | ranOut {loop : GoalLoop} {cleanup : Option TaskRunResult}
      (hphase : state.phase = .running loop) :
      Stepped platform policies config state (.runOut cleanup)
        { state with
          phase := config.afterGoal state.daemonGoalRollovers
          log := state.log ++ loop.runOut policies cleanup }
  | proposed {goal : String} (hphase : state.phase = .choosing) :
      Stepped platform policies config state (.propose (some goal))
        (state.nextGoal goal (state.daemonGoalRollovers + 1) none)
  | repeated (hphase : state.phase = .choosing) :
      Stepped platform policies config state (.propose none)
        (state.nextGoal state.currentOverarchingGoal state.daemonGoalRollovers
          state.currentLoopInitialInput)

theorem stepped_of_loopStep {state next : LoopState} {event : LoopEvent}
    (h : loopStep platform policies config state event = some next) :
    Stepped platform policies config state event next := by
  cases event with
  | iterate answers =>
      simp only [loopStep] at h
      split at h
      · next loop hphase =>
          split_ifs at h with hmay
          cases h
          exact .iterated hphase hmay.1 (iterated_iterate loop answers)
      · cases h
  | runOut cleanup =>
      simp only [loopStep] at h
      split at h
      · next loop hphase =>
          split_ifs at h
          cases h
          exact .ranOut hphase
      · cases h
  | propose proposal =>
      simp only [loopStep] at h
      split at h
      · next hphase =>
          cases proposal with
          | some goal =>
              cases h
              exact .proposed hphase
          | none =>
              cases h
              exact .repeated hphase
      · cases h

/-! ## Reports -/

/-- A call of `onGoalMet` or `onGoalAborted`. -/
def LoopAction.isReport : LoopAction → Bool
  | .goalMet | .goalAborted _ => true
  | _ => false

def reports (log : List LoopAction) : ℕ := log.countP (·.isReport)

@[simp] lemma reports_nil : reports [] = 0 := rfl

@[simp] lemma reports_cons (action : LoopAction) (log : List LoopAction) :
    reports (action :: log) = reports log + if action.isReport then 1 else 0 :=
  List.countP_cons

@[simp] lemma reports_append (before after : List LoopAction) :
    reports (before ++ after) = reports before + reports after :=
  List.countP_append

/-- Giving a goal up reports it once. -/
@[simp] lemma reports_stopActions (loop : GoalLoop) (reason : StopReason) (cleanup : Bool) :
    reports (loop.stopActions reason cleanup) = 1 := by
  unfold GoalLoop.stopActions
  cases cleanup <;> cases loop.trackedManagedProcessLeaseId <;> rfl

/-- How often an iteration that ends so reports its goal. -/
def IterationEnd.reports : IterationEnd → ℕ
  | .broken => 1
  | .continued _ | .rejected => 0

lemma Handled.reports_eq {started : GoalLoop} {result : TaskRunResult} {answers : IterationAnswers}
    {rest : List LoopAction} {ends : IterationEnd}
    (h : Handled platform policies config started result answers rest ends) :
    reports rest = ends.reports := by
  cases h <;> simp [IterationEnd.reports, LoopAction.isReport]

/-- The inner loop is left with exactly one report, and not before. -/
lemma Iterated.reports_eq {loop : GoalLoop} {answers : IterationAnswers}
    {actions : List LoopAction} {ends : IterationEnd}
    (h : Iterated platform policies config loop answers actions ends) :
    reports actions = ends.reports := by
  cases h with
  | completed htask hrest => simp [hrest.reports_eq, LoopAction.isReport]
  | _ => simp [IterationEnd.reports, LoopAction.isReport]

lemma reports_runOut (loop : GoalLoop) (cleanup : Option TaskRunResult) :
    reports (loop.runOut policies cleanup) = 1 := by
  unfold GoalLoop.runOut
  split
  · simp
  · split_ifs
    · split
      · simp [LoopAction.isReport]
      · split_ifs <;> simp [LoopAction.isReport]
    · simp

/-- A goal loop that runs has not reported its goal; one that ended has reported it once. -/
structure LoopState.Reported (state : LoopState) : Prop where
  running : ∀ loop, state.phase = .running loop → reports state.log = 0
  ended : state.phase = .choosing ∨ state.phase = .returned → reports state.log = 1
  earlier : ∀ record ∈ state.earlier, reports record.log = 1

lemma LoopConfig.afterGoal_eq_or (config : LoopConfig) (rollovers : ℕ) :
    config.afterGoal rollovers = .choosing ∨ config.afterGoal rollovers = .returned := by
  unfold LoopConfig.afterGoal
  split_ifs
  · exact .inr rfl
  · exact .inl rfl

lemma LoopConfig.afterGoal_ne_running (config : LoopConfig) (rollovers : ℕ) (loop : GoalLoop) :
    config.afterGoal rollovers ≠ .running loop := by
  intro h
  rcases config.afterGoal_eq_or rollovers with hend | hend <;> rw [hend] at h <;> cases h

lemma LoopState.Reported.afterIteration {state : LoopState} {loop : GoalLoop}
    {answers : IterationAnswers} {actions : List LoopAction} {ends : IterationEnd}
    (hreported : state.Reported) (hphase : state.phase = .running loop)
    (h : Iterated platform policies config loop answers actions ends) :
    (state.afterIteration config ⟨actions, ends⟩).Reported := by
  have hbefore := hreported.running loop hphase
  have hactions := h.reports_eq
  cases ends with
  | continued next =>
      refine ⟨fun _ _ => ?_, fun hend => ?_, hreported.earlier⟩
      · simp [LoopState.afterIteration, hbefore, hactions, IterationEnd.reports]
      · rcases hend with hend | hend <;> cases hend
  | broken =>
      refine ⟨fun other hother => ?_, fun _ => ?_, hreported.earlier⟩
      · exact absurd hother (config.afterGoal_ne_running _ other)
      · simp [LoopState.afterIteration, hbefore, hactions, IterationEnd.reports]
  | rejected =>
      refine ⟨fun other hother => ?_, fun hend => ?_, hreported.earlier⟩
      · cases hother
      · rcases hend with hend | hend <;> cases hend

lemma LoopState.Reported.nextGoal {state : LoopState} (hreported : state.Reported)
    (hphase : state.phase = .choosing) (goal : String) (rollovers : ℕ)
    (initialInput : Option String) : (state.nextGoal goal rollovers initialInput).Reported where
  running _ _ := rfl
  ended h := by rcases h with h | h <;> cases h
  earlier record hrecord := by
    rcases List.mem_append.mp hrecord with hold | hnew
    · exact hreported.earlier record hold
    · rw [List.mem_singleton.mp hnew]
      simp [hreported.ended (.inl hphase), LoopAction.isReport]

lemma LoopState.Reported.step {state next : LoopState} {event : LoopEvent}
    (hreported : state.Reported)
    (h : loopStep platform policies config state event = some next) : next.Reported := by
  cases stepped_of_loopStep h with
  | iterated hphase _ hiterated => exact hreported.afterIteration hphase hiterated
  | ranOut hphase =>
      refine ⟨fun other hother => ?_, fun _ => ?_, hreported.earlier⟩
      · exact absurd hother (config.afterGoal_ne_running _ other)
      · simp [hreported.running _ hphase, reports_runOut]
  | proposed hphase => exact hreported.nextGoal hphase _ _ _
  | repeated hphase => exact hreported.nextGoal hphase _ _ _

lemma reported_start (goal : String) (initialGoalInput : Option String) :
    (LoopState.start goal initialGoalInput).Reported where
  running _ _ := rfl
  ended h := by rcases h with h | h <;> cases h
  earlier _ h := absurd h List.not_mem_nil

theorem reported_of_run {goal : String} {initialGoalInput : Option String}
    {events : List LoopEvent} {finish : LoopState}
    (hrun : run (loopStep platform policies config) (.start goal initialGoalInput) events =
      some finish) : finish.Reported :=
  invariant_of_run (fun _ _ _ hreported h => hreported.step h)
    (reported_start goal initialGoalInput) hrun

/-! ## Sample answers -/

/-- Goals of no execution style, and no recovery. -/
def plainPolicies : LoopPolicies where
  executionStyle _ := false
  requiresArtifactMutationEvidence _ := false
  requiresReadinessEvidence _ := false
  requiresBrowserVerificationEvidence _ := false
  requiresBrowserOpenEvidence _ := false
  requiresManagedProcessStopEvidence _ := false
  extractGoalPathHints _ := []
  shouldSuppressManagedProcessReadinessRecovery _ _ := false
  buildStructuredRecoveryExecutionPlan _ _ := none
  resolveTrackedLoopbackTarget previous _ := previous
  liveVerificationBlocked _ _ _ := false
  deriveWorkspaceRecoverySignal _ := none
  deriveWorkspaceRecoveryInspectionSignal _ := none
  buildWorkspaceRecoveryNextUserInput goal _ := goal
  buildMissionEvidenceRetryInput goal _ _ _ := goal
  userTurnGated _ _ := false

/-- The signal is aborted before the task. -/
def abortedAnswers : IterationAnswers where
  abortedBefore := true
  task := .threw .noMessage true
  abortedAfter := true
  nextStep := none

/-- The task has these results, and the model asks for another task. -/
def answersWith (entries : List ActionRunResult) : IterationAnswers where
  abortedBefore := false
  task := .completed
    { task := { id := "task_1", goal := "", userInput := "", createdAt := ""
                principalAccess := none }
      summary := ""
      actionResults := entries }
  abortedAfter := false
  nextStep := some { isGoalMet := false, reasoning := "", nextUserInput := some "Go on." }

/-- An approved result that tells of a process. -/
def processEntry (type : ActionType) (leaseId status : String) : ActionRunResult where
  action := { id := "action_1", type := type, description := "", params := .empty
              estimatedCostUsd := 0 }
  mode := .fastPath
  approved := true
  output := none
  executionStatus := none
  executionFailureCode := none
  executionMetadata := some
    ⟨[("processLeaseId", .str leaseId), ("processLifecycleStatus", .str status)],
      by simp [Json.DistinctKeys, Json.DistinctKeysMembers]⟩
  blockedBy := []
  violations := []
  votes := []
  decision := none

end AgentBigBrain.Autonomy
