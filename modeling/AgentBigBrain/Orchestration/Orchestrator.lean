import AgentBigBrain.Orchestration.TaskRunnerSafety
import Mathlib.Algebra.BigOperators.Group.List.Basic

/-!
# The orchestrator's attempts

The orchestrator runs a plan, and plans and runs again while the results give feedback and
the retry budget lasts. The cost approved in earlier attempts is carried into the next.
What the cumulative cap bounds is the cost of the executions that succeeded: a failed one
counts for nothing, and only has to fit at the time it is handed over.
-/
namespace AgentBigBrain.Orchestration

open AgentBigBrain.Js AgentBigBrain.Core

/-- One plan, with the answers of its iterations. -/
structure Attempt (host : Host) where
  aborted : Bool
  actions : List (PlannedAction × Iteration host)

structure OrchestratorInput where
  task : TaskRequest
  config : BrainConfig
  verification : VerificationPolicy
  extractGovernanceReplanFeedback : List ActionRunResult → Option String

/-- The variables of the attempt loop, and the executions of all attempts. -/
structure OrchestratorRun where
  actionResults : List ActionRunResult
  cumulativeApprovedEstimatedCostUsd : ℚ
  attemptsExecuted : ℕ
  executions : List Execution
  exception : Option String

def initialRun : OrchestratorRun where
  actionResults := []
  cumulativeApprovedEstimatedCostUsd := 0
  attemptsExecuted := 0
  executions := []
  exception := none

/-- Whether another attempt may follow. -/
def evaluateRetryBudget (currentAttempt : ℕ) (maxAttempts : ℤ) : Bool :=
  !(currentAttempt = 0 || maxAttempts ≤ 0 || maxAttempts ≤ currentAttempt)

variable (sha : Sha256) (host : Host) (input : OrchestratorInput)

def attemptInput (attempt : ℕ) (run : OrchestratorRun) : RunPlanActionsInput where
  task := input.task
  missionAttemptId := attempt
  cumulativeApprovedEstimatedCostUsd := run.cumulativeApprovedEstimatedCostUsd
  config := input.config
  verification := input.verification

/-- The loop variables after an attempt that has come to an end. -/
def recordAttempt (attempt : ℕ) (run : OrchestratorRun) :
    Except Stopped RunnerState → OrchestratorRun
  | .error stopped =>
      { run with
        attemptsExecuted := attempt
        executions := run.executions ++ stopped.state.executions
        exception := some stopped.message }
  | .ok state =>
      { run with
        actionResults := run.actionResults ++ state.attemptResults
        cumulativeApprovedEstimatedCostUsd :=
          run.cumulativeApprovedEstimatedCostUsd + state.approvedEstimatedCostDeltaUsd
        attemptsExecuted := attempt
        executions := run.executions ++ state.executions }

def runAttempt (current : Attempt host) (attempt : ℕ) (run : OrchestratorRun) :
    Except Stopped RunnerState :=
  runPlanActions sha host (attemptInput input attempt run) current.actions

/-- The attempt loop; `remaining` attempts are left. -/
def attemptLoop (attempts : ℕ → Attempt host) (maxPlanAttempts : ℤ) :
    ℕ → ℕ → OrchestratorRun → OrchestratorRun
  | 0, _, run => run
  | remaining + 1, attempt, run =>
      let current := attempts attempt
      if current.aborted then
        { run with exception := some "Cancelled by user." }
      else
        let outcome := runAttempt sha host input current attempt run
        let next := recordAttempt attempt run outcome
        match outcome with
        | .error _ => next
        | .ok state =>
            match input.extractGovernanceReplanFeedback state.attemptResults with
            | none => next
            | some _ =>
                if evaluateRetryBudget attempt maxPlanAttempts then
                  attemptLoop attempts maxPlanAttempts remaining (attempt + 1) next
                else
                  next

/-- The loop over the attempts, for whatever the planner plans in each of them. -/
def executeLocalOrchestratorTask (attempts : ℕ → Attempt host) : OrchestratorRun :=
  let maxPlanAttempts := max 1 input.config.limits.maxPlanAttemptsPerTask
  attemptLoop sha host input attempts maxPlanAttempts maxPlanAttempts.toNat 1 initialRun

/-! ## Costs -/

def executionCost (e : Execution) : ℚ :=
  estimateActionCostUsd e.action.type e.action.params

/-- The cost of the executions that succeeded. -/
def succeededCost (executions : List Execution) : ℚ :=
  ((executions.filter (·.succeeded)).map executionCost).sum

lemma succeededCost_append (xs ys : List Execution) :
    succeededCost (xs ++ ys) = succeededCost xs + succeededCost ys := by
  simp [succeededCost]

/-- Each execution fits under the cap on top of what had succeeded before it. -/
def Fits (cap : ℚ) : ℚ → List Execution → Prop
  | _, [] => True
  | spent, e :: es =>
      spent + executionCost e ≤ cap ∧
        Fits cap (spent + if e.succeeded then executionCost e else 0) es

lemma fits_append {cap : ℚ} (xs ys : List Execution) (spent : ℚ) :
    Fits cap spent (xs ++ ys) ↔ Fits cap spent xs ∧ Fits cap (spent + succeededCost xs) ys := by
  induction xs generalizing spent with
  | nil => simp [Fits, succeededCost]
  | cons e xs ih =>
      have hcost : spent + succeededCost (e :: xs) =
          (spent + if e.succeeded then executionCost e else 0) + succeededCost xs := by
        unfold succeededCost
        cases hsucceeded : e.succeeded <;> simp [hsucceeded, add_assoc]
      rw [List.cons_append, Fits, Fits, ih, hcost, and_assoc]

/-- Executions that fit one after the other fit together. -/
lemma Fits.succeededCost_le {cap : ℚ} {executions : List Execution} {spent : ℚ}
    (h : Fits cap spent executions) : spent + succeededCost executions ≤ max spent cap := by
  induction executions generalizing spent with
  | nil => simp [succeededCost]
  | cons e es ih =>
      obtain ⟨hfits, hrest⟩ := h
      have hle := ih hrest
      have hnonneg : 0 ≤ executionCost e := estimateActionCostUsd_nonneg _ _
      unfold succeededCost at hle ⊢
      cases hsucceeded : e.succeeded with
      | false =>
          simp only [hsucceeded, Bool.false_eq_true, if_false, add_zero] at hle
          simpa [hsucceeded] using hle
      | true =>
          simp only [hsucceeded, if_true] at hle
          rw [max_eq_right hfits] at hle
          simp only [List.filter_cons, hsucceeded, if_true, List.map_cons, List.sum_cons]
          rw [← add_assoc]
          exact hle.trans (le_max_right _ _)

/-- The executions between two states fit, and the cost of the succeeded ones has been
added. -/
def Spends (input : RunPlanActionsInput) (state next : RunnerState) : Prop :=
  ∃ executions, next.executions = state.executions ++ executions ∧
    next.approvedEstimatedCostDeltaUsd =
      state.approvedEstimatedCostDeltaUsd + succeededCost executions ∧
    Fits input.config.limits.maxCumulativeEstimatedCostUsd
      (input.cumulativeApprovedEstimatedCostUsd + state.approvedEstimatedCostDeltaUsd) executions

lemma Spends.refl (runInput : RunPlanActionsInput) (state : RunnerState) :
    Spends runInput state state :=
  ⟨[], (List.append_nil _).symm, by simp [succeededCost], trivial⟩

lemma Spends.trans {runInput : RunPlanActionsInput} {a b c : RunnerState}
    (hab : Spends runInput a b) (hbc : Spends runInput b c) : Spends runInput a c := by
  obtain ⟨xs, hxs, hxdelta, hxfits⟩ := hab
  obtain ⟨ys, hys, hydelta, hyfits⟩ := hbc
  refine ⟨xs ++ ys, by rw [hys, hxs, List.append_assoc], ?_, ?_⟩
  · rw [hydelta, hxdelta, succeededCost_append, add_assoc]
  · rw [fits_append]
    refine ⟨hxfits, ?_⟩
    rwa [hxdelta, ← add_assoc] at hyfits

section Turns

variable {runInput : RunPlanActionsInput} {it : Iteration host} {action : PlannedAction}
  {state next : RunnerState} {e : Execution}

/-- An execution fits under the cap when it is handed over. -/
lemma ExecutedOnlyIf.fits (h : ExecutedOnlyIf sha host runInput it action state e) :
    runInput.cumulativeApprovedEstimatedCostUsd + state.approvedEstimatedCostDeltaUsd +
      executionCost e ≤ runInput.config.limits.maxCumulativeEstimatedCostUsd := by
  obtain ⟨proposal, decision, hpreflight, -⟩ := h.voted
  have hcost := (cost_le_of_evaluateHardConstraints_eq_nil host _ hpreflight.no_violation).2
  rwa [hpreflight.action_eq] at hcost

/-- A turn with one execution, by the cost that is added for it. -/
lemma spends_of_execution (honly : ExecutedOnlyIf sha host runInput it action state e)
    (hnext : next.executions = state.executions ++ [e])
    (hdelta : next.approvedEstimatedCostDeltaUsd = state.approvedEstimatedCostDeltaUsd +
      if e.succeeded then executionCost e else 0) : Spends runInput state next := by
  refine ⟨[e], hnext, ?_, honly.fits, trivial⟩
  rw [hdelta, succeededCost]
  cases hsucceeded : e.succeeded <;> simp [hsucceeded]

lemma Turn.spends {result : ActionRunResult} {key : String}
    (h : Turn sha host runInput it action state next result key) : Spends runInput state next := by
  rcases h.executions with ⟨hdenied, hsame⟩ | ⟨e, hnext, -, haction, hsucceeded, honly⟩
  · have hdelta := h.delta
    rw [hdenied, if_neg Bool.false_ne_true, add_zero] at hdelta
    exact ⟨[], by rw [hsame, List.append_nil], by simp [hdelta, succeededCost], trivial⟩
  · refine spends_of_execution sha host honly hnext ?_
    rw [hsucceeded, executionCost, haction]
    exact h.delta

lemma Interrupted.spends (h : Interrupted sha host runInput it action state next) :
    Spends runInput state next := by
  rcases h.executions with hsame | ⟨e, hnext, hfailed, honly⟩
  · exact ⟨[], by rw [hsame, List.append_nil], by simp [h.delta, succeededCost], trivial⟩
  · refine spends_of_execution sha host honly hnext ?_
    rw [hfailed, if_neg Bool.false_ne_true, add_zero]
    exact h.delta

lemma TurnOutcome.spends {outcome : Except Stopped RunnerState}
    (h : TurnOutcome sha host runInput it action state outcome) :
    Spends runInput state (finalState outcome) := by
  cases outcome with
  | ok next =>
      obtain ⟨result, key, hturn⟩ := h
      exact hturn.spends
  | error stopped =>
      rcases h with ⟨result, key, hturn⟩ | hinterrupted
      · exact hturn.spends
      · exact hinterrupted.spends

end Turns

/-- A run of the task runner stays within the budget that it has been given. -/
lemma runFrom_spends (runInput : RunPlanActionsInput)
    (actions : List (PlannedAction × Iteration host)) (state : RunnerState) :
    Spends runInput state (finalState (runFrom sha host runInput state actions)) := by
  induction actions generalizing state with
  | nil => exact Spends.refl runInput state
  | cons x actions ih =>
      have hstep := (step_turn sha host runInput x.2 x.1 state).spends
      unfold runFrom
      cases houtcome : step sha host runInput x.2 x.1 state with
      | error stopped =>
          rw [houtcome] at hstep
          exact hstep
      | ok next =>
          rw [houtcome] at hstep
          exact hstep.trans (ih next)

/-! ## The cap over all attempts -/

/-- The executions fit, and the running total is the cost of the succeeded ones. -/
structure WithinBudget (cap : ℚ) (run : OrchestratorRun) : Prop where
  fits : Fits cap 0 run.executions
  total : run.exception = none →
    run.cumulativeApprovedEstimatedCostUsd = succeededCost run.executions

lemma recordAttempt_withinBudget (current : Attempt host) (attempt : ℕ) {run : OrchestratorRun}
    (h : WithinBudget input.config.limits.maxCumulativeEstimatedCostUsd run)
    (hgoing : run.exception = none) :
    WithinBudget input.config.limits.maxCumulativeEstimatedCostUsd
      (recordAttempt attempt run (runAttempt sha host input current attempt run)) := by
  obtain ⟨executions, hexecutions, hdelta, hfits⟩ := runFrom_spends sha host
    (attemptInput input attempt run) current.actions (initialState (attemptInput input attempt run))
  have htotal := h.total hgoing
  have hstart : (attemptInput input attempt run).cumulativeApprovedEstimatedCostUsd +
      (initialState (attemptInput input attempt run)).approvedEstimatedCostDeltaUsd =
        0 + succeededCost run.executions := by
    rw [← htotal, zero_add]
    exact add_zero _
  rw [hstart] at hfits
  have hall : Fits input.config.limits.maxCumulativeEstimatedCostUsd 0
      (run.executions ++ executions) := (fits_append _ _ _).mpr ⟨h.fits, hfits⟩
  change (finalState (runAttempt sha host input current attempt run)).executions =
    [] ++ executions at hexecutions
  change (finalState (runAttempt sha host input current attempt run)).approvedEstimatedCostDeltaUsd
    = 0 + succeededCost executions at hdelta
  cases houtcome : runAttempt sha host input current attempt run with
  | error stopped =>
      rw [houtcome] at hexecutions
      constructor
      · simp only [recordAttempt]
        rwa [show stopped.state.executions = executions from hexecutions]
      · intro hnone
        cases hnone
  | ok state =>
      rw [houtcome] at hexecutions hdelta
      have hstate : state.executions = executions := hexecutions
      have hcost : state.approvedEstimatedCostDeltaUsd = 0 + succeededCost executions := hdelta
      constructor
      · simp only [recordAttempt]
        rwa [hstate]
      · intro _
        simp only [recordAttempt]
        rw [hstate, hcost, htotal, succeededCost_append, zero_add]

lemma attemptLoop_withinBudget (attempts : ℕ → Attempt host) (maxPlanAttempts : ℤ)
    (remaining : ℕ) : ∀ (attempt : ℕ) (run : OrchestratorRun),
      WithinBudget input.config.limits.maxCumulativeEstimatedCostUsd run →
      run.exception = none → WithinBudget input.config.limits.maxCumulativeEstimatedCostUsd
        (attemptLoop sha host input attempts maxPlanAttempts remaining attempt run) := by
  induction remaining with
  | zero => exact fun _ _ h _ => h
  | succ remaining ih =>
      intro attempt run h hgoing
      have hnext := recordAttempt_withinBudget sha host input (attempts attempt) attempt
        h hgoing
      simp only [attemptLoop]
      split
      · exact ⟨h.fits, fun hnone => by cases hnone⟩
      split
      · exact hnext
      rename_i state hstate
      split
      · exact hnext
      split
      · refine ih _ _ hnext ?_
        rw [hstate]
        exact hgoing
      · exact hnext

/-! ### A plan of two commands that fail -/

/-- A cap that one shell command exhausts. -/
def oneCommandConfig : BrainConfig where
  limits := {
    maxEstimatedCostUsd := 1
    maxCumulativeEstimatedCostUsd := 1 / 4
    maxCumulativeModelSpendUsd := 10
    maxCumulativeNonApiModelCalls := 100
    perTurnDeadlineMs := 120000
    maxActionsPerTask := 8
    maxPlanAttemptsPerTask := 2 }
  allowNetworkWriteAction := false
  immutableKeywords := []
  fastPathGovernorIds := [.security]
  escalationActionTypes := []

def shellCommand (id command : String) : PlannedAction where
  id := id
  type := .shellCommand
  description := "Run the tests."
  params := ⟨[("command", .str command)], by simp [Json.DistinctKeys, Json.DistinctKeysMembers]⟩
  estimatedCostUsd := 0

def approvingDecision : MasterDecision where
  approved := true
  yesVotes := 1
  noVotes := 0
  threshold := 1
  dissent := []

def plainHost : Host :=
  .ofTables [("2026-01-01T00:00:00.000Z", 1767225600000)] []

/-- Nobody objects, and the executor fails. -/
def failingIteration : Iteration plainHost where
  aborted := false
  now := ⟨"2026-01-01T00:00:00.000Z", 1767225600000, by decide⟩
  preflight := {
    constraints := { evaluateActionFamily := fun _ _ => [], evaluateCommunication := fun _ => [] }
    explicitExecutionConstraint := fun _ _ => none
    stage685Guard := fun _ => none
    proposalId := "proposal_1"
    elapsedMs := 0
    usage := { calls := 0, billingMode := .unknown, estimatedSpendUsd := 0 }
    defaultExpiresAt := "2026-01-01T00:05:00.000Z" }
  governance := {
    governors := [.security]
    evaluateCodeReview := fun _ =>
      { governorId := .codeReview, approve := true, reason := "", confidence := .ofNat 1,
        rejectCategory := none }
    runCouncilVote := fun _ _ _ => { votes := [], decision := some approvingDecision } }
  execution := {
    aborted := false
    stage686 := fun _ => .ok none
    abortedBeforeExecutor := false
    prepare := fun _ => none
    executeWithOutcome := fun _ => .ok {
      status := .failed
      output := "Command failed with exit code 1."
      failureCode := some .actionExecutionFailed
      executionMetadata := none }
    shellExecutionTelemetry := none
    observedAt := "2026-01-01T00:00:00.000Z" }
  ledgerError := none

def failingInput : OrchestratorInput where
  task := {
    id := "task_1"
    goal := "Run the tests."
    userInput := "Run the tests."
    createdAt := "2026-01-01T00:00:00.000Z"
    principalAccess := none }
  config := oneCommandConfig
  verification := {
    shouldEnforceVerificationGateForRespond := fun _ => false
    resolveVerificationCategoryForPrompt := fun _ => "generic" }
  extractGovernanceReplanFeedback := fun _ => none

def failingAttempts (_ : ℕ) : Attempt plainHost where
  aborted := false
  actions :=
    [(shellCommand "action_1" "npm test", failingIteration),
      (shellCommand "action_2" "npm run check", failingIteration)]

/-- The digests behind the ids of the two actions. -/
def commandSha : Sha256 :=
  Sha256.ofTable
    [("task_1|1|intake|shell_command|\x7b\"command\":\"npm test\"\x7d",
        "ca50b3b283177d03f3c7a9c711531afeaa8f9749c89bdc6bcc8b65f3518dc87d"),
      ("task_1|1|retrieve|shell_command|\x7b\"command\":\"npm run check\"\x7d",
        "1cd8a3bb4c78fc604a49764508ce8b28c01e9cefbd44ae87f75dfe83e125fbba")]
    ((validTable_nil.cons (by decide) (by decide)).cons (by decide) (by decide))

/-- Over any number of attempts, each action fits under the cap on top of what has succeeded
before it is handed over, and the cost of the successful executions never exceeds it. -/
theorem executeLocalOrchestratorTask_withinBudget (attempts : ℕ → Attempt host) :
    let executions := (executeLocalOrchestratorTask sha host input attempts).executions
    let cap := input.config.limits.maxCumulativeEstimatedCostUsd
    succeededCost executions ≤ max 0 cap ∧
      ∀ before e after, executions = before ++ e :: after →
        succeededCost before + executionCost e ≤ cap := by
  have hfits := (attemptLoop_withinBudget sha host input attempts
    (max 1 input.config.limits.maxPlanAttemptsPerTask)
    (max 1 input.config.limits.maxPlanAttemptsPerTask).toNat 1 initialRun
    ⟨trivial, fun _ => rfl⟩ rfl).fits
  constructor
  · have hle := hfits.succeededCost_le
    rwa [zero_add] at hle
  · intro before e after hsplit
    change Fits _ 0 (executeLocalOrchestratorTask sha host input attempts).executions at hfits
    rw [hsplit, fits_append, zero_add] at hfits
    exact hfits.2.1

/-- Two failed commands together cost more than the cap. -/
theorem failed_executions_exceed_cap :
    failingInput.config.limits.maxCumulativeEstimatedCostUsd <
      ((executeLocalOrchestratorTask commandSha plainHost failingInput
        failingAttempts).executions.map executionCost).sum := by
  decide +kernel

end AgentBigBrain.Orchestration
