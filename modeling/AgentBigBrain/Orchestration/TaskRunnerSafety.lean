import AgentBigBrain.Orchestration.TaskRunner

/-!
# What reaches the executor

One turn of the loop records one result, counts it in the mission state and calls the
executor at most once, under conditions on the state before the turn. By induction over
the loop this bounds the executions of a run and keeps the results in plan order.
-/
namespace AgentBigBrain.Orchestration

open AgentBigBrain.Js AgentBigBrain.Core

variable (sha : Sha256) (host : Host) (input : RunPlanActionsInput)

/-! ## Conditions of an execution -/

/-- The admission under which an execution happened. -/
def Execution.admission (e : Execution) : Admission where
  effectiveAction := e.action
  mode := resolveExecutionMode e.action input.config
  idempotencyKey := e.idempotencyKey
  deterministicActionId := e.deterministicActionId

/-- The preflight of the executed action has passed, and the hard constraints have found no
violation of this very action. -/
structure PassedPreflight (it : Iteration host) (state : RunnerState) (e : Execution)
    (proposal : GovernanceProposal) : Prop where
  not_blocked : (evaluateTaskRunnerPreflight sha host
    (preflightInput host input it (e.admission input) state)).blockedResult = none
  proposal_eq : (evaluateTaskRunnerPreflight sha host
    (preflightInput host input it (e.admission input) state)).proposal = some proposal
  action_eq : proposal.action = e.action
  no_violation : evaluateHardConstraints host it.preflight.constraints proposal input.config
    (input.cumulativeApprovedEstimatedCostUsd + state.approvedEstimatedCostDeltaUsd) = []

/-- The governors have approved the proposal. -/
structure PassedGovernance (it : Iteration host) (e : Execution) (proposal : GovernanceProposal)
    (decision : MasterDecision) : Prop where
  not_blocked : (evaluateTaskRunnerGovernance it.governance input.config e.action
    (e.admission input).mode proposal).blockedResult = none
  decision_eq : (evaluateTaskRunnerGovernance it.governance input.config e.action
    (e.admission input).mode proposal).decision = some decision
  approving : decision.approved = true

/-- What holds when `executeTaskRunnerAction` is called in the turn of an action. -/
structure ExecutedOnlyIf (it : Iteration host) (action : PlannedAction) (state : RunnerState)
    (e : Execution) : Prop where
  rewritten : e.action = rewriteAction host input action state
  key_eq : e.idempotencyKey = resolveIdempotencyKey input action e.action
  id_eq : e.deterministicActionId =
    (missionCheckpoint sha host input it action e.action state).actionId
  no_stop : evaluateMissionStopDecision state.missionState
    (buildTaskRunnerMissionStopLimits input.config) = none
  key_unseen : e.idempotencyKey ∉ state.missionState.seenIdempotencyKeys
  id_fresh : e.deterministicActionId ∉ state.deterministicActionIds
  voted : ∃ proposal decision, PassedPreflight sha host input it state e proposal ∧
    PassedGovernance host input it e proposal decision

/-- What one turn does to the records. -/
structure Turn (it : Iteration host) (action : PlannedAction) (state next : RunnerState)
    (result : ActionRunResult) (key : String) : Prop where
  results : next.attemptResults = state.attemptResults ++ [result]
  same : SameButParams action result.action
  actionCount : next.missionState.actionCount = state.missionState.actionCount + 1
  denyCount : next.missionState.denyCount =
    state.missionState.denyCount + if result.approved then 0 else 1
  seen : next.missionState.seenIdempotencyKeys = key :: state.missionState.seenIdempotencyKeys
  delta : next.approvedEstimatedCostDeltaUsd = state.approvedEstimatedCostDeltaUsd +
    if result.approved then
      estimateActionCostUsd result.action.type result.action.params
    else 0
  executions : result.approved = false ∧ next.executions = state.executions ∨
    ∃ e, next.executions = state.executions ++ [e] ∧ e.idempotencyKey = key ∧
      e.action = result.action ∧ e.succeeded = result.approved ∧
      ExecutedOnlyIf sha host input it action state e

/-- A turn calls the executor at most once, and only under its conditions. -/
def CallsExecutor (it : Iteration host) (action : PlannedAction) (state next : RunnerState) :
    Prop :=
  next.executions = state.executions ∨ ∃ e, next.executions = state.executions ++ [e] ∧
    ExecutedOnlyIf sha host input it action state e

/-- A turn that throws before anything is recorded. -/
structure Interrupted (it : Iteration host) (action : PlannedAction) (state next : RunnerState) :
    Prop where
  delta : next.approvedEstimatedCostDeltaUsd = state.approvedEstimatedCostDeltaUsd
  executions : next.executions = state.executions ∨
    ∃ e, next.executions = state.executions ++ [e] ∧ e.succeeded = false ∧
      ExecutedOnlyIf sha host input it action state e

/-- What a turn may come to: it records a result, and its ledgers may throw afterwards, or it
throws before. -/
def TurnOutcome (it : Iteration host) (action : PlannedAction) (state : RunnerState) :
    Except Stopped RunnerState → Prop
  | .ok next => ∃ result key, Turn sha host input it action state next result key
  | .error stopped =>
      (∃ result key, Turn sha host input it action state stopped.state result key) ∨
        Interrupted sha host input it action state stopped.state

lemma Turn.calls {it : Iteration host} {action : PlannedAction} {state next : RunnerState}
    {result : ActionRunResult} {key : String}
    (h : Turn sha host input it action state next result key) :
    CallsExecutor sha host input it action state next := by
  rcases h.executions with ⟨-, hsame⟩ | ⟨e, hnext, -, -, -, honly⟩
  · exact Or.inl hsame
  · exact Or.inr ⟨e, hnext, honly⟩

lemma TurnOutcome.calls {it : Iteration host} {action : PlannedAction} {state : RunnerState}
    {outcome : Except Stopped RunnerState}
    (h : TurnOutcome sha host input it action state outcome) :
    CallsExecutor sha host input it action state (finalState outcome) := by
  cases outcome with
  | ok next =>
      obtain ⟨result, key, hturn⟩ := h
      exact hturn.calls
  | error stopped =>
      rcases h with ⟨result, key, hturn⟩ | hinterrupted
      · exact hturn.calls
      · rcases hinterrupted.executions with hsame | ⟨e, hnext, -, honly⟩
        · exact Or.inl hsame
        · exact Or.inr ⟨e, hnext, honly⟩

/-- The state differs in what later guards and votes read, not in what has been recorded. -/
structure SameRecords (state other : RunnerState) : Prop where
  results : other.attemptResults = state.attemptResults
  mission : other.missionState = state.missionState
  delta : other.approvedEstimatedCostDeltaUsd = state.approvedEstimatedCostDeltaUsd
  executions : other.executions = state.executions

lemma rewriteAction_same (action : PlannedAction) (state : RunnerState) :
    SameButParams action (rewriteAction host input action state) :=
  (applyLiveRunTargetOverrides_same host action _).trans
    (applyRuntimeInspectionTargetOverrides_same host _ _)

/-! ## Admission -/

/-- What an admission has been checked for. -/
lemma admitAction_ok {it : Iteration host} {action : PlannedAction} {state : RunnerState}
    {admission : Admission} (h : admitAction sha host input it action state = .ok admission) :
    admission.effectiveAction = rewriteAction host input action state ∧
      admission.mode = resolveExecutionMode admission.effectiveAction input.config ∧
      admission.idempotencyKey =
        resolveIdempotencyKey input action admission.effectiveAction ∧
      admission.deterministicActionId =
        (missionCheckpoint sha host input it action admission.effectiveAction state).actionId ∧
      evaluateMissionStopDecision state.missionState
        (buildTaskRunnerMissionStopLimits input.config) = none ∧
      admission.idempotencyKey ∉ state.missionState.seenIdempotencyKeys ∧
      admission.deterministicActionId ∉ state.deterministicActionIds := by
  simp only [admitAction] at h
  split at h
  · cases h
  split at h
  · cases h
  split at h
  · cases h
  rename_i hstop
  split_ifs at h with hseen hduplicate
  obtain rfl := Except.ok.inj h
  exact ⟨rfl, rfl, rfl, rfl, hstop, hseen, hduplicate⟩

/-- An early blocked result denies the planned action. -/
lemma admitAction_error {it : Iteration host} {action : PlannedAction} {state : RunnerState}
    {result : ActionRunResult} {key : String}
    (h : admitAction sha host input it action state = .error (result, key)) :
    result.approved = false ∧ SameButParams action result.action := by
  have hsame := rewriteAction_same host input action state
  simp only [admitAction] at h
  split at h
  · rename_i blocked hblocked
    obtain ⟨rfl, rfl⟩ := Prod.mk.inj (Except.error.inj h)
    have hrefuses := evaluateDependentWorkspaceExecutionBlock_refuses host hblocked
    exact ⟨hrefuses.2, hrefuses.1 ▸ hsame⟩
  split at h
  · rename_i blocked hblocked
    obtain ⟨rfl, rfl⟩ := Prod.mk.inj (Except.error.inj h)
    have hrefuses := evaluateDependentLiveRunTargetBlock_refuses host hblocked
    exact ⟨hrefuses.2, hrefuses.1 ▸ hsame⟩
  split at h
  · obtain ⟨rfl, rfl⟩ := Prod.mk.inj (Except.error.inj h)
    exact ⟨rfl, SameButParams.refl action⟩
  split_ifs at h with hseen hduplicate
  · obtain ⟨rfl, rfl⟩ := Prod.mk.inj (Except.error.inj h)
    exact ⟨rfl, SameButParams.refl action⟩
  · obtain ⟨rfl, rfl⟩ := Prod.mk.inj (Except.error.inj h)
    exact ⟨rfl, SameButParams.refl action⟩

lemma verificationBlock_refuses {action : PlannedAction} {admission : Admission}
    {votes : List GovernorVote} {decision : MasterDecision} {state : RunnerState}
    {result : ActionRunResult}
    (h : verificationBlock input action admission votes decision state = some result) :
    Refuses admission.effectiveAction result := by
  simp only [verificationBlock] at h
  split_ifs at h
  obtain rfl := Option.some.inj h
  exact refuses_buildBlockedActionResult ..

/-! ## One turn -/

/-- Recording a blocked result without an execution. -/
lemma turn_of_blocked (it : Iteration host) {action : PlannedAction} {state other : RunnerState}
    {result : ActionRunResult} (key : String) (outputLength : ℕ)
    (hrecords : SameRecords state other) (hdenied : result.approved = false)
    (hsame : SameButParams action result.action) :
    Turn sha host input it action state
      (recordBlockedActionOutcome other result key outputLength) result key where
  results := by rw [recordBlockedActionOutcome, hrecords.results]
  same := hsame
  actionCount := by simp [recordBlockedActionOutcome, hrecords.mission]
  denyCount := by simp [recordBlockedActionOutcome, hrecords.mission, hdenied]
  seen := by simp [recordBlockedActionOutcome, hrecords.mission]
  delta := by simp [recordBlockedActionOutcome, hrecords.delta, hdenied]
  executions := Or.inl ⟨hdenied, hrecords.executions⟩

/-- Recording the refusal of an admitted action; what is remembered of failures is not part of
the records. -/
lemma turn_of_refused (it : Iteration host) {action effectiveAction : PlannedAction}
    {state other : RunnerState} {result : ActionRunResult} {key : String}
    (hrefuses : Refuses effectiveAction result) (hsame : SameButParams action effectiveAction)
    (hrecords : SameRecords state other) :
    Turn sha host input it action state
      (rememberFailure host (recordBlockedActionOutcome other result key 0) result) result key := by
  have hturn := turn_of_blocked sha host input it key 0 hrecords hrefuses.2 (hrefuses.1 ▸ hsame)
  exact ⟨hturn.results, hturn.same, hturn.actionCount, hturn.denyCount, hturn.seen, hturn.delta,
    hturn.executions⟩

/-- The turn of an action that is handed to the executor. -/
lemma executeAdmitted_turn {it : Iteration host} {action : PlannedAction} {admission : Admission}
    {votes : List GovernorVote} {decision : MasterDecision} {state other : RunnerState}
    (hrecords : SameRecords state other) (hsame : SameButParams action admission.effectiveAction)
    (honly : ∀ succeeded, ExecutedOnlyIf sha host input it action state
      ⟨admission.effectiveAction, admission.idempotencyKey, admission.deterministicActionId,
        succeeded⟩) :
    TurnOutcome sha host input it action state
      (executeAdmitted sha host input it action admission votes decision other) := by
  simp only [executeAdmitted]
  split
  · exact Or.inr ⟨hrecords.delta,
      Or.inr ⟨_, by rw [noteExecution, hrecords.executions], rfl, honly false⟩⟩
  rename_i executed hexecuted
  obtain ⟨haction, hcost⟩ := executeTaskRunnerAction_result sha host hexecuted
  have hexecutions : ∃ e, (noteExecution admission executed.actionResult.approved
      other).executions = state.executions ++ [e] ∧ e.idempotencyKey = admission.idempotencyKey ∧
      e.action = executed.actionResult.action ∧ e.succeeded = executed.actionResult.approved ∧
      ExecutedOnlyIf sha host input it action state e :=
    ⟨_, by rw [noteExecution, hrecords.executions], rfl, haction.symm, rfl, honly _⟩
  split_ifs with happroved
  · rw [if_pos happroved] at hcost
    refine ⟨executed.actionResult, admission.idempotencyKey, ?_, haction ▸ hsame, ?_, ?_, ?_, ?_,
      Or.inr hexecutions⟩
    · simp [recordApprovedActionOutcome, noteExecution, hrecords.results]
    · simp [recordApprovedActionOutcome, noteExecution, hrecords.mission]
    · simp [recordApprovedActionOutcome, noteExecution, hrecords.mission, happroved]
    · simp [recordApprovedActionOutcome, noteExecution, hrecords.mission]
    · simp [recordApprovedActionOutcome, hrecords.delta, happroved, hcost, haction,
        executionInput]
  · have hdenied : executed.actionResult.approved = false := by simpa using happroved
    refine ⟨executed.actionResult, admission.idempotencyKey, ?_, haction ▸ hsame, ?_, ?_, ?_, ?_,
      Or.inr hexecutions⟩
    · simp [rememberFailure, recordBlockedActionOutcome, noteExecution, hrecords.results]
    · simp [rememberFailure, recordBlockedActionOutcome, noteExecution, hrecords.mission]
    · simp [rememberFailure, recordBlockedActionOutcome, noteExecution, hrecords.mission, hdenied]
    · simp [rememberFailure, recordBlockedActionOutcome, noteExecution, hrecords.mission]
    · simp [rememberFailure, recordBlockedActionOutcome, noteExecution, hrecords.delta, hdenied]

/-- The turn of an admitted action. -/
lemma governAdmitted_turn {it : Iteration host} {action : PlannedAction} {admission : Admission}
    {state : RunnerState} (hadmitted : admitAction sha host input it action state = .ok admission) :
    TurnOutcome sha host input it action state
      (governAdmitted sha host input it action admission state) := by
  obtain ⟨heffective, hmode, hkey, hid, hstop, hunseen, hfresh⟩ :=
    admitAction_ok sha host input hadmitted
  have hsame : SameButParams action admission.effectiveAction :=
    heffective ▸ rewriteAction_same host input action state
  have hfails := fun proposal => evaluateTaskRunnerGovernance_failClosed it.governance input.config
    admission.effectiveAction admission.mode proposal
  simp only [governAdmitted]
  split
  · rename_i result hresult
    have hrefuses := evaluateTaskRunnerPreflight_blocked sha host hresult
    exact ⟨result, _, turn_of_refused sha host input it hrefuses hsame ⟨rfl, rfl, rfl, rfl⟩⟩
  rename_i hpassed
  split
  · exact Or.inr ⟨rfl, Or.inl rfl⟩
  rename_i proposal hproposal
  obtain ⟨hbuilt, hviolations⟩ := evaluateTaskRunnerPreflight_passed sha host rfl hpassed hproposal
  split
  · rename_i result hresult
    have hrefuses := (hfails proposal).refuses result hresult
    exact ⟨result, _, turn_of_refused sha host input it hrefuses hsame ⟨rfl, rfl, rfl, rfl⟩⟩
  rename_i happroved
  obtain ⟨decision, hdecision, happroving⟩ := (hfails proposal).approves happroved
  split
  · exact Or.inr ⟨rfl, Or.inl rfl⟩
  rename_i decision' hdecision'
  obtain rfl : decision = decision' := Option.some.inj (hdecision.symm.trans hdecision')
  split
  · rename_i result hresult
    have hrefuses := verificationBlock_refuses input hresult
    refine ⟨result, _, turn_of_blocked sha host input it _ 0 ?_ hrefuses.2 (hrefuses.1 ▸ hsame)⟩
    exact ⟨rfl, rfl, rfl, rfl⟩
  · refine executeAdmitted_turn sha host input ⟨rfl, rfl, rfl, rfl⟩ hsame fun succeeded =>
      ⟨heffective, hkey, hid, hstop, hunseen, hfresh, proposal, decision, ?_, ?_⟩
    · have hadmission : Execution.admission input ⟨admission.effectiveAction,
          admission.idempotencyKey, admission.deterministicActionId, succeeded⟩ = admission := by
        rw [Execution.admission, ← hmode]
      constructor
      · rw [hadmission]
        exact hpassed
      · rw [hadmission]
        exact hproposal
      · rw [hbuilt]
        rfl
      · exact hviolations
    · constructor
      · simpa only [Execution.admission, ← hmode] using happroved
      · simpa only [Execution.admission, ← hmode] using hdecision
      · exact happroving

/-- The turn of any action. -/
theorem processAction_turn (it : Iteration host) (action : PlannedAction) (state : RunnerState) :
    TurnOutcome sha host input it action state
      (processAction sha host input it action state) := by
  unfold processAction
  split_ifs
  · exact Or.inr ⟨rfl, Or.inl rfl⟩
  split
  · rename_i result key hearly
    obtain ⟨hdenied, hsame⟩ := admitAction_error sha host input hearly
    exact ⟨result, key, turn_of_blocked sha host input it key 0 ⟨rfl, rfl, rfl, rfl⟩ hdenied hsame⟩
  · rename_i admission hadmitted
    exact governAdmitted_turn sha host input hadmitted

/-- The turn of any action, with what its ledgers throw. -/
theorem step_turn (it : Iteration host) (action : PlannedAction) (state : RunnerState) :
    TurnOutcome sha host input it action state (step sha host input it action state) := by
  have hturn := processAction_turn sha host input it action state
  unfold step
  split
  · rename_i next message hnext hledger
    rw [hnext] at hturn
    exact Or.inl hturn
  · exact hturn

/-! ## Runs -/

lemma runFrom_append (state : RunnerState) (xs ys : List (PlannedAction × Iteration host)) :
    runFrom sha host input state (xs ++ ys) =
      match runFrom sha host input state xs with
      | .error stopped => .error stopped
      | .ok next => runFrom sha host input next ys := by
  induction xs generalizing state with
  | nil => rfl
  | cons x xs ih =>
      simp only [List.cons_append, runFrom]
      cases step sha host input x.2 x.1 state with
      | error stopped => rfl
      | ok next => exact ih next

/-- The mission state counts what has been recorded, and knows the key of every execution. -/
structure Bookkept (state : RunnerState) : Prop where
  actionCount : state.missionState.actionCount = state.attemptResults.length
  denyCount : state.missionState.denyCount = state.attemptResults.countP fun r => !r.approved
  executions_le : state.executions.length ≤ state.missionState.actionCount
  keys_seen : ∀ e ∈ state.executions, e.idempotencyKey ∈ state.missionState.seenIdempotencyKeys

/-- The bounds on what has been executed. -/
structure Bounded (state : RunnerState) : Prop where
  keys_nodup : (state.executions.map (·.idempotencyKey)).Nodup
  executions_le : (state.executions.length : ℤ) ≤
    (buildTaskRunnerMissionStopLimits input.config).maxActions

lemma bookkept_initialState : Bookkept (initialState input) where
  actionCount := rfl
  denyCount := rfl
  executions_le := le_rfl
  keys_seen := by simp [initialState]

lemma bounded_initialState : Bounded input (initialState input) where
  keys_nodup := List.nodup_nil
  executions_le := by simp [initialState, buildTaskRunnerMissionStopLimits]

lemma Bookkept.turn {it : Iteration host} {action : PlannedAction} {state next : RunnerState}
    {result : ActionRunResult} {key : String} (h : Bookkept state)
    (hturn : Turn sha host input it action state next result key) : Bookkept next where
  actionCount := by
    rw [hturn.actionCount, h.actionCount, hturn.results, List.length_append]
    rfl
  denyCount := by
    rw [hturn.denyCount, h.denyCount, hturn.results, List.countP_append]
    cases happroved : result.approved <;> simp [happroved]
  executions_le := by
    have hle := h.executions_le
    have hcount := hturn.actionCount
    rcases hturn.executions with ⟨-, hsame⟩ | ⟨e, hnext, -⟩
    · rw [hsame]
      omega
    · rw [hnext, List.length_append, List.length_singleton]
      omega
  keys_seen := by
    intro e he
    rw [hturn.seen]
    rcases hturn.executions with ⟨-, hsame⟩ | ⟨e', hnext, hkey, -⟩
    · exact List.mem_cons_of_mem _ (h.keys_seen e (hsame ▸ he))
    · rw [hnext, List.mem_append, List.mem_singleton] at he
      rcases he with he | rfl
      · exact List.mem_cons_of_mem _ (h.keys_seen e he)
      · rw [hkey]
        exact List.mem_cons_self

/-- One more execution stays within the bounds: its key is new, and the limit is not
reached. -/
lemma Bounded.calls {it : Iteration host} {action : PlannedAction}
    {state next : RunnerState} (h : Bounded input state) (hbook : Bookkept state)
    (hcalls : CallsExecutor sha host input it action state next) : Bounded input next := by
  rcases hcalls with hsame | ⟨e, hnext, honly⟩
  · constructor
    · rw [hsame]
      exact h.keys_nodup
    · rw [hsame]
      exact h.executions_le
  · constructor
    · rw [hnext, List.map_append, List.map_singleton, List.nodup_append]
      refine ⟨h.keys_nodup, List.nodup_singleton _, ?_⟩
      intro key hkey key' hkey'
      obtain ⟨e', he', rfl⟩ := List.mem_map.mp hkey
      rw [List.mem_singleton.mp hkey']
      intro heq
      exact honly.key_unseen (heq ▸ hbook.keys_seen e' he')
    · have hstop := (evaluateMissionStopDecision_eq_none.mp honly.no_stop).1
      have hle := hbook.executions_le
      rw [hnext, List.length_append, List.length_singleton]
      omega

/-- The bounds hold at the end of any run. -/
lemma bounded_finalState (actions : List (PlannedAction × Iteration host)) :
    ∀ state, Bookkept state → Bounded input state →
      Bounded input (finalState (runFrom sha host input state actions)) := by
  induction actions with
  | nil => exact fun state _ hbounded => hbounded
  | cons x actions ih =>
      intro state hbook hbounded
      have hturn := step_turn sha host input x.2 x.1 state
      have hnext := hbounded.calls sha host input hbook (hturn.calls sha host input)
      unfold runFrom
      cases hstep : step sha host input x.2 x.1 state with
      | error stopped =>
          rw [hstep] at hnext
          exact hnext
      | ok next =>
          rw [hstep] at hturn hnext
          obtain ⟨result, key, hturn⟩ := hturn
          exact ih next (hbook.turn sha host input hturn) hnext

/-- A run that has reached the limit of denials executes nothing any more. -/
lemma executions_of_denied (actions : List (PlannedAction × Iteration host)) :
    ∀ state : RunnerState, (buildTaskRunnerMissionStopLimits input.config).maxDenies ≤
        state.missionState.denyCount →
      (finalState (runFrom sha host input state actions)).executions = state.executions := by
  induction actions with
  | nil => exact fun _ _ => rfl
  | cons x actions ih =>
      intro state hdenied
      have hturn := step_turn sha host input x.2 x.1 state
      have hnone : (finalState (step sha host input x.2 x.1 state)).executions =
          state.executions := by
        rcases hturn.calls sha host input with hsame | ⟨e, -, honly⟩
        · exact hsame
        · have hstop := (evaluateMissionStopDecision_eq_none.mp honly.no_stop).2.1
          omega
      unfold runFrom
      cases hstep : step sha host input x.2 x.1 state with
      | error stopped =>
          rw [hstep] at hnone
          exact hnone
      | ok next =>
          rw [hstep] at hturn hnone
          obtain ⟨result, key, hturn⟩ := hturn
          have hmore : (buildTaskRunnerMissionStopLimits input.config).maxDenies ≤
              next.missionState.denyCount := by
            rw [hturn.denyCount]
            split <;> push_cast <;> omega
          exact (ih next hmore).trans hnone

/-- Every execution of a run has happened in the turn of one of its actions. -/
lemma execution_origin (actions : List (PlannedAction × Iteration host)) (e : Execution) :
    ∀ state : RunnerState, e ∈ (finalState (runFrom sha host input state actions)).executions →
      e ∈ state.executions ∨ ∃ before action it after mid,
        actions = before ++ (action, it) :: after ∧
          runFrom sha host input state before = .ok mid ∧
          ExecutedOnlyIf sha host input it action mid e := by
  induction actions with
  | nil => exact fun _ he => Or.inl he
  | cons x actions ih =>
      intro state he
      have hhere (hmem : e ∈ (finalState (step sha host input x.2 x.1 state)).executions) :
          e ∈ state.executions ∨ ExecutedOnlyIf sha host input x.2 x.1 state e := by
        rcases (step_turn sha host input x.2 x.1 state).calls sha host input with
          hsame | ⟨e', hnext, honly⟩
        · exact Or.inl (hsame ▸ hmem)
        · rw [hnext, List.mem_append, List.mem_singleton] at hmem
          rcases hmem with hmem | rfl
          · exact Or.inl hmem
          · exact Or.inr honly
      unfold runFrom at he
      cases hstep : step sha host input x.2 x.1 state with
      | error stopped =>
          rw [hstep] at he hhere
          rcases hhere he with hmem | honly
          · exact Or.inl hmem
          · exact Or.inr ⟨[], x.1, x.2, actions, state, rfl, rfl, honly⟩
      | ok next =>
          rw [hstep] at he hhere
          rcases ih next he with hmem | ⟨before, action, it, after, mid, rfl, hrun, honly⟩
          · rcases hhere hmem with hmem | honly
            · exact Or.inl hmem
            · exact Or.inr ⟨[], x.1, x.2, actions, state, rfl, rfl, honly⟩
          · refine Or.inr ⟨x :: before, action, it, after, mid, rfl, ?_, honly⟩
            rw [runFrom, hstep]
            exact hrun

/-- A completed run has recorded one result for each action, in order. -/
lemma results_of_completed (actions : List (PlannedAction × Iteration host)) :
    ∀ state last : RunnerState, runFrom sha host input state actions = .ok last →
      ∃ results, last.attemptResults = state.attemptResults ++ results ∧
        List.Forall₂ (fun x result => SameButParams x.1 result.action) actions results := by
  induction actions with
  | nil =>
      intro state last h
      obtain rfl := Except.ok.inj h
      exact ⟨[], (List.append_nil _).symm, List.Forall₂.nil⟩
  | cons x actions ih =>
      intro state last h
      have hturn := step_turn sha host input x.2 x.1 state
      unfold runFrom at h
      cases hstep : step sha host input x.2 x.1 state with
      | error stopped =>
          rw [hstep] at h
          cases h
      | ok next =>
          rw [hstep] at h hturn
          obtain ⟨result, key, hturn⟩ := hturn
          obtain ⟨results, hresults, hforall⟩ := ih next last h
          refine ⟨result :: results, ?_, List.Forall₂.cons hturn.same hforall⟩
          rw [hresults, hturn.results, List.append_assoc]
          rfl

/-- The mission state of a run that has not been interrupted counts its records. -/
lemma bookkept_of_completed (actions : List (PlannedAction × Iteration host)) :
    ∀ state last : RunnerState, Bookkept state →
      runFrom sha host input state actions = .ok last → Bookkept last := by
  induction actions with
  | nil =>
      intro state last hbook h
      obtain rfl := Except.ok.inj h
      exact hbook
  | cons x actions ih =>
      intro state last hbook h
      have hturn := step_turn sha host input x.2 x.1 state
      unfold runFrom at h
      cases hstep : step sha host input x.2 x.1 state with
      | error stopped =>
          rw [hstep] at h
          cases h
      | ok next =>
          rw [hstep] at h hturn
          obtain ⟨result, key, hturn⟩ := hturn
          exact ih next last (hbook.turn sha host input hturn) h

/-- A run in which nothing reaches the executor unchecked. -/
structure GovernedRun (actions : List (PlannedAction × Iteration host))
    (outcome : Except Stopped RunnerState) : Prop where
  executed_only_if : ∀ e ∈ (finalState outcome).executions, ∃ before action it after state,
    actions = before ++ (action, it) :: after ∧
      runPlanActions sha host input before = .ok state ∧
      ExecutedOnlyIf sha host input it action state e
  once_per_key : ((finalState outcome).executions.map (·.idempotencyKey)).Nodup
  executions_le : ((finalState outcome).executions.length : ℤ) ≤
    (buildTaskRunnerMissionStopLimits input.config).maxActions
  stops_after_denies : ∀ before after state, actions = before ++ after →
    runPlanActions sha host input before = .ok state →
    (buildTaskRunnerMissionStopLimits input.config).maxDenies ≤
      (state.attemptResults.countP fun result => !result.approved) →
    (finalState outcome).executions = state.executions
  one_result_each : ∀ state, outcome = .ok state →
    List.Forall₂ (fun x result => SameButParams x.1 result.action) actions state.attemptResults

/-- Every run of the task runner is governed, whatever the collaborators answer. -/
theorem runPlanActions_governed (actions : List (PlannedAction × Iteration host)) :
    GovernedRun sha host input actions (runPlanActions sha host input actions) where
  executed_only_if := by
    intro e he
    rcases execution_origin sha host input actions e _ he with hmem | horigin
    · simp [initialState] at hmem
    · exact horigin
  once_per_key := (bounded_finalState sha host input actions _ (bookkept_initialState input)
    (bounded_initialState input)).keys_nodup
  executions_le := (bounded_finalState sha host input actions _ (bookkept_initialState input)
    (bounded_initialState input)).executions_le
  stops_after_denies := by
    intro before after state hactions hstate hdenied
    have hbook := bookkept_of_completed sha host input before _ state (bookkept_initialState input)
      hstate
    rw [← hbook.denyCount] at hdenied
    unfold runPlanActions at hstate ⊢
    rw [hactions, runFrom_append, hstate]
    exact executions_of_denied sha host input after state hdenied
  one_result_each := by
    intro state hstate
    obtain ⟨results, hresults, hforall⟩ := results_of_completed sha host input actions _ state hstate
    rw [hresults]
    exact hforall

end AgentBigBrain.Orchestration
