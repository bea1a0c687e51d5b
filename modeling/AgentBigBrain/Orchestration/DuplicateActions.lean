import AgentBigBrain.Orchestration.Orchestrator

/-!
# Duplicated actions of one attempt

The id of an action is derived from its type and its parameters, and from the phase of the
mission. Every recorded outcome moves the mission to its next phase until the last one, so
two equal actions of a plan have equal ids only where both come up in the last phase.
-/
namespace AgentBigBrain.Orchestration

open AgentBigBrain.Js AgentBigBrain.Core

variable (sha : Sha256) (host : Host) (input : RunPlanActionsInput)

/-! ## The phase of a position -/

def phaseIndex (phase : MissionPhase) : ℕ :=
  missionPhaseSequence.idxOf phase

lemma getD_phaseIndex (phase : MissionPhase) :
    missionPhaseSequence.getD (phaseIndex phase) .monitor = phase := by
  cases phase <;> rfl

lemma phaseIndex_injective {p q : MissionPhase} (h : phaseIndex p = phaseIndex q) : p = q := by
  rw [← getD_phaseIndex p, h, getD_phaseIndex]

lemma phaseIndex_advance (state : MissionState) :
    phaseIndex (advanceMissionPhase state).currentPhase =
      min 7 (phaseIndex state.currentPhase + 1) := by
  cases hphase : state.currentPhase <;> simp only [advanceMissionPhase, hphase] <;> rfl

/-! ## Ids -/

/-- The id that a planned action has in a state. -/
def plannedActionId (action : PlannedAction) (state : RunnerState) : String :=
  deriveDeterministicActionId sha host.locale state.missionState.missionId
    state.missionState.missionAttemptId state.missionState.currentPhase action.type action.params

/-- What the check of duplicates finds out about a turn that goes on. -/
structure Carries (n : ℕ) (state next : RunnerState) : Prop where
  missionId : next.missionState.missionId = state.missionState.missionId
  missionAttemptId : next.missionState.missionAttemptId = state.missionState.missionAttemptId
  phase : phaseIndex next.missionState.currentPhase =
    min 7 (phaseIndex state.missionState.currentPhase + n)
  ids : state.deterministicActionIds ⊆ next.deterministicActionIds

lemma Carries.trans {m n : ℕ} {first second third : RunnerState} (h : Carries m first second)
    (h' : Carries n second third) : Carries (m + n) first third where
  missionId := h'.missionId.trans h.missionId
  missionAttemptId := h'.missionAttemptId.trans h.missionAttemptId
  phase := by
    have hfirst := h.phase
    have hsecond := h'.phase
    omega
  ids := List.Subset.trans h.ids h'.ids

/-- One recorded outcome moves the mission on by one phase. -/
lemma carries_of_recorded {state next : RunnerState} {key : String} {bytes : ℕ} {denied : Bool}
    (hmission : next.missionState = advanceMissionPhase
      (registerMissionActionOutcome state.missionState key bytes denied))
    (hids : state.deterministicActionIds ⊆ next.deterministicActionIds) :
    Carries 1 state next where
  missionId := by rw [hmission]; rfl
  missionAttemptId := by rw [hmission]; rfl
  phase := by
    rw [hmission, phaseIndex_advance]
    rfl
  ids := hids

section Turns

variable {sha host input} {it : Iteration host} {action : PlannedAction}
  {admission : Admission} {state next : RunnerState}

lemma executeAdmitted_carries {votes : List GovernorVote} {decision : MasterDecision}
    (h : executeAdmitted sha host input it action admission votes decision state = .ok next) :
    Carries 1 state next ∧ next.deterministicActionIds = state.deterministicActionIds := by
  simp only [executeAdmitted] at h
  split at h
  · cases h
  split_ifs at h
  · obtain rfl := Except.ok.inj h
    exact ⟨carries_of_recorded rfl (List.Subset.refl _), rfl⟩
  · obtain rfl := Except.ok.inj h
    exact ⟨carries_of_recorded rfl (List.Subset.refl _), rfl⟩

/-- An admitted action leaves its id behind, whatever it comes to. -/
lemma governAdmitted_carries
    (h : governAdmitted sha host input it action admission state = .ok next) :
    Carries 1 state next ∧ admission.deterministicActionId ∈ next.deterministicActionIds := by
  have hsub : state.deterministicActionIds ⊆
      admission.deterministicActionId :: state.deterministicActionIds :=
    List.subset_cons_self _ _
  simp only [governAdmitted] at h
  split at h
  · obtain rfl := Except.ok.inj h
    exact ⟨carries_of_recorded rfl hsub, List.mem_cons_self⟩
  split at h
  · cases h
  split at h
  · obtain rfl := Except.ok.inj h
    exact ⟨carries_of_recorded rfl hsub, List.mem_cons_self⟩
  split at h
  · cases h
  split at h
  · obtain rfl := Except.ok.inj h
    exact ⟨carries_of_recorded rfl hsub, List.mem_cons_self⟩
  · obtain ⟨hcarries, hids⟩ := executeAdmitted_carries h
    constructor
    · exact ⟨hcarries.missionId, hcarries.missionAttemptId, hcarries.phase,
        List.Subset.trans hsub hcarries.ids⟩
    · rw [hids]
      exact List.mem_cons_self

lemma processAction_of_step (h : step sha host input it action state = .ok next) :
    processAction sha host input it action state = .ok next := by
  unfold step at h
  split at h
  · cases h
  · exact h

lemma step_carries (h : step sha host input it action state = .ok next) :
    Carries 1 state next ∧ (next.executions ≠ state.executions →
      plannedActionId sha host action state ∈ next.deterministicActionIds) := by
  have hprocess := processAction_of_step h
  unfold processAction at hprocess
  split_ifs at hprocess
  split at hprocess
  · obtain rfl := Except.ok.inj hprocess
    exact ⟨carries_of_recorded rfl (List.Subset.refl _), fun hmore => absurd rfl hmore⟩
  · rename_i admission hadmitted
    obtain ⟨hcarries, hid⟩ := governAdmitted_carries hprocess
    have hplanned := (admitAction_ok sha host input hadmitted).2.2.2.1
    refine ⟨hcarries, fun _ => ?_⟩
    rw [hplanned] at hid
    exact hid

/-- An action that is executed has not had its id before. -/
lemma plannedActionId_fresh
    (h : (finalState (step sha host input it action state)).executions ≠ state.executions) :
    plannedActionId sha host action state ∉ state.deterministicActionIds := by
  rcases (step_turn sha host input it action state).calls sha host input with
    hsame | ⟨e, -, honly⟩
  · exact absurd hsame h
  · have hfresh := honly.id_fresh
    rw [honly.id_eq] at hfresh
    exact hfresh

end Turns

lemma runFrom_carries (actions : List (PlannedAction × Iteration host)) :
    ∀ state next : RunnerState, phaseIndex state.missionState.currentPhase ≤ 7 →
      runFrom sha host input state actions = .ok next →
      Carries actions.length state next := by
  induction actions with
  | nil =>
      intro state next hle h
      obtain rfl := Except.ok.inj h
      exact ⟨rfl, rfl, by simp [hle], List.Subset.refl _⟩
  | cons x actions ih =>
      intro state next hle h
      unfold runFrom at h
      cases hstep : step sha host input x.2 x.1 state with
      | error stopped =>
          rw [hstep] at h
          cases h
      | ok mid =>
          rw [hstep] at h
          have hone := (step_carries hstep).1
          have hmid : phaseIndex mid.missionState.currentPhase ≤ 7 := by
            rw [hone.phase]
            omega
          have hall := hone.trans (ih mid next hmid h)
          rwa [Nat.add_comm] at hall

/-- Before the action at a position, the mission is in the phase of this position, or in the
last one. -/
lemma runPlanActions_phase {actions : List (PlannedAction × Iteration host)} {n : ℕ}
    {state : RunnerState} (hn : n ≤ actions.length)
    (h : runPlanActions sha host input (actions.take n) = .ok state) :
    phaseIndex state.missionState.currentPhase = min 7 n := by
  have hstart : phaseIndex (initialState input).missionState.currentPhase = 0 := rfl
  have hphase := (runFrom_carries sha host input _ _ _ (by rw [hstart]; omega) h).phase
  rw [List.length_take, Nat.min_eq_left hn] at hphase
  omega

/-! ## Positions of a plan -/

/-- The action at the position has been handed to the executor. -/
def ExecutedAt (actions : List (PlannedAction × Iteration host)) (n : ℕ) : Prop :=
  ∃ action it state, actions[n]? = some (action, it) ∧
    runPlanActions sha host input (actions.take n) = .ok state ∧
    (finalState (step sha host input it action state)).executions ≠ state.executions

/-- Two actions of the same type with canonically equal parameters, under different keys. -/
structure DuplicateOf (first second : PlannedAction) : Prop where
  type : first.type = second.type
  params : canonicalJson host.locale (.obj first.params.members) =
    canonicalJson host.locale (.obj second.params.members)
  keys : resolveIdempotencyKey input first first ≠ resolveIdempotencyKey input second second

def DuplicatedAt (actions : List (PlannedAction × Iteration host)) (i j : ℕ) : Prop :=
  i < j ∧ ∃ first second, actions[i]? = some first ∧ actions[j]? = some second ∧
    DuplicateOf host input first.1 second.1

/-- No two duplicates of a plan are both executed. -/
def DuplicatesSuppressed (actions : List (PlannedAction × Iteration host)) : Prop :=
  ∀ i j, DuplicatedAt host input actions i j →
    ¬ (ExecutedAt sha host input actions i ∧ ExecutedAt sha host input actions j)

/-- The guards in front of the check of duplicates let the action pass. -/
structure ArrivesAtCheck (it : Iteration host) (action : PlannedAction) (state : RunnerState) :
    Prop where
  running : it.aborted = false
  no_failed_dependency : evaluateDependentWorkspaceExecutionBlock host
    (rewriteAction host input action state)
    (resolveExecutionMode (rewriteAction host input action state) input.config)
    state.failedWorkspaceExecutionDependencies = none
  no_failed_start : evaluateDependentLiveRunTargetBlock host
    (rewriteAction host input action state)
    (resolveExecutionMode (rewriteAction host input action state) input.config)
    state.failedManagedProcessStartTargets = none
  no_stop : evaluateMissionStopDecision state.missionState
    (buildTaskRunnerMissionStopLimits input.config) = none
  key_unseen : resolveIdempotencyKey input action (rewriteAction host input action state) ∉
    state.missionState.seenIdempotencyKeys

/-- An executed action among the first seven, and a later duplicate of it that comes to the
check. -/
structure Escapes (actions : List (PlannedAction × Iteration host)) (i j : ℕ) : Prop where
  early : i < missionPhaseSequence.length - 1
  duplicated : DuplicatedAt host input actions i j
  executed : ExecutedAt sha host input actions i
  arrives : ∃ action it state, actions[j]? = some (action, it) ∧
    runPlanActions sha host input (actions.take j) = .ok state ∧
    ArrivesAtCheck host input it action state

section Positions

variable {sha host input} {actions : List (PlannedAction × Iteration host)} {i j : ℕ}

lemma arrivesAtCheck_of_admitted {it : Iteration host} {action : PlannedAction}
    {state : RunnerState} {admission : Admission} (hrunning : it.aborted = false)
    (h : admitAction sha host input it action state = .ok admission) :
    ArrivesAtCheck host input it action state := by
  simp only [admitAction] at h
  split at h
  · cases h
  rename_i hdependency
  split at h
  · cases h
  rename_i hstart
  split at h
  · cases h
  rename_i hstop
  split_ifs at h with hseen hduplicate
  exact ⟨hrunning, hdependency, hstart, hstop, hseen⟩

/-- A turn that calls the executor has come to the check. -/
lemma arrivesAtCheck_of_executed {it : Iteration host} {action : PlannedAction}
    {state : RunnerState}
    (h : (finalState (step sha host input it action state)).executions ≠ state.executions) :
    ArrivesAtCheck host input it action state := by
  cases haborted : it.aborted with
  | true =>
      refine absurd ?_ h
      simp [step, processAction, haborted, finalState]
  | false =>
      cases haccepted : admitAction sha host input it action state with
      | error blocked =>
          refine absurd ?_ h
          cases hledger : it.ledgerError <;>
            simp [step, processAction, haborted, haccepted, hledger, finalState,
              recordBlockedActionOutcome]
      | ok admission => exact arrivesAtCheck_of_admitted haborted haccepted

lemma le_length_of_getElem? {x : PlannedAction × Iteration host} (h : actions[i]? = some x) :
    i ≤ actions.length :=
  (List.getElem?_eq_some_iff.mp h).1.le

/-- The executor has been called where the executions of the run have grown. -/
lemma executedAt_of_executions
    (h : (finalState (runPlanActions sha host input (actions.take (i + 1)))).executions ≠
      (finalState (runPlanActions sha host input (actions.take i))).executions) :
    ExecutedAt sha host input actions i := by
  cases hx : actions[i]? with
  | none =>
      have hle := List.getElem?_eq_none_iff.mp hx
      rw [List.take_of_length_le hle, List.take_of_length_le (by omega)] at h
      exact absurd rfl h
  | some x =>
      unfold runPlanActions at h
      rw [List.take_add_one, hx, Option.toList_some, runFrom_append] at h
      cases hstate : runFrom sha host input (initialState input) (actions.take i) with
      | error stopped =>
          rw [hstate] at h
          exact absurd rfl h
      | ok state =>
          refine ⟨x.1, x.2, state, hx, hstate, ?_⟩
          rw [hstate] at h
          simp only [runFrom] at h
          cases hstep : step sha host input x.2 x.1 state with
          | error stopped =>
              rw [hstep] at h
              exact h
          | ok next =>
              rw [hstep] at h
              exact h

/-- What the run carries from one position to the next. -/
lemma runPlanActions_succ {x : PlannedAction × Iteration host} {state next : RunnerState}
    (hx : actions[i]? = some x) (hstate : runPlanActions sha host input (actions.take i) = .ok state)
    (hnext : runPlanActions sha host input (actions.take (i + 1)) = .ok next) :
    step sha host input x.2 x.1 state = .ok next := by
  unfold runPlanActions at hstate hnext
  rw [List.take_add_one, hx, Option.toList_some, runFrom_append, hstate] at hnext
  simp only [runFrom] at hnext
  split at hnext
  · cases hnext
  · rename_i mid hmid
    rw [hmid, Except.ok.inj hnext]

/-- A run that has come to a position has come to the positions before it. -/
lemma runPlanActions_take {last : RunnerState} (hle : i ≤ j)
    (h : runPlanActions sha host input (actions.take j) = .ok last) :
    ∃ state, runPlanActions sha host input (actions.take i) = .ok state ∧
      runFrom sha host input state ((actions.take j).drop i) = .ok last := by
  have hsplit : actions.take j = actions.take i ++ (actions.take j).drop i := by
    rw [List.drop_take, ← List.take_add, Nat.add_sub_cancel' hle]
  unfold runPlanActions at h ⊢
  rw [hsplit, runFrom_append] at h
  split at h
  · cases h
  · rename_i state hstate
    exact ⟨state, hstate, h⟩

/-- The id of an executed action is known at every later position. -/
lemma plannedActionId_known {action : PlannedAction} {it : Iteration host}
    {state last : RunnerState} (hlt : i < j) (haction : actions[i]? = some (action, it))
    (hstate : runPlanActions sha host input (actions.take i) = .ok state)
    (hlast : runPlanActions sha host input (actions.take j) = .ok last)
    (hexecuted : (finalState (step sha host input it action state)).executions ≠
      state.executions) :
    plannedActionId sha host action state ∈ last.deterministicActionIds := by
  obtain ⟨next, hnext, hrest⟩ := runPlanActions_take (i := i + 1) hlt hlast
  have hstep := runPlanActions_succ haction hstate hnext
  obtain ⟨hcarries, hid⟩ := step_carries hstep
  rw [hstep] at hexecuted
  have hle : phaseIndex next.missionState.currentPhase ≤ 7 := by
    rw [hcarries.phase]
    omega
  exact (runFrom_carries sha host input _ next last hle hrest).ids (hid hexecuted)

/-- Duplicates that come up in one phase have one id. -/
lemma plannedActionId_congr {first second : PlannedAction} {state last : RunnerState}
    (hduplicate : DuplicateOf host input first second)
    (hmission : last.missionState.missionId = state.missionState.missionId)
    (hattempt : last.missionState.missionAttemptId = state.missionState.missionAttemptId)
    (hphase : last.missionState.currentPhase = state.missionState.currentPhase) :
    plannedActionId sha host first state = plannedActionId sha host second last := by
  simp only [plannedActionId, deriveDeterministicActionId, hmission, hattempt, hphase,
    hduplicate.type, hduplicate.params]

end Positions

/-! ### A command planned twice -/

/-- Commands may take the whole budget. -/
def ampleCostConfig : BrainConfig :=
  { oneCommandConfig with
    limits := { oneCommandConfig.limits with maxCumulativeEstimatedCostUsd := 10 } }

def repeatingInput : RunPlanActionsInput where
  task := failingInput.task
  missionAttemptId := 1
  cumulativeApprovedEstimatedCostUsd := 0
  config := ampleCostConfig
  verification := failingInput.verification

/-- One command under two ids. -/
def repeatedCommand : List (PlannedAction × Iteration plainHost) :=
  [(shellCommand "action_1" "npm test", failingIteration),
    (shellCommand "action_2" "npm test", failingIteration)]

/-- The digests behind the two ids of the command. -/
def repeatedSha : Sha256 :=
  Sha256.ofTable
    [("task_1|1|intake|shell_command|\x7b\"command\":\"npm test\"\x7d",
        "ca50b3b283177d03f3c7a9c711531afeaa8f9749c89bdc6bcc8b65f3518dc87d"),
      ("task_1|1|retrieve|shell_command|\x7b\"command\":\"npm test\"\x7d",
        "5328d76eee3538a61b79aebc2277234541c4afd258d2ddd0e72410f8b34c07dd")]
    ((validTable_nil.cons (by decide) (by decide)).cons (by decide) (by decide))

lemma repeatedCommand_executions :
    (finalState (runPlanActions repeatedSha plainHost repeatingInput
        (repeatedCommand.take 1))).executions.length = 1 ∧
      (finalState (runPlanActions repeatedSha plainHost repeatingInput
        (repeatedCommand.take 2))).executions.length = 2 := by
  decide +kernel

end AgentBigBrain.Orchestration
