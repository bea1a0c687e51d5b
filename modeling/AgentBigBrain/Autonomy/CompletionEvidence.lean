import AgentBigBrain.Autonomy.GoalRecords
import AgentBigBrain.Autonomy.ManagedProcesses

/-!
# The evidence behind a goal that is met

The counters of a goal loop are read when it is to be called met. Each of them counts the results
that this goal was given, and no others: a daemon that goes on to another goal starts them again.
-/
namespace AgentBigBrain.Autonomy

open AgentBigBrain.Js AgentBigBrain.Core AgentBigBrain.Lib

variable {platform : Platform} {policies : LoopPolicies} {config : LoopConfig}

/-! ## What a requirement looks for -/

/-- The results that the counter of a requirement counts. -/
def MissionRequirementId.evidence (platform : Platform) (contract : MissionCompletionContract) :
    MissionRequirementId → ActionRunResult → Bool
  | .sideEffect => isRealSideEffectEvidence platform
  | .targetPath => isTargetPathTouchEvidence platform contract.targetPathHints
  | .mutation => isArtifactMutationEvidenceAction platform
  | .readiness => isReadinessProofEvidenceAction platform
      (contract.requireBrowserProof || contract.requireBrowserOpenProof)
  | .browser => isBrowserProofEvidenceAction platform
  | .browserOpen => isBrowserOpenEvidenceAction platform
  | .processStop => isManagedProcessStopEvidenceAction

/-- What is not approved proves nothing. -/
lemma approved_of_evidence {contract : MissionCompletionContract}
    {requirement : MissionRequirementId} {entry : ActionRunResult}
    (h : requirement.evidence platform contract entry = true) : entry.approved = true := by
  cases requirement <;>
    simp only [MissionRequirementId.evidence, isRealSideEffectEvidence, isTargetPathTouchEvidence,
      isArtifactMutationEvidenceAction, isReadinessProofEvidenceAction,
      isBrowserProofEvidenceAction, isBrowserOpenEvidenceAction,
      isManagedProcessStopEvidenceAction, Bool.and_eq_true] at h <;>
    tauto

lemma count_targetPathTouchActions (hints : List String) (result : TaskRunResult) :
    countApprovedTargetPathTouchActions platform result hints =
      result.actionResults.countP (isTargetPathTouchEvidence platform hints) := by
  unfold countApprovedTargetPathTouchActions
  split_ifs with hnone
  · have hnever : ∀ entry ∈ result.actionResults,
        ¬ isTargetPathTouchEvidence platform hints entry = true := by
      simp [isTargetPathTouchEvidence, hnone]
    exact (List.countP_eq_zero.mpr hnever).symm
  · rfl

/-- Each counter goes on by the results that its requirement looks for. -/
lemma count_add (counters : MissionEvidenceCounters) (contract : MissionCompletionContract)
    (result : TaskRunResult) (requirement : MissionRequirementId) :
    (counters.add platform contract result).count requirement =
      counters.count requirement +
        result.actionResults.countP (requirement.evidence platform contract) := by
  cases requirement with
  | targetPath =>
      exact congrArg (counters.targetPathTouches + ·) (count_targetPathTouchActions _ result)
  | sideEffect | mutation | readiness | browser | browserOpen | processStop => rfl

/-! ## Counters and results -/

/-- The counters of the loop count these results. -/
def GoalLoop.Counts (platform : Platform) (policies : LoopPolicies) (loop : GoalLoop)
    (entries : List ActionRunResult) : Prop :=
  ∀ requirement : MissionRequirementId, loop.missionEvidence.count requirement =
    entries.countP (requirement.evidence platform (loop.contract policies))

lemma counts_start (goal : String) (initialInput : Option String) :
    (GoalLoop.start goal initialInput).Counts platform policies [] := by
  intro requirement
  cases requirement <;> rfl

lemma GoalLoop.Counts.absorb {loop : GoalLoop} {entries : List ActionRunResult}
    (h : loop.Counts platform policies entries) (result : TaskRunResult) :
    (loop.absorb platform policies result).Counts platform policies
      (entries ++ result.actionResults) := by
  intro requirement
  rw [contract_absorb, GoalLoop.absorb_missionEvidence, count_add, h requirement,
    List.countP_append]

/-- Each requirement of the goal has a result that proves it. -/
def Proved (platform : Platform) (policies : LoopPolicies) (goal : String)
    (entries : List ActionRunResult) : Prop :=
  ∀ requirement : MissionRequirementId,
    (buildMissionCompletionContract policies.toMissionTextPolicies goal).requires requirement =
      true →
    ∃ entry ∈ entries, requirement.evidence platform
      (buildMissionCompletionContract policies.toMissionTextPolicies goal) entry = true

/-- Where nothing that the goal requires is missing, there is a result for each requirement. -/
lemma GoalLoop.Counts.proved {loop : GoalLoop} {entries : List ActionRunResult}
    (h : loop.Counts platform policies entries)
    (hmissing : (loop.contract policies).executionStyle = true → loop.missing policies = []) :
    Proved platform policies loop.goal entries := by
  intro requirement hrequires
  have hstyle := executionStyle_of_requires hrequires
  have hcount : loop.missionEvidence.count requirement ≠ 0 := by
    intro hzero
    have hmem : requirement ∈ loop.missing policies :=
      mem_resolveMissing.mpr ⟨hstyle, hrequires, hzero⟩
    rw [hmissing hstyle] at hmem
    exact absurd hmem List.not_mem_nil
  rw [h requirement] at hcount
  exact List.countP_pos_iff.mp (Nat.pos_of_ne_zero hcount)

lemma Proved.mono {goal : String} {entries more : List ActionRunResult}
    (h : Proved platform policies goal entries) (hsub : entries ⊆ more) :
    Proved platform policies goal more := by
  intro requirement hrequires
  obtain ⟨entry, hentry, hevidence⟩ := h requirement hrequires
  exact ⟨entry, hsub hentry, hevidence⟩

/-! ## One iteration -/

lemma goalMet_notMem_stopActions (loop : GoalLoop) (reason : StopReason) (cleanup : Bool) :
    LoopAction.goalMet ∉ loop.stopActions reason cleanup := by
  unfold GoalLoop.stopActions
  cases cleanup <;> cases loop.trackedManagedProcessLeaseId <;> simp

lemma Handled.entries_eq {started : GoalLoop} {result : TaskRunResult}
    {answers : IterationAnswers} {rest : List LoopAction} {ends : IterationEnd}
    (h : Handled platform policies config started result answers rest ends) :
    logEntries rest = [] := by
  cases h <;> simp [LoopAction.entries]

/-- What follows a result proves what it calls met, and goes on with counters that count what was
seen. -/
lemma Handled.proved {started : GoalLoop} {result : TaskRunResult} {answers : IterationAnswers}
    {rest : List LoopAction} {ends : IterationEnd} {seen : List ActionRunResult}
    (h : Handled platform policies config started result answers rest ends)
    (hcounts : (started.absorb platform policies result).Counts platform policies seen) :
    (.goalMet ∈ rest → Proved platform policies started.goal seen) ∧
      ∀ next, ends = .continued next → next.Counts platform policies seen ∧ .goalMet ∉ rest := by
  have hgoal : (started.absorb platform policies result).goal = started.goal :=
    GoalLoop.absorb_goal platform policies started result
  have hcounted : (started.counted platform policies result).Counts platform policies seen :=
    hcounts
  cases h with
  | cancelled | stopped | stalled | unanswered | gaveUp =>
      exact ⟨fun hmet => by simp [goalMet_notMem_stopActions] at hmet, fun _ hends => by cases hends⟩
  | met hdecide =>
      refine ⟨fun _ => ?_, fun _ hends => by cases hends⟩
      have hmissing := GoalLoop.missing_of_liveRunEvidenceComplete (GoalLoop.decide_eq_met hdecide)
      rw [← hgoal]
      exact hcounts.proved fun _ => hmissing
  | retriedWorkspace | retriedStructured =>
      refine ⟨fun hmet => absurd hmet List.not_mem_nil, fun next hends => ?_⟩
      cases hends
      exact ⟨hcounts, List.not_mem_nil⟩
  | asked =>
      refine ⟨fun hmet => by simp at hmet, fun next hends => ?_⟩
      cases hends
      exact ⟨hcounted, by simp⟩
  | finished hproof =>
      refine ⟨fun _ => ?_, fun _ hends => by cases hends⟩
      rw [← hgoal]
      exact hcounted.proved hproof

/-- A log in which the goal is called met only where its own results prove it. -/
def MetOnProof (platform : Platform) (policies : LoopPolicies) (goal : String)
    (log : List LoopAction) : Prop :=
  .goalMet ∈ log → Proved platform policies goal (logEntries log)

lemma metOnProof_of_notMem {goal : String} {log : List LoopAction} (h : .goalMet ∉ log) :
    MetOnProof platform policies goal log := fun hmet => absurd hmet h

lemma Iterated.metOnProof {loop : GoalLoop} {answers : IterationAnswers}
    {before actions : List LoopAction} {ends : IterationEnd}
    (h : Iterated platform policies config loop answers actions ends)
    (hcounts : loop.Counts platform policies (logEntries before)) (hbefore : .goalMet ∉ before) :
    MetOnProof platform policies loop.goal (before ++ actions) ∧
      ∀ next, ends = .continued next →
        next.Counts platform policies (logEntries (before ++ actions)) ∧
          .goalMet ∉ before ++ actions := by
  cases h with
  | cancelledBefore | cancelledTask | failedTask | rejectedTask =>
      refine ⟨metOnProof_of_notMem ?_, fun _ hends => by cases hends⟩
      simp [hbefore, goalMet_notMem_stopActions]
  | @completed result rest ends htask hrest =>
      have hstarted : GoalLoop.Counts platform policies
          { loop with iteration := loop.iteration + 1 } (logEntries before) := hcounts
      obtain ⟨hproved, hcontinued⟩ := hrest.proved (hstarted.absorb result)
      have hseen : logEntries (before ++ .missionTask loop.goal loop.currentInput ::
          .missionResult result :: rest) = logEntries before ++ result.actionResults := by
        simp [LoopAction.entries, hrest.entries_eq]
      refine ⟨fun hmet => ?_, fun next hends => ?_⟩
      · rw [hseen]
        exact hproved (by simpa [hbefore] using hmet)
      · obtain ⟨hafter, hnot⟩ := hcontinued next hends
        rw [hseen]
        exact ⟨hafter, by simp [hbefore, hnot]⟩

/-! ## The end of a goal that has no iteration left -/

/-- The proof of a stop may come from the final cleanup task, the others stand already. -/
lemma GoalLoop.Counts.proved_afterCleanup {loop : GoalLoop} {entries : List ActionRunResult}
    {result : TaskRunResult} (h : loop.Counts platform policies entries)
    (hbefore : loop.missing policies = [.processStop])
    (hafter : (loop.afterCleanup result).missing policies = []) :
    Proved platform policies loop.goal (entries ++ result.actionResults) := by
  intro requirement hrequires
  have hstyle := executionStyle_of_requires hrequires
  by_cases hstop : requirement = .processStop
  · subst hstop
    have hcount : (loop.afterCleanup result).missionEvidence.count .processStop ≠ 0 := by
      intro hzero
      have hmem : .processStop ∈ (loop.afterCleanup result).missing policies :=
        mem_resolveMissing.mpr ⟨hstyle, hrequires, hzero⟩
      rw [hafter] at hmem
      exact absurd hmem List.not_mem_nil
    have hsum : (loop.afterCleanup result).missionEvidence.count .processStop =
        loop.missionEvidence.count .processStop +
          result.actionResults.countP isManagedProcessStopEvidenceAction := rfl
    have hseen := h .processStop
    simp only [MissionRequirementId.evidence] at hseen ⊢
    rw [hsum, hseen, ← List.countP_append] at hcount
    exact List.countP_pos_iff.mp (Nat.pos_of_ne_zero hcount)
  · have hcount : loop.missionEvidence.count requirement ≠ 0 := by
      intro hzero
      have hmem : requirement ∈ loop.missing policies :=
        mem_resolveMissing.mpr ⟨hstyle, hrequires, hzero⟩
      rw [hbefore] at hmem
      exact hstop (List.mem_singleton.mp hmem)
    rw [h requirement] at hcount
    obtain ⟨entry, hentry, hevidence⟩ := List.countP_pos_iff.mp (Nat.pos_of_ne_zero hcount)
    exact ⟨entry, List.mem_append_left _ hentry, hevidence⟩

lemma GoalLoop.Counts.metOnProof_runOut {loop : GoalLoop} {before : List LoopAction}
    {cleanup : Option TaskRunResult}
    (h : loop.Counts platform policies (logEntries before)) (hbefore : .goalMet ∉ before) :
    MetOnProof platform policies loop.goal (before ++ loop.runOut policies cleanup) := by
  have hstopped : ∀ loop' : GoalLoop, ∀ between : List LoopAction, .goalMet ∉ between →
      MetOnProof platform policies loop.goal
        (before ++ (between ++ loop'.stopActions .maxIterations true)) := by
    intro loop' between hbetween
    exact metOnProof_of_notMem (by simp [hbefore, hbetween, goalMet_notMem_stopActions])
  unfold GoalLoop.runOut
  split
  · exact hstopped loop [] List.not_mem_nil
  next leaseId _ =>
    split_ifs with hrequire
    · split
      · exact hstopped loop [.cleanupTask loop.goal leaseId] (by simp)
      next result =>
        split_ifs with hmissing
        · intro _
          have hproved := h.proved_afterCleanup hrequire.2 hmissing
          exact hproved.mono (by simp [LoopAction.entries])
        · exact hstopped (loop.afterCleanup result)
            [.cleanupTask loop.goal leaseId, .cleanupResult result] (by simp)
    · exact hstopped loop [] List.not_mem_nil

/-! ## Runs -/

variable (platform policies config) in
def metOnProof : GoalProperty platform policies config where
  holds := MetOnProof platform policies
  knows loop log := loop.Counts platform policies (logEntries log) ∧ .goalMet ∉ log
  start goal initialInput := ⟨counts_start goal initialInput, List.not_mem_nil⟩
  current h := metOnProof_of_notMem h.2
  iterated h _ hiterated := hiterated.metOnProof h.1 h.2
  ranOut _ h := h.1.metOnProof_runOut h.2
  askedGoal h hmet := (h (by simpa using hmet)).mono (by simp)

/-- Whatever the tasks return and the model answers, a goal that the loop calls met has, for each
requirement of its contract, an approved result of its own that the requirement counts; the goals
that a daemon had before it do not help it. -/
theorem goals_met_on_evidence {goal : String} {initialGoalInput : Option String}
    {events : List LoopEvent} {finish : LoopState}
    (hrun : run (loopStep platform policies config) (.start goal initialGoalInput) events =
      some finish) :
    ∀ record ∈ finish.earlier ++ [⟨finish.currentOverarchingGoal, finish.log⟩],
      .goalMet ∈ record.log → ∀ requirement : MissionRequirementId,
        (buildMissionCompletionContract policies.toMissionTextPolicies record.goal).requires
          requirement = true →
        ∃ entry ∈ logEntries record.log, entry.approved = true ∧ requirement.evidence platform
          (buildMissionCompletionContract policies.toMissionTextPolicies record.goal) entry =
            true := by
  intro record hrecord hmet requirement hrequires
  have hproof : MetOnProof platform policies record.goal record.log :=
    (metOnProof platform policies config).holds_of_run hrun record hrecord
  obtain ⟨entry, hentry, hevidence⟩ := hproof hmet requirement hrequires
  exact ⟨entry, hentry, approved_of_evidence hevidence, hevidence⟩

/-- The stop of the preview proves the goal, as the side effect does. -/
def stoppedPreview : List LoopEvent :=
  [.iterate (answersWith [processEntry .startProcess "lease_1" "PROCESS_READY",
    processEntry .stopProcess "lease_1" "PROCESS_STOPPED"])]

theorem stopped_preview_evidence :
    ∃ finish ∈ run (loopStep (.ofDates []) stopProofPolicies untilStalled)
      (.start "show the page, then stop it" none) stoppedPreview,
      finish.log.any (·.isGoalMet) = true ∧
      ∀ record ∈ finish.earlier ++ [⟨finish.currentOverarchingGoal, finish.log⟩],
        .goalMet ∈ record.log → ∀ requirement : MissionRequirementId,
          (buildMissionCompletionContract stopProofPolicies.toMissionTextPolicies
            record.goal).requires requirement = true →
          ∃ entry ∈ logEntries record.log, entry.approved = true ∧
            requirement.evidence (.ofDates [])
              (buildMissionCompletionContract stopProofPolicies.toMissionTextPolicies
                record.goal) entry = true := by
  have hrun : ∃ finish ∈ run (loopStep (.ofDates []) stopProofPolicies untilStalled)
      (.start "show the page, then stop it" none) stoppedPreview,
      finish.log.any (·.isGoalMet) = true := by decide
  obtain ⟨finish, hfinish, hmet⟩ := hrun
  exact ⟨finish, hfinish, hmet, goals_met_on_evidence hfinish⟩

end AgentBigBrain.Autonomy
