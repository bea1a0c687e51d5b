import AgentBigBrain.Autonomy.LoopIterations

/-!
# Managed processes of a goal

The loop remembers one lease, and a proof that a process was stopped stays counted. That is enough
where a goal has one process at a time and stops it last: then the lease it remembers is the only
one that can still run, and cleaning that up leaves nothing behind.
-/
namespace AgentBigBrain.Autonomy

open AgentBigBrain.Js AgentBigBrain.Core AgentBigBrain.Lib

/-! ## Leases in the results of a goal -/

def LoopAction.entries : LoopAction → List ActionRunResult
  | .missionResult result | .cleanupResult result => result.actionResults
  | _ => []

/-- The action results that a goal has been given, in their order. -/
def logEntries (log : List LoopAction) : List ActionRunResult := log.flatMap (·.entries)

@[simp] lemma logEntries_nil : logEntries [] = [] := rfl

@[simp] lemma logEntries_cons (action : LoopAction) (log : List LoopAction) :
    logEntries (action :: log) = action.entries ++ logEntries log :=
  List.flatMap_cons

@[simp] lemma logEntries_append (before after : List LoopAction) :
    logEntries (before ++ after) = logEntries before ++ logEntries after :=
  List.flatMap_append

@[simp] lemma logEntries_stopActions (loop : GoalLoop) (reason : StopReason) (cleanup : Bool) :
    logEntries (loop.stopActions reason cleanup) = [] := by
  unfold GoalLoop.stopActions
  cases cleanup <;> cases loop.trackedManagedProcessLeaseId <;> rfl

/-- An approved start_process that reports the lease. -/
def Starts (lease : String) (entry : ActionRunResult) : Prop :=
  entry.approved = true ∧ entry.action.type = .startProcess ∧
    readManagedProcessLeaseId entry = some lease

/-- An approved result that reports the lease as stopped. -/
def ReportsStopped (lease : String) (entry : ActionRunResult) : Prop :=
  entry.approved = true ∧ readManagedProcessLeaseId entry = some lease ∧
    readManagedProcessLifecycleStatus entry = some "PROCESS_STOPPED"

/-- A start of the lease that no later result reports as stopped. -/
def Live (lease : String) (entries : List ActionRunResult) : Prop :=
  ∃ before start after, entries = before ++ start :: after ∧ Starts lease start ∧
    ∀ entry ∈ after, ¬ ReportsStopped lease entry

lemma not_live_nil (lease : String) : ¬ Live lease [] := by
  rintro ⟨before, start, after, heq, -, -⟩
  simp at heq

lemma live_append_singleton {lease : String} {entries : List ActionRunResult}
    {entry : ActionRunResult} :
    Live lease (entries ++ [entry]) ↔
      Starts lease entry ∨ Live lease entries ∧ ¬ ReportsStopped lease entry := by
  constructor
  · rintro ⟨before, start, after, heq, hstart, hafter⟩
    rcases List.eq_nil_or_concat' after with rfl | ⟨rest, last, rfl⟩
    · obtain ⟨-, hlast⟩ := List.append_inj' heq rfl
      cases hlast
      exact .inl hstart
    · have hassoc : entries ++ [entry] = (before ++ start :: rest) ++ [last] := by
        rw [heq, List.append_assoc, List.cons_append]
      obtain ⟨hentries, hlast⟩ := List.append_inj' hassoc rfl
      cases hlast
      refine .inr ⟨⟨before, start, rest, hentries, hstart, fun other hother => ?_⟩, ?_⟩
      · exact hafter other (List.mem_append_left _ hother)
      · exact hafter entry (List.mem_append_right _ (List.mem_singleton_self _))
  · rintro (hstart | ⟨⟨before, start, after, rfl, hstart, hafter⟩, hnot⟩)
    · exact ⟨entries, entry, [], rfl, hstart, fun _ h => absurd h List.not_mem_nil⟩
    · refine ⟨before, start, after ++ [entry], ?_, hstart, fun other hother => ?_⟩
      · rw [List.append_assoc, List.cons_append]
      · rcases List.mem_append.mp hother with hold | hnew
        · exact hafter other hold
        · rw [List.mem_singleton.mp hnew]
          exact hnot

instance (lease : String) (entry : ActionRunResult) : Decidable (Starts lease entry) :=
  inferInstanceAs (Decidable (_ ∧ _ ∧ _))

instance (lease : String) (entry : ActionRunResult) : Decidable (ReportsStopped lease entry) :=
  inferInstanceAs (Decidable (_ ∧ _ ∧ _))

/-- Whether the lease is live, read off the results one after another. -/
def liveAfter (lease : String) (entries : List ActionRunResult) : Bool :=
  entries.foldl (fun live entry =>
    decide (Starts lease entry) || (live && !decide (ReportsStopped lease entry))) false

lemma liveAfter_iff {lease : String} {entries : List ActionRunResult} :
    liveAfter lease entries = true ↔ Live lease entries := by
  induction entries using List.reverseRecOn with
  | nil => simp [liveAfter, not_live_nil]
  | append_singleton entries entry ih =>
      rw [live_append_singleton, ← ih]
      simp [liveAfter]

instance (lease : String) (entries : List ActionRunResult) : Decidable (Live lease entries) :=
  decidable_of_iff _ liveAfter_iff

/-! ## One process at a time -/

/-- The result, after those that the goal has been given, leaves at most one process that the loop
has to know of. -/
structure KeepsOneProcess (contract : MissionCompletionContract) (seen : List ActionRunResult)
    (entry : ActionRunResult) : Prop where
  /-- A start or a check names no second lease. -/
  single : ∀ lease other, entry.approved = true →
    entry.action.type = .startProcess ∨ entry.action.type = .checkProcess →
    readManagedProcessLeaseId entry = some lease → Live other seen → other = lease
  starts : ∀ lease, Starts lease entry → ¬ ReportsStopped lease entry
  /-- A stop_process of a started lease stops it. -/
  stops : ∀ lease, entry.approved = true → entry.action.type = .stopProcess →
    readManagedProcessLeaseId entry = some lease → Live lease seen → ReportsStopped lease entry
  /-- Where the goal is to prove a stop, nothing is started after that proof. -/
  proofLast : contract.requireProcessStopProof = true → ∀ lease, Starts lease entry →
    seen.countP isManagedProcessStopEvidenceAction = 0
  /-- Where the goal is to prove a stop, the proof is about what was started. -/
  proofTells : contract.requireProcessStopProof = true →
    isManagedProcessStopEvidenceAction entry = true → ∀ lease, Live lease seen →
      ReportsStopped lease entry

/-- What the loop knows of the processes of its goal. -/
structure KnowsProcesses (contract : MissionCompletionContract) (tracked : Option String)
    (processStopProofs : ℕ) (seen : List ActionRunResult) : Prop where
  tracked : ∀ lease, Live lease seen → tracked = some lease
  counted : processStopProofs = seen.countP isManagedProcessStopEvidenceAction
  proved : contract.requireProcessStopProof = true → 0 < processStopProofs →
    ∀ lease, ¬ Live lease seen

variable {contract : MissionCompletionContract} {tracked : Option String}
  {processStopProofs : ℕ} {seen : List ActionRunResult} {entry : ActionRunResult}

lemma knowsProcesses_nil (contract : MissionCompletionContract) :
    KnowsProcesses contract none 0 [] where
  tracked lease h := absurd h (not_live_nil lease)
  counted := rfl
  proved _ h := absurd h (lt_irrefl 0)

lemma trackLease_of_starts {lease : String} (hkeeps : KeepsOneProcess contract seen entry)
    (hstarts : Starts lease entry) : trackLease tracked entry = some lease := by
  have hnot := hkeeps.starts lease hstarts
  obtain ⟨happroved, htype, hlease⟩ := hstarts
  have hrunning : readManagedProcessLifecycleStatus entry ≠ some "PROCESS_STOPPED" :=
    fun hstatus => hnot ⟨happroved, hlease, hstatus⟩
  simp [trackLease, happroved, htype, hlease, hrunning]

/-- A lease that runs on stays the one that is remembered. -/
lemma trackLease_of_live {lease : String} (hkeeps : KeepsOneProcess contract seen entry)
    (hlive : Live lease seen) (hnot : ¬ ReportsStopped lease entry) :
    trackLease (some lease) entry = some lease := by
  cases happroved : entry.approved with
  | false => simp [trackLease, happroved]
  | true =>
      cases hread : readManagedProcessLeaseId entry with
      | none => simp [trackLease, happroved, hread]
      | some named =>
          simp only [trackLease, happroved, hread]
          by_cases htype : entry.action.type = .startProcess ∨ entry.action.type = .checkProcess
          · have hsame : lease = named := hkeeps.single named lease happroved htype hread hlive
            subst hsame
            have hrunning : readManagedProcessLifecycleStatus entry ≠ some "PROCESS_STOPPED" :=
              fun hstatus => hnot ⟨happroved, hread, hstatus⟩
            have hstop : entry.action.type ≠ .stopProcess := by
              rcases htype with htype | htype <;> simp [htype]
            simp [htype, hrunning, hstop]
          · rw [if_neg htype]
            refine if_neg ?_
            rintro ⟨hstop, hsame⟩
            have hsame : lease = named := Option.some.inj hsame
            subst hsame
            rcases hstop with hstop | hstatus
            · exact hnot (hkeeps.stops lease happroved hstop hread hlive)
            · exact hnot ⟨happroved, hread, hstatus⟩

/-- One result of a task. -/
lemma KnowsProcesses.append_entry (hknows : KnowsProcesses contract tracked processStopProofs seen)
    (hkeeps : KeepsOneProcess contract seen entry) :
    KnowsProcesses contract (trackLease tracked entry)
      (processStopProofs + [entry].countP isManagedProcessStopEvidenceAction) (seen ++ [entry]) where
  tracked lease hlive := by
    rcases live_append_singleton.mp hlive with hstarts | ⟨hold, hnot⟩
    · exact trackLease_of_starts hkeeps hstarts
    · rw [hknows.tracked lease hold]
      exact trackLease_of_live hkeeps hold hnot
  counted := by rw [List.countP_append, hknows.counted]
  proved hrequire hproofs lease hlive := by
    rcases live_append_singleton.mp hlive with hstarts | ⟨hold, hnot⟩
    · have hnone : processStopProofs = 0 := by
        rw [hknows.counted]
        exact hkeeps.proofLast hrequire lease hstarts
      have hstart : isManagedProcessStopEvidenceAction entry = false := by
        simp [isManagedProcessStopEvidenceAction, hstarts.2.1]
      simp [hnone, hstart] at hproofs
    · by_cases hproof : isManagedProcessStopEvidenceAction entry = true
      · exact hnot (hkeeps.proofTells hrequire hproof lease hold)
      · have hbefore : 0 < processStopProofs := by simpa [hproof] using hproofs
        exact hknows.proved hrequire hbefore lease hold

/-- The results of a task, one after another. -/
def KeepsOneProcessAlong (contract : MissionCompletionContract) (seen entries :
    List ActionRunResult) : Prop :=
  Along (fun seen entry => some (seen ++ [entry])) (KeepsOneProcess contract) seen entries

lemma KnowsProcesses.append {entries : List ActionRunResult}
    (hknows : KnowsProcesses contract tracked processStopProofs seen)
    (hkeeps : KeepsOneProcessAlong contract seen entries) :
    KnowsProcesses contract (entries.foldl trackLease tracked)
      (processStopProofs + entries.countP isManagedProcessStopEvidenceAction)
      (seen ++ entries) := by
  induction entries generalizing tracked processStopProofs seen with
  | nil => simpa using hknows
  | cons entry rest ih =>
      have hrest := ih (hknows.append_entry hkeeps.1) (hkeeps.2 _ rfl)
      have hcount : processStopProofs + [entry].countP isManagedProcessStopEvidenceAction +
          rest.countP isManagedProcessStopEvidenceAction =
            processStopProofs + (entry :: rest).countP isManagedProcessStopEvidenceAction := by
        rw [Nat.add_assoc, ← List.countP_append]
        rfl
      rw [hcount, List.append_assoc, List.singleton_append] at hrest
      exact hrest

/-! ## One goal -/

variable {platform : Platform} {policies : LoopPolicies} {config : LoopConfig}

/-- What the loop knows of the processes of its goal. -/
def GoalLoop.Knows (policies : LoopPolicies) (loop : GoalLoop) (seen : List ActionRunResult) :
    Prop :=
  KnowsProcesses (loop.contract policies) loop.trackedManagedProcessLeaseId
    loop.missionEvidence.processStopProofs seen

lemma GoalLoop.Knows.absorb {loop : GoalLoop} {result : TaskRunResult}
    (hknows : loop.Knows policies seen)
    (hkeeps : KeepsOneProcessAlong (loop.contract policies) seen result.actionResults) :
    (loop.absorb platform policies result).Knows policies (seen ++ result.actionResults) := by
  have hafter := KnowsProcesses.append hknows hkeeps
  unfold GoalLoop.Knows GoalLoop.contract
  simp only [GoalLoop.absorb_goal, GoalLoop.absorb_missionEvidence,
    GoalLoop.absorb_trackedManagedProcessLeaseId]
  exact hafter

/-- The ways to give a goal up that have to leave nothing running. -/
def StopReason.cleansUp : StopReason → Bool
  | .cancelled | .taskExecutionFailed | .missionRetryBudget | .processNeverReady | .stalled
  | .maxIterations => true
  | .liveVerificationBlocked | .workspaceRecovery | .structuredRecovery | .userTurnGate
  | .emptyNextStep => false

/-- Nothing is left behind: what still runs when the goal is given up is cleaned up, and a goal that
is to prove a stop is met only with everything stopped. -/
structure LeavesNoProcess (policies : LoopPolicies) (goal : String) (log : List LoopAction) :
    Prop where
  cleaned : ∀ reason, reason.cleansUp = true → .goalAborted reason ∈ log →
    ∀ lease, Live lease (logEntries log) → .cleanupTask goal lease ∈ log
  stopped : (buildMissionCompletionContract policies.toMissionTextPolicies
      goal).requireProcessStopProof = true → .goalMet ∈ log →
    ∀ lease, ¬ Live lease (logEntries log)

lemma not_mem_of_reports_eq_zero {action : LoopAction} {log : List LoopAction}
    (h : reports log = 0) (haction : action.isReport = true) : action ∉ log := by
  intro hmem
  exact List.countP_eq_zero.mp h action hmem haction

/-- A goal that was not reported. -/
lemma leavesNoProcess_of_reports {goal : String} {log : List LoopAction}
    (h : reports log = 0) : LeavesNoProcess policies goal log where
  cleaned _ _ hmem := absurd hmem (not_mem_of_reports_eq_zero h rfl)
  stopped _ hmem := absurd hmem (not_mem_of_reports_eq_zero h rfl)

/-- A goal that is given up by a loop that knows of its processes. -/
lemma GoalLoop.Knows.leavesNoProcess {loop : GoalLoop} {before : List LoopAction}
    (hknows : loop.Knows policies (logEntries before)) (hbefore : reports before = 0)
    (reason : StopReason) {cleanup : Bool} (hcleanup : reason.cleansUp = true → cleanup = true) :
    LeavesNoProcess policies loop.goal (before ++ loop.stopActions reason cleanup) where
  cleaned other hother hmem lease hlive := by
    have haborted : .goalAborted other ∈ loop.stopActions reason cleanup := by
      rcases List.mem_append.mp hmem with hold | hnew
      · exact absurd hold (not_mem_of_reports_eq_zero hbefore rfl)
      · exact hnew
    have hsame : other = reason := by
      unfold GoalLoop.stopActions at haborted
      rcases List.mem_append.mp haborted with hcleanups | hreport
      · cases cleanup <;> cases loop.trackedManagedProcessLeaseId <;> simp at hcleanups
      · simpa using hreport
    subst hsame
    have htracked : loop.trackedManagedProcessLeaseId = some lease :=
      hknows.tracked lease (by simpa using hlive)
    refine List.mem_append_right _ ?_
    simp [GoalLoop.stopActions, hcleanup hother, htracked]
  stopped _ hmem := by
    rcases List.mem_append.mp hmem with hold | hnew
    · exact absurd hold (not_mem_of_reports_eq_zero hbefore rfl)
    · unfold GoalLoop.stopActions at hnew
      cases cleanup <;> cases loop.trackedManagedProcessLeaseId <;> simp at hnew

/-- A goal that is met by a loop that knows of its processes. -/
lemma GoalLoop.Knows.leavesNoProcess_of_met {loop : GoalLoop} {before : List LoopAction}
    (hknows : loop.Knows policies (logEntries before)) (hbefore : reports before = 0)
    (hproof : (loop.contract policies).executionStyle = true → loop.missing policies = []) :
    LeavesNoProcess policies loop.goal (before ++ [.goalMet]) where
  cleaned reason _ hmem := by
    rcases List.mem_append.mp hmem with hold | hnew
    · exact absurd hold (not_mem_of_reports_eq_zero hbefore rfl)
    · simp at hnew
  stopped hrequire _ lease hlive := by
    have hrequires : (loop.contract policies).requires .processStop = true := hrequire
    have hstyle := executionStyle_of_requires hrequires
    have hproofs : 0 < loop.missionEvidence.processStopProofs := by
      by_contra hnone
      have hmissing : MissionRequirementId.processStop ∈ loop.missing policies :=
        mem_resolveMissing.mpr ⟨hstyle, hrequires, by
          simpa [MissionEvidenceCounters.count] using hnone⟩
      rw [hproof hstyle] at hmissing
      exact List.not_mem_nil hmissing
    exact hknows.proved hrequire hproofs lease (by simpa [LoopAction.entries] using hlive)

/-! ## One iteration -/

lemma cleanup_of_decide {loop : GoalLoop} {result : TaskRunResult} {reason : StopReason}
    {cleanup : Bool} (h : loop.decide policies result = .stop reason cleanup)
    (hreason : reason.cleansUp = true) : cleanup = true := by
  rcases GoalLoop.decide_eq_stop h with ⟨-, hcleanup⟩ | rfl | rfl
  · exact hcleanup
  · simp [StopReason.cleansUp] at hreason
  · simp [StopReason.cleansUp] at hreason

lemma GoalLoop.Knows.snoc {loop : GoalLoop} {log : List LoopAction} {action : LoopAction}
    (hknows : loop.Knows policies (logEntries log)) (haction : action.entries = []) :
    loop.Knows policies (logEntries (log ++ [action])) := by
  rw [logEntries_append, logEntries_cons, haction]
  simpa using hknows

/-- What is done about the result of a task, after `before`, which holds the result. -/
lemma Handled.leavesNoProcess {started : GoalLoop} {result : TaskRunResult}
    {answers : IterationAnswers} {before rest : List LoopAction} {ends : IterationEnd}
    (h : Handled platform policies config started result answers rest ends)
    (hknows : (started.absorb platform policies result).Knows policies (logEntries before))
    (hbefore : reports before = 0) :
    LeavesNoProcess policies started.goal (before ++ rest) ∧
      ∀ loop, ends = .continued loop →
        loop.goal = started.goal ∧ loop.Knows policies (logEntries (before ++ rest)) := by
  have hgoal : (started.absorb platform policies result).goal = started.goal :=
    GoalLoop.absorb_goal platform policies started result
  -- The look at the progress changes nothing that the loop knows of processes.
  have hcounted : (started.counted platform policies result).Knows policies (logEntries before) :=
    hknows
  have hcountedGoal : (started.counted platform policies result).goal = started.goal := hgoal
  have hasked : reports (before ++ [.askedNextStep]) = 0 := by
    simp [hbefore, LoopAction.isReport]
  cases h with
  | cancelled haborted =>
      have hsaw : reports (before ++ [.sawAbort]) = 0 := by simp [hbefore, LoopAction.isReport]
      have hleaves := (hknows.snoc rfl).leavesNoProcess hsaw .cancelled fun _ => rfl
      rw [hgoal, List.append_assoc] at hleaves
      exact ⟨hleaves, fun _ hends => by cases hends⟩
  | stopped hdecide =>
      have hleaves := hknows.leavesNoProcess hbefore _ (cleanup_of_decide hdecide)
      rw [hgoal] at hleaves
      exact ⟨hleaves, fun _ hends => by cases hends⟩
  | met hdecide =>
      have hmissing := GoalLoop.missing_of_liveRunEvidenceComplete (GoalLoop.decide_eq_met hdecide)
      have hleaves := hknows.leavesNoProcess_of_met hbefore fun _ => hmissing
      rw [hgoal] at hleaves
      exact ⟨hleaves, fun _ hends => by cases hends⟩
  | retriedWorkspace =>
      rw [List.append_nil]
      refine ⟨leavesNoProcess_of_reports hbefore, fun loop hends => ?_⟩
      cases hends
      exact ⟨hgoal, hknows⟩
  | retriedStructured =>
      rw [List.append_nil]
      refine ⟨leavesNoProcess_of_reports hbefore, fun loop hends => ?_⟩
      cases hends
      exact ⟨hgoal, hknows⟩
  | stalled =>
      have hleaves := hcounted.leavesNoProcess hbefore .stalled fun _ => rfl
      rw [hcountedGoal] at hleaves
      exact ⟨hleaves, fun _ hends => by cases hends⟩
  | unanswered =>
      exact ⟨leavesNoProcess_of_reports hasked, fun _ hends => by cases hends⟩
  | asked =>
      refine ⟨leavesNoProcess_of_reports hasked, fun loop hends => ?_⟩
      cases hends
      exact ⟨hgoal, hknows.snoc rfl⟩
  | finished hproof =>
      have hleaves := (hcounted.snoc rfl).leavesNoProcess_of_met hasked hproof
      rw [hcountedGoal, List.append_assoc] at hleaves
      exact ⟨hleaves, fun _ hends => by cases hends⟩
  | @gaveUp reason cleanup hreason =>
      have hother : reason.cleansUp = true → cleanup = true := by
        rcases hreason with rfl | rfl <;> simp [StopReason.cleansUp]
      have hleaves := (hcounted.snoc rfl).leavesNoProcess hasked reason hother
      rw [hcountedGoal, List.append_assoc] at hleaves
      exact ⟨hleaves, fun _ hends => by cases hends⟩

/-- The results that an iteration is answered. -/
def IterationAnswers.entries (answers : IterationAnswers) : List ActionRunResult :=
  match answers.task with
  | .threw _ _ => []
  | .completed result => result.actionResults

lemma Iterated.leavesNoProcess {loop : GoalLoop} {answers : IterationAnswers}
    {before actions : List LoopAction} {ends : IterationEnd}
    (h : Iterated platform policies config loop answers actions ends)
    (hknows : loop.Knows policies (logEntries before)) (hbefore : reports before = 0)
    (hkeeps : KeepsOneProcessAlong (loop.contract policies) (logEntries before) answers.entries) :
    LeavesNoProcess policies loop.goal (before ++ actions) ∧
      ∀ next, ends = .continued next →
        next.goal = loop.goal ∧ next.Knows policies (logEntries (before ++ actions)) := by
  have hasked : reports (before ++ [.missionTask loop.goal loop.currentInput]) = 0 := by
    simp [hbefore, LoopAction.isReport]
  cases h with
  | cancelledBefore =>
      have hsaw : reports (before ++ [.sawAbort]) = 0 := by simp [hbefore, LoopAction.isReport]
      have hleaves := (hknows.snoc rfl).leavesNoProcess hsaw .cancelled fun _ => rfl
      rw [List.append_assoc] at hleaves
      exact ⟨hleaves, fun _ hends => by cases hends⟩
  | cancelledTask =>
      have hsaw : reports (before ++ [.missionTask loop.goal loop.currentInput] ++ [.sawAbort]) =
          0 := by
        simp [hbefore, LoopAction.isReport]
      have hleaves := ((hknows.snoc rfl).snoc rfl).leavesNoProcess hsaw .cancelled fun _ => rfl
      rw [List.append_assoc, List.append_assoc] at hleaves
      exact ⟨hleaves, fun _ hends => by cases hends⟩
  | @failedTask isAbortError reason =>
      have hleaves := (hknows.snoc rfl).leavesNoProcess hasked reason fun _ => rfl
      rw [List.append_assoc] at hleaves
      exact ⟨hleaves, fun _ hends => by cases hends⟩
  | rejectedTask =>
      exact ⟨leavesNoProcess_of_reports hasked, fun _ hends => by cases hends⟩
  | @completed result rest ends htask hrest =>
      rw [IterationAnswers.entries, htask] at hkeeps
      have hseen : logEntries (before ++ [.missionTask loop.goal loop.currentInput,
          .missionResult result]) = logEntries before ++ result.actionResults := by
        simp [LoopAction.entries]
      have hreports : reports (before ++ [.missionTask loop.goal loop.currentInput,
          .missionResult result]) = 0 := by
        simp [hbefore, LoopAction.isReport]
      have hstarted : GoalLoop.Knows policies { loop with iteration := loop.iteration + 1 }
          (logEntries before) := hknows
      have hafter := @GoalLoop.Knows.absorb _ platform _ _ result hstarted hkeeps
      rw [← hseen] at hafter
      have hhandled := hrest.leavesNoProcess hafter hreports
      rw [List.append_assoc] at hhandled
      exact hhandled

/-- The end of a goal that has no iteration left. -/
lemma GoalLoop.Knows.leavesNoProcess_runOut {loop : GoalLoop} {before : List LoopAction}
    {cleanup : Option TaskRunResult} (hknows : loop.Knows policies (logEntries before))
    (hbefore : reports before = 0)
    (hkeeps : ∀ result ∈ cleanup, KeepsOneProcessAlong (loop.contract policies)
      (logEntries before) result.actionResults) :
    LeavesNoProcess policies loop.goal (before ++ loop.runOut policies cleanup) := by
  unfold GoalLoop.runOut
  split
  · exact hknows.leavesNoProcess hbefore _ fun _ => rfl
  · next leaseId htracked =>
      split_ifs
      · split
        · have htask : reports (before ++ [.cleanupTask loop.goal leaseId]) = 0 := by
            simp [hbefore, LoopAction.isReport]
          have hleaves := (hknows.snoc rfl).leavesNoProcess htask .maxIterations fun _ => rfl
          rw [List.append_assoc] at hleaves
          exact hleaves
        · next result =>
            have hseen : logEntries (before ++ [.cleanupTask loop.goal leaseId,
                .cleanupResult result]) = logEntries before ++ result.actionResults := by
              simp [LoopAction.entries]
            have hreports : reports (before ++ [.cleanupTask loop.goal leaseId,
                .cleanupResult result]) = 0 := by
              simp [hbefore, LoopAction.isReport]
            have hafter : (loop.afterCleanup result).Knows policies
                (logEntries before ++ result.actionResults) :=
              KnowsProcesses.append hknows (hkeeps result rfl)
            rw [← hseen] at hafter
            rw [← List.append_assoc]
            split_ifs with hmissing
            · exact hafter.leavesNoProcess_of_met hreports fun _ => hmissing
            · exact hafter.leavesNoProcess hreports .maxIterations fun _ => rfl
      · exact hknows.leavesNoProcess hbefore _ fun _ => rfl

/-! ## Runs -/

/-- Every goal loop so far, and the one at work, leaves no process behind. -/
structure LeavesNoProcesses (policies : LoopPolicies) (state : LoopState) : Prop where
  current : LeavesNoProcess policies state.currentOverarchingGoal state.log
  earlier : ∀ record ∈ state.earlier, LeavesNoProcess policies record.goal record.log

/-- The results of a step keep its goal to one process at a time. -/
def OneProcessAtATime (policies : LoopPolicies) (state : LoopState) : LoopEvent → Prop
  | .iterate answers => KeepsOneProcessAlong
      (buildMissionCompletionContract policies.toMissionTextPolicies state.currentOverarchingGoal)
      (logEntries state.log) answers.entries
  | .runOut cleanup => ∀ result ∈ cleanup, KeepsOneProcessAlong
      (buildMissionCompletionContract policies.toMissionTextPolicies state.currentOverarchingGoal)
      (logEntries state.log) result.actionResults
  | .propose _ => True

/-- What the steps keep. -/
structure LoopState.KnowsProcesses (policies : LoopPolicies) (state : LoopState) : Prop where
  leaves : LeavesNoProcesses policies state
  reported : state.Reported
  running : ∀ loop, state.phase = .running loop →
    loop.goal = state.currentOverarchingGoal ∧ loop.Knows policies (logEntries state.log)

lemma LeavesNoProcess.askedProactiveGoal {goal : String} {log : List LoopAction}
    (h : LeavesNoProcess policies goal log) :
    LeavesNoProcess policies goal (log ++ [.askedProactiveGoal]) where
  cleaned reason hreason hmem lease hlive := by
    have haborted : .goalAborted reason ∈ log := by simpa using hmem
    have hlease : Live lease (logEntries log) := by simpa [LoopAction.entries] using hlive
    exact List.mem_append_left _ (h.cleaned reason hreason haborted lease hlease)
  stopped hrequire hmem lease hlive := by
    have hmet : .goalMet ∈ log := by simpa using hmem
    exact h.stopped hrequire hmet lease (by simpa [LoopAction.entries] using hlive)

lemma LoopState.KnowsProcesses.nextGoal {state : LoopState} (h : state.KnowsProcesses policies)
    (hphase : state.phase = .choosing) (goal : String) (rollovers : ℕ)
    (initialInput : Option String) :
    (state.nextGoal goal rollovers initialInput).KnowsProcesses policies where
  leaves :=
    { current := leavesNoProcess_of_reports rfl
      earlier := fun record hrecord => by
        rcases List.mem_append.mp hrecord with hold | hnew
        · exact h.leaves.earlier record hold
        · rw [List.mem_singleton.mp hnew]
          exact h.leaves.current.askedProactiveGoal }
  reported := h.reported.nextGoal hphase goal rollovers initialInput
  running loop hloop := by
    cases hloop
    exact ⟨rfl, knowsProcesses_nil _⟩

lemma LoopState.KnowsProcesses.step {state next : LoopState} {event : LoopEvent}
    (h : state.KnowsProcesses policies) (hone : OneProcessAtATime policies state event)
    (hstep : loopStep platform policies config state event = some next) :
    next.KnowsProcesses policies := by
  have hreported := h.reported.step hstep
  cases stepped_of_loopStep hstep with
  | @iterated loop answers actions ends hphase _ hiterated =>
      obtain ⟨hgoal, hknows⟩ := h.running loop hphase
      rw [OneProcessAtATime, ← hgoal] at hone
      obtain ⟨hleaves, hcontinued⟩ :=
        hiterated.leavesNoProcess hknows (h.reported.running loop hphase) hone
      rw [hgoal] at hleaves
      refine ⟨⟨hleaves, h.leaves.earlier⟩, hreported, fun other hother => ?_⟩
      cases ends with
      | continued after =>
          cases hother
          obtain ⟨hsame, hafter⟩ := hcontinued other rfl
          exact ⟨hsame.trans hgoal, hafter⟩
      | broken => exact absurd hother (config.afterGoal_ne_running _ other)
      | rejected => cases hother
  | @ranOut loop cleanup hphase =>
      obtain ⟨hgoal, hknows⟩ := h.running loop hphase
      rw [OneProcessAtATime, ← hgoal] at hone
      have hleaves := hknows.leavesNoProcess_runOut (h.reported.running loop hphase) hone
      rw [hgoal] at hleaves
      refine ⟨⟨hleaves, h.leaves.earlier⟩, hreported, fun other hother => ?_⟩
      exact absurd hother (config.afterGoal_ne_running _ other)
  | proposed hphase => exact h.nextGoal hphase _ _ _
  | repeated hphase => exact h.nextGoal hphase _ _ _

lemma knowsProcesses_start (policies : LoopPolicies) (goal : String)
    (initialGoalInput : Option String) :
    (LoopState.start goal initialGoalInput).KnowsProcesses policies where
  leaves :=
    { current := leavesNoProcess_of_reports rfl
      earlier := fun _ hrecord => absurd hrecord List.not_mem_nil }
  reported := reported_start goal initialGoalInput
  running loop hloop := by
    cases hloop
    exact ⟨rfl, knowsProcesses_nil _⟩

/-- Where every goal has one process at a time and proves its stop last, no goal leaves a process
behind. -/
theorem one_process_at_a_time_leaves_none {goal : String} {initialGoalInput : Option String}
    {events : List LoopEvent} {finish : LoopState}
    (hone : Along (loopStep platform policies config) (OneProcessAtATime policies)
      (.start goal initialGoalInput) events)
    (hrun : run (loopStep platform policies config) (.start goal initialGoalInput) events =
      some finish) : LeavesNoProcesses policies finish :=
  (invariant_of_along (fun _ _ _ h hcondition hstep => h.step hcondition hstep)
    (knowsProcesses_start policies goal initialGoalInput) hone hrun).leaves

/-! ## Concrete runs -/

def untilStalled : LoopConfig where
  maxAutonomousIterations := 0
  maxAutonomousConsecutiveNoProgressIterations := 3
  isDaemonMode := false
  daemonGoalRolloverLimit := none

lemma keepsOneProcess_start (contract : MissionCompletionContract) {leaseId status : String}
    (hstatus : readManagedProcessLifecycleStatus (processEntry .startProcess leaseId status) ≠
      some "PROCESS_STOPPED") :
    KeepsOneProcess contract [] (processEntry .startProcess leaseId status) where
  single _ other _ _ _ hlive := absurd hlive (not_live_nil other)
  starts _ _ hstopped := hstatus hstopped.2.2
  stops lease _ _ _ hlive := absurd hlive (not_live_nil lease)
  proofLast _ _ _ := rfl
  proofTells _ _ lease hlive := absurd hlive (not_live_nil lease)

/-- A started preview is cleaned up when the user cancels. -/
theorem cancelled_preview_cleaned_up :
    (run (loopStep (.ofDates []) plainPolicies untilStalled) (.start "show the page" none)
      [.iterate (answersWith [processEntry .startProcess "lease_1" "PROCESS_READY"]),
        .iterate abortedAnswers]).isSome = true ∧
    ∀ finish ∈ run (loopStep (.ofDates []) plainPolicies untilStalled)
      (.start "show the page" none)
      [.iterate (answersWith [processEntry .startProcess "lease_1" "PROCESS_READY"]),
        .iterate abortedAnswers], LeavesNoProcesses plainPolicies finish := by
  refine ⟨by decide, fun finish hrun => one_process_at_a_time_leaves_none ?_ hrun⟩
  have hstart := @keepsOneProcess_start
    (buildMissionCompletionContract plainPolicies.toMissionTextPolicies "show the page")
    "lease_1" "PROCESS_READY" (by decide)
  exact ⟨⟨hstart, fun _ _ => trivial⟩, fun _ _ => ⟨trivial, fun _ _ => trivial⟩⟩

/-- Goals of the execution style that are to stop what they start. -/
def stopProofPolicies : LoopPolicies :=
  { plainPolicies with
    executionStyle := fun _ => true
    requiresManagedProcessStopEvidence := fun _ => true }

def LoopAction.isCancellation : LoopAction → Bool
  | .goalAborted reason => decide (reason = .cancelled)
  | _ => false

def LoopAction.isGoalMet : LoopAction → Bool
  | .goalMet => true
  | _ => false

def LoopAction.cleansUp (lease : String) : LoopAction → Bool
  | .cleanupTask _ leaseId => decide (leaseId = lease)
  | _ => false

/-- A cancelled goal with a lease that runs on and has no cleanup. -/
lemma not_leavesNoProcesses_of_cancelled {state : LoopState} {lease : String}
    (hcancelled : state.log.any (·.isCancellation) = true)
    (hcleanup : state.log.any (·.cleansUp lease) = false)
    (hlive : Live lease (logEntries state.log)) : ¬ LeavesNoProcesses policies state := by
  intro hleaves
  obtain ⟨action, haction, hcancellation⟩ := List.any_eq_true.mp hcancelled
  have haborted : .goalAborted .cancelled ∈ state.log := by
    cases action <;> simp [LoopAction.isCancellation] at hcancellation
    rw [← hcancellation]
    exact haction
  have hclean := hleaves.current.cleaned .cancelled rfl haborted lease hlive
  have hany : state.log.any (·.cleansUp lease) = true :=
    List.any_eq_true.mpr ⟨_, hclean, by simp [LoopAction.cleansUp]⟩
  rw [hcleanup] at hany
  cases hany

/-- A goal that is met while a lease runs on. -/
lemma not_leavesNoProcesses_of_met {state : LoopState} {lease : String}
    (hmet : state.log.any (·.isGoalMet) = true)
    (hrequire : (buildMissionCompletionContract policies.toMissionTextPolicies
      state.currentOverarchingGoal).requireProcessStopProof = true)
    (hlive : Live lease (logEntries state.log)) : ¬ LeavesNoProcesses policies state := by
  intro hleaves
  obtain ⟨action, haction, hgoalMet⟩ := List.any_eq_true.mp hmet
  have hreported : .goalMet ∈ state.log := by
    cases action <;> simp [LoopAction.isGoalMet] at hgoalMet
    exact haction
  exact hleaves.current.stopped hrequire hreported lease hlive

/-- Of two previews only one is cleaned up, and a preview that is started after another was stopped
does not keep the goal from being met. -/
theorem second_process_left_behind :
    (∃ finish ∈ run (loopStep (.ofDates []) plainPolicies untilStalled)
      (.start "show the page" none)
      [.iterate (answersWith [processEntry .startProcess "lease_1" "PROCESS_READY",
          processEntry .startProcess "lease_2" "PROCESS_READY"]),
        .iterate abortedAnswers], ¬ LeavesNoProcesses plainPolicies finish) ∧
    ∃ finish ∈ run (loopStep (.ofDates []) stopProofPolicies untilStalled)
      (.start "show the page, then stop it" none)
      [.iterate (answersWith [processEntry .startProcess "lease_1" "PROCESS_READY",
          processEntry .stopProcess "lease_1" "PROCESS_STOPPED",
          processEntry .startProcess "lease_2" "PROCESS_READY"])],
      ¬ LeavesNoProcesses stopProofPolicies finish := by
  constructor
  · have hrun : ∃ finish ∈ run (loopStep (.ofDates []) plainPolicies untilStalled)
        (.start "show the page" none)
        [.iterate (answersWith [processEntry .startProcess "lease_1" "PROCESS_READY",
            processEntry .startProcess "lease_2" "PROCESS_READY"]),
          .iterate abortedAnswers],
        finish.log.any (·.isCancellation) = true ∧
          finish.log.any (·.cleansUp "lease_1") = false ∧
            Live "lease_1" (logEntries finish.log) := by decide
    obtain ⟨finish, hfinish, hcancelled, hcleanup, hlive⟩ := hrun
    exact ⟨finish, hfinish, not_leavesNoProcesses_of_cancelled hcancelled hcleanup hlive⟩
  · have hrun : ∃ finish ∈ run (loopStep (.ofDates []) stopProofPolicies untilStalled)
        (.start "show the page, then stop it" none)
        [.iterate (answersWith [processEntry .startProcess "lease_1" "PROCESS_READY",
            processEntry .stopProcess "lease_1" "PROCESS_STOPPED",
            processEntry .startProcess "lease_2" "PROCESS_READY"])],
        finish.log.any (·.isGoalMet) = true ∧
          (buildMissionCompletionContract stopProofPolicies.toMissionTextPolicies
            finish.currentOverarchingGoal).requireProcessStopProof = true ∧
            Live "lease_2" (logEntries finish.log) := by decide
    obtain ⟨finish, hfinish, hmet, hrequire, hlive⟩ := hrun
    exact ⟨finish, hfinish, not_leavesNoProcesses_of_met hmet hrequire hlive⟩

end AgentBigBrain.Autonomy
