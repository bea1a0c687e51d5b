import AgentBigBrain.Autonomy.LoopIterations

/-!
# Stopping the autonomous loop

The signal is read before a task, where a task fails and after its result, and each time the goal is
given up. That ends the run only where it would not go on after a goal anyway: a daemon below its
rollover limit asks for its next goal instead. A goal that could not be proposed is not counted
against the limit.
-/
namespace AgentBigBrain.Autonomy

open AgentBigBrain.Js AgentBigBrain.Core AgentBigBrain.Lib

variable {platform : Platform} {policies : LoopPolicies} {config : LoopConfig}

/-! ## What is asked of a run -/

def LoopAction.isCleanupTask : LoopAction → Bool
  | .cleanupTask _ _ => true
  | _ => false

/-- After the signal was read as aborted there is only cleanup, and one report. -/
def ObeysAbort (log : List LoopAction) : Prop :=
  ∃ before cleanups, log = before ++ .sawAbort :: (cleanups ++ [.goalAborted .cancelled]) ∧
    .sawAbort ∉ before ∧ reports before = 0 ∧ ∀ action ∈ cleanups, action.isCleanupTask = true

/-- The goal loops that were started. -/
def LoopState.goalLoops (state : LoopState) : ℕ := state.earlier.length + 1

/-- The run returned as soon as it saw the abort, and has not gone past a positive limit. -/
structure StopsWhenTold (config : LoopConfig) (state : LoopState) : Prop where
  obeys : .sawAbort ∈ state.log → state.phase = .returned ∧ ObeysAbort state.log
  earlier : ∀ record ∈ state.earlier, .sawAbort ∉ record.log
  bounded : ∀ limit ∈ config.daemonGoalRolloverLimit, 0 < limit →
    (state.goalLoops : ℚ) ≤ limit + 1

/-! ## Iterations that see the abort -/

def IterationAnswers.showAbort (answers : IterationAnswers) : Bool :=
  answers.abortedBefore ||
    match answers.task with
    | .threw _ aborted => aborted
    | .completed _ => answers.abortedAfter

lemma obeysAbort_stopActions (loop : GoalLoop) {before : List LoopAction}
    (habort : .sawAbort ∉ before) (hreports : reports before = 0) :
    ObeysAbort (before ++ .sawAbort :: loop.stopActions .cancelled true) := by
  refine ⟨before, loop.trackedManagedProcessLeaseId.toList.map (.cleanupTask loop.goal),
    rfl, habort, hreports, fun action haction => ?_⟩
  obtain ⟨leaseId, -, rfl⟩ := List.mem_map.mp haction
  rfl

lemma sawAbort_not_mem_stopActions (loop : GoalLoop) (reason : StopReason) (cleanup : Bool) :
    .sawAbort ∉ loop.stopActions reason cleanup := by
  unfold GoalLoop.stopActions
  cases cleanup <;> cases loop.trackedManagedProcessLeaseId <;> simp

lemma sawAbort_not_mem_runOut (loop : GoalLoop) (cleanup : Option TaskRunResult) :
    .sawAbort ∉ loop.runOut policies cleanup := by
  unfold GoalLoop.runOut
  split
  · exact sawAbort_not_mem_stopActions _ _ _
  · split_ifs
    · split
      · simp [sawAbort_not_mem_stopActions]
      · split_ifs <;> simp [sawAbort_not_mem_stopActions]
    · exact sawAbort_not_mem_stopActions _ _ _

/-- Behind the result of a task the abort stands first or not at all. -/
lemma Handled.sawAbort {started : GoalLoop} {result : TaskRunResult} {answers : IterationAnswers}
    {rest : List LoopAction} {ends : IterationEnd}
    (h : Handled platform policies config started result answers rest ends)
    (hsaw : .sawAbort ∈ rest) : answers.abortedAfter = true ∧ ends = .broken ∧
      ∃ loop : GoalLoop, rest = .sawAbort :: loop.stopActions .cancelled true := by
  cases h with
  | cancelled haborted => exact ⟨haborted, rfl, _, rfl⟩
  | _ => simp [sawAbort_not_mem_stopActions] at hsaw

/-- An iteration that sees the abort was shown it, leaves the inner loop and obeys. -/
lemma Iterated.sawAbort {loop : GoalLoop} {answers : IterationAnswers}
    {actions : List LoopAction} {ends : IterationEnd}
    (h : Iterated platform policies config loop answers actions ends)
    (hsaw : .sawAbort ∈ actions) :
    answers.showAbort = true ∧ ends = .broken ∧ ObeysAbort actions := by
  cases h with
  | cancelledBefore haborted =>
      refine ⟨by simp [IterationAnswers.showAbort, haborted], rfl, ?_⟩
      exact obeysAbort_stopActions loop List.not_mem_nil rfl
  | cancelledTask htask =>
      refine ⟨by simp [IterationAnswers.showAbort, htask], rfl, ?_⟩
      exact @obeysAbort_stopActions loop [_] (by simp) rfl
  | failedTask => simp [sawAbort_not_mem_stopActions] at hsaw
  | rejectedTask => simp at hsaw
  | @completed result rest ends htask hrest =>
      have hrestsaw : .sawAbort ∈ rest := by simpa using hsaw
      obtain ⟨haborted, hends, after, hrest⟩ := hrest.sawAbort hrestsaw
      refine ⟨by simp [IterationAnswers.showAbort, htask, haborted], hends, ?_⟩
      rw [hrest]
      exact @obeysAbort_stopActions after [_, _] (by simp) rfl

lemma ObeysAbort.append {before log : List LoopAction} (h : ObeysAbort log)
    (habort : .sawAbort ∉ before) (hreports : reports before = 0) :
    ObeysAbort (before ++ log) := by
  obtain ⟨first, cleanups, rfl, hfirst, hfirstReports, hcleanups⟩ := h
  refine ⟨before ++ first, cleanups, ?_, ?_, ?_, hcleanups⟩
  · rw [List.append_assoc]
  · simp [habort, hfirst]
  · simp [hreports, hfirstReports]

/-! ## Runs -/

/-- The abort is shown only where the run does not go on after a goal, and a positive limit, which
is never passed by a part of a goal, meets no proposal that fails. -/
def SignalEndsRun (config : LoopConfig) (state : LoopState) : LoopEvent → Prop
  | .iterate answers =>
      answers.showAbort = true → config.stopsAfterGoal state.daemonGoalRollovers = true
  | .runOut _ => True
  | .propose proposal => ∀ limit ∈ config.daemonGoalRolloverLimit, 0 < limit →
      proposal.isSome = true ∧ ((state.daemonGoalRollovers + 1 : ℕ) : ℚ) ≤ limit

/-- What the steps keep: every goal loop but the first is a rollover. -/
structure LoopState.Stops (config : LoopConfig) (state : LoopState) : Prop where
  told : StopsWhenTold config state
  reported : state.Reported
  rollovers : ∀ limit ∈ config.daemonGoalRolloverLimit, 0 < limit →
    state.goalLoops = state.daemonGoalRollovers + 1

/-- The log of a goal loop that has not returned shows no abort. -/
lemma LoopState.Stops.sawAbort_not_mem {state : LoopState} (hstops : state.Stops config)
    (hphase : state.phase ≠ .returned) : .sawAbort ∉ state.log :=
  fun hsaw => hphase (hstops.told.obeys hsaw).1

lemma LoopState.Stops.afterIteration {state : LoopState} {loop : GoalLoop}
    {answers : IterationAnswers} {actions : List LoopAction} {ends : IterationEnd}
    (hstops : state.Stops config) (hphase : state.phase = .running loop)
    (hcondition : SignalEndsRun config state (.iterate answers))
    (h : Iterated platform policies config loop answers actions ends) :
    (state.afterIteration config ⟨actions, ends⟩).Stops config := by
  have hlog : .sawAbort ∉ state.log :=
    hstops.sawAbort_not_mem (by rw [hphase]; exact Phase.noConfusion)
  refine ⟨⟨fun hsaw => ?_, hstops.told.earlier, hstops.told.bounded⟩,
    hstops.reported.afterIteration hphase h, hstops.rollovers⟩
  have hactions : .sawAbort ∈ actions := by
    rcases List.mem_append.mp hsaw with hold | hnew
    · exact absurd hold hlog
    · exact hnew
  obtain ⟨hshow, hends, hobeys⟩ := h.sawAbort hactions
  have hreturned : config.afterGoal state.daemonGoalRollovers = .returned :=
    if_pos (hcondition hshow)
  subst hends
  exact ⟨hreturned, hobeys.append hlog (hstops.reported.running loop hphase)⟩

lemma LoopState.Stops.nextGoal {state : LoopState} (hstops : state.Stops config)
    (hphase : state.phase = .choosing) {goal : String} {rollovers : ℕ}
    {initialInput : Option String}
    (hrollovers : ∀ limit ∈ config.daemonGoalRolloverLimit, 0 < limit →
      rollovers = state.daemonGoalRollovers + 1 ∧
        ((state.daemonGoalRollovers + 1 : ℕ) : ℚ) ≤ limit) :
    (state.nextGoal goal rollovers initialInput).Stops config := by
  have hlog : .sawAbort ∉ state.log :=
    hstops.sawAbort_not_mem (by rw [hphase]; exact Phase.noConfusion)
  have hgoalLoops : (state.nextGoal goal rollovers initialInput).goalLoops =
      state.goalLoops + 1 := by
    simp [LoopState.goalLoops, LoopState.nextGoal]
  refine ⟨⟨fun hsaw => ?_, fun record hrecord => ?_, fun limit hlimit hpos => ?_⟩,
    hstops.reported.nextGoal hphase goal rollovers initialInput, fun limit hlimit hpos => ?_⟩
  · exact absurd hsaw List.not_mem_nil
  · rcases List.mem_append.mp hrecord with hold | hnew
    · exact hstops.told.earlier record hold
    · rw [List.mem_singleton.mp hnew]
      simp [hlog]
  · obtain ⟨-, hbelow⟩ := hrollovers limit hlimit hpos
    rw [hgoalLoops, hstops.rollovers limit hlimit hpos]
    push_cast at hbelow ⊢
    linarith
  · obtain ⟨hrollover, -⟩ := hrollovers limit hlimit hpos
    rw [hgoalLoops, hstops.rollovers limit hlimit hpos, hrollover]
    rfl

lemma LoopState.Stops.step {state next : LoopState} {event : LoopEvent}
    (hstops : state.Stops config) (hcondition : SignalEndsRun config state event)
    (h : loopStep platform policies config state event = some next) : next.Stops config := by
  have hreported := hstops.reported.step h
  cases stepped_of_loopStep h with
  | iterated hphase _ hiterated => exact hstops.afterIteration hphase hcondition hiterated
  | @ranOut loop cleanup hphase =>
      have hlog : .sawAbort ∉ state.log :=
        hstops.sawAbort_not_mem (by rw [hphase]; exact Phase.noConfusion)
      refine ⟨⟨fun hsaw => ?_, hstops.told.earlier, hstops.told.bounded⟩, hreported,
        hstops.rollovers⟩
      rcases List.mem_append.mp hsaw with hold | hnew
      · exact absurd hold hlog
      · exact absurd hnew (sawAbort_not_mem_runOut loop cleanup)
  | proposed hphase =>
      exact hstops.nextGoal hphase fun limit hlimit hpos =>
        ⟨rfl, (hcondition limit hlimit hpos).2⟩
  | repeated hphase =>
      refine hstops.nextGoal hphase fun limit hlimit hpos => ?_
      exact absurd (hcondition limit hlimit hpos).1 Bool.false_ne_true

lemma stops_start (config : LoopConfig) (goal : String) (initialGoalInput : Option String) :
    (LoopState.start goal initialGoalInput).Stops config := by
  refine ⟨⟨fun hsaw => ?_, fun record hrecord => ?_, fun limit _ hpos => ?_⟩,
    reported_start goal initialGoalInput, fun _ _ _ => rfl⟩
  · exact absurd hsaw List.not_mem_nil
  · exact absurd hrecord List.not_mem_nil
  · simp only [LoopState.goalLoops, LoopState.start, List.length_nil]
    push_cast
    linarith

/-- Where the signal and failed proposals come only where they end the run, the run stops when it
is told to. -/
theorem loop_stops_when_told {goal : String} {initialGoalInput : Option String}
    {events : List LoopEvent} {finish : LoopState}
    (hsignal : Along (loopStep platform policies config) (SignalEndsRun config)
      (.start goal initialGoalInput) events)
    (hrun : run (loopStep platform policies config) (.start goal initialGoalInput) events =
      some finish) : StopsWhenTold config finish :=
  (invariant_of_along (fun _ _ _ hstops hcondition h => hstops.step hcondition h)
    (stops_start config goal initialGoalInput) hsignal hrun).told

/-! ## Concrete runs -/

instance (config : LoopConfig) (state : LoopState) (event : LoopEvent) :
    Decidable (SignalEndsRun config state event) :=
  match event with
  | .iterate answers => inferInstanceAs
      (Decidable (answers.showAbort = true →
        config.stopsAfterGoal state.daemonGoalRollovers = true))
  | .runOut _ => inferInstanceAs (Decidable True)
  | .propose proposal => inferInstanceAs
      (Decidable (∀ limit ∈ config.daemonGoalRolloverLimit, 0 < limit →
        proposal.isSome = true ∧ ((state.daemonGoalRollovers + 1 : ℕ) : ℚ) ≤ limit))

def daemonConfig (limit : Option ℚ) : LoopConfig where
  maxAutonomousIterations := 0
  maxAutonomousConsecutiveNoProgressIterations := 3
  isDaemonMode := true
  daemonGoalRolloverLimit := limit

/-- The task fails. -/
def failedAnswers : IterationAnswers where
  abortedBefore := false
  task := .threw (.error false) false
  abortedAfter := false
  nextStep := none

/-- The goal of the last rollover is cancelled. -/
theorem last_rollover_cancelled :
    (run (loopStep (.ofDates []) plainPolicies (daemonConfig (some 1)))
      (.start "tidy the desk" none)
      [.iterate failedAnswers, .propose (some "water the plants"),
        .iterate abortedAnswers]).isSome = true ∧
    ∀ finish ∈ run (loopStep (.ofDates []) plainPolicies (daemonConfig (some 1)))
      (.start "tidy the desk" none)
      [.iterate failedAnswers, .propose (some "water the plants"), .iterate abortedAnswers],
      StopsWhenTold (daemonConfig (some 1)) finish :=
  ⟨by decide, fun _ hrun => loop_stops_when_told (by decide) hrun⟩

/-- A daemon that is cancelled asks for its next goal, and proposals that fail let it pass its
limit. -/
theorem daemon_goes_on :
    (∃ finish ∈ run (loopStep (.ofDates []) plainPolicies (daemonConfig none))
      (.start "tidy the desk" none) [.iterate abortedAnswers, .propose (some "water the plants")],
      ¬ StopsWhenTold (daemonConfig none) finish) ∧
    ∃ finish ∈ run (loopStep (.ofDates []) plainPolicies (daemonConfig (some 1)))
      (.start "tidy the desk" none)
      [.iterate failedAnswers, .propose none, .iterate failedAnswers, .propose none],
      ¬ StopsWhenTold (daemonConfig (some 1)) finish := by
  constructor
  · refine ⟨_, rfl, fun htold => ?_⟩
    refine htold.earlier _ (List.mem_singleton_self _) ?_
    simp [LoopState.afterIteration, GoalLoop.iterate, GoalLoop.stopWith, abortedAnswers]
  · refine ⟨_, rfl, fun htold => ?_⟩
    have hbounded := htold.bounded 1 rfl one_pos
    have hgoalLoops : ((3 : ℕ) : ℚ) ≤ 1 + 1 := hbounded
    norm_num at hgoalLoops

end AgentBigBrain.Autonomy
