import AgentBigBrain.Autonomy.LoopIterations

/-!
# What holds of every goal of a run

A run goes from goal to goal, and each goal has a log of its own. What every iteration and every
end of a goal keep of its log, given what the goal loop knows of it, holds of all of them.
-/
namespace AgentBigBrain.Autonomy

open AgentBigBrain.Js AgentBigBrain.Core AgentBigBrain.Lib

variable {platform : Platform} {policies : LoopPolicies} {config : LoopConfig}

/-- A property of the log of a goal, and what a loop that still runs knows of its log. -/
structure GoalProperty (platform : Platform) (policies : LoopPolicies) (config : LoopConfig) where
  holds : String → List LoopAction → Prop
  knows : GoalLoop → List LoopAction → Prop
  start : ∀ goal initialInput, knows (.start goal initialInput) []
  current : ∀ {loop log}, knows loop log → holds loop.goal log
  iterated : ∀ {loop log answers actions ends}, knows loop log →
    config.mayIterate loop.iteration = true →
    Iterated platform policies config loop answers actions ends →
    holds loop.goal (log ++ actions) ∧
      ∀ next, ends = .continued next → knows next (log ++ actions)
  ranOut : ∀ {loop log} cleanup, knows loop log →
    holds loop.goal (log ++ loop.runOut policies cleanup)
  askedGoal : ∀ {goal log}, holds goal log → holds goal (log ++ [.askedProactiveGoal])

lemma contract_absorb (loop : GoalLoop) (result : TaskRunResult) :
    (loop.absorb platform policies result).contract policies = loop.contract policies := by
  rw [GoalLoop.contract, GoalLoop.absorb_goal]
  rfl

lemma Iterated.goal_eq {loop next : GoalLoop} {answers : IterationAnswers}
    {actions : List LoopAction}
    (h : Iterated platform policies config loop answers actions (.continued next)) :
    next.goal = loop.goal := by
  cases h with
  | completed _ hrest =>
      cases hrest with
      | retriedWorkspace => exact GoalLoop.absorb_goal platform policies _ _
      | retriedStructured => exact GoalLoop.absorb_goal platform policies _ _
      | asked => exact GoalLoop.absorb_goal platform policies _ _

namespace GoalProperty

variable (property : GoalProperty platform policies config)

/-- What the steps keep. -/
structure Kept (state : LoopState) : Prop where
  current : property.holds state.currentOverarchingGoal state.log
  earlier : ∀ record ∈ state.earlier, property.holds record.goal record.log
  running : ∀ loop, state.phase = .running loop →
    loop.goal = state.currentOverarchingGoal ∧ property.knows loop state.log

variable {property} {state next : LoopState} {event : LoopEvent}

lemma Kept.nextGoal (h : property.Kept state) (goal : String) (rollovers : ℕ)
    (initialInput : Option String) :
    property.Kept (state.nextGoal goal rollovers initialInput) where
  current := property.current (property.start goal initialInput)
  earlier record hrecord := by
    rcases List.mem_append.mp hrecord with hold | hnew
    · exact h.earlier record hold
    · rw [List.mem_singleton.mp hnew]
      exact property.askedGoal h.current
  running loop hloop := by
    cases hloop
    exact ⟨rfl, property.start goal initialInput⟩

lemma Kept.step (h : property.Kept state)
    (hstep : loopStep platform policies config state event = some next) : property.Kept next := by
  cases stepped_of_loopStep hstep with
  | @iterated loop answers actions ends hphase hmay hiterated =>
      obtain ⟨hgoal, hknows⟩ := h.running loop hphase
      obtain ⟨hholds, hcontinued⟩ := property.iterated hknows hmay hiterated
      rw [hgoal] at hholds
      refine ⟨hholds, h.earlier, fun other hother => ?_⟩
      cases ends with
      | continued after =>
          cases hother
          exact ⟨hiterated.goal_eq.trans hgoal, hcontinued other rfl⟩
      | broken => exact absurd hother (config.afterGoal_ne_running _ other)
      | rejected => cases hother
  | @ranOut loop cleanup hphase =>
      obtain ⟨hgoal, hknows⟩ := h.running loop hphase
      have hholds := property.ranOut cleanup hknows
      rw [hgoal] at hholds
      refine ⟨hholds, h.earlier, fun other hother => ?_⟩
      exact absurd hother (config.afterGoal_ne_running _ other)
  | proposed => exact h.nextGoal _ _ _
  | repeated => exact h.nextGoal _ _ _

theorem holds_of_run (property : GoalProperty platform policies config) {goal : String}
    {initialGoalInput : Option String} {events : List LoopEvent} {finish : LoopState}
    (hrun : run (loopStep platform policies config) (.start goal initialGoalInput) events =
      some finish) :
    ∀ record ∈ finish.earlier ++ [⟨finish.currentOverarchingGoal, finish.log⟩],
      property.holds record.goal record.log := by
  have hstart : property.Kept (.start goal initialGoalInput) := by
    have hknows := property.start goal ((initialGoalInput.filter isPresent).map trim)
    refine ⟨property.current hknows, fun _ hrecord => absurd hrecord List.not_mem_nil, ?_⟩
    intro loop hloop
    cases hloop
    exact ⟨rfl, hknows⟩
  have hkept : property.Kept finish :=
    invariant_of_run (fun _ _ _ h hstep => h.step hstep) hstart hrun
  intro record hrecord
  rcases List.mem_append.mp hrecord with hold | hnew
  · exact hkept.earlier record hold
  · rw [List.mem_singleton.mp hnew]
    exact hkept.current

end GoalProperty

end AgentBigBrain.Autonomy
