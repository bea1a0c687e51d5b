import Mathlib.Data.List.Basic

/-!
# Runs of a machine

A machine takes one event after another; where an event cannot happen there is no next state.
`Along` says that every step of a run meets a condition on its state and its event, and
`invariant_of_along` is the induction that a safety property of such a run needs.
-/
namespace AgentBigBrain.Lib

variable {σ ε : Type*} (step : σ → ε → Option σ)

/-- The state after the events; `none` where one of them could not happen. -/
def run (start : σ) (events : List ε) : Option σ :=
  events.foldlM step start

@[simp] lemma run_nil (start : σ) : run step start [] = some start := rfl

@[simp] lemma run_cons (start : σ) (event : ε) (events : List ε) :
    run step start (event :: events) = (step start event).bind fun next => run step next events :=
  rfl

lemma run_append (start : σ) (before after : List ε) :
    run step start (before ++ after) =
      (run step start before).bind fun middle => run step middle after := by
  simp only [run, List.foldlM_append]
  rfl

/-- Every step of the run meets the condition. -/
def Along (condition : σ → ε → Prop) : σ → List ε → Prop
  | _, [] => True
  | state, event :: events =>
      condition state event ∧ ∀ next ∈ step state event, Along condition next events

instance decidableAlong (condition : σ → ε → Prop)
    [∀ state event, Decidable (condition state event)] :
    ∀ start events, Decidable (Along step condition start events)
  | _, [] => inferInstanceAs (Decidable True)
  | start, event :: events =>
      have := fun next => decidableAlong condition next events
      inferInstanceAs (Decidable (condition start event ∧
        ∀ next ∈ step start event, Along step condition next events))

lemma Along.of_append {condition : σ → ε → Prop} {start : σ} {before after : List ε}
    (h : Along step condition start (before ++ after)) : Along step condition start before := by
  induction before generalizing start with
  | nil => exact trivial
  | cons event before ih => exact ⟨h.1, fun next hnext => ih (h.2 next hnext)⟩

/-- What stands after a part of a run that meets the condition meets it from there. -/
lemma Along.of_run {condition : σ → ε → Prop} {start middle : σ} {before after : List ε}
    (h : Along step condition start (before ++ after)) (hrun : run step start before = some middle) :
    Along step condition middle after := by
  induction before generalizing start with
  | nil =>
      cases hrun
      exact h
  | cons event before ih =>
      obtain ⟨next, hnext, hrest⟩ := Option.bind_eq_some_iff.mp hrun
      exact ih (h.2 next hnext) hrest

lemma along_append {condition : σ → ε → Prop} {start : σ} {before after : List ε} :
    Along step condition start (before ++ after) ↔ Along step condition start before ∧
      ∀ middle, run step start before = some middle → Along step condition middle after := by
  refine ⟨fun h => ⟨h.of_append, fun middle hmiddle => h.of_run step hmiddle⟩, fun h => ?_⟩
  induction before generalizing start with
  | nil => exact h.2 start rfl
  | cons event before ih =>
      refine ⟨h.1.1, fun next hnext => ih ⟨h.1.2 next hnext, fun middle hmiddle => ?_⟩⟩
      exact h.2 middle (Option.bind_eq_some_iff.mpr ⟨next, hnext, hmiddle⟩)

variable {step}

lemma along_congr {condition other : σ → ε → Prop}
    (h : ∀ state event, condition state event ↔ other state event) {start : σ} {events : List ε} :
    Along step condition start events ↔ Along step other start events := by
  have hsame : condition = other := funext fun state => funext fun event => propext (h state event)
  rw [hsame]

lemma along_of_forall {condition : σ → ε → Prop} (h : ∀ state event, condition state event)
    {start : σ} {events : List ε} : Along step condition start events := by
  induction events generalizing start with
  | nil => exact trivial
  | cons event events ih => exact ⟨h start event, fun _ _ => ih⟩

theorem invariant_of_along {condition : σ → ε → Prop} {invariant : σ → Prop}
    (hstep : ∀ state event next, invariant state → condition state event →
      step state event = some next → invariant next)
    {start finish : σ} {events : List ε} (hstart : invariant start)
    (halong : Along step condition start events) (hrun : run step start events = some finish) :
    invariant finish := by
  induction events generalizing start with
  | nil =>
      cases hrun
      exact hstart
  | cons event events ih =>
      obtain ⟨next, hnext, hrest⟩ := Option.bind_eq_some_iff.mp hrun
      exact ih (hstep start event next hstart halong.1 hnext) (halong.2 next hnext) hrest

/-- An invariant of every step, whatever the event. -/
theorem invariant_of_run {invariant : σ → Prop}
    (hstep : ∀ state event next, invariant state → step state event = some next → invariant next)
    {start finish : σ} {events : List ε} (hstart : invariant start)
    (hrun : run step start events = some finish) : invariant finish :=
  invariant_of_along (fun state event next hinv _ h => hstep state event next hinv h) hstart
    (along_of_forall fun _ _ => trivial) hrun

/-- Two machines whose steps agree in the states of an invariant, where a condition on the step
holds, have the same runs along the condition. -/
theorem run_eq_of_along {step' : σ → ε → Option σ} {condition : σ → ε → Prop}
    {invariant : σ → Prop}
    (hsame : ∀ state event, invariant state → condition state event →
      step state event = step' state event)
    (hstep : ∀ state event next, invariant state → condition state event →
      step state event = some next → invariant next)
    {start : σ} {events : List ε} (hstart : invariant start)
    (halong : Along step condition start events) : run step start events = run step' start events := by
  induction events generalizing start with
  | nil => rfl
  | cons event events ih =>
      rw [run_cons, run_cons, ← hsame start event hstart halong.1]
      cases hnext : step start event with
      | none => rfl
      | some next => exact ih (hstep start event next hstart halong.1 hnext) (halong.2 next hnext)

/-- Where the steps that meet a condition keep an invariant, and have a property in its states, a
run along the condition is one along the property. -/
theorem along_of_along {invariant : σ → Prop} {condition property : σ → ε → Prop}
    (hstep : ∀ state event next, invariant state → condition state event →
      step state event = some next → invariant next)
    (hproperty : ∀ state event, invariant state → condition state event → property state event)
    {start : σ} {events : List ε} (hstart : invariant start)
    (h : Along step condition start events) : Along step property start events := by
  induction events generalizing start with
  | nil => exact trivial
  | cons event events ih =>
      exact ⟨hproperty start event hstart h.1, fun next hnext =>
        ih (hstep start event next hstart h.1 hnext) (h.2 next hnext)⟩

/-- Where an invariant is kept by the steps that meet a condition, a property that every step
from a state of the invariant has exactly if it meets the condition holds along the same runs. -/
theorem along_iff_along {invariant : σ → Prop} {condition other : σ → ε → Prop}
    (hstep : ∀ state event next, invariant state → condition state event →
      step state event = some next → invariant next)
    (hiff : ∀ state event, invariant state → (condition state event ↔ other state event))
    {start : σ} {events : List ε} (hstart : invariant start) :
    Along step condition start events ↔ Along step other start events := by
  induction events generalizing start with
  | nil => exact Iff.rfl
  | cons event events ih =>
      rw [Along, Along, ← hiff start event hstart]
      refine and_congr_right fun hcondition => forall₂_congr fun next hnext => ?_
      exact ih (hstep start event next hstart hcondition hnext)

/-- Two conditions that agree in the states an invariant describes, where an assumption on the
step holds, are met along the same runs. -/
theorem along_iff_of_invariant {invariant : σ → Prop} {assumed condition other : σ → ε → Prop}
    (hstep : ∀ state event next, invariant state → step state event = some next → invariant next)
    (hiff : ∀ state event, invariant state → assumed state event →
      (condition state event ↔ other state event))
    {start : σ} {events : List ε} (hstart : invariant start)
    (hassumed : Along step assumed start events) :
    Along step condition start events ↔ Along step other start events := by
  induction events generalizing start with
  | nil => exact Iff.rfl
  | cons event events ih =>
      refine and_congr (hiff start event hstart hassumed.1) (forall₂_congr fun next hnext => ?_)
      exact ih (hstep start event next hstart hnext) (hassumed.2 next hnext)

/-! ## Runs through good states -/

variable (step) in
/-- Every event happens, and every state on the way is good. -/
def Always (good : σ → Prop) : σ → List ε → Prop
  | state, [] => good state
  | state, event :: events =>
      good state ∧ ∃ next, step state event = some next ∧ Always good next events

lemma Always.start {good : σ → Prop} {start : σ} {events : List ε}
    (h : Always step good start events) : good start := by
  cases events with
  | nil => exact h
  | cons event events => exact h.1

/-- Where the steps that meet a condition keep an invariant of good states, and a step that does
not meet it cannot happen or leaves no good state, the runs through good states are those along
the condition. -/
theorem always_iff_along {invariant good : σ → Prop} {assumed condition : σ → ε → Prop}
    (hgood : ∀ state, invariant state → good state)
    (hkeep : ∀ state event, invariant state → assumed state event → condition state event →
      ∃ next, step state event = some next ∧ invariant next)
    (hbreak : ∀ state event next, invariant state → assumed state event →
      ¬ condition state event → step state event = some next → ¬ good next)
    {start : σ} {events : List ε} (hstart : invariant start)
    (hassumed : Along step assumed start events) :
    Always step good start events ↔ Along step condition start events := by
  induction events generalizing start with
  | nil => exact iff_of_true (hgood start hstart) trivial
  | cons event events ih =>
      constructor
      · rintro ⟨-, next, hnext, hrest⟩
        have hcondition : condition start event := by
          by_contra hnot
          exact hbreak start event next hstart hassumed.1 hnot hnext hrest.start
        obtain ⟨kept, hkept, hinvariant⟩ := hkeep start event hstart hassumed.1 hcondition
        refine ⟨hcondition, fun other hother => ?_⟩
        rw [Option.mem_unique hother hnext]
        rw [Option.mem_unique hkept hnext] at hinvariant
        exact (ih hinvariant (hassumed.2 next hnext)).mp hrest
      · rintro ⟨hcondition, hrest⟩
        obtain ⟨next, hnext, hinvariant⟩ := hkeep start event hstart hassumed.1 hcondition
        refine ⟨hgood start hstart, next, hnext, ?_⟩
        exact (ih hinvariant (hassumed.2 next hnext)).mpr (hrest next hnext)

/-! ## Simulation -/

/-- Where each step is a run of another machine between the states that stand for its own, so is
each run, and it meets a condition that says the same of the steps of both. -/
theorem exists_run_of_simulation {σ' ε' : Type*} {step' : σ' → ε' → Option σ'}
    (view : σ → σ') (shadow : σ → ε → List ε') {condition : σ → ε → Prop}
    {condition' : σ' → ε' → Prop}
    (hstep : ∀ state event next, step state event = some next →
      run step' (view state) (shadow state event) = some (view next))
    (hcondition : ∀ state event,
      condition state event ↔ Along step' condition' (view state) (shadow state event))
    {start finish : σ} {events : List ε} (hrun : run step start events = some finish) :
    ∃ events', run step' (view start) events' = some (view finish) ∧
      (Along step condition start events ↔ Along step' condition' (view start) events') := by
  induction events generalizing start with
  | nil =>
      cases hrun
      exact ⟨[], rfl, Iff.rfl⟩
  | cons event events ih =>
      obtain ⟨next, hnext, hrest⟩ := Option.bind_eq_some_iff.mp hrun
      obtain ⟨events', hrun', hiff⟩ := ih hrest
      have hfirst := hstep start event next hnext
      refine ⟨shadow start event ++ events', ?_, ?_⟩
      · rw [run_append, hfirst]
        exact hrun'
      · rw [along_append, Along, hcondition start event]
        refine and_congr_right fun _ => ⟨fun h middle hmiddle => ?_, fun h other hother => ?_⟩
        · have hsame : view next = middle := Option.some.inj (hfirst.symm.trans hmiddle)
          rw [← hsame]
          exact hiff.mp (h next hnext)
        · rw [← Option.mem_unique hnext hother]
          exact hiff.mpr (h (view next) hfirst)

end AgentBigBrain.Lib
