import Mathlib.Data.List.Basic

/-!
# Names that stand for changing things

A name stands for some things until it stands for others. An observer sees things gone. A log of
both, the newest entry first, tells whether what a name stands for now has been seen gone: what was
seen before the name stood for it does not count.
-/
namespace AgentBigBrain.Lib

inductive Sighting (ν τ : Type*) where
  | stands (name : ν) (things : List τ)
  | gone (thing : τ)
  deriving DecidableEq

namespace Sighting

variable {ν τ : Type*} [DecidableEq ν]

/-- The things that the name stands for. -/
def current (name : ν) : List (Sighting ν τ) → List τ
  | [] => []
  | .stands other things :: log => if other = name then things else current name log
  | .gone _ :: log => current name log

/-- Something that the name stands for was seen gone while it stood for it. -/
def SeenGone (name : ν) : List (Sighting ν τ) → Prop
  | [] => False
  | .stands other _ :: log => other ≠ name ∧ SeenGone name log
  | .gone thing :: log => thing ∈ current name log ∨ SeenGone name log

instance decidableSeenGone [DecidableEq τ] (name : ν) :
    ∀ log : List (Sighting ν τ), Decidable (SeenGone name log)
  | [] => inferInstanceAs (Decidable False)
  | .stands other _ :: log =>
      have := decidableSeenGone name log
      inferInstanceAs (Decidable (other ≠ name ∧ SeenGone name log))
  | .gone thing :: log =>
      have := decidableSeenGone name log
      inferInstanceAs (Decidable (thing ∈ current name log ∨ SeenGone name log))

@[simp] lemma current_stands_self (name : ν) (things : List τ) (log : List (Sighting ν τ)) :
    current name (.stands name things :: log) = things :=
  if_pos rfl

lemma current_stands_of_ne {name other : ν} (h : other ≠ name) (things : List τ)
    (log : List (Sighting ν τ)) :
    current name (.stands other things :: log) = current name log :=
  if_neg h

@[simp] lemma current_gone (name : ν) (thing : τ) (log : List (Sighting ν τ)) :
    current name (.gone thing :: log) = current name log := rfl

/-- Seeing things gone does not change what a name stands for. -/
@[simp] lemma current_gone_append (name : ν) (things : List τ) (log : List (Sighting ν τ)) :
    current name (things.map .gone ++ log) = current name log := by
  induction things with
  | nil => rfl
  | cons thing things ih => exact ih

lemma seenGone_gone_append (name : ν) (things : List τ) (log : List (Sighting ν τ)) :
    SeenGone name (things.map .gone ++ log) ↔
      (∃ thing ∈ things, thing ∈ current name log) ∨ SeenGone name log := by
  induction things with
  | nil => simp
  | cons thing things ih =>
      have hcons : SeenGone name ((thing :: things).map .gone ++ log) ↔
          thing ∈ current name (things.map .gone ++ log) ∨
            SeenGone name (things.map .gone ++ log) := Iff.rfl
      rw [hcons, ih, current_gone_append]
      simp only [List.mem_cons, exists_eq_or_imp]
      exact or_assoc.symm

/-- Once seen gone, it stays so while the name stands for the same. -/
lemma SeenGone.append_gone {name : ν} {log : List (Sighting ν τ)} (h : SeenGone name log)
    (things : List τ) : SeenGone name (things.map .gone ++ log) :=
  (seenGone_gone_append name things log).mpr (.inr h)

end Sighting

end AgentBigBrain.Lib
