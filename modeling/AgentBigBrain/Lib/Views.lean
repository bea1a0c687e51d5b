import Mathlib.Data.Bool.Basic
import Mathlib.Data.List.Find

/-!
# Views of keyed lists

An observer sees some elements of a list, and looks elements up by a key, where the last one of a
key counts. What is hidden leaves no trace in a lookup as long as no hidden element shares its key
with one that is seen.
-/
namespace AgentBigBrain.Lib

variable {α κ : Type*} {seen : α → Bool} {key : α → κ} {xs : List α}

/-- No hidden element has the key of one that is seen. -/
def Unshadowed (seen : α → Bool) (key : α → κ) (xs : List α) : Prop :=
  ∀ hidden ∈ xs, seen hidden = false → ∀ x ∈ xs, seen x = true → key hidden ≠ key x

lemma Unshadowed.seen_of_key (h : Unshadowed seen key xs) {x other : α} (hx : x ∈ xs)
    (hseen : seen x = true) (hother : other ∈ xs) (hkey : key other = key x) :
    seen other = true := by
  by_contra hhidden
  exact h other hother (Bool.eq_false_of_not_eq_true hhidden) x hx hseen hkey

/-- A key that some seen element has finds the same element in the view. -/
theorem Unshadowed.find?_reverse [DecidableEq κ] (h : Unshadowed seen key xs) {x : α}
    (hx : x ∈ xs) (hseen : seen x = true) :
    xs.reverse.find? (key · = key x) = (xs.filter seen).reverse.find? (key · = key x) := by
  rw [← List.filter_reverse, List.find?_filter]
  refine List.find?_congr fun other hother => ?_
  by_cases hkey : key other = key x
  · have hotherSeen := h.seen_of_key hx hseen (List.mem_reverse.mp hother) hkey
    simp [hkey, hotherSeen]
  · simp [hkey]

end AgentBigBrain.Lib
