import AgentBigBrain.Js.Sort

/-!
# Sorting by a test that need not be an order

A comparator of the source may order its elements by one key where both have it and by another
where one of them lacks it; such a test need not be transitive, and the language then leaves the
order of the result to the host. What every host does is to permute the elements, and to sort
them stably where the test is a comparator on them.
-/
namespace AgentBigBrain.Js

structure HostSort where
  /-- `xs.sort(compare)`, with `compare(a, b) <= 0` as a test. -/
  sort : ∀ {α : Type}, (α → α → Bool) → List α → List α
  perm : ∀ {α : Type} (le : α → α → Bool) (xs : List α), (sort le xs).Perm xs
  sort_eq : ∀ {α : Type} (c : Comparator α) (le : α → α → Bool) (xs : List α),
    (∀ x ∈ xs, ∀ y ∈ xs, le x y = c.le x y) → sort le xs = c.sort xs

namespace HostSort

variable {α : Type}

lemma mem_sort (s : HostSort) {le : α → α → Bool} {xs : List α} {x : α} :
    x ∈ s.sort le xs ↔ x ∈ xs :=
  (s.perm le xs).mem_iff

/-- The result depends on the answers about the elements alone. -/
def AsksElements (s : HostSort) : Prop :=
  ∀ {α : Type} (le le' : α → α → Bool) (xs : List α), (∀ x ∈ xs, ∀ y ∈ xs, le x y = le' x y) →
    s.sort le xs = s.sort le' xs

/-- Insertion goes by the same tests as another that agrees with it. -/
lemma orderedInsert_congr {le le' : α → α → Bool} {x : α} {ys : List α}
    (h : ∀ y ∈ ys, le x y = le' x y) :
    ys.orderedInsert (fun a b => le a b = true) x =
      ys.orderedInsert (fun a b => le' a b = true) x := by
  induction ys with
  | nil => rfl
  | cons y ys ih =>
      have hhead : le x y = le' x y := h y List.mem_cons_self
      have htail := ih fun z hz => h z (List.mem_cons_of_mem _ hz)
      simp only [List.orderedInsert_cons, hhead, htail]

lemma insertionSort_congr {le le' : α → α → Bool} {xs : List α}
    (h : ∀ x ∈ xs, ∀ y ∈ xs, le x y = le' x y) :
    xs.insertionSort (fun a b => le a b = true) =
      xs.insertionSort (fun a b => le' a b = true) := by
  induction xs with
  | nil => rfl
  | cons x xs ih =>
      have htail := ih fun y hy z hz =>
        h y (List.mem_cons_of_mem _ hy) z (List.mem_cons_of_mem _ hz)
      rw [List.insertionSort_cons, List.insertionSort_cons, htail]
      refine orderedInsert_congr fun y hy => ?_
      exact h x List.mem_cons_self y (List.mem_cons_of_mem _ ((List.mem_insertionSort _).mp hy))

/-- A host that sorts by insertion. -/
def insertion : HostSort where
  sort le xs := xs.insertionSort fun a b => le a b = true
  perm _ xs := List.perm_insertionSort _ xs
  sort_eq _ _ _ h := insertionSort_congr h

lemma insertion_asksElements : insertion.AsksElements := fun _ _ _ h => insertionSort_congr h

end HostSort

end AgentBigBrain.Js
