import AgentBigBrain.Js.Text
import Mathlib.Data.List.Sort

/-!
# Comparators and stable sorting

A comparator is what the host's `sort` is called with: it is non-positive on `(a, b)`
exactly when `le a b`. Comparators of the source are total and transitive but seldom
antisymmetric, so a sorted list depends on the order of its tied elements. The host's
sort is stable, and so is `Comparator.sort`.
-/
namespace AgentBigBrain.Js

/-- A total preorder as a Boolean test. -/
structure Comparator (α : Type*) where
  le : α → α → Bool
  total : ∀ a b, le a b = true ∨ le b a = true
  trans : ∀ a b c, le a b = true → le b c = true → le a c = true

namespace Comparator

variable {α β : Type*}

/-- Compare by a key: `(a, b) => compare(a.key, b.key)`. -/
def byKey (c : Comparator β) (key : α → β) : Comparator α where
  le a b := c.le (key a) (key b)
  total a b := c.total (key a) (key b)
  trans x y z := c.trans (key x) (key y) (key z)

/-- `(a, b) => compare(b, a)`. -/
def reverse (c : Comparator α) : Comparator α where
  le a b := c.le b a
  total a b := c.total b a
  trans x y z hxy hyz := c.trans z y x hyz hxy

/-- Compare by `c` and break its ties by `d`. -/
def thenBy (c d : Comparator α) : Comparator α where
  le a b := c.le a b && (!c.le b a || d.le a b)
  total a b := by
    rcases c.total a b with h | h
    · rcases d.total a b with hd | hd
      · exact Or.inl (by simp [h, hd])
      · by_cases hba : c.le b a = true
        · exact Or.inr (by simp [hba, hd])
        · exact Or.inl (by simp [h, hba])
    · rcases d.total b a with hd | hd
      · exact Or.inr (by simp [h, hd])
      · by_cases hab : c.le a b = true
        · exact Or.inl (by simp [hab, hd])
        · exact Or.inr (by simp [h, hab])
  trans x y z hxy hyz := by
    simp only [Bool.and_eq_true, Bool.or_eq_true, Bool.not_eq_true'] at hxy hyz ⊢
    refine ⟨c.trans x y z hxy.1 hyz.1, ?_⟩
    by_cases hzx : c.le z x = true
    · have hyx := c.trans y z x hyz.1 hzx
      have hzy := c.trans z x y hzx hxy.1
      exact Or.inr (d.trans x y z (by simpa [hyx] using hxy.2) (by simpa [hzy] using hyz.2))
    · exact Or.inl (by simpa using hzx)

@[simp] lemma byKey_le (c : Comparator β) (key : α → β) (a b : α) :
    (c.byKey key).le a b = c.le (key a) (key b) := rfl

@[simp] lemma reverse_le (c : Comparator α) (a b : α) : c.reverse.le a b = c.le b a := rfl

@[simp] lemma le_refl (c : Comparator α) (a : α) : c.le a a = true := by
  simpa using c.total a a

/-- `xs.sort(compare)`. -/
def sort (c : Comparator α) (xs : List α) : List α :=
  xs.insertionSort fun a b => c.le a b = true

/-- The order `sort` leaves its result in. -/
def Sorted (c : Comparator α) (xs : List α) : Prop :=
  xs.Pairwise fun a b => c.le a b = true

instance (c : Comparator α) (xs : List α) : Decidable (c.Sorted xs) :=
  inferInstanceAs (Decidable (List.Pairwise _ _))

lemma sort_perm (c : Comparator α) (xs : List α) : (c.sort xs).Perm xs :=
  List.perm_insertionSort _ xs

@[simp] lemma mem_sort (c : Comparator α) {xs : List α} {x : α} : x ∈ c.sort xs ↔ x ∈ xs :=
  (c.sort_perm xs).mem_iff

@[simp] lemma length_sort (c : Comparator α) (xs : List α) : (c.sort xs).length = xs.length :=
  (c.sort_perm xs).length_eq

theorem sorted_sort (c : Comparator α) (xs : List α) : c.Sorted (c.sort xs) := by
  have : Std.Total fun a b => c.le a b = true := ⟨c.total⟩
  have : IsTrans α fun a b => c.le a b = true := ⟨c.trans⟩
  exact List.pairwise_insertionSort _ xs

/-- A sorted list stays as it is, tied elements included. -/
theorem sort_of_sorted (c : Comparator α) {xs : List α} (h : c.Sorted xs) : c.sort xs = xs :=
  List.Pairwise.insertionSort_eq h

@[simp] theorem sort_sort (c : Comparator α) (xs : List α) : c.sort (c.sort xs) = c.sort xs :=
  c.sort_of_sorted (c.sorted_sort xs)

lemma orderedInsert_append (c : Comparator α) {x : α} (xs : List α) {ys : List α}
    (h : ∀ y ∈ ys, c.le x y = true) :
    (xs ++ ys).orderedInsert (fun a b => c.le a b = true) x =
      xs.orderedInsert (fun a b => c.le a b = true) x ++ ys := by
  induction xs with
  | nil => cases ys with
    | nil => rfl
    | cons y ys => simp [h y List.mem_cons_self]
  | cons z xs ih =>
      simp only [List.cons_append, List.orderedInsert_cons]
      split_ifs
      · rfl
      · rw [ih]
        rfl

/-- What comes after everything else is sorted on its own. -/
theorem sort_append (c : Comparator α) {xs ys : List α}
    (h : ∀ x ∈ xs, ∀ y ∈ ys, c.le x y = true) : c.sort (xs ++ ys) = c.sort xs ++ c.sort ys := by
  induction xs with
  | nil => rfl
  | cons x xs ih =>
      have hrest := ih fun a ha => h a (List.mem_cons_of_mem x ha)
      have hx : ∀ y ∈ c.sort ys, c.le x y = true :=
        fun y hy => h x List.mem_cons_self y (c.mem_sort.mp hy)
      unfold sort at hrest hx ⊢
      rw [List.cons_append, List.insertionSort_cons, List.insertionSort_cons, hrest]
      exact c.orderedInsert_append _ hx

/-- Where no two elements are tied, the order of the input does not matter. -/
theorem sort_eq_of_perm (c : Comparator α) {xs ys : List α} (h : xs.Perm ys)
    (hties : ∀ a ∈ xs, ∀ b ∈ xs, c.le a b = true → c.le b a = true → a = b) :
    c.sort xs = c.sort ys := by
  have hperm : (c.sort xs).Perm (c.sort ys) :=
    (c.sort_perm xs).trans (h.trans (c.sort_perm ys).symm)
  refine List.Perm.eq_of_pairwise ?_ (c.sorted_sort xs) (c.sorted_sort ys) hperm
  intro a b ha hb hab hba
  exact hties a (c.mem_sort.mp ha) b (h.mem_iff.mpr (c.mem_sort.mp hb)) hab hba

end Comparator

/-- `left <= right` on strings, as a comparator. -/
def codeUnitOrder : Comparator String where
  le := textLe
  total := textLe_total
  trans _ _ _ := textLe_trans

end AgentBigBrain.Js
