import AgentBigBrain.Js.Sort

/-!
# What a stable sort makes of ties

A stable sort leaves tied elements in the order in which they stand. So it gives one result for
two lists exactly if every class of tied elements stands in the same order in both.
-/
namespace AgentBigBrain.Js.Comparator

variable {α β : Type*} (c : Comparator α)

/-- The comparator does not tell the two apart. -/
def tied (a b : α) : Bool :=
  c.le a b && c.le b a

lemma tied_iff {a b : α} : c.tied a b = true ↔ c.le a b = true ∧ c.le b a = true := by
  simp [tied]

@[simp] lemma tied_self (a : α) : c.tied a a = true := by
  simp [tied]

lemma filter_orderedInsert (p : α → Bool) (a : α) {xs : List α} (h : c.Sorted xs) :
    (xs.orderedInsert (fun x y => c.le x y = true) a).filter p =
      if p a then (xs.filter p).orderedInsert (fun x y => c.le x y = true) a
      else xs.filter p := by
  induction xs with
  | nil => by_cases hp : p a <;> simp [hp]
  | cons x xs ih =>
      obtain ⟨hx, hxs⟩ := List.pairwise_cons.mp h
      rw [List.orderedInsert_cons]
      by_cases hax : c.le a x = true
      · -- What the filter leaves of the rest comes after `a` too.
        have hfirst : ((x :: xs).filter p).orderedInsert (fun x y => c.le x y = true) a =
            a :: (x :: xs).filter p := by
          have hall : ∀ y ∈ (x :: xs).filter p, c.le a y = true := by
            intro y hy
            rcases List.mem_cons.mp (List.mem_of_mem_filter hy) with rfl | hy
            · exact hax
            · exact c.trans a x y hax (hx y hy)
          cases hrest : (x :: xs).filter p with
          | nil => rfl
          | cons y ys =>
              rw [List.orderedInsert_cons, if_pos (hall y (by simp [hrest]))]
        rw [if_pos hax, List.filter_cons, hfirst]
      · rw [if_neg hax, List.filter_cons, List.filter_cons, ih hxs]
        by_cases hp : p a
        · by_cases hpx : p x
          · simp [hp, hpx, hax]
          · simp [hp, hpx]
        · simp [hp]

/-- A part of a list is sorted as it is in the whole. -/
theorem filter_sort (p : α → Bool) (xs : List α) :
    (c.sort xs).filter p = c.sort (xs.filter p) := by
  induction xs with
  | nil => rfl
  | cons x xs ih =>
      have hinsert := c.filter_orderedInsert p x (c.sorted_sort xs)
      unfold sort at ih hinsert ⊢
      rw [List.insertionSort_cons, hinsert, ih, List.filter_cons]
      split <;> rfl

lemma filter_tied_sort (a : α) (xs : List α) :
    (c.sort xs).filter (c.tied a) = xs.filter (c.tied a) := by
  rw [c.filter_sort]
  refine c.sort_of_sorted (List.pairwise_of_forall_mem_list fun x hx y hy => ?_)
  have hxa := (c.tied_iff.mp (List.mem_filter.mp hx).2).2
  have hay := (c.tied_iff.mp (List.mem_filter.mp hy).2).1
  exact c.trans x a y hxa hay

/-- Sorted lists are told apart by the order in some class of tied elements. -/
lemma eq_of_filter_tied_eq {xs ys : List α} (hxs : c.Sorted xs) (hys : c.Sorted ys)
    (h : ∀ a, xs.filter (c.tied a) = ys.filter (c.tied a)) : xs = ys := by
  induction xs generalizing ys with
  | nil =>
      cases ys with
      | nil => rfl
      | cons y ys =>
          have hy := h y
          simp at hy
  | cons x xs ih =>
      cases ys with
      | nil =>
          have hx := h x
          simp at hx
      | cons y ys =>
          have hxmem : x ∈ (y :: ys).filter (c.tied x) := by
            rw [← h x]
            simp
          have hymem : y ∈ (x :: xs).filter (c.tied y) := by
            rw [h y]
            simp
          have hyx : c.le y x = true := by
            rcases List.mem_cons.mp (List.mem_of_mem_filter hxmem) with rfl | hx
            · exact c.le_refl x
            · exact (List.pairwise_cons.mp hys).1 x hx
          have hxy : c.le x y = true := by
            rcases List.mem_cons.mp (List.mem_of_mem_filter hymem) with rfl | hy
            · exact c.le_refl y
            · exact (List.pairwise_cons.mp hxs).1 y hy
          have hhead := h x
          rw [List.filter_cons_of_pos (c.tied_self x),
            List.filter_cons_of_pos (c.tied_iff.mpr ⟨hxy, hyx⟩)] at hhead
          obtain ⟨rfl, -⟩ := List.cons.inj hhead
          rw [ih (List.pairwise_cons.mp hxs).2 (List.pairwise_cons.mp hys).2 fun a => ?_]
          have ha := h a
          by_cases htied : c.tied a x = true
          · rw [List.filter_cons_of_pos htied, List.filter_cons_of_pos htied] at ha
            exact (List.cons.inj ha).2
          · rwa [List.filter_cons_of_neg htied, List.filter_cons_of_neg htied] at ha

theorem sort_eq_sort_iff {xs ys : List α} :
    c.sort xs = c.sort ys ↔ ∀ a, xs.filter (c.tied a) = ys.filter (c.tied a) := by
  constructor
  · intro h a
    rw [← c.filter_tied_sort a xs, h, c.filter_tied_sort]
  · intro h
    refine c.eq_of_filter_tied_eq (c.sorted_sort xs) (c.sorted_sort ys) fun a => ?_
    rw [c.filter_tied_sort, c.filter_tied_sort, h]

end AgentBigBrain.Js.Comparator
