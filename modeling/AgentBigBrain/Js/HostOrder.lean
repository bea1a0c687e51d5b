import AgentBigBrain.Js.HostSort
import AgentBigBrain.Js.Platform

/-!
# Tests that order a list

A test that is total and transitive on the elements of a list agrees there with a comparator, so
every host sorts the list by it. Where it puts three elements in a circle, a host that inserts one
element after another leaves them in an order that depends on the order of the list.
-/
namespace AgentBigBrain.Js

variable {α : Type} {le : α → α → Bool} {xs ys : List α}

/-- The test is total and transitive on the elements. -/
structure OrdersList (le : α → α → Bool) (xs : List α) : Prop where
  total : ∀ x ∈ xs, ∀ y ∈ xs, le x y = true ∨ le y x = true
  trans : ∀ x ∈ xs, ∀ y ∈ xs, ∀ z ∈ xs, le x y = true → le y z = true → le x z = true

/-- How many elements the test puts no later than the given one. -/
def rankIn (le : α → α → Bool) (xs : List α) (x : α) : ℕ :=
  xs.countP fun y => le y x

namespace OrdersList

lemma of_perm (h : OrdersList le xs) (hperm : xs.Perm ys) : OrdersList le ys where
  total x hx y hy := h.total x (hperm.mem_iff.mpr hx) y (hperm.mem_iff.mpr hy)
  trans x hx y hy z hz :=
    h.trans x (hperm.mem_iff.mpr hx) y (hperm.mem_iff.mpr hy) z (hperm.mem_iff.mpr hz)

lemma of_comparator (c : Comparator α) (h : ∀ x ∈ xs, ∀ y ∈ xs, le x y = c.le x y) :
    OrdersList le xs where
  total x hx y hy := by
    rw [h x hx y hy, h y hy x hx]
    exact c.total x y
  trans x hx y hy z hz := by
    rw [h x hx y hy, h y hy z hz, h x hx z hz]
    exact c.trans x y z

lemma refl (h : OrdersList le xs) {x : α} (hx : x ∈ xs) : le x x = true := by
  simpa using h.total x hx x hx

lemma le_iff_rankIn_le (h : OrdersList le xs) {x y : α} (hx : x ∈ xs) (hy : y ∈ xs) :
    le x y = true ↔ rankIn le xs x ≤ rankIn le xs y := by
  constructor
  · intro hxy
    refine List.countP_mono_left fun z hz hzx => ?_
    exact h.trans z hz x hx y hy hzx hxy
  · intro hrank
    by_contra hxy
    have hyx : le y x = true := (h.total x hx y hy).resolve_left hxy
    -- What comes before `y` comes before `x`, and `x` itself does not come before `y`.
    have hle : ∀ z ∈ xs, le z y = true → le z x = true :=
      fun z hz hzy => h.trans z hz y hy x hx hzy hyx
    have hlt : rankIn le xs y < rankIn le xs x := by
      unfold rankIn
      rw [List.countP_eq_length_filter, List.countP_eq_length_filter]
      have hsub : (xs.filter fun z => le z y).Sublist (xs.filter fun z => le z x) := by
        have hfilter : xs.filter (fun z => le z y) =
            (xs.filter fun z => le z x).filter fun z => le z y := by
          rw [List.filter_filter]
          refine List.filter_congr fun z hz => ?_
          cases hzy : le z y with
          | false => rfl
          | true => rw [hle z hz hzy]; rfl
        rw [hfilter]
        exact List.filter_sublist
      refine lt_of_le_of_ne hsub.length_le fun hsame => ?_
      have hmem : x ∈ xs.filter fun z => le z x :=
        List.mem_filter.mpr ⟨hx, h.refl hx⟩
      rw [← hsub.eq_of_length hsame] at hmem
      exact hxy (List.mem_filter.mp hmem).2
    omega

/-- A comparator that agrees with the test on the list. -/
theorem exists_comparator (h : OrdersList le xs) :
    ∃ c : Comparator α, ∀ x ∈ xs, ∀ y ∈ xs, le x y = c.le x y := by
  refine ⟨(numberOrder ℕ).byKey (rankIn le xs), fun x hx y hy => ?_⟩
  rw [Bool.eq_iff_iff, h.le_iff_rankIn_le hx hy]
  simp [numberOrder]

end OrdersList

/-- In a list without repetitions two elements stand in one order only. -/
lemma eq_of_sublist_pairs {x y : α} (hnodup : xs.Nodup) (hxy : [x, y].Sublist xs)
    (hyx : [y, x].Sublist xs) : x = y := by
  induction xs with
  | nil => simp at hxy
  | cons a xs ih =>
      obtain ⟨ha, hrest⟩ := List.nodup_cons.mp hnodup
      rcases List.sublist_cons_iff.mp hxy with hxy | ⟨r, hr, -⟩
      · rcases List.sublist_cons_iff.mp hyx with hyx | ⟨r, hr, -⟩
        · exact ih hrest hxy hyx
        · have hy : y = a := (List.cons.inj hr).1
          exact absurd (hy ▸ hxy.subset (by simp)) ha
      · have hx : x = a := (List.cons.inj hr).1
        rcases List.sublist_cons_iff.mp hyx with hyx | ⟨r, hr, -⟩
        · exact absurd (hx ▸ hyx.subset (by simp)) ha
        · exact hx.trans (List.cons.inj hr).1.symm

namespace HostSort

/-- Every host sorts by a test that orders the list. -/
theorem pairwise_sort (s : HostSort) (h : OrdersList le xs) :
    (s.sort le xs).Pairwise fun x y => le x y = true := by
  obtain ⟨c, hc⟩ := h.exists_comparator
  rw [s.sort_eq c le xs hc]
  refine (c.sorted_sort xs).imp_of_mem fun {x y} hx hy hxy => ?_
  rw [hc x (c.mem_sort.mp hx) y (c.mem_sort.mp hy)]
  exact hxy

/-- Where the test tells all elements apart, the order of the list does not matter. -/
theorem sort_eq_of_perm (s : HostSort) (h : OrdersList le xs) (hperm : xs.Perm ys)
    (hanti : ∀ x ∈ xs, ∀ y ∈ xs, le x y = true → le y x = true → x = y) :
    s.sort le xs = s.sort le ys := by
  have hsorted : (s.sort le xs).Perm (s.sort le ys) :=
    (s.perm le xs).trans (hperm.trans (s.perm le ys).symm)
  refine List.Perm.eq_of_pairwise ?_ (s.pairwise_sort h) (s.pairwise_sort (h.of_perm hperm))
    hsorted
  intro x y hx hy hxy hyx
  exact hanti x (s.mem_sort.mp hx) y (hperm.mem_iff.mpr (s.mem_sort.mp hy)) hxy hyx

/-- Insertion of further elements in front leaves the elements that are there in their order. -/
lemma sublist_insertion (le : α → α → Bool) (first xs : List α) :
    (insertion.sort le xs).Sublist (insertion.sort le (first ++ xs)) := by
  induction first with
  | nil => exact List.Sublist.refl _
  | cons x first ih => exact ih.trans (List.sublist_orderedInsert x _)

/-- Three elements of which the test puts each before the next stay at the end of a list in the
order in which they stand. -/
lemma sublist_insertion_three {first : List α} {x y z : α} (hxy : le x y = true)
    (hyz : le y z = true) :
    [x, y, z].Sublist (insertion.sort le (first ++ [x, y, z])) := by
  have hthree : insertion.sort le [x, y, z] = [x, y, z] := by
    simp [insertion, hxy, hyz]
  have hkept := sublist_insertion le first [x, y, z]
  rwa [hthree] at hkept

/-- Where the test puts three elements in a circle, insertion does not order them all alike. -/
theorem insertion_of_circle {first first' : List α} {x y z : α} (hxy : le x y = true)
    (hyz : le y z = true) (hzx : le z x = true) (hnodup : (first ++ [x, y, z]).Nodup) :
    insertion.sort le (first ++ [x, y, z]) ≠ insertion.sort le (first' ++ [z, x, y]) := by
  intro hsame
  have hdistinct : (insertion.sort le (first ++ [x, y, z])).Nodup :=
    (insertion.perm le _).nodup_iff.mpr hnodup
  have hbefore : [x, z].Sublist (insertion.sort le (first ++ [x, y, z])) :=
    (List.Sublist.cons_cons x (List.sublist_cons_self y [z])).trans
      (sublist_insertion_three hxy hyz)
  have hafter : [z, x].Sublist (insertion.sort le (first ++ [x, y, z])) := by
    rw [hsame]
    exact (List.Sublist.cons_cons z (List.sublist_append_left [x] [y])).trans
      (sublist_insertion_three hzx hxy)
  have hne : x ≠ z := by
    have hthree := (List.nodup_append.mp hnodup).2.1
    simp only [List.nodup_cons, List.mem_cons, not_or] at hthree
    exact hthree.1.2.1
  exact hne (eq_of_sublist_pairs hdistinct hbefore hafter)

open Classical in
/-- A host that answers one question about a list as it likes, and sorts by insertion else. -/
noncomputable def answering {α : Type} (le : α → α → Bool) (xs ys : List α) (hperm : ys.Perm xs)
    (hfree : ¬ OrdersList le xs) : HostSort where
  sort {β} test zs :=
    if h : ∃ hsame : α = β, zs = hsame ▸ xs ∧
        ∀ x ∈ xs, ∀ y ∈ xs, test (hsame ▸ x) (hsame ▸ y) = le x y then
      h.choose ▸ ys
    else insertion.sort test zs
  perm {β} test zs := by
    split_ifs with h
    · obtain ⟨hsame, hzs, -⟩ := h
      subst hsame
      simpa [hzs] using hperm
    · exact insertion.perm test zs
  sort_eq {β} c test zs hagrees := by
    split_ifs with h
    · obtain ⟨hsame, hzs, htest⟩ := h
      subst hsame
      refine absurd (OrdersList.of_comparator c fun x hx y hy => ?_) hfree
      rw [← htest x hx y hy]
      subst hzs
      exact hagrees x hx y hy
    · exact insertion.sort_eq c test zs hagrees

lemma answering_sort (hperm : ys.Perm xs) (hfree : ¬ OrdersList le xs) :
    (answering le xs ys hperm hfree).sort le xs = ys := by
  have h : ∃ hsame : α = α, xs = hsame ▸ xs ∧
      ∀ x ∈ xs, ∀ y ∈ xs, le (hsame ▸ x) (hsame ▸ y) = le x y :=
    ⟨rfl, rfl, fun _ _ _ _ => rfl⟩
  unfold answering
  exact dif_pos h

end HostSort

end AgentBigBrain.Js
