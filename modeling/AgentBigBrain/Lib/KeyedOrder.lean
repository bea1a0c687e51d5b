import AgentBigBrain.Lib.KeyedMerge
import Mathlib.Data.List.Perm.Subperm

/-!
# The order in which a map lists its values

A map lists its keys in the order in which they were first written. So records that no later
write replaces stay in front, and a list can be brought before a map in an order that makes the
map list given records first.
-/
namespace AgentBigBrain.Lib

variable {α β κ : Type*}

/-- One list in two orders, told apart by nothing that the order of the attributes shows. -/
lemma eq_of_perm_of_map_eq {f : α → β} {xs ys : List α} (hperm : xs.Perm ys)
    (hmap : xs.map f = ys.map f) (hnodup : (ys.map f).Nodup) : xs = ys := by
  induction ys generalizing xs with
  | nil => exact hperm.eq_nil
  | cons y ys ih =>
      cases xs with
      | nil => exact absurd hperm.symm.eq_nil (List.cons_ne_nil y ys)
      | cons x xs =>
          obtain ⟨hhead, htail⟩ := List.cons.inj hmap
          have hx : x ∈ y :: ys := hperm.mem_iff.mp List.mem_cons_self
          have hxy : x = y := List.inj_on_of_nodup_map hnodup hx List.mem_cons_self hhead
          subst hxy
          rw [ih ((List.perm_cons x).mp hperm) htail (List.nodup_cons.mp hnodup).2]

/-- Distinct elements of a list can be brought to its front. -/
lemma exists_perm_append_of_subset {xs ys : List α} (hnodup : xs.Nodup) (hsub : xs ⊆ ys) :
    ∃ rest, ys.Perm (xs ++ rest) := by
  obtain ⟨front, hperm, hfront⟩ := List.subperm_of_subset hnodup hsub
  obtain ⟨rest, hrest⟩ := hfront.exists_perm_append
  exact ⟨rest, hrest.trans (hperm.append_right rest)⟩

/-- An order of what is read from a list is the order in which some order of the list is read. -/
lemma exists_perm_of_filterMap_perm {read : α → Option β} {xs : List α} {ys : List β}
    (h : (xs.filterMap read).Perm ys) : ∃ xs', xs.Perm xs' ∧ xs'.filterMap read = ys := by
  induction ys generalizing xs with
  | nil => exact ⟨xs, List.Perm.refl xs, h.eq_nil⟩
  | cons y ys ih =>
      obtain ⟨x, hx, hy⟩ := List.mem_filterMap.mp (h.mem_iff.mpr List.mem_cons_self)
      obtain ⟨front, back, rfl⟩ := List.append_of_mem hx
      have hfront : (front ++ x :: back).Perm (x :: (front ++ back)) := List.perm_middle
      have hrest : ((front ++ back).filterMap read).Perm ys := by
        have hread := (hfront.filterMap read).symm.trans h
        rw [List.filterMap_cons_some hy] at hread
        exact (List.perm_cons y).mp hread
      obtain ⟨xs', hperm, hmap⟩ := ih hrest
      exact ⟨x :: xs', hfront.trans (hperm.cons x), by rw [List.filterMap_cons_some hy, hmap]⟩

namespace KeyedMerge

variable (m : KeyedMerge α κ) [DecidableEq κ]

lemma upsert_append_of_kept {x : α} {front : List α} (back : List α)
    (hkept : ∀ y ∈ front, m.key y = m.key x → m.choose y x = y) :
    ∃ back', m.upsert x (front ++ back) = front ++ back' := by
  induction front with
  | nil => exact ⟨m.upsert x back, rfl⟩
  | cons y front ih =>
      by_cases hkey : m.key y = m.key x
      · refine ⟨back, ?_⟩
        rw [List.cons_append, upsert, if_pos hkey, hkept y List.mem_cons_self hkey]
      · obtain ⟨back', hback⟩ := ih fun z hz => hkept z (List.mem_cons_of_mem y hz)
        refine ⟨back', ?_⟩
        rw [List.cons_append, upsert, if_neg hkey, hback]
        rfl

/-- Records that no write replaces stay in front. -/
theorem collect_append_of_kept {xs front : List α} (back : List α)
    (hkept : ∀ y ∈ front, ∀ x ∈ xs, m.key y = m.key x → m.choose y x = y) :
    ∃ back', m.collect (front ++ back) xs = front ++ back' := by
  induction xs generalizing back with
  | nil => exact ⟨back, rfl⟩
  | cons x xs ih =>
      obtain ⟨back', hback⟩ := m.upsert_append_of_kept back
        fun y hy => hkept y hy x List.mem_cons_self
      obtain ⟨back'', hback'⟩ := ih back' fun y hy z hz =>
        hkept y hy z (List.mem_cons_of_mem x hz)
      exact ⟨back'', by rw [collect_cons, hback, hback']⟩

/-- The keys that are there stay in front. -/
theorem keys_prefix_collect (base xs : List α) :
    base.map m.key <+: (m.collect base xs).map m.key := by
  induction xs generalizing base with
  | nil => exact List.prefix_refl _
  | cons x xs ih =>
      have hstep : base.map m.key <+: (m.upsert x base).map m.key := by
        rw [map_key_upsert]
        split_ifs
        · exact List.prefix_refl _
        · exact List.prefix_append _ _
      exact hstep.trans (ih (m.upsert x base))

lemma collect_append (base xs ys : List α) :
    m.collect base (xs ++ ys) = m.collect (m.collect base xs) ys := by
  simp [collect]

end KeyedMerge

end AgentBigBrain.Lib
