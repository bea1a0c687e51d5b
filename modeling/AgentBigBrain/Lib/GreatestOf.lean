import Mathlib.Data.List.Perm.Basic
import Mathlib.Order.Lattice

/-!
# Folds that keep a greatest value

A fold that merges records one by one may keep, in one of their fields, a value that is greatest
by some measure. Which of several greatest values it keeps depends on the order of the records;
the result does not where there is only one.
-/
namespace AgentBigBrain.Lib

variable {α β γ : Type*} [LinearOrder β]

structure GreatestOf (measure : γ → β) (values : List γ) (value : γ) : Prop where
  mem : value ∈ values
  le : ∀ other ∈ values, measure other ≤ measure value

/-- The greatest values are one. -/
def OneGreatest (measure : γ → β) (values : List γ) : Prop :=
  ∀ value other, GreatestOf measure values value → GreatestOf measure values other → value = other

variable {measure : γ → β} {values others : List γ} {value other : γ}

lemma GreatestOf.of_perm (h : GreatestOf measure values value) (hperm : values.Perm others) :
    GreatestOf measure others value where
  mem := hperm.mem_iff.mp h.mem
  le other hother := h.le other (hperm.mem_iff.mpr hother)

lemma oneGreatest_of_injOn (h : ∀ value ∈ values, ∀ other ∈ values,
    measure value = measure other → value = other) : OneGreatest measure values :=
  fun value other hvalue hother => h value hvalue.mem other hother.mem
    (le_antisymm (hother.le value hvalue.mem) (hvalue.le other hother.mem))

/-- Two folds over the same records in another order keep the same value. -/
theorem GreatestOf.eq_of_perm (h : GreatestOf measure values value)
    (hother : GreatestOf measure others other) (hperm : values.Perm others)
    (hone : OneGreatest measure values) : value = other :=
  hone value other h (hother.of_perm hperm.symm)

/-- A merge that keeps the value of one of its sides, a greater one. -/
def KeepsGreater (measure : γ → β) (field : α → γ) (merge : α → α → α) (left right : α) : Prop :=
  (field (merge left right) = field left ∧ measure (field right) ≤ measure (field left)) ∨
    (field (merge left right) = field right ∧ measure (field left) ≤ measure (field right))

/-- Such a merge, folded, keeps a greatest value. -/
theorem greatestOf_foldl {field : α → γ} {merge : α → α → α} {P : α → Prop}
    (hkept : ∀ left right, P left → P right → P (merge left right))
    (hmerge : ∀ left right, P left → P right → KeepsGreater measure field merge left right)
    {first : α} {rest : List α} (hfirst : P first) (hrest : ∀ x ∈ rest, P x) :
    GreatestOf measure ((first :: rest).map field) (field (rest.foldl merge first)) := by
  induction rest generalizing first with
  | nil => exact ⟨List.mem_singleton_self _, fun other hother => by simp_all⟩
  | cons x rest ih =>
      have hx := hrest x List.mem_cons_self
      have htail := ih (hkept first x hfirst hx) fun y hy => hrest y (List.mem_cons_of_mem x hy)
      have hmerged := htail.le (field (merge first x)) List.mem_cons_self
      have hle := fun other hother => htail.le other (List.mem_cons_of_mem _ hother)
      have hmem := List.mem_cons.mp htail.mem
      refine ⟨?_, fun other hother => ?_⟩
      · rcases hmem with hhead | hlater
        · rcases hmerge first x hfirst hx with ⟨hfield, -⟩ | ⟨hfield, -⟩
          · exact List.mem_cons.mpr (Or.inl (hhead.trans hfield))
          · exact List.mem_cons_of_mem _ (List.mem_cons.mpr (Or.inl (hhead.trans hfield)))
        · exact List.mem_cons_of_mem _ (List.mem_cons_of_mem _ hlater)
      · rcases List.mem_cons.mp hother with rfl | hother
        · rcases hmerge first x hfirst hx with ⟨hfield, -⟩ | ⟨hfield, hless⟩
          · exact hfield ▸ hmerged
          · exact hless.trans (hfield ▸ hmerged)
        · rcases List.mem_cons.mp hother with rfl | hlater
          · rcases hmerge first x hfirst hx with ⟨hfield, hless⟩ | ⟨hfield, -⟩
            · exact hless.trans (hfield ▸ hmerged)
            · exact hfield ▸ hmerged
          · exact hle other hlater

end AgentBigBrain.Lib
