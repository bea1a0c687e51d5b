import AgentBigBrain.Lib.GreatestOf
import AgentBigBrain.Lib.KeyedMerge
import Mathlib.Data.List.Perm.Subperm

/-!
# Maps that keep one of the records of a key

Where a merge chooses between two records of one key, an attribute of the result is an attribute
of one of the records written, each of which is used once. Where the choice is by rank, some
record of the result ranks as high as any record written, and the record of a key carries a
greatest value among those written under it.
-/
namespace AgentBigBrain.Lib.KeyedMerge

variable {α κ β : Type*} (m : KeyedMerge α κ) {f : α → β}

lemma foldl_combine_some (x : α) (xs : List α) :
    xs.foldl m.combine (some x) = some (xs.foldl m.choose x) := by
  induction xs generalizing x with
  | nil => rfl
  | cons y ys ih => exact ih (m.choose x y)

variable [DecidableEq κ]

lemma map_upsert_subperm (hf : ∀ x y, f (m.choose x y) = f x ∨ f (m.choose x y) = f y) (x : α)
    (ys : List α) : ((m.upsert x ys).map f).Subperm (f x :: ys.map f) := by
  induction ys with
  | nil => exact List.Subperm.refl _
  | cons y ys ih =>
      unfold upsert
      split_ifs with hkey
      · rcases hf y x with h | h
        · rw [List.map_cons, h]
          exact List.Subperm.cons_self
        · rw [List.map_cons, h]
          exact (List.Sublist.cons_cons (f x) (List.sublist_cons_self (f y) _)).subperm
      · have hswap : (f y :: f x :: ys.map f).Perm (f x :: f y :: ys.map f) := List.Perm.swap ..
        exact ((List.subperm_cons (f y)).mpr ih).trans hswap.subperm

/-- The attributes of a merged list are taken from the records written, each once. -/
theorem map_collect_subperm (hf : ∀ x y, f (m.choose x y) = f x ∨ f (m.choose x y) = f y)
    (base xs : List α) : ((m.collect base xs).map f).Subperm (base.map f ++ xs.map f) := by
  induction xs generalizing base with
  | nil => simpa [collect] using List.Subperm.refl _
  | cons x xs ih =>
      have hrest : ((m.collect (m.upsert x base) xs).map f).Subperm
          ((m.upsert x base).map f ++ xs.map f) := ih (m.upsert x base)
      have hhead : ((m.upsert x base).map f ++ xs.map f).Subperm
          ((f x :: base.map f) ++ xs.map f) :=
        (List.subperm_append_right _).mpr (m.map_upsert_subperm hf x base)
      have hmiddle : ((f x :: base.map f) ++ xs.map f).Perm (base.map f ++ f x :: xs.map f) :=
        (List.perm_middle).symm
      exact (hrest.trans hhead).trans hmiddle.subperm

/-- Distinct attributes stay distinct. -/
theorem map_collect_nodup (hf : ∀ x y, f (m.choose x y) = f x ∨ f (m.choose x y) = f y)
    {xs : List α} (h : (xs.map f).Nodup) : ((m.collect [] xs).map f).Nodup := by
  obtain ⟨ys, hperm, hsub⟩ := m.map_collect_subperm hf [] xs
  exact hperm.nodup_iff.mp (hsub.nodup (by simpa using h))

section Rank

variable (rank : α → ℕ)

lemma exists_rank_le_upsert (hrank : ∀ x y, rank x ≤ rank (m.choose x y) ∧
      rank y ≤ rank (m.choose x y)) (x : α) {ys : List α} {y : α} (hy : y = x ∨ y ∈ ys) :
    ∃ z ∈ m.upsert x ys, rank y ≤ rank z := by
  induction ys with
  | nil =>
      obtain rfl : y = x := by simpa using hy
      exact ⟨y, List.mem_cons_self, le_rfl⟩
  | cons w ys ih =>
      unfold upsert
      split_ifs with hkey
      · rcases hy with rfl | hy
        · exact ⟨_, List.mem_cons_self, (hrank w y).2⟩
        · rcases List.mem_cons.mp hy with rfl | hy
          · exact ⟨_, List.mem_cons_self, (hrank y x).1⟩
          · exact ⟨y, List.mem_cons_of_mem _ hy, le_rfl⟩
      · by_cases hw : y = w
        · exact ⟨w, List.mem_cons_self, by rw [hw]⟩
        · have hrest : y = x ∨ y ∈ ys :=
            hy.imp_right fun hmem => (List.mem_cons.mp hmem).resolve_left hw
          obtain ⟨z, hz, hle⟩ := ih hrest
          exact ⟨z, List.mem_cons_of_mem _ hz, hle⟩

/-- A choice by rank loses no rank. -/
theorem exists_rank_le_collect (hrank : ∀ x y, rank x ≤ rank (m.choose x y) ∧
      rank y ≤ rank (m.choose x y)) (base : List α) {xs : List α} {y : α}
    (hy : y ∈ base ∨ y ∈ xs) : ∃ z ∈ m.collect base xs, rank y ≤ rank z := by
  induction xs generalizing base y with
  | nil => exact ⟨y, by simpa [collect] using hy, le_rfl⟩
  | cons x xs ih =>
      have hwritten : y ∈ xs ∨ y = x ∨ y ∈ base := by
        rcases hy with hy | hy
        · exact Or.inr (Or.inr hy)
        · exact (List.mem_cons.mp hy).symm.imp_right Or.inl
      rcases hwritten with hy | hy
      · exact ih _ (Or.inr hy)
      · obtain ⟨w, hw, hle⟩ := m.exists_rank_le_upsert rank hrank x hy
        obtain ⟨z, hz, hle'⟩ := ih _ (Or.inl hw)
        exact ⟨z, hz, hle.trans hle'⟩

end Rank

/-! ## The record of a key -/

/-- What an empty map holds of a key after the writes is the first record of the key, merged with
the later ones. -/
lemma find_collect_nil {k : κ} {xs : List α} {y : α} (h : m.find k (m.collect [] xs) = some y) :
    ∃ first rest, (xs.filter fun x => m.key x = k) = first :: rest ∧
      rest.foldl m.choose first = y := by
  rw [find_collect] at h
  cases hwritten : xs.filter fun x => m.key x = k with
  | nil => simp [hwritten, find] at h
  | cons first rest =>
      refine ⟨first, rest, rfl, ?_⟩
      have hfirst : m.combine (m.find k []) first = some first := rfl
      rw [hwritten, List.foldl_cons, hfirst, foldl_combine_some] at h
      exact Option.some.inj h

/-- The record of a key carries a greatest value among the records written under the key. -/
theorem greatestOf_find_collect {β γ : Type*} [LinearOrder β] {measure : γ → β} {field : α → γ}
    {P : α → Prop} (hkept : ∀ x y, P x → P y → P (m.choose x y))
    (hmerge : ∀ x y, P x → P y → KeepsGreater measure field m.choose x y) {xs : List α}
    (hxs : ∀ x ∈ xs, P x) {k : κ} {y : α} (h : m.find k (m.collect [] xs) = some y) :
    GreatestOf measure ((xs.filter fun x => m.key x = k).map field) (field y) := by
  obtain ⟨first, rest, hwritten, rfl⟩ := m.find_collect_nil h
  have hall : ∀ x ∈ first :: rest, P x := fun x hx =>
    hxs x (List.mem_of_mem_filter (hwritten ▸ hx))
  rw [hwritten]
  exact greatestOf_foldl hkept hmerge (hall first List.mem_cons_self)
    fun x hx => hall x (List.mem_cons_of_mem first hx)

end AgentBigBrain.Lib.KeyedMerge
