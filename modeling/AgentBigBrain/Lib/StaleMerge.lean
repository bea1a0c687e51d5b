import AgentBigBrain.Lib.KeyedMerge

/-!
# Merging an older list into a newer one

The merge of a newer list with an older one leaves the newer one as it is, up to its order, exactly
if no key of it occurs twice and every older record has a newer one of its key that the merge
keeps. Where what is kept is transitive, this follows from each of the writes in between.
-/
namespace AgentBigBrain.Lib

namespace KeyedMerge

variable {α κ : Type*} (m : KeyedMerge α κ)

/-- The newer record stays when the older one arrives after it. -/
def Supersedes (newer older : α) : Prop := m.choose newer older = newer

/-- Every older record has a newer one of its key that supersedes it. -/
def Absorbs (newer older : List α) : Prop :=
  ∀ y ∈ older, ∃ x ∈ newer, m.key x = m.key y ∧ m.Supersedes x y

lemma absorbs_self (hself : ∀ x, m.Supersedes x x) (xs : List α) : m.Absorbs xs xs :=
  fun y hy => ⟨y, hy, rfl, hself y⟩

/-- No superseded record comes back in a chain of writes. -/
def TransitiveOnKeys : Prop :=
  ∀ x y z, m.key x = m.key y → m.key y = m.key z → m.Supersedes x y → m.Supersedes y z →
    m.Supersedes x z

lemma Absorbs.trans {m : KeyedMerge α κ} (htrans : m.TransitiveOnKeys) {newest newer older : List α}
    (hnew : m.Absorbs newest newer) (hold : m.Absorbs newer older) : m.Absorbs newest older := by
  intro z hz
  obtain ⟨y, hy, hyz, hsupersedes⟩ := hold z hz
  obtain ⟨x, hx, hxy, hnewest⟩ := hnew y hy
  exact ⟨x, hx, hxy.trans hyz, htrans x y z hxy hyz hnewest hsupersedes⟩

/-- The list holds one written record and what the other had under other keys. -/
def Writes (x : α) (before after : List α) : Prop :=
  ∀ z, z ∈ after ↔ z = x ∨ z ∈ before ∧ m.key z ≠ m.key x

/-- A write is absorbed if the written record supersedes the one of its key. -/
theorem absorbs_iff_of_writes {m : KeyedMerge α κ} (hself : ∀ x, m.Supersedes x x) {x : α}
    {before after : List α} (hwrite : m.Writes x before after) :
    m.Absorbs after before ↔ ∀ y ∈ before, m.key y = m.key x → m.Supersedes x y := by
  constructor
  · intro h y hy hkey
    obtain ⟨z, hz, hzy, hsupersedes⟩ := h y hy
    obtain rfl | ⟨-, hne⟩ := (hwrite z).mp hz
    · exact hsupersedes
    · exact absurd (hzy.trans hkey) hne
  · intro h y hy
    by_cases hkey : m.key y = m.key x
    · exact ⟨x, (hwrite x).mpr (.inl rfl), hkey.symm, h y hy hkey⟩
    · exact ⟨y, (hwrite y).mpr (.inr ⟨hy, hkey⟩), rfl, hself y⟩

variable [DecidableEq κ]

/-- Lookup after a list with unique keys is merged in. -/
lemma find_collect_of_distinct {base xs : List α} (h : m.Distinct xs) (k : κ) :
    m.find k (m.collect base xs) =
      (m.find k xs).elim (m.find k base) (m.combine (m.find k base)) := by
  induction xs generalizing base with
  | nil => rfl
  | cons x xs ih =>
      have hnodup := List.nodup_cons.mp (show ((x :: xs).map m.key).Nodup from h)
      rw [collect_cons, ih hnodup.2, find_upsert]
      by_cases hkey : m.key x = k
      · have hnone : m.find k xs = none := m.find_eq_none_iff.mpr (hkey ▸ hnodup.1)
        have hhead : m.find k (x :: xs) = some x := by simp [find, hkey]
        rw [hnone, hhead, if_pos hkey]
        rfl
      · have htail : m.find k (x :: xs) = m.find k xs := by simp [find, hkey]
        rw [htail, if_neg hkey]

lemma find_eq_of_perm {xs ys : List α} (hxs : m.Distinct xs) (h : ys.Perm xs) (k : κ) :
    m.find k ys = m.find k xs := by
  have hys : m.Distinct ys := (h.map m.key).nodup_iff.mpr hxs
  refine Option.ext fun x => ?_
  have hfound := m.find_eq_some_iff hys (k := k) (x := x)
  have hsame := m.find_eq_some_iff hxs (k := k) (x := x)
  rw [h.mem_iff] at hfound
  exact hfound.trans hsame.symm

/-- The values of a merge with unique keys, key by key. -/
lemma find_values {newer older : List α} (hnewer : m.Distinct newer) (holder : m.Distinct older)
    (k : κ) :
    m.find k (m.values newer older) =
      (m.find k older).elim (m.find k newer) (m.combine (m.find k newer)) := by
  rw [values, m.latest_collect_nil hnewer, m.find_collect_of_distinct holder]

/-- A merge leaves the newer list as it is exactly if that has unique keys and absorbs the older
one. -/
theorem values_perm_iff {newer older : List α} (holder : m.Distinct older) :
    (m.values newer older).Perm newer ↔ m.Distinct newer ∧ m.Absorbs newer older := by
  constructor
  · intro hperm
    have hnewer : m.Distinct newer :=
      (hperm.map m.key).nodup_iff.mp (m.distinct_values newer older)
    refine ⟨hnewer, fun y hy => ?_⟩
    have hfound := (m.find_values hnewer holder (m.key y)).symm.trans
      (m.find_eq_of_perm hnewer hperm (m.key y))
    rw [m.find_eq_some_of_mem holder hy, Option.elim_some] at hfound
    cases hx : m.find (m.key y) newer with
    | none =>
        rw [hx] at hfound
        cases hfound
    | some x =>
        rw [hx] at hfound
        obtain ⟨hmem, hkey⟩ := m.mem_of_find hx
        exact ⟨x, hmem, hkey, Option.some.inj hfound⟩
  · rintro ⟨hnewer, habsorbs⟩
    refine m.perm_of_find_eq (m.distinct_values newer older) hnewer fun k => ?_
    rw [m.find_values hnewer holder]
    cases hy : m.find k older with
    | none => rfl
    | some y =>
        obtain ⟨hmem, hkey⟩ := m.mem_of_find hy
        obtain ⟨x, hx, hxy, hsupersedes⟩ := habsorbs y hmem
        have hfound : m.find k newer = some x :=
          (m.find_eq_some_iff hnewer).mpr ⟨hx, hxy.trans hkey⟩
        rw [Option.elim_some, hfound]
        exact congrArg some hsupersedes

end KeyedMerge

end AgentBigBrain.Lib
