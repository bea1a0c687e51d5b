import AgentBigBrain.Lib.KeyedMerge

/-!
# Views of a keyed map

An observer who knows some of the keys sees the records under them. Writing a record shows in the
view exactly where its key is known, and a lookup of a known key is a lookup in the view.
-/
namespace AgentBigBrain.Lib.KeyedMerge

variable {α κ : Type*} [DecidableEq κ] (m : KeyedMerge α κ) (known : κ → Bool)

/-- The records under the known keys. -/
def view (xs : List α) : List α :=
  xs.filter fun x => known (m.key x)

lemma view_upsert_of_known {x : α} (hx : known (m.key x) = true) (xs : List α) :
    m.view known (m.upsert x xs) = m.upsert x (m.view known xs) := by
  induction xs with
  | nil => simp [view, upsert, hx]
  | cons y ys ih =>
      unfold view at ih ⊢
      by_cases hkey : m.key y = m.key x
      · have hy : known (m.key y) = true := by rw [hkey, hx]
        have hchosen : known (m.key (m.choose y x)) = true := by rw [m.key_choose y x hkey, hx]
        simp [upsert, hkey, hx, hchosen]
      · by_cases hy : known (m.key y) = true
        · simp [upsert, hkey, hy, ih]
        · simp [upsert, hkey, hy, ih]

lemma view_upsert_of_unknown {x : α} (hx : known (m.key x) = false) (xs : List α) :
    m.view known (m.upsert x xs) = m.view known xs := by
  induction xs with
  | nil => simp [view, upsert, hx]
  | cons y ys ih =>
      unfold view at ih ⊢
      by_cases hkey : m.key y = m.key x
      · have hy : known (m.key y) = false := by rw [hkey, hx]
        have hchosen : known (m.key (m.choose y x)) = false := by rw [m.key_choose y x hkey, hx]
        simp [upsert, hkey, hx, hchosen]
      · by_cases hy : known (m.key y) = true
        · simp [upsert, hkey, hy, ih]
        · simp [upsert, hkey, hy, ih]

lemma find_view {k : κ} (hk : known k = true) (xs : List α) :
    m.find k (m.view known xs) = m.find k xs := by
  unfold find view
  rw [List.find?_filter]
  congr 1
  funext x
  by_cases hkey : m.key x = k
  · simp [hkey, hk]
  · simp [hkey]

omit [DecidableEq κ] in
/-- A selection that every record passes or fails on its own can be made before or after. -/
lemma view_filter (keep : α → Bool) (xs : List α) :
    m.view known (xs.filter keep) = (m.view known xs).filter keep := by
  unfold view
  rw [List.filter_filter, List.filter_filter]
  congr 1
  funext x
  exact Bool.and_comm _ _

end AgentBigBrain.Lib.KeyedMerge
