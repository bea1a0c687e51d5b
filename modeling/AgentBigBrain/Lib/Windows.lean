import Mathlib.Data.List.Infix
import Mathlib.Tactic

/-!
# Overlapping windows

A list is cut into windows of one size that start a stride apart, so that each begins with the end
of the one before it. What is no longer than the overlap stands whole in one of them, and the list
is the first window followed by what each later one adds.
-/
namespace AgentBigBrain.Lib

variable {α : Type*} {size stride : ℕ}

/-- At most `count + 1` windows; the last one reaches the end, if the count allows it. -/
def windows (size stride : ℕ) : ℕ → List α → List (List α)
  | 0, xs => [xs.take size]
  | count + 1, xs =>
      xs.take size ::
        if xs.length ≤ size then [] else windows size stride count (xs.drop stride)

/-- The first window, and of each later one what stands behind the overlap. -/
def joined (overlap : ℕ) : List (List α) → List α
  | [] => []
  | window :: rest => window ++ rest.flatMap (List.drop overlap)

/-- The windows begin with the first one. -/
lemma windows_eq_cons (count : ℕ) (xs : List α) :
    ∃ rest, windows size stride count xs = xs.take size :: rest := by
  cases count with
  | zero => exact ⟨[], rfl⟩
  | succ count => exact ⟨_, rfl⟩

lemma infix_take_of_split {before word after : List α} (h : before.length + word.length ≤ size) :
    word <:+: (before ++ word ++ after).take size := by
  have hleads : before ++ word <+: (before ++ word ++ after).take size := by
    refine List.prefix_take_iff.mpr ⟨List.prefix_append _ _, ?_⟩
    simpa using h
  exact (List.suffix_append before word).isInfix.trans hleads.isInfix

/-- Where the windows reach the end of the list, each short word of it is in one of them. -/
theorem exists_window_of_infix (hstride : stride ≤ size) {word : List α}
    (hword : word.length ≤ size - stride) (count : ℕ) {xs : List α}
    (hcovered : xs.length ≤ count * stride + size) (h : word <:+: xs) :
    ∃ window ∈ windows size stride count xs, word <:+: window := by
  induction count generalizing xs with
  | zero =>
      refine ⟨xs.take size, List.mem_singleton.mpr rfl, ?_⟩
      rwa [List.take_of_length_le (by omega)]
  | succ count ih =>
      by_cases hshort : xs.length ≤ size
      · refine ⟨xs.take size, List.mem_cons_self, ?_⟩
        rwa [List.take_of_length_le hshort]
      · obtain ⟨before, after, rfl⟩ := h
        by_cases hfirst : before.length < stride
        · exact ⟨_, List.mem_cons_self, infix_take_of_split (by omega)⟩
        · -- the word stands behind the first stride, so it is in the rest
          have hrest : word <:+: (before ++ word ++ after).drop stride := by
            rw [List.append_assoc, List.drop_append_of_le_length (by omega)]
            exact ⟨before.drop stride, after, by simp⟩
          have hlength : ((before ++ word ++ after).drop stride).length ≤
              count * stride + size := by
            have hmul : (count + 1) * stride = count * stride + stride := by ring
            rw [List.length_drop]
            omega
          obtain ⟨window, hwindow, hin⟩ := ih hlength hrest
          refine ⟨window, ?_, hin⟩
          rw [windows, if_neg hshort]
          exact List.mem_cons_of_mem _ hwindow

/-- Each window ends with what the next one begins with. -/
theorem windows_overlap (count : ℕ) (xs : List α) :
    (windows size stride count xs).IsChain
      fun left right => left.drop stride = right.take (size - stride) := by
  induction count generalizing xs with
  | zero => exact List.isChain_singleton _
  | succ count ih =>
      rw [windows]
      by_cases hshort : xs.length ≤ size
      · rw [if_pos hshort]
        exact List.isChain_singleton _
      · rw [if_neg hshort]
        have htail := ih (xs.drop stride)
        obtain ⟨rest, hrest⟩ := @windows_eq_cons _ size stride count (xs.drop stride)
        rw [hrest] at htail ⊢
        refine List.isChain_cons_cons.mpr ⟨?_, htail⟩
        rw [List.drop_take, List.take_take, Nat.min_eq_left (Nat.sub_le _ _)]

/-- Where the windows reach the end of the list, they join to it. -/
theorem joined_windows (hstride : stride ≤ size) (count : ℕ) {xs : List α}
    (hcovered : xs.length ≤ count * stride + size) :
    joined (size - stride) (windows size stride count xs) = xs := by
  induction count generalizing xs with
  | zero =>
      simp only [windows, joined, List.flatMap_nil, List.append_nil]
      exact List.take_of_length_le (by omega)
  | succ count ih =>
      rw [windows]
      by_cases hshort : xs.length ≤ size
      · rw [if_pos hshort]
        simp only [joined, List.flatMap_nil, List.append_nil]
        exact List.take_of_length_le hshort
      · have hmul : (count + 1) * stride = count * stride + stride := by ring
        have htail := @ih (xs.drop stride) (by rw [List.length_drop]; omega)
        obtain ⟨rest, hrest⟩ := @windows_eq_cons _ size stride count (xs.drop stride)
        rw [if_neg hshort]
        rw [hrest, joined] at htail
        rw [hrest, joined, List.flatMap_cons]
        -- the second window adds the tail of the rest behind the overlap
        have hoverlap : size - stride ≤ ((xs.drop stride).take size).length := by
          rw [List.length_take, List.length_drop]
          omega
        calc xs.take size ++
              (((xs.drop stride).take size).drop (size - stride) ++
                rest.flatMap (List.drop (size - stride)))
            = xs.take size ++ (((xs.drop stride).take size ++
                rest.flatMap (List.drop (size - stride))).drop (size - stride)) := by
              rw [List.drop_append_of_le_length hoverlap]
          _ = xs.take size ++ (xs.drop stride).drop (size - stride) := by rw [htail]
          _ = xs := by
              rw [List.drop_drop, Nat.add_sub_cancel' hstride, List.take_append_drop]

end AgentBigBrain.Lib
