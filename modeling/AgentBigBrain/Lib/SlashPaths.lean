import Mathlib.Data.List.Basic
import Mathlib.Tactic

/-!
# Paths as lists of segments

A path is a text with a separator between its segments. One path lies inside another where the
segments of the other come first. Resolving a path drops empty and `.` segments and lets `..` take
back the segment before it, so that what is left resolves to itself.
-/
namespace AgentBigBrain.Lib

variable {α : Type*} [DecidableEq α] (sep : α)

/-! ## Containment -/

omit [DecidableEq α] in
lemma intercalate_append {xs ys : List (List α)} (hxs : xs ≠ []) (hys : ys ≠ []) :
    [sep].intercalate (xs ++ ys) = [sep].intercalate xs ++ sep :: [sep].intercalate ys := by
  induction xs with
  | nil => exact absurd rfl hxs
  | cons x xs ih =>
      by_cases hrest : xs = []
      · simp [hrest, List.intercalate_cons_of_ne_nil hys]
      · have hall : xs ++ ys ≠ [] := by simp [hrest]
        rw [List.cons_append, List.intercalate_cons_of_ne_nil hall, ih hrest,
          List.intercalate_cons_of_ne_nil hrest]
        simp

/-- A path is another, or continues it after a separator, exactly if its segments begin with the
segments of the other. -/
theorem segments_prefix_iff {path other : List α} :
    other.splitOn sep <+: path.splitOn sep ↔ path = other ∨ (other ++ [sep]) <+: path := by
  constructor
  · rintro ⟨rest, hrest⟩
    have hpath : [sep].intercalate (path.splitOn sep) = path := List.intercalate_splitOn sep
    by_cases hnil : rest = []
    · rw [← hrest, hnil, List.append_nil, List.intercalate_splitOn] at hpath
      exact Or.inl hpath.symm
    · rw [← hrest, intercalate_append sep (List.splitOn_ne_nil sep other) hnil,
        List.intercalate_splitOn] at hpath
      exact Or.inr ⟨[sep].intercalate rest, by simpa using hpath⟩
  · rintro (rfl | ⟨rest, hrest⟩)
    · exact List.prefix_rfl
    · have hpath : path = other ++ sep :: rest := by simpa using hrest.symm
      rw [hpath, List.splitOn_append_cons_self]
      exact List.prefix_append _ _

/-! ## Resolution -/

variable (dot : α)

/-- A segment that stays in a resolved path. -/
def Stays (segment : List α) : Prop :=
  segment ≠ [] ∧ segment ≠ [dot] ∧ segment ≠ [dot, dot] ∧ sep ∉ segment

instance (segment : List α) : Decidable (Stays sep dot segment) :=
  inferInstanceAs (Decidable (_ ∧ _))

/-- One more segment of a path that is being resolved. -/
def pushSegment (resolved : List (List α)) (segment : List α) : List (List α) :=
  if segment = [] ∨ segment = [dot] then resolved
  else if segment = [dot, dot] then resolved.dropLast
  else resolved ++ [segment]

def resolveSegments (base segments : List (List α)) : List (List α) :=
  segments.foldl (pushSegment dot) base

/-- The absolute path of the segments. -/
def absolutePath (segments : List (List α)) : List α :=
  sep :: [sep].intercalate segments

variable {sep dot}

lemma stays_pushSegment {resolved : List (List α)} {segment : List α}
    (h : ∀ other ∈ resolved, Stays sep dot other) (hsep : sep ∉ segment) :
    ∀ other ∈ pushSegment dot resolved segment, Stays sep dot other := by
  unfold pushSegment
  split_ifs with hempty hback
  · exact h
  · exact fun other hother => h other (List.mem_of_mem_dropLast hother)
  · rw [not_or] at hempty
    intro other hother
    rcases List.mem_append.mp hother with hother | hother
    · exact h other hother
    · rw [List.mem_singleton.mp hother]
      exact ⟨hempty.1, hempty.2, hback, hsep⟩

lemma stays_resolveSegments {base segments : List (List α)}
    (hbase : ∀ other ∈ base, Stays sep dot other) (hsep : ∀ segment ∈ segments, sep ∉ segment) :
    ∀ other ∈ resolveSegments dot base segments, Stays sep dot other := by
  induction segments generalizing base with
  | nil => exact hbase
  | cons segment segments ih =>
      have hfirst := stays_pushSegment hbase (hsep segment List.mem_cons_self)
      exact ih hfirst fun other hother => hsep other (List.mem_cons_of_mem segment hother)

lemma resolveSegments_of_stays {base segments : List (List α)}
    (h : ∀ segment ∈ segments, Stays sep dot segment) :
    resolveSegments dot base segments = base ++ segments := by
  induction segments generalizing base with
  | nil => simp [resolveSegments]
  | cons segment segments ih =>
      obtain ⟨hne, hdot, hback, -⟩ := h segment List.mem_cons_self
      have hpush : pushSegment dot base segment = base ++ [segment] := by
        simp [pushSegment, hne, hdot, hback]
      have hrest := @ih (base ++ [segment])
        fun other hother => h other (List.mem_cons_of_mem segment hother)
      unfold resolveSegments at hrest ⊢
      rw [List.foldl_cons, hpush, hrest]
      simp

lemma sep_not_mem_segment {path segment : List α} (h : segment ∈ path.splitOn sep) :
    sep ∉ segment := by
  induction path generalizing segment with
  | nil =>
      rw [List.splitOn_nil] at h
      rw [List.mem_singleton.mp h]
      simp
  | cons c path ih =>
      rw [List.splitOn_cons_eq_if_modifyHead] at h
      split_ifs at h with hsep
      · rcases List.mem_cons.mp h with rfl | h
        · simp
        · exact ih h
      · obtain ⟨first, rest, hsplit⟩ := List.exists_cons_of_ne_nil (List.splitOn_ne_nil sep path)
        rw [hsplit, List.modifyHead_cons] at h
        rcases List.mem_cons.mp h with rfl | h
        · have hfirst : sep ∉ first := ih (hsplit ▸ List.mem_cons_self)
          have hc : sep ≠ c := fun hc => hsep (by simp [hc])
          simp [hfirst, hc]
        · exact ih (hsplit ▸ List.mem_cons_of_mem first h)

/-- A resolved path resolves to itself. -/
theorem resolveSegments_absolutePath {segments : List (List α)}
    (h : ∀ segment ∈ segments, Stays sep dot segment) :
    resolveSegments dot [] ((absolutePath sep segments).splitOn sep) = segments := by
  have hhead : (absolutePath sep segments).splitOn sep =
      [] :: ([sep].intercalate segments).splitOn sep := by
    simp [absolutePath, List.splitOn_cons_eq_if_modifyHead]
  rw [hhead]
  by_cases hnil : segments = []
  · simp [hnil, resolveSegments, pushSegment]
  · rw [List.splitOn_intercalate sep (fun segment hsegment => (h segment hsegment).2.2.2) hnil]
    have hskip : pushSegment dot [] ([] : List α) = [] := by simp [pushSegment]
    have hrest := @resolveSegments_of_stays _ _ sep dot [] segments h
    unfold resolveSegments at hrest ⊢
    rw [List.foldl_cons, hskip, hrest, List.nil_append]

end AgentBigBrain.Lib
