import AgentBigBrain.Js.Host
import AgentBigBrain.Lib.KeyedMerge

/-!
# Platform functions of the session code

Beyond a `Host`, the session code uses the Unicode classes of regular expressions, the
locale's case mapping and the path and URL modules of the runtime.
-/
namespace AgentBigBrain.Js

/-- `path.win32` or `path.posix`; `root` is `parse(path).root`. -/
structure PathModule where
  normalize : String → String
  basename : String → String
  dirname : String → String
  root : String → String

structure Platform extends Host where
  /-- `[\p{L}\p{N}]` in a regular expression. -/
  isLetterOrNumber : Char → Bool
  toLocaleLowerCase : String → String
  toUpperCase : String → String
  win32 : PathModule
  posix : PathModule
  /-- `decodeURIComponent(text)`; `none` when it throws. -/
  decodeURIComponent : String → Option String
  /-- `fileURLToPath(url)`; `none` when it throws. -/
  fileURLToPath : UrlParts → Option String

/-- A path module that takes every path as it stands. -/
def PathModule.plain : PathModule where
  normalize path := path
  basename path := path
  dirname path := path
  root _ := ""

/-- A platform for ASCII texts, given the dates it parses. -/
def Platform.ofDates (dates : List (String × ℤ)) : Platform where
  toHost := Host.ofTables dates []
  isLetterOrNumber := Char.isAlphanum
  toLocaleLowerCase := asciiLower
  toUpperCase s := String.ofList (s.toList.map Char.toUpper)
  win32 := .plain
  posix := .plain
  decodeURIComponent := some
  fileURLToPath url := some url.pathname

/-- `left - right` on numbers, as a comparator. -/
def numberOrder (α : Type*) [LinearOrder α] : Comparator α where
  le a b := decide (a ≤ b)
  total a b := by simpa using le_total a b
  trans a b c hab hbc := by simpa using le_trans (by simpa using hab) (by simpa using hbc)

/-! ## Sets of values -/

section UniqueValues

variable {α : Type*} [DecidableEq α]

/-- A set as a map of values under themselves. -/
def valueSet (α : Type*) : Lib.KeyedMerge α α where
  key x := x
  choose x _ := x
  key_choose _ _ h := h

/-- `[...new Set(values)]`: each value once, where it first stands. -/
def uniqueValues (xs : List α) : List α :=
  (valueSet α).collect [] xs

lemma nodup_uniqueValues (xs : List α) : (uniqueValues xs).Nodup := by
  have hdistinct : (valueSet α).Distinct (uniqueValues xs) :=
    (valueSet α).distinct_collect List.nodup_nil
  simpa [Lib.KeyedMerge.Distinct, valueSet] using hdistinct

lemma uniqueValues_of_nodup {xs : List α} (h : xs.Nodup) : uniqueValues xs = xs := by
  have hdistinct : (valueSet α).Distinct xs := by
    simpa [Lib.KeyedMerge.Distinct, valueSet] using h
  simpa [uniqueValues] using (valueSet α).collect_of_disjoint [] hdistinct

@[simp] lemma mem_uniqueValues {x : α} {xs : List α} : x ∈ uniqueValues xs ↔ x ∈ xs := by
  simpa [uniqueValues, valueSet] using
    (valueSet α).mem_keys_collect [] xs

lemma filter_upsert_valueSet (p : α → Bool) (x : α) (ys : List α) :
    ((valueSet α).upsert x ys).filter p =
      if p x = true then (valueSet α).upsert x (ys.filter p) else ys.filter p := by
  induction ys with
  | nil => by_cases hx : p x = true <;> simp [Lib.KeyedMerge.upsert, hx]
  | cons y ys ih =>
      by_cases hsame : y = x
      · subst hsame
        by_cases hy : p y = true <;> simp [Lib.KeyedMerge.upsert, valueSet, hy]
      · by_cases hy : p y = true <;> by_cases hx : p x = true <;>
          simp_all [Lib.KeyedMerge.upsert, valueSet]

/-- What is left out of the values is left out of the set. -/
lemma filter_uniqueValues (p : α → Bool) (xs : List α) :
    (uniqueValues xs).filter p = uniqueValues (xs.filter p) := by
  have hcollect : ∀ base, ((valueSet α).collect base xs).filter p =
      (valueSet α).collect (base.filter p) (xs.filter p) := by
    induction xs with
    | nil => exact fun base => rfl
    | cons x xs ih =>
        intro base
        rw [Lib.KeyedMerge.collect_cons, ih, filter_upsert_valueSet]
        by_cases hx : p x = true <;> simp [hx]
  exact hcollect []

end UniqueValues

end AgentBigBrain.Js
