import Mathlib.Data.List.Nodup
import Mathlib.Logic.Function.Basic

/-!
# Inverted index

An index lists under each key the documents that have it. A document is posted under its keys
when it arrives and is taken out of every list when it goes; a list that becomes empty is given
up. The index stays exact: each document stands once under each key it has and nowhere else.
-/
namespace AgentBigBrain.Lib.InvertedIndex

open Function

variable {κ ι : Type*} [DecidableEq κ] [DecidableEq ι]

/-- An element at the end of a list that does not hold it yet. -/
def addOnce (id : ι) (ids : List ι) : List ι :=
  if id ∈ ids then ids else ids ++ [id]

@[simp] lemma mem_addOnce {id other : ι} {ids : List ι} :
    other ∈ addOnce id ids ↔ other ∈ ids ∨ other = id := by
  unfold addOnce
  split_ifs with hmem
  · refine ⟨Or.inl, ?_⟩
    rintro (h | rfl)
    · exact h
    · exact hmem
  · simp

lemma nodup_addOnce {id : ι} {ids : List ι} (h : ids.Nodup) : (addOnce id ids).Nodup := by
  unfold addOnce
  split_ifs with hmem
  · exact h
  · refine h.append (List.nodup_singleton id) ?_
    simpa using hmem

lemma addOnce_ne_nil {id : ι} {ids : List ι} : addOnce id ids ≠ [] := by
  intro hnil
  have hmem : id ∈ addOnce id ids := mem_addOnce.mpr (.inr rfl)
  rw [hnil] at hmem
  cases hmem

/-- The documents under a key. -/
def posted (index : κ → Option (List ι)) (key : κ) : List ι :=
  (index key).getD []

def post (index : κ → Option (List ι)) (id : ι) (key : κ) : κ → Option (List ι) :=
  update index key (some (addOnce id (posted index key)))

def add (index : κ → Option (List ι)) (id : ι) (keys : List κ) : κ → Option (List ι) :=
  keys.foldl (post · id ·) index

/-- A document is taken out of the list of each key. -/
def remove (index : κ → Option (List ι)) (id : ι) : κ → Option (List ι) := fun key =>
  (index key).bind fun ids =>
    if id ∈ ids then if ids.erase id = [] then none else some (ids.erase id) else some ids

omit [DecidableEq κ] [DecidableEq ι] in
lemma posted_of_eq {index : κ → Option (List ι)} {key : κ} {ids : List ι}
    (h : index key = some ids) : posted index key = ids := by
  simp [posted, h]

/-- Under each key stand exactly the documents that have it, each once, and no list is empty. -/
structure Exact (index : κ → Option (List ι)) (has : ι → κ → Prop) : Prop where
  mem : ∀ key id, id ∈ posted index key ↔ has id key
  nodup : ∀ key, (posted index key).Nodup
  nonempty : ∀ key, index key ≠ some []

omit [DecidableEq κ] [DecidableEq ι] in
lemma exact_empty : Exact (fun _ : κ => (none : Option (List ι))) fun _ _ => False where
  mem key id := by simp [posted]
  nodup key := List.nodup_nil
  nonempty key := by simp

omit [DecidableEq κ] [DecidableEq ι] in
lemma Exact.congr {index : κ → Option (List ι)} {has other : ι → κ → Prop} (h : Exact index has)
    (hiff : ∀ id key, has id key ↔ other id key) : Exact index other where
  mem key id := (h.mem key id).trans (hiff id key)
  nodup := h.nodup
  nonempty := h.nonempty

lemma Exact.post {index : κ → Option (List ι)} {has : ι → κ → Prop} (h : Exact index has)
    (id : ι) (key : κ) : Exact (post index id key) fun i k => has i k ∨ i = id ∧ k = key := by
  have hsame : posted (InvertedIndex.post index id key) key = addOnce id (posted index key) := by
    simp [InvertedIndex.post, posted]
  have hother : ∀ k, k ≠ key → InvertedIndex.post index id key k = index k := fun k hk =>
    update_of_ne hk _ _
  constructor
  · intro k i
    by_cases hk : k = key
    · subst hk
      rw [hsame, mem_addOnce, h.mem]
      simp
    · have hkept : posted (InvertedIndex.post index id key) k = posted index k := by
        rw [posted, hother k hk, posted]
      rw [hkept, h.mem]
      simp [hk]
  · intro k
    by_cases hk : k = key
    · subst hk
      rw [hsame]
      exact nodup_addOnce (h.nodup k)
    · rw [posted, hother k hk]
      exact h.nodup k
  · intro k
    by_cases hk : k = key
    · subst hk
      simp [InvertedIndex.post, addOnce_ne_nil]
    · rw [hother k hk]
      exact h.nonempty k

/-- Posting a document under its keys keeps the index exact. -/
theorem Exact.add {index : κ → Option (List ι)} {has : ι → κ → Prop} (h : Exact index has)
    (id : ι) (keys : List κ) : Exact (add index id keys) fun i k => has i k ∨ i = id ∧ k ∈ keys := by
  induction keys generalizing index has with
  | nil => exact h.congr (by simp)
  | cons key keys ih =>
      refine (ih (h.post id key)).congr fun i k => ?_
      rw [List.mem_cons]
      tauto

omit [DecidableEq κ] in
/-- Taking a document out keeps the index exact. -/
theorem Exact.remove {index : κ → Option (List ι)} {has : ι → κ → Prop} (h : Exact index has)
    (id : ι) : Exact (remove index id) fun i k => has i k ∧ i ≠ id := by
  have hposted : ∀ key, posted (InvertedIndex.remove index id) key = (posted index key).erase id := by
    intro key
    unfold posted InvertedIndex.remove
    cases index key with
    | none => simp
    | some ids =>
        simp only [Option.bind_some, Option.getD_some]
        split_ifs with hmem hnil
        · exact hnil.symm
        · rfl
        · exact (List.erase_of_not_mem hmem).symm
  constructor
  · intro key i
    rw [hposted, (h.nodup key).mem_erase_iff, h.mem, and_comm]
  · intro key
    rw [hposted]
    exact (h.nodup key).erase id
  · intro key
    have hkept := h.nonempty key
    unfold InvertedIndex.remove
    cases hindex : index key with
    | none => simp
    | some ids =>
        simp only [Option.bind_some]
        split_ifs with hmem hnil
        · simp
        · simpa using hnil
        · rw [hindex] at hkept
          exact hkept

end AgentBigBrain.Lib.InvertedIndex
