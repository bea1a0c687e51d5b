import Mathlib.Data.List.Nodup
import Mathlib.Tactic

/-!
# Merging lists through a keyed map

Two lists of records are merged by writing them into one map, each record under a key of
its own, and reading the values back. A map remembers the order in which its keys were
first written, so it is kept here as the list of its values. The first list is written as
it stands; a record of the second list may meet one that is already there, and `choose`
says which record the map then holds.
-/
namespace AgentBigBrain.Lib

structure KeyedMerge (α κ : Type*) where
  key : α → κ
  /-- What is kept when a record arrives for the key of the current one. -/
  choose : α → α → α
  key_choose : ∀ current incoming, key current = key incoming →
    key (choose current incoming) = key incoming

namespace KeyedMerge

variable {α κ : Type*} (m : KeyedMerge α κ)

/-- The same keys, but the record written last wins. -/
def latest : KeyedMerge α κ where
  key := m.key
  choose _ incoming := incoming
  key_choose _ _ _ := rfl

@[simp] lemma latest_key : m.latest.key = m.key := rfl

@[simp] lemma latest_choose (x y : α) : m.latest.choose x y = y := rfl

/-- No key occurs twice. -/
def Distinct (xs : List α) : Prop :=
  (xs.map m.key).Nodup

@[simp] lemma latest_distinct (xs : List α) : m.latest.Distinct xs ↔ m.Distinct xs := Iff.rfl

lemma eq_of_distinct {xs : List α} (h : m.Distinct xs) {x y : α} (hx : x ∈ xs) (hy : y ∈ xs)
    (hkey : m.key x = m.key y) : x = y :=
  List.inj_on_of_nodup_map h hx hy hkey

variable [DecidableEq κ]

instance (xs : List α) : Decidable (m.Distinct xs) :=
  inferInstanceAs (Decidable (List.Nodup _))

/-- Write one record. -/
def upsert (x : α) : List α → List α
  | [] => [x]
  | y :: ys => if m.key y = m.key x then m.choose y x :: ys else y :: upsert x ys

/-- Write the records of a list one after another. -/
def collect (base xs : List α) : List α :=
  xs.foldl (fun acc x => m.upsert x acc) base

/-- The values of the map after both lists are written. -/
def values (existing incoming : List α) : List α :=
  m.collect (m.latest.collect [] existing) incoming

/-! ## Keys -/

lemma map_key_upsert (x : α) (ys : List α) :
    (m.upsert x ys).map m.key =
      if m.key x ∈ ys.map m.key then ys.map m.key else ys.map m.key ++ [m.key x] := by
  induction ys with
  | nil => simp [upsert]
  | cons y ys ih =>
      by_cases h : m.key y = m.key x
      · simp [upsert, h, m.key_choose y x h]
      · have hne : m.key x ≠ m.key y := fun hx => h hx.symm
        simp only [upsert, h, if_false, List.map_cons, ih, List.mem_cons, hne, false_or]
        split_ifs <;> simp

lemma mem_keys_upsert {x : α} {ys : List α} {k : κ} :
    k ∈ (m.upsert x ys).map m.key ↔ k = m.key x ∨ k ∈ ys.map m.key := by
  rw [map_key_upsert]
  split_ifs with h
  · constructor
    · exact Or.inr
    · rintro (rfl | hk)
      · exact h
      · exact hk
  · simp only [List.mem_append, List.mem_singleton]
    exact or_comm

lemma distinct_upsert {x : α} {ys : List α} (h : m.Distinct ys) : m.Distinct (m.upsert x ys) := by
  unfold Distinct at h ⊢
  rw [map_key_upsert]
  split_ifs with hx
  · exact h
  · refine List.nodup_append.mpr ⟨h, List.nodup_singleton _, ?_⟩
    rintro k hk k' hk' rfl
    exact hx (List.mem_singleton.mp hk' ▸ hk)

@[simp] lemma collect_nil (base : List α) : m.collect base [] = base := rfl

@[simp] lemma collect_cons (base : List α) (x : α) (xs : List α) :
    m.collect base (x :: xs) = m.collect (m.upsert x base) xs := rfl

lemma mem_keys_collect (base xs : List α) {k : κ} :
    k ∈ (m.collect base xs).map m.key ↔ k ∈ base.map m.key ∨ k ∈ xs.map m.key := by
  induction xs generalizing base with
  | nil => simp
  | cons x xs ih =>
      rw [collect_cons, ih, mem_keys_upsert, List.map_cons, List.mem_cons]
      tauto

lemma distinct_collect {base xs : List α} (h : m.Distinct base) :
    m.Distinct (m.collect base xs) := by
  induction xs generalizing base with
  | nil => exact h
  | cons x xs ih => exact ih (m.distinct_upsert h)

/-- The merged list holds the keys of both lists. -/
theorem mem_keys_values (existing incoming : List α) {k : κ} :
    k ∈ (m.values existing incoming).map m.key ↔
      k ∈ existing.map m.key ∨ k ∈ incoming.map m.key := by
  rw [values, mem_keys_collect, ← latest_key, mem_keys_collect]
  simp

/-- The merged list holds each key once. -/
theorem distinct_values (existing incoming : List α) :
    m.Distinct (m.values existing incoming) := by
  apply distinct_collect
  rw [← latest_distinct]
  exact m.latest.distinct_collect List.nodup_nil

/-! ## What a write keeps -/

/-- A written list consists of records that were there, the new one where its key is new, and
otherwise the choice between it and the record of its key. -/
lemma forall_upsert {P : α → Prop} {x : α} {ys : List α} (hold : ∀ y ∈ ys, P y)
    (hnew : m.key x ∉ ys.map m.key → P x)
    (hchoose : ∀ y ∈ ys, m.key y = m.key x → P (m.choose y x)) : ∀ z ∈ m.upsert x ys, P z := by
  induction ys with
  | nil => simpa [upsert] using hnew
  | cons y ys ih =>
      intro z hz
      unfold upsert at hz
      split at hz
      · rename_i hkey
        rcases List.mem_cons.mp hz with rfl | hz
        · exact hchoose y List.mem_cons_self hkey
        · exact hold z (List.mem_cons_of_mem y hz)
      · rename_i hkey
        rcases List.mem_cons.mp hz with rfl | hz
        · exact hold z List.mem_cons_self
        · refine ih (fun w hw => hold w (List.mem_cons_of_mem y hw)) ?_
            (fun w hw => hchoose w (List.mem_cons_of_mem y hw)) z hz
          intro hx
          refine hnew fun hmem => ?_
          rcases List.mem_cons.mp hmem with h | h
          · exact hkey h.symm
          · exact hx h

lemma forall_collect {P : α → Prop} {base xs : List α} (hbase : ∀ y ∈ base, P y)
    (hxs : ∀ x ∈ xs, P x)
    (hchoose : ∀ x y, m.key x = m.key y → P x → P y → P (m.choose x y)) :
    ∀ z ∈ m.collect base xs, P z := by
  induction xs generalizing base with
  | nil => exact hbase
  | cons x xs ih =>
      have hx : P x := hxs x List.mem_cons_self
      refine ih (m.forall_upsert hbase (fun _ => hx) ?_) ?_
      · exact fun y hy hkey => hchoose y x hkey (hbase y hy) hx
      · exact fun z hz => hxs z (List.mem_cons_of_mem x hz)

/-- What holds of both lists and is kept by `choose` holds of the merged list. -/
theorem forall_values {P : α → Prop} {existing incoming : List α} (he : ∀ x ∈ existing, P x)
    (hi : ∀ x ∈ incoming, P x)
    (hchoose : ∀ x y, m.key x = m.key y → P x → P y → P (m.choose x y)) :
    ∀ z ∈ m.values existing incoming, P z :=
  m.forall_collect (m.latest.forall_collect (by simp) he fun _ _ _ _ hy => hy) hi hchoose

/-! ## Lookup -/

def find (k : κ) (xs : List α) : Option α :=
  xs.find? fun x => m.key x = k

@[simp] lemma latest_find (k : κ) (xs : List α) : m.latest.find k xs = m.find k xs := rfl

/-- The record held after one more arrives. -/
def combine (held : Option α) (x : α) : Option α :=
  some (held.elim x (m.choose · x))

lemma find_upsert (k : κ) (x : α) (ys : List α) :
    m.find k (m.upsert x ys) = if m.key x = k then m.combine (m.find k ys) x else m.find k ys := by
  induction ys with
  | nil => by_cases h : m.key x = k <;> simp [upsert, find, combine, h]
  | cons y ys ih =>
      unfold find at ih ⊢
      by_cases hxy : m.key y = m.key x
      · by_cases hx : m.key x = k
        · simp [upsert, hxy, m.key_choose y x hxy, hx, combine]
        · simp [upsert, hxy, m.key_choose y x hxy, hx]
      · by_cases hy : m.key y = k
        · have hx : m.key x ≠ k := fun hx => hxy (hy.trans hx.symm)
          simp [upsert, hy, hx, hx.symm]
        · simp [upsert, hxy, hy, ih]

/-- Lookup in the merged list folds `choose` over the records of the key. -/
theorem find_collect (k : κ) (base xs : List α) :
    m.find k (m.collect base xs) =
      (xs.filter fun x => m.key x = k).foldl m.combine (m.find k base) := by
  induction xs generalizing base with
  | nil => rfl
  | cons x xs ih =>
      rw [collect_cons, ih, find_upsert]
      by_cases h : m.key x = k <;> simp [h]

lemma find_eq_some_of_mem {xs : List α} (h : m.Distinct xs) {x : α} (hx : x ∈ xs) :
    m.find (m.key x) xs = some x := by
  cases hfound : m.find (m.key x) xs with
  | none =>
      have := List.find?_eq_none.mp hfound x hx
      simp at this
  | some y =>
      have hkey : m.key y = m.key x := by simpa using List.find?_some hfound
      rw [m.eq_of_distinct h (List.mem_of_find?_eq_some hfound) hx hkey]

lemma mem_of_find {xs : List α} {k : κ} {x : α} (h : m.find k xs = some x) :
    x ∈ xs ∧ m.key x = k :=
  ⟨List.mem_of_find?_eq_some h, by simpa using List.find?_some h⟩

lemma find_eq_none_iff {xs : List α} {k : κ} : m.find k xs = none ↔ k ∉ xs.map m.key := by
  simp [find]

/-- A map of the records that keeps their keys commutes with lookup. -/
lemma find_map (f : α → α) (hf : ∀ x, m.key (f x) = m.key x) (k : κ) (xs : List α) :
    m.find k (xs.map f) = (m.find k xs).map f := by
  simp [find, List.find?_map, hf]

/-! ## Lists that already hold each key once -/

lemma upsert_of_not_mem {x : α} {ys : List α} (h : m.key x ∉ ys.map m.key) :
    m.upsert x ys = ys ++ [x] := by
  induction ys with
  | nil => rfl
  | cons y ys ih =>
      rw [List.map_cons, List.mem_cons, not_or] at h
      rw [upsert, if_neg (Ne.symm h.1), ih h.2, List.cons_append]

lemma collect_of_disjoint (base : List α) {xs : List α} (hdistinct : m.Distinct xs)
    (hdisjoint : ∀ x ∈ xs, m.key x ∉ base.map m.key) : m.collect base xs = base ++ xs := by
  induction xs generalizing base with
  | nil => simp
  | cons x xs ih =>
      have hnodup := List.nodup_cons.mp (show ((x :: xs).map m.key).Nodup from hdistinct)
      rw [collect_cons, m.upsert_of_not_mem (hdisjoint x List.mem_cons_self), ih _ hnodup.2]
      · simp
      · intro y hy hmem
        rw [List.map_append, List.mem_append] at hmem
        rcases hmem with hmem | hmem
        · exact hdisjoint y (List.mem_cons_of_mem x hy) hmem
        · rw [List.map_singleton, List.mem_singleton] at hmem
          exact hnodup.1 (hmem ▸ List.mem_map_of_mem hy)

/-- Writing such a list into an empty map gives it back. -/
theorem collect_nil_of_distinct {xs : List α} (h : m.Distinct xs) : m.collect [] xs = xs := by
  simpa using m.collect_of_disjoint [] h

theorem latest_collect_nil {xs : List α} (h : m.Distinct xs) : m.latest.collect [] xs = xs :=
  m.latest.collect_nil_of_distinct h

lemma find_eq_some_iff {xs : List α} (h : m.Distinct xs) {k : κ} {x : α} :
    m.find k xs = some x ↔ x ∈ xs ∧ m.key x = k := by
  constructor
  · exact m.mem_of_find
  · rintro ⟨hx, rfl⟩
    exact m.find_eq_some_of_mem h hx

/-- Lists that hold each key once and under which lookup reads the same are one list in two
orders. -/
lemma perm_of_find_eq {xs ys : List α} (hxs : m.Distinct xs) (hys : m.Distinct ys)
    (h : ∀ k, m.find k xs = m.find k ys) : xs.Perm ys := by
  refine (List.perm_ext_iff_of_nodup (List.Nodup.of_map _ hxs) (List.Nodup.of_map _ hys)).mpr
    fun x => ?_
  have hx := m.find_eq_some_iff hxs (k := m.key x) (x := x)
  have hy := m.find_eq_some_iff hys (k := m.key x) (x := x)
  rw [h] at hx
  simpa using hx.symm.trans hy

/-- After a list with unique keys is written, lookup reads it first. -/
lemma latest_find_collect {base xs : List α} (h : m.Distinct xs) (k : κ) :
    m.latest.find k (m.latest.collect base xs) = (m.find k xs).or (m.find k base) := by
  induction xs generalizing base with
  | nil => rfl
  | cons x xs ih =>
      have hnodup := List.nodup_cons.mp (show ((x :: xs).map m.key).Nodup from h)
      have hupsert := m.latest.find_upsert k x base
      rw [collect_cons, ih hnodup.2, ← m.latest_find k (m.latest.upsert x base), hupsert]
      by_cases hkey : m.key x = k
      · have hnone : m.find k xs = none := m.find_eq_none_iff.mpr (hkey ▸ hnodup.1)
        have hhead : m.find k (x :: xs) = some x := by simp [find, hkey]
        cases hbase : m.find k base <;> simp [hnone, hhead, hkey, hbase, combine]
      · have htail : m.find k (x :: xs) = m.find k xs := by simp [find, hkey]
        simp [htail, hkey]

/-- Writing a record whose key is there puts it in the place of the one that is there. -/
lemma upsert_eq_map {x : α} {xs : List α} (h : m.Distinct xs) (hx : m.key x ∈ xs.map m.key) :
    m.upsert x xs = xs.map fun y => if m.key y = m.key x then m.choose y x else y := by
  induction xs with
  | nil => simp at hx
  | cons y ys ih =>
      have hnodup := List.nodup_cons.mp (show ((y :: ys).map m.key).Nodup from h)
      by_cases hkey : m.key y = m.key x
      · have hrest : ∀ z ∈ ys, ¬ m.key z = m.key x := fun z hz hzx =>
          hnodup.1 (by rw [hkey, ← hzx]; exact List.mem_map_of_mem hz)
        have hsame : (ys.map fun z => if m.key z = m.key x then m.choose z x else z) = ys := by
          conv_rhs => rw [← List.map_id ys]
          exact List.map_congr_left fun z hz => if_neg (hrest z hz)
        simp [upsert, hkey, hsame]
      · have hx' : m.key x ∈ ys.map m.key := by
          rcases List.mem_cons.mp hx with h' | h'
          · exact absurd h'.symm hkey
          · exact h'
        simp [upsert, hkey, ih hnodup.2 hx']

lemma upsert_self {x : α} {xs : List α} (h : m.Distinct xs) (hx : x ∈ xs)
    (hchoose : m.choose x x = x) : m.upsert x xs = xs := by
  induction xs with
  | nil => simp at hx
  | cons y ys ih =>
      have hnodup := List.nodup_cons.mp (show ((y :: ys).map m.key).Nodup from h)
      rcases List.mem_cons.mp hx with rfl | hx
      · simp [upsert, hchoose]
      · have hne : m.key y ≠ m.key x := fun hkey => hnodup.1 (hkey ▸ List.mem_map_of_mem hx)
        rw [upsert, if_neg hne, ih hnodup.2 hx]

lemma collect_of_subset {base xs : List α} (h : m.Distinct base) (hxs : ∀ x ∈ xs, x ∈ base)
    (hchoose : ∀ x ∈ xs, m.choose x x = x) : m.collect base xs = base := by
  induction xs with
  | nil => rfl
  | cons x xs ih =>
      rw [collect_cons, m.upsert_self h (hxs x List.mem_cons_self)
        (hchoose x List.mem_cons_self)]
      exact ih (fun y hy => hxs y (List.mem_cons_of_mem x hy))
        fun y hy => hchoose y (List.mem_cons_of_mem x hy)

/-- Merging such a list with itself gives it back. -/
theorem values_self {xs : List α} (h : m.Distinct xs) (hchoose : ∀ x ∈ xs, m.choose x x = x) :
    m.values xs xs = xs := by
  rw [values, m.latest_collect_nil h]
  exact m.collect_of_subset h (fun _ hx => hx) hchoose

/-! ## Absorbing properties -/

/-- Once the record of a key has the property, it keeps it through every choice. -/
def Absorbing (P : α → Prop) : Prop :=
  ∀ x y, m.key x = m.key y → P x ∨ P y → P (m.choose x y)

variable {m}

lemma Absorbing.find_collect {P : α → Prop} (hP : m.Absorbing P) (base xs : List α) {k : κ}
    (h : (∃ x, m.find k base = some x ∧ P x) ∨ ∃ x ∈ xs, m.key x = k ∧ P x) :
    ∃ z, m.find k (m.collect base xs) = some z ∧ P z := by
  induction xs generalizing base with
  | nil => simpa using h
  | cons y ys ih =>
      refine ih _ ?_
      rw [find_upsert]
      rcases h with ⟨x, hx, hPx⟩ | ⟨x, hx, hkey, hPx⟩
      · left
        by_cases hy : m.key y = k
        · have hxy : m.key x = m.key y := (m.mem_of_find hx).2.trans hy.symm
          exact ⟨m.choose x y, by simp [hy, hx, combine], hP x y hxy (Or.inl hPx)⟩
        · exact ⟨x, by simp [hy, hx], hPx⟩
      · rcases List.mem_cons.mp hx with rfl | hx
        · left
          cases hfound : m.find k base with
          | none => exact ⟨x, by simp [hkey, combine], hPx⟩
          | some w =>
              have hwx : m.key w = m.key x := (m.mem_of_find hfound).2.trans hkey.symm
              exact ⟨m.choose w x, by simp [hkey, combine], hP w x hwx (Or.inr hPx)⟩
        · exact Or.inr ⟨x, hx, hkey, hPx⟩

/-- A record that has the property and is the last of its key in the first list decides what
the merged list holds under that key. -/
theorem Absorbing.values_of_existing {P : α → Prop} (hP : m.Absorbing P)
    {existing incoming : List α} (hdistinct : m.Distinct existing) {x : α} (hx : x ∈ existing)
    (hPx : P x) : ∀ z ∈ m.values existing incoming, m.key z = m.key x → P z := by
  have hheld : m.find (m.key x) (m.latest.collect [] existing) = some x := by
    rw [m.latest_collect_nil hdistinct, m.find_eq_some_of_mem hdistinct hx]
  obtain ⟨w, hw, hPw⟩ := hP.find_collect (m.latest.collect [] existing) incoming
    (Or.inl ⟨x, hheld, hPx⟩)
  intro z hz hkey
  have hfind := m.find_eq_some_of_mem (m.distinct_values existing incoming) hz
  rw [hkey, values, hw, Option.some.injEq] at hfind
  exact hfind ▸ hPw

/-- So does any record of the second list. -/
theorem Absorbing.values_of_incoming {P : α → Prop} (hP : m.Absorbing P)
    {existing incoming : List α} {x : α} (hx : x ∈ incoming) (hPx : P x) :
    ∀ z ∈ m.values existing incoming, m.key z = m.key x → P z := by
  obtain ⟨w, hw, hPw⟩ :=
    hP.find_collect (m.latest.collect [] existing) incoming (Or.inr ⟨x, hx, rfl, hPx⟩)
  intro z hz hkey
  have hfind := m.find_eq_some_of_mem (m.distinct_values existing incoming) hz
  rw [hkey, values, hw, Option.some.injEq] at hfind
  exact hfind ▸ hPw

end KeyedMerge

end AgentBigBrain.Lib
