import Mathlib.Data.List.Pairwise
import AgentBigBrain.Js.Host

/-!
# Own properties in their order

The own keys of an object come in a fixed order: array indices by their value, then all other
names as they were added. An assignment overwrites a value in its place, or puts a new key where
it belongs.
-/
namespace AgentBigBrain.Js

/-- The array index that a key spells. -/
def arrayIndex (key : String) : Option ℕ :=
  let digits := key.toList
  let value := digitsValue digits
  if digits ≠ [] ∧ digits.all Char.isDigit = true ∧
      (digits.head? = some '0' → digits = ['0']) ∧ value < 4294967295 then
    some value
  else
    none

/-- A new `key` goes before the existing `other`. -/
def goesBefore (key other : String) : Bool :=
  match arrayIndex key, arrayIndex other with
  | some m, some n => m < n
  | some _, none => true
  | none, _ => false

lemma goesBefore_trans {a b c : String} (hab : goesBefore a b = true)
    (hbc : goesBefore b c = true) : goesBefore a c = true := by
  unfold goesBefore at *
  cases ha : arrayIndex a <;> cases hb : arrayIndex b <;> cases hc : arrayIndex c <;>
    simp_all
  omega

variable {α β : Type*}

/-- `object[key] = value` on the own properties. -/
def assign (key : String) (value : α) : List (String × α) → List (String × α)
  | [] => [(key, value)]
  | (k, v) :: rest =>
      if k = key then (key, value) :: rest
      else if goesBefore key k then (key, value) :: (k, v) :: rest
      else (k, v) :: assign key value rest

/-- The keys are distinct, and stand in their order. -/
def InKeyOrder (members : List (String × α)) : Prop :=
  members.Pairwise fun m n => m.1 ≠ n.1 ∧ goesBefore n.1 m.1 = false

lemma mem_assign {key : String} {value : α} {members : List (String × α)} {m : String × α}
    (h : m ∈ assign key value members) : m = (key, value) ∨ m ∈ members := by
  induction members with
  | nil => simpa [assign] using h
  | cons n rest ih =>
      unfold assign at h
      split_ifs at h
      · rcases List.mem_cons.mp h with rfl | h
        · exact Or.inl rfl
        · exact Or.inr (List.mem_cons_of_mem _ h)
      · exact List.mem_cons.mp h
      · rcases List.mem_cons.mp h with rfl | h
        · exact Or.inr List.mem_cons_self
        · exact (ih h).imp_right (List.mem_cons_of_mem _)

lemma inKeyOrder_assign {key : String} {value : α} {members : List (String × α)}
    (h : InKeyOrder members) : InKeyOrder (assign key value members) := by
  induction members with
  | nil => exact List.pairwise_singleton _ _
  | cons n rest ih =>
      obtain ⟨k, v⟩ := n
      obtain ⟨hhead, hrest⟩ := List.pairwise_cons.mp h
      unfold assign
      split_ifs with hkey hbefore
      · exact List.pairwise_cons.mpr ⟨hkey ▸ hhead, hrest⟩
      · refine List.pairwise_cons.mpr ⟨fun m hm => ?_, h⟩
        rcases List.mem_cons.mp hm with rfl | hm
        · refine ⟨Ne.symm hkey, ?_⟩
          by_contra hloop
          have hself := goesBefore_trans hbefore (by simpa using hloop)
          unfold goesBefore at hself
          cases hindex : arrayIndex key <;> simp [hindex] at hself
        · obtain ⟨hne, hlater⟩ := hhead m hm
          have hnot : goesBefore m.1 key = false := by
            by_contra hloop
            have hchain := goesBefore_trans (by simpa using hloop) hbefore
            rw [hlater] at hchain
            cases hchain
          refine ⟨?_, hnot⟩
          rintro rfl
          rw [hlater] at hbefore
          cases hbefore
      · refine List.pairwise_cons.mpr ⟨fun m hm => ?_, ih hrest⟩
        rcases mem_assign hm with rfl | hm
        · exact ⟨hkey, by simpa using hbefore⟩
        · exact hhead m hm

lemma lookup_cons_eq (l : String) (v : α) (rest : List (String × α)) (k : String) :
    ((l, v) :: rest).lookup k = if k = l then some v else rest.lookup k := by
  by_cases h : k = l
  · simp [h]
  · have hbeq : (k == l) = false := by simpa using h
    simp [List.lookup_cons, h, hbeq]

lemma lookup_assign (key : String) (value : α) (members : List (String × α)) (k : String) :
    (assign key value members).lookup k = if k = key then some value else members.lookup k := by
  induction members with
  | nil => simp [assign, lookup_cons_eq]
  | cons n rest ih =>
      obtain ⟨l, v⟩ := n
      unfold assign
      by_cases hl : l = key
      · by_cases hk : k = key <;> simp [hl, hk, lookup_cons_eq]
      · rw [if_neg hl]
        by_cases hbefore : goesBefore key l = true
        · rw [if_pos hbefore, lookup_cons_eq]
        · rw [if_neg hbefore, lookup_cons_eq, ih, lookup_cons_eq]
          by_cases hk : k = l
          · simp [hk, hl]
          · simp [hk]

/-- The later of two assignments counts. -/
lemma assign_assign (key : String) (first second : α) (members : List (String × α)) :
    assign key second (assign key first members) = assign key second members := by
  induction members with
  | nil => simp [assign]
  | cons n rest ih =>
      obtain ⟨k, v⟩ := n
      by_cases hkey : k = key
      · simp [assign, hkey]
      · by_cases hbefore : goesBefore key k = true
        · simp [assign, hkey, hbefore]
        · simp [assign, hkey, hbefore, ih]

/-! ## New and existing keys -/

lemma assign_new {key : String} {value : α} {members : List (String × α)}
    (h : InKeyOrder (members ++ [(key, value)])) :
    assign key value members = members ++ [(key, value)] := by
  induction members with
  | nil => rfl
  | cons n rest ih =>
      obtain ⟨hhead, hrest⟩ := List.pairwise_cons.mp h
      obtain ⟨hne, hbefore⟩ := hhead (key, value) (by simp)
      unfold assign
      simp only at hbefore
      rw [if_neg hne, if_neg (by simp [hbefore]), ih hrest]
      rfl

lemma assign_existing {key : String} (value : α) {members : List (String × α)}
    (h : InKeyOrder members) (hmem : key ∈ members.map Prod.fst) :
    assign key value members =
      members.map fun m => (m.1, if m.1 = key then value else m.2) := by
  induction members with
  | nil => cases hmem
  | cons n rest ih =>
      obtain ⟨k, v⟩ := n
      obtain ⟨hhead, hrest⟩ := List.pairwise_cons.mp h
      unfold assign
      by_cases hkey : k = key
      · have hothers :
            (rest.map fun m => (m.1, if m.1 = key then value else m.2)) = rest.map id := by
          refine List.map_congr_left fun m hm => ?_
          have hne : ¬ m.1 = key := fun heq => (hhead m hm).1 (hkey.trans heq.symm)
          rw [if_neg hne]
          rfl
        rw [if_pos hkey, List.map_cons, hothers, List.map_id, hkey, if_pos rfl]
      · have hrestmem : key ∈ rest.map Prod.fst := by
          rcases List.mem_cons.mp hmem with rfl | hrestmem
          · exact absurd rfl hkey
          · exact hrestmem
        have hbefore : ¬ goesBefore key k = true := by
          obtain ⟨m, hm, rfl⟩ := List.mem_map.mp hrestmem
          rw [(hhead m hm).2]
          exact Bool.false_ne_true
        rw [if_neg hkey, if_neg hbefore, ih hrest hrestmem, List.map_cons, if_neg hkey]

/-- `{ ...object, ...other }` on the own properties. -/
def assignAll (members others : List (String × α)) : List (String × α) :=
  others.foldl (fun ms m => assign m.1 m.2 ms) members

lemma inKeyOrder_assignAll (others : List (String × α)) {members : List (String × α)}
    (h : InKeyOrder members) : InKeyOrder (assignAll members others) := by
  induction others generalizing members with
  | nil => exact h
  | cons m others ih => exact ih (inKeyOrder_assign h)

lemma mem_assignAll (others : List (String × α)) {members : List (String × α)}
    {m : String × α} (h : m ∈ assignAll members others) : m ∈ members ∨ m ∈ others := by
  induction others generalizing members with
  | nil => exact Or.inl h
  | cons n others ih =>
      rcases ih h with h | h
      · rcases mem_assign h with rfl | h
        · exact Or.inr List.mem_cons_self
        · exact Or.inl h
      · exact Or.inr (List.mem_cons_of_mem _ h)

lemma lookup_eq_none_of_keys {members : List (String × α)} {key : String}
    (h : ∀ m ∈ members, m.1 ≠ key) : members.lookup key = none := by
  induction members with
  | nil => rfl
  | cons m rest ih =>
      rw [lookup_cons_eq, if_neg (Ne.symm (h m List.mem_cons_self))]
      exact ih fun n hn => h n (List.mem_cons_of_mem _ hn)

/-- A later object wins. -/
lemma lookup_assignAll {others : List (String × α)} (hothers : InKeyOrder others)
    (members : List (String × α)) (k : String) :
    (assignAll members others).lookup k = (others.lookup k).or (members.lookup k) := by
  induction others generalizing members with
  | nil => rfl
  | cons n others ih =>
      obtain ⟨hhead, hrest⟩ := List.pairwise_cons.mp hothers
      change (assignAll (assign n.1 n.2 members) others).lookup k = _
      rw [ih hrest, lookup_assign, lookup_cons_eq]
      by_cases hk : k = n.1
      · have hnone : others.lookup k = none :=
          lookup_eq_none_of_keys fun m hm heq => (hhead m hm).1 (hk.symm.trans heq.symm)
        simp [hk ▸ hnone, hk]
      · simp [hk]

/-- Properties that are added in their order stay in it. -/
lemma assignAll_new {members others : List (String × α)} (h : InKeyOrder (members ++ others)) :
    assignAll members others = members ++ others := by
  induction others generalizing members with
  | nil => exact (List.append_nil _).symm
  | cons m others ih =>
      rw [← List.singleton_append, ← List.append_assoc] at h
      have hfirst : InKeyOrder (members ++ [m]) := h.sublist (List.sublist_append_left _ _)
      change assignAll (assign m.1 m.2 members) others = _
      rw [assign_new hfirst, ih h, List.append_assoc]
      rfl

/-- Existing properties are overwritten in their places. -/
lemma assignAll_existing {members others : List (String × α)} (h : InKeyOrder members)
    (hothers : InKeyOrder others) (hmem : ∀ m ∈ others, m.1 ∈ members.map Prod.fst) :
    assignAll members others =
      members.map fun m => (m.1, (others.lookup m.1).getD m.2) := by
  induction others generalizing members with
  | nil => simp [assignAll]
  | cons n others ih =>
      obtain ⟨l, v⟩ := n
      obtain ⟨hhead, hrest⟩ := List.pairwise_cons.mp hothers
      have hassign := assign_existing v h (hmem (l, v) List.mem_cons_self)
      have hkeys : (assign l v members).map Prod.fst = members.map Prod.fst := by
        rw [hassign, List.map_map]
        rfl
      change assignAll (assign l v members) others = _
      rw [ih (inKeyOrder_assign h) hrest fun m hm => by
        rw [hkeys]
        exact hmem m (List.mem_cons_of_mem _ hm), hassign, List.map_map]
      refine List.map_congr_left fun m _ => ?_
      simp only [Function.comp_apply, lookup_cons_eq]
      by_cases hk : m.1 = l
      · have hnone : others.lookup m.1 = none :=
          lookup_eq_none_of_keys fun other hother heq =>
            (hhead other hother).1 (hk.symm.trans heq.symm)
        simp [hk ▸ hnone, hk]
      · simp [hk]

/-- A property in its place is the one that a lookup finds. -/
lemma lookup_of_mem {members : List (String × α)} (h : InKeyOrder members) {m : String × α}
    (hm : m ∈ members) : members.lookup m.1 = some m.2 := by
  induction members with
  | nil => cases hm
  | cons n rest ih =>
      obtain ⟨hhead, hrest⟩ := List.pairwise_cons.mp h
      rw [lookup_cons_eq]
      rcases List.mem_cons.mp hm with rfl | hm
      · rw [if_pos rfl]
      · rw [if_neg (Ne.symm (hhead m hm).1)]
        exact ih hrest hm

lemma inKeyOrder_map {members : List (String × α)} (h : InKeyOrder members)
    (f : String × α → β) : InKeyOrder (members.map fun m => (m.1, f m)) :=
  List.pairwise_map.mpr h

end AgentBigBrain.Js
