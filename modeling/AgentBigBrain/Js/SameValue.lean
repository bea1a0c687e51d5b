import AgentBigBrain.Js.Json
import AgentBigBrain.Js.Sort

/-!
# Objects and equality up to key order

An object holds each key once, at every depth. Two values are the same when they differ
at most in the order of the members of their objects; `sortKeys` picks one order, so
`SameValue` is equality of the sorted forms.
-/
namespace AgentBigBrain.Js

namespace Json

/-- Induction with the hypothesis for every element and every member. -/
@[elab_as_elim]
theorem byMembers {P : Json → Prop} (null : P .null) (bool : ∀ b, P (.bool b))
    (num : ∀ n, P (.num n)) (str : ∀ s, P (.str s))
    (arr : ∀ elems : List Json, (∀ x ∈ elems, P x) → P (.arr elems))
    (obj : ∀ members : List (String × Json), (∀ m ∈ members, P m.2) → P (.obj members))
    (x : Json) : P x :=
  nested (Q := fun xs => ∀ x ∈ xs, P x) (R := fun ms => ∀ m ∈ ms, P m.2)
    null bool num str arr obj (by simp) (fun x xs hx hxs => by simpa [hx] using hxs)
    (by simp) (fun k x ms hx hms => by simpa [hx] using hms) x

/-! ## Keys -/

mutual

/-- No object in the value holds a key twice. -/
def DistinctKeys : Json → Prop
  | .arr elems => DistinctKeysElems elems
  | .obj members => (members.map Prod.fst).Nodup ∧ DistinctKeysMembers members
  | _ => True

def DistinctKeysElems : List Json → Prop
  | [] => True
  | x :: xs => DistinctKeys x ∧ DistinctKeysElems xs

def DistinctKeysMembers : List (String × Json) → Prop
  | [] => True
  | (_, x) :: ms => DistinctKeys x ∧ DistinctKeysMembers ms

end

lemma distinctKeysElems_iff (xs : List Json) :
    DistinctKeysElems xs ↔ ∀ x ∈ xs, DistinctKeys x := by
  induction xs with
  | nil => simp [DistinctKeysElems]
  | cons x xs ih => simp [DistinctKeysElems, ih]

lemma distinctKeysMembers_iff (ms : List (String × Json)) :
    DistinctKeysMembers ms ↔ ∀ m ∈ ms, DistinctKeys m.2 := by
  induction ms with
  | nil => simp [DistinctKeysMembers]
  | cons m ms ih => simp [DistinctKeysMembers, ih]

@[simp] lemma distinctKeys_arr (xs : List Json) :
    DistinctKeys (.arr xs) ↔ ∀ x ∈ xs, DistinctKeys x := by
  rw [DistinctKeys, distinctKeysElems_iff]

@[simp] lemma distinctKeys_obj (ms : List (String × Json)) :
    DistinctKeys (.obj ms) ↔ (ms.map Prod.fst).Nodup ∧ ∀ m ∈ ms, DistinctKeys m.2 := by
  rw [DistinctKeys, distinctKeysMembers_iff]

/-! ## Equality up to key order -/

/-- Members in the order of their keys. -/
def memberOrder : Comparator (String × Json) :=
  codeUnitOrder.byKey Prod.fst

mutual

def sortKeys : Json → Json
  | .arr elems => .arr (sortKeysElems elems)
  | .obj members => .obj (memberOrder.sort (sortKeysMembers members))
  | x => x

def sortKeysElems : List Json → List Json
  | [] => []
  | x :: xs => sortKeys x :: sortKeysElems xs

def sortKeysMembers : List (String × Json) → List (String × Json)
  | [] => []
  | (k, x) :: ms => (k, sortKeys x) :: sortKeysMembers ms

end

@[simp] lemma sortKeysElems_eq (xs : List Json) : sortKeysElems xs = xs.map sortKeys := by
  induction xs with
  | nil => rfl
  | cons x xs ih => simp [sortKeysElems, ih]

@[simp] lemma sortKeysMembers_eq (ms : List (String × Json)) :
    sortKeysMembers ms = ms.map fun m => (m.1, sortKeys m.2) := by
  induction ms with
  | nil => rfl
  | cons m ms ih => simp [sortKeysMembers, ih]

/-- The two values differ at most in the order of object members. -/
def SameValue (x y : Json) : Prop :=
  sortKeys x = sortKeys y

instance (x y : Json) : Decidable (SameValue x y) :=
  inferInstanceAs (Decidable (sortKeys x = sortKeys y))

@[refl] lemma SameValue.refl (x : Json) : SameValue x x :=
  rfl

lemma SameValue.symm {x y : Json} (h : SameValue x y) : SameValue y x :=
  Eq.symm h

lemma SameValue.trans {x y z : Json} (hxy : SameValue x y) (hyz : SameValue y z) :
    SameValue x z :=
  Eq.trans hxy hyz

@[simp] lemma memberOrder_sort_map (f : Json → Json) (ms : List (String × Json)) :
    memberOrder.sort (ms.map fun m => (m.1, f m.2)) =
      (memberOrder.sort ms).map fun m => (m.1, f m.2) := by
  refine (List.map_insertionSort _ _ _ _ ?_).symm
  intro a _ b _
  rfl

lemma eq_of_key_eq {ms : List (String × Json)} (h : (ms.map Prod.fst).Nodup)
    {m n : String × Json} (hm : m ∈ ms) (hn : n ∈ ms) (hkey : m.1 = n.1) : m = n :=
  List.inj_on_of_nodup_map h hm hn hkey

/-- The sorted members of an object do not depend on their order. -/
lemma memberOrder_sort_perm {ms ns : List (String × Json)} (hkeys : (ms.map Prod.fst).Nodup)
    (h : ms.Perm ns) : memberOrder.sort ms = memberOrder.sort ns := by
  refine memberOrder.sort_eq_of_perm h ?_
  intro a ha b hb hab hba
  exact eq_of_key_eq hkeys ha hb (textLe_antisymm hab hba)

lemma map_keys (f : Json → Json) (ms : List (String × Json)) :
    (ms.map fun m => (m.1, f m.2)).map Prod.fst = ms.map Prod.fst := by
  simp [List.map_map, Function.comp_def]

/-- Two objects are the same value when they have the same members, up to order. -/
theorem sameValue_obj {ms ns : List (String × Json)} (hms : (ms.map Prod.fst).Nodup) :
    SameValue (.obj ms) (.obj ns) ↔
      (ms.map fun m => (m.1, sortKeys m.2)).Perm (ns.map fun m => (m.1, sortKeys m.2)) := by
  simp only [SameValue, sortKeys, sortKeysMembers_eq, obj.injEq]
  constructor
  · intro h
    exact (memberOrder.sort_perm _).symm.trans (h ▸ memberOrder.sort_perm _)
  · exact memberOrder_sort_perm (by rwa [map_keys])

theorem sameValue_arr {xs ys : List Json} :
    SameValue (.arr xs) (.arr ys) ↔ List.Forall₂ SameValue xs ys := by
  simp only [SameValue, sortKeys, sortKeysElems_eq, arr.injEq]
  induction xs generalizing ys with
  | nil => cases ys <;> simp
  | cons x xs ih => cases ys <;> simp [ih, SameValue]

lemma members_of_sameValue {ms ns : List (String × Json)} (hms : (ms.map Prod.fst).Nodup)
    (h : SameValue (.obj ms) (.obj ns)) {k : String} {x : Json} (hx : (k, x) ∈ ms) :
    ∃ y, (k, y) ∈ ns ∧ SameValue x y := by
  have hmem := ((sameValue_obj hms).mp h).mem_iff.mp
    (List.mem_map.mpr ⟨(k, x), hx, rfl⟩)
  obtain ⟨⟨l, y⟩, hy, heq⟩ := List.mem_map.mp hmem
  simp only [Prod.mk.injEq] at heq
  exact ⟨y, heq.1 ▸ hy, heq.2.symm⟩

/-- Objects with the same keys and the same value at each key. -/
lemma sameValue_obj_of_members {ms ns : List (String × Json)} (hms : (ms.map Prod.fst).Nodup)
    (hns : (ns.map Prod.fst).Nodup) (hkeys : ∀ k, k ∈ ns.map Prod.fst → k ∈ ms.map Prod.fst)
    (h : ∀ k x, (k, x) ∈ ms → ∃ y, (k, y) ∈ ns ∧ SameValue x y) :
    SameValue (.obj ms) (.obj ns) := by
  have hnodup {l : List (String × Json)} (hl : (l.map Prod.fst).Nodup) :
      (l.map fun m => (m.1, sortKeys m.2)).Nodup :=
    List.Nodup.of_map Prod.fst (by rwa [map_keys])
  refine (sameValue_obj hms).mpr ((List.perm_ext_iff_of_nodup (hnodup hms) (hnodup hns)).mpr ?_)
  rintro ⟨k, z⟩
  constructor
  · intro hz
    obtain ⟨⟨l, x⟩, hx, heq⟩ := List.mem_map.mp hz
    obtain ⟨rfl, rfl⟩ := Prod.mk.inj heq
    obtain ⟨y, hy, hxy⟩ := h _ _ hx
    exact List.mem_map.mpr ⟨(l, y), hy, by rw [hxy]⟩
  · intro hz
    obtain ⟨⟨l, y⟩, hy, heq⟩ := List.mem_map.mp hz
    obtain ⟨rfl, rfl⟩ := Prod.mk.inj heq
    obtain ⟨⟨l', x⟩, hx, hlx⟩ :=
      List.mem_map.mp (hkeys l (List.mem_map.mpr ⟨(l, y), hy, rfl⟩))
    obtain rfl : l' = l := hlx
    obtain ⟨y', hy', hxy⟩ := h _ _ hx
    have hyy : (l', y') = (l', y) := eq_of_key_eq hns hy' hy rfl
    obtain rfl : y' = y := (Prod.mk.inj hyy).2
    exact List.mem_map.mpr ⟨(l', x), hx, by rw [hxy]⟩

end Json

/-! ## Objects -/

/-- The members of a parsed object. -/
structure JsonObject where
  members : List (String × Json)
  distinct : (Json.obj members).DistinctKeys

namespace JsonObject

def empty : JsonObject :=
  ⟨[], by simp⟩

/-- `object[key]`; `none` stands for `undefined`. -/
def get (o : JsonObject) (key : String) : Option Json :=
  o.members.lookup key

/-- Overwrite a member in place, or append it. -/
def setMember (key : String) (x : Json) : List (String × Json) → List (String × Json)
  | [] => [(key, x)]
  | (k, y) :: ms => if k = key then (k, x) :: ms else (k, y) :: setMember key x ms

lemma mem_setMember {key : String} {x : Json} {ms : List (String × Json)} {m : String × Json}
    (h : m ∈ setMember key x ms) : m = (key, x) ∨ m ∈ ms := by
  induction ms with
  | nil => simpa [setMember] using h
  | cons n ms ih =>
      obtain ⟨k, y⟩ := n
      by_cases hk : k = key
      · simp only [setMember, if_pos hk, List.mem_cons] at h
        rcases h with rfl | h
        · exact Or.inl (by rw [hk])
        · exact Or.inr (by simp [h])
      · simp only [setMember, if_neg hk, List.mem_cons] at h
        rcases h with rfl | h
        · exact Or.inr (by simp)
        · exact (ih h).imp_right fun hm => by simp [hm]

lemma setMember_keys_nodup (key : String) (x : Json) (ms : List (String × Json))
    (h : (ms.map Prod.fst).Nodup) : ((setMember key x ms).map Prod.fst).Nodup := by
  induction ms with
  | nil => simp [setMember]
  | cons n ms ih =>
      obtain ⟨k, y⟩ := n
      simp only [List.map_cons, List.nodup_cons] at h
      by_cases hk : k = key
      · simp only [setMember, if_pos hk, List.map_cons, List.nodup_cons]
        exact h
      · simp only [setMember, if_neg hk, List.map_cons, List.nodup_cons]
        refine ⟨?_, ih h.2⟩
        intro hmem
        obtain ⟨m, hm, hmk⟩ := List.mem_map.mp hmem
        rcases mem_setMember hm with rfl | hm
        · exact hk hmk.symm
        · exact h.1 (List.mem_map.mpr ⟨m, hm, hmk⟩)

/-- `{ ...object, [key]: value }`, for a value that holds no object. -/
def set (o : JsonObject) (key : String) (x : Json) (hx : x.DistinctKeys) : JsonObject where
  members := setMember key x o.members
  distinct := by
    have ho := (Json.distinctKeys_obj _).mp o.distinct
    refine (Json.distinctKeys_obj _).mpr ⟨setMember_keys_nodup key x _ ho.1, ?_⟩
    intro m hm
    rcases mem_setMember hm with rfl | hm
    · exact hx
    · exact ho.2 m hm

/-- The members of `{ ...object, ...other }`. -/
def setMembers (ms : List (String × Json)) : List (String × Json) → List (String × Json)
  | [] => ms
  | (k, x) :: others => setMembers (setMember k x ms) others

lemma setMembers_distinct (others : List (String × Json)) : ∀ ms : List (String × Json),
    (Json.obj ms).DistinctKeys → (∀ m ∈ others, m.2.DistinctKeys) →
      (Json.obj (setMembers ms others)).DistinctKeys := by
  induction others with
  | nil => exact fun ms hms _ => hms
  | cons n others ih =>
      intro ms hms hothers
      exact ih _ ((⟨ms, hms⟩ : JsonObject).set n.1 n.2 (hothers n List.mem_cons_self)).distinct
        fun m hm => hothers m (List.mem_cons_of_mem _ hm)

/-- `{ ...object, ...other }`. -/
def spread (o other : JsonObject) : JsonObject where
  members := setMembers o.members other.members
  distinct := setMembers_distinct _ _ o.distinct ((Json.distinctKeys_obj _).mp other.distinct).2

lemma lookup_setMember (key : String) (x : Json) (ms : List (String × Json)) (k : String) :
    (setMember key x ms).lookup k = if k = key then some x else ms.lookup k := by
  induction ms with
  | nil =>
      by_cases h : k = key
      · simp [setMember, h]
      · have hk : (k == key) = false := by simpa using h
        simp [setMember, List.lookup_cons, h, hk]
  | cons n ms ih =>
      obtain ⟨l, y⟩ := n
      by_cases hl : l = key
      · by_cases hk : k = key
        · simp [setMember, hl, hk]
        · have hkl : (k == l) = false := by simpa [hl] using hk
          simp [setMember, hl, List.lookup_cons, hk, hl ▸ hkl]
      · by_cases hk : k = l
        · have hne : ¬ k = key := hk ▸ hl
          simp [setMember, hl, hk]
        · have hkl : (k == l) = false := by simpa using hk
          simp [setMember, hl, List.lookup_cons, hkl, ih]

@[simp] lemma get_set (o : JsonObject) (key : String) (x : Json) (hx : x.DistinctKeys)
    (k : String) : (o.set key x hx).get k = if k = key then some x else o.get k :=
  lookup_setMember key x o.members k

end JsonObject

end AgentBigBrain.Js
