import AgentBigBrain.Js.SameValue

/-!
# Canonical JSON for hashing

`canonicalizeForHash` rebuilds every object by assigning its members, in locale order of
their keys, to a fresh `{}`. An assignment to `__proto__` replaces the prototype and
creates no member, and array-index keys come first in property order whatever the order
of assignment. So the canonical text determines a value up to key order and up to its
`__proto__` members, and says nothing about the latter.
-/
namespace AgentBigBrain.Core

open Js Json

/-! ## Property order -/

/-- `"__proto__"`, the key whose assignment does not create a member. -/
def protoKey : String := "__proto__"

/-- The array index that a key spells, if it does. -/
def arrayIndex (key : String) : Option ℕ :=
  match key.toList with
  | [] => none
  | c :: cs =>
      let value := (c :: cs).foldl (fun n d => 10 * n + (d.toNat - 48)) 0
      if (c :: cs).all Char.isDigit && (cs.isEmpty || c != '0') && decide (value < 4294967295) then
        some value
      else
        none

def isArrayIndex (member : String × Json) : Bool :=
  (arrayIndex member.1).isSome

def arrayIndexOrder : Comparator (String × Json) where
  le a b := decide ((arrayIndex a.1).getD 0 ≤ (arrayIndex b.1).getD 0)
  total a b := by simpa using le_total _ _
  trans a b c hab hbc := by
    simp only [decide_eq_true_eq] at hab hbc ⊢
    exact le_trans hab hbc

/-- The members of an object literal after `object[key] = value` for each of them. -/
def assignMembers (members : List (String × Json)) : List (String × Json) :=
  let own := members.filter fun m => m.1 ≠ protoKey
  arrayIndexOrder.sort (own.filter isArrayIndex) ++ own.filter fun m => !isArrayIndex m

lemma assignMembers_perm (members : List (String × Json)) :
    (assignMembers members).Perm (members.filter fun m => m.1 ≠ protoKey) := by
  unfold assignMembers
  exact ((arrayIndexOrder.sort_perm _).append_right _).trans (List.filter_append_perm _ _)

/-! ## Canonical form -/

/-- `left.localeCompare(right)` is a comparator the host provides. -/
abbrev Locale := Comparator String

def localeKeyOrder (locale : Locale) : Comparator (String × Json) :=
  locale.byKey Prod.fst

mutual

def canonicalizeForHash (locale : Locale) : Json → Json
  | .arr elems => .arr (canonicalizeElems locale elems)
  | .obj members =>
      .obj (assignMembers ((localeKeyOrder locale).sort (canonicalizeMembers locale members)))
  | x => x

def canonicalizeElems (locale : Locale) : List Json → List Json
  | [] => []
  | x :: xs => canonicalizeForHash locale x :: canonicalizeElems locale xs

def canonicalizeMembers (locale : Locale) : List (String × Json) → List (String × Json)
  | [] => []
  | (k, x) :: ms => (k, canonicalizeForHash locale x) :: canonicalizeMembers locale ms

end

@[simp] lemma canonicalizeElems_eq (locale : Locale) (xs : List Json) :
    canonicalizeElems locale xs = xs.map (canonicalizeForHash locale) := by
  induction xs with
  | nil => rfl
  | cons x xs ih => simp [canonicalizeElems, ih]

@[simp] lemma canonicalizeMembers_eq (locale : Locale) (ms : List (String × Json)) :
    canonicalizeMembers locale ms = ms.map fun m => (m.1, canonicalizeForHash locale m.2) := by
  induction ms with
  | nil => rfl
  | cons m ms ih => simp [canonicalizeMembers, ih]

def canonicalJson (locale : Locale) (x : Json) : String :=
  stringify (canonicalizeForHash locale x)

/-! ## What the canonical text leaves out -/

mutual

/-- The value without its `__proto__` members. -/
def withoutProto : Json → Json
  | .arr elems => .arr (withoutProtoElems elems)
  | .obj members => .obj ((withoutProtoMembers members).filter fun m => m.1 ≠ protoKey)
  | x => x

def withoutProtoElems : List Json → List Json
  | [] => []
  | x :: xs => withoutProto x :: withoutProtoElems xs

def withoutProtoMembers : List (String × Json) → List (String × Json)
  | [] => []
  | (k, x) :: ms => (k, withoutProto x) :: withoutProtoMembers ms

end

mutual

/-- The `__proto__` members of a value, at the places where they stand. -/
def protoParts : Json → Json
  | .arr elems => .arr (protoPartsElems elems)
  | .obj members => .obj (protoPartsMembers members)
  | _ => .null

def protoPartsElems : List Json → List Json
  | [] => []
  | x :: xs => protoParts x :: protoPartsElems xs

def protoPartsMembers : List (String × Json) → List (String × Json)
  | [] => []
  | (k, x) :: ms => (k, if k = protoKey then x else protoParts x) :: protoPartsMembers ms

end

@[simp] lemma withoutProtoElems_eq (xs : List Json) :
    withoutProtoElems xs = xs.map withoutProto := by
  induction xs with
  | nil => rfl
  | cons x xs ih => simp [withoutProtoElems, ih]

@[simp] lemma withoutProtoMembers_eq (ms : List (String × Json)) :
    withoutProtoMembers ms = ms.map fun m => (m.1, withoutProto m.2) := by
  induction ms with
  | nil => rfl
  | cons m ms ih => simp [withoutProtoMembers, ih]

@[simp] lemma protoPartsElems_eq (xs : List Json) : protoPartsElems xs = xs.map protoParts := by
  induction xs with
  | nil => rfl
  | cons x xs ih => simp [protoPartsElems, ih]

@[simp] lemma protoPartsMembers_eq (ms : List (String × Json)) :
    protoPartsMembers ms =
      ms.map fun m => (m.1, if m.1 = protoKey then m.2 else protoParts m.2) := by
  induction ms with
  | nil => rfl
  | cons m ms ih => simp [protoPartsMembers, ih]

lemma keys_filter_nodup {ms : List (String × Json)} (h : (ms.map Prod.fst).Nodup)
    (p : String × Json → Bool) : ((ms.filter p).map Prod.fst).Nodup :=
  h.sublist (List.filter_sublist.map Prod.fst)

lemma filter_proto_map (f : Json → Json) (ms : List (String × Json)) :
    (ms.map fun m => (m.1, f m.2)).filter (fun m => m.1 ≠ protoKey) =
      (ms.filter fun m => m.1 ≠ protoKey).map fun m => (m.1, f m.2) := by
  rw [List.filter_map]
  rfl

/-- Canonical form changes nothing but the order of keys and the `__proto__` members. -/
theorem canonicalizeForHash_sameValue (locale : Locale) (x : Json) (hx : x.DistinctKeys) :
    SameValue (canonicalizeForHash locale x) (withoutProto x) := by
  induction x using Json.byMembers with
  | arr elems ih =>
      rw [distinctKeys_arr] at hx
      simp only [canonicalizeForHash, withoutProto, canonicalizeElems_eq, withoutProtoElems_eq,
        sameValue_arr, List.forall₂_map_left_iff, List.forall₂_map_right_iff, List.forall₂_same]
      exact fun x hmem => ih x hmem (hx x hmem)
  | obj members ih =>
      rw [distinctKeys_obj] at hx
      simp only [canonicalizeForHash, withoutProto, canonicalizeMembers_eq,
        withoutProtoMembers_eq]
      have hsorted := (localeKeyOrder locale).sort_perm
        (members.map fun m => (m.1, canonicalizeForHash locale m.2))
      have hperm := (assignMembers_perm _).trans (hsorted.filter fun m => m.1 ≠ protoKey)
      rw [filter_proto_map] at hperm ⊢
      have hkeys := keys_filter_nodup hx.1 fun m => m.1 ≠ protoKey
      have hnodup := (hperm.map Prod.fst).symm.nodup (by rwa [map_keys])
      refine (sameValue_obj hnodup).mpr ((hperm.map _).trans (List.Perm.of_eq ?_))
      rw [List.map_map, List.map_map]
      refine List.map_congr_left fun m hm => ?_
      have hmem := List.mem_of_mem_filter hm
      exact congrArg (Prod.mk m.1) (ih m hmem (hx.2 m hmem))
  | _ => rfl

/-- Values with one canonical text agree outside their `__proto__` members. -/
theorem sameValue_of_canonicalJson_eq {locale : Locale} {x y : Json} (hx : x.DistinctKeys)
    (hy : y.DistinctKeys) (h : canonicalJson locale x = canonicalJson locale y) :
    SameValue (withoutProto x) (withoutProto y) := by
  have hcanon := stringify_injective h
  exact (canonicalizeForHash_sameValue locale x hx).symm.trans
    (hcanon ▸ canonicalizeForHash_sameValue locale y hy)

lemma forall₂_of_and {R S T : Json → Json → Prop} {xs ys : List Json}
    (h : ∀ x ∈ xs, ∀ y ∈ ys, R x y → S x y → T x y) (hR : List.Forall₂ R xs ys)
    (hS : List.Forall₂ S xs ys) : List.Forall₂ T xs ys := by
  induction hR with
  | nil => exact List.Forall₂.nil
  | cons hxy _ ih =>
      cases hS with
      | cons hxy' hrest =>
          refine List.Forall₂.cons (h _ (by simp) _ (by simp) hxy hxy') (ih ?_ hrest)
          exact fun x hx y hy => h x (by simp [hx]) y (by simp [hy])

/-- Nothing is lost between `withoutProto` and `protoParts`. -/
theorem sameValue_of_parts (x : Json) : ∀ (y : Json), x.DistinctKeys → y.DistinctKeys →
    SameValue (withoutProto x) (withoutProto y) → SameValue (protoParts x) (protoParts y) →
      SameValue x y := by
  induction x using Json.byMembers with
  | arr elems ih =>
      intro y hx hy hwithout hparts
      cases y with
      | arr elems' =>
          simp only [withoutProto, protoParts, withoutProtoElems_eq, protoPartsElems_eq,
            sameValue_arr, List.forall₂_map_left_iff, List.forall₂_map_right_iff]
            at hwithout hparts
          rw [distinctKeys_arr] at hx hy
          refine sameValue_arr.mpr (forall₂_of_and ?_ hwithout hparts)
          exact fun x hmem y hmem' => ih x hmem y (hx x hmem) (hy y hmem')
      | _ => simp [SameValue, withoutProto, sortKeys] at hwithout
  | obj ms ih =>
      intro y hx hy hwithout hparts
      cases y with
      | obj ns =>
          rw [distinctKeys_obj] at hx hy
          simp only [withoutProto, protoParts, withoutProtoMembers_eq, protoPartsMembers_eq]
            at hwithout hparts
          rw [filter_proto_map, filter_proto_map] at hwithout
          have hkeys (l : List (String × Json)) :
              (l.map fun m => (m.1, if m.1 = protoKey then m.2 else protoParts m.2)).map
                Prod.fst = l.map Prod.fst := by
            simp [List.map_map, Function.comp_def]
          have hwkeys := keys_filter_nodup hx.1 fun m => m.1 ≠ protoKey
          refine sameValue_obj_of_members hx.1 hy.1 ?_ ?_
          · intro k hk
            have hperm := ((sameValue_obj (by rw [hkeys]; exact hx.1)).mp hparts).map Prod.fst
            rw [map_keys, map_keys, hkeys, hkeys] at hperm
            exact hperm.mem_iff.mpr hk
          · intro k v hv
            obtain ⟨z, hz, hvz⟩ := members_of_sameValue (by rw [hkeys]; exact hx.1) hparts
              (List.mem_map.mpr ⟨(k, v), hv, rfl⟩)
            obtain ⟨⟨l, w⟩, hw, heq⟩ := List.mem_map.mp hz
            obtain ⟨rfl, rfl⟩ := Prod.mk.inj heq
            refine ⟨w, hw, ?_⟩
            by_cases hproto : l = protoKey
            · simpa [hproto] using hvz
            · simp only [if_neg hproto] at hvz
              obtain ⟨u, hu, hvu⟩ := members_of_sameValue (by rwa [map_keys]) hwithout
                (List.mem_map.mpr ⟨(l, v), List.mem_filter.mpr ⟨hv, by simpa using hproto⟩, rfl⟩)
              obtain ⟨⟨l', w'⟩, hw', heq'⟩ := List.mem_map.mp hu
              obtain ⟨rfl, rfl⟩ := Prod.mk.inj heq'
              have hsame := eq_of_key_eq hy.1 (List.mem_of_mem_filter hw') hw rfl
              obtain rfl : w' = w := (Prod.mk.inj hsame).2
              exact ih _ hv w' (hx.2 _ hv) (hy.2 _ hw) hvu hvz
      | _ => simp [SameValue, withoutProto, sortKeys] at hwithout
  | _ =>
      intro y _ _ hwithout _
      cases y <;> simp_all [SameValue, withoutProto, sortKeys]

/-- Selecting members by key and rewriting their values respects equality up to order. -/
lemma sameValue_map_members {ms ns : List (String × Json)} (hms : (ms.map Prod.fst).Nodup)
    (hns : (ns.map Prod.fst).Nodup) (h : SameValue (.obj ms) (.obj ns))
    (p : String → Bool) (f : String → Json → Json)
    (hf : ∀ k x y, (k, x) ∈ ms → (k, y) ∈ ns → SameValue x y → SameValue (f k x) (f k y)) :
    SameValue (.obj ((ms.filter fun m => p m.1).map fun m => (m.1, f m.1 m.2)))
      (.obj ((ns.filter fun m => p m.1).map fun m => (m.1, f m.1 m.2))) := by
  have hkeys (l : List (String × Json)) :
      (l.map fun m => (m.1, f m.1 m.2)).map Prod.fst = l.map Prod.fst := by
    simp [List.map_map, Function.comp_def]
  refine sameValue_obj_of_members ?_ ?_ ?_ ?_
  · rw [hkeys]
    exact keys_filter_nodup hms _
  · rw [hkeys]
    exact keys_filter_nodup hns _
  · intro k hk
    rw [hkeys] at hk ⊢
    obtain ⟨⟨l, y⟩, hy, rfl⟩ := List.mem_map.mp hk
    obtain ⟨hmem, hp⟩ := List.mem_filter.mp hy
    obtain ⟨x, hx, -⟩ := members_of_sameValue hns h.symm hmem
    exact List.mem_map.mpr ⟨(l, x), List.mem_filter.mpr ⟨hx, hp⟩, rfl⟩
  · intro k z hz
    obtain ⟨⟨l, x⟩, hx, heq⟩ := List.mem_map.mp hz
    obtain ⟨rfl, rfl⟩ := Prod.mk.inj heq
    obtain ⟨hmem, hp⟩ := List.mem_filter.mp hx
    obtain ⟨y, hy, hxy⟩ := members_of_sameValue hms h hmem
    exact ⟨f l y, List.mem_map.mpr ⟨(l, y), List.mem_filter.mpr ⟨hy, hp⟩, rfl⟩,
      hf l x y hmem hy hxy⟩

/-- Equal values have equal parts. -/
theorem parts_of_sameValue (x : Json) : ∀ (y : Json), x.DistinctKeys → y.DistinctKeys →
    SameValue x y → SameValue (withoutProto x) (withoutProto y) ∧
      SameValue (protoParts x) (protoParts y) := by
  induction x using Json.byMembers with
  | arr elems ih =>
      intro y hx hy h
      cases y with
      | arr elems' =>
          rw [distinctKeys_arr] at hx hy
          simp only [withoutProto, protoParts, withoutProtoElems_eq, protoPartsElems_eq,
            sameValue_arr, List.forall₂_map_left_iff, List.forall₂_map_right_iff] at h ⊢
          exact ⟨forall₂_of_and (fun x hm y hm' hxy _ =>
              (ih x hm y (hx x hm) (hy y hm') hxy).1) h h,
            forall₂_of_and (fun x hm y hm' hxy _ =>
              (ih x hm y (hx x hm) (hy y hm') hxy).2) h h⟩
      | _ => simp [SameValue, sortKeys] at h
  | obj ms ih =>
      intro y hx hy h
      cases y with
      | obj ns =>
          rw [distinctKeys_obj] at hx hy
          simp only [withoutProto, protoParts, withoutProtoMembers_eq, protoPartsMembers_eq]
          rw [filter_proto_map, filter_proto_map]
          have hall := fun l : List (String × Json) => List.filter_eq_self.mpr
            (fun m (_ : m ∈ l) => (rfl : (fun _ : String => true) m.1 = true))
          refine ⟨sameValue_map_members hx.1 hy.1 h (fun k => k ≠ protoKey)
            (fun _ => withoutProto) ?_, ?_⟩
          · exact fun k v w hv hw hvw => (ih _ hv w (hx.2 _ hv) (hy.2 _ hw) hvw).1
          · have hparts := sameValue_map_members hx.1 hy.1 h (fun _ => true)
              (fun k v => if k = protoKey then v else protoParts v) ?_
            · rwa [hall, hall] at hparts
            · intro k v w hv hw hvw
              by_cases hk : k = protoKey
              · simpa [hk] using hvw
              · simpa only [if_neg hk] using (ih _ hv w (hx.2 _ hv) (hy.2 _ hw) hvw).2
      | _ => simp [SameValue, sortKeys] at h
  | _ =>
      intro y _ _ h
      cases y <;> simp_all [SameValue, withoutProto, protoParts, sortKeys]

end AgentBigBrain.Core
