import AgentBigBrain.Core.Canonicalization
import AgentBigBrain.Js.TieOrder
import Mathlib.Data.Nat.Digits.Lemmas

/-!
# What a canonical text identifies

The canonical text of a parsed value shows neither its `__proto__` members nor which of its
numbers are infinite, and where the locale does not tell two keys apart it shows in which order
they stand. These are the only ways in which it tells more or less than the value up to the order
of its keys.
-/
namespace AgentBigBrain.Core

open AgentBigBrain.Js Json

/-! ## Numbers beyond the largest double -/

/-- A number literal such as `1e999` is parsed to an infinity. A value keeps it under this text,
which is the shortest text of no finite number. -/
def overflowed (number : NumberText) : Bool :=
  decide (number.text = ['1', 'e', '9', '9', '9'] ∨ number.text = ['-', '1', 'e', '9', '9', '9'])

mutual

/-- `JSON.stringify` prints an infinity as `null`. -/
def overflowAsNull : Json → Json
  | .num number => if overflowed number then .null else .num number
  | .arr elems => .arr (overflowAsNullElems elems)
  | .obj members => .obj (overflowAsNullMembers members)
  | x => x

def overflowAsNullElems : List Json → List Json
  | [] => []
  | x :: xs => overflowAsNull x :: overflowAsNullElems xs

def overflowAsNullMembers : List (String × Json) → List (String × Json)
  | [] => []
  | (k, x) :: ms => (k, overflowAsNull x) :: overflowAsNullMembers ms

end

@[simp] lemma overflowAsNullElems_eq (xs : List Json) :
    overflowAsNullElems xs = xs.map overflowAsNull := by
  induction xs with
  | nil => rfl
  | cons x xs ih => simp [overflowAsNullElems, ih]

@[simp] lemma overflowAsNullMembers_eq (ms : List (String × Json)) :
    overflowAsNullMembers ms = ms.map fun m => (m.1, overflowAsNull m.2) := by
  induction ms with
  | nil => rfl
  | cons m ms ih => simp [overflowAsNullMembers, ih]

/-- `canonicalJson` of a parsed value. -/
def canonicalJsonOfParsed (locale : Locale) (x : Json) : String :=
  stringify (overflowAsNull (canonicalizeForHash locale x))

/-- What the text of a value can show of it. -/
def visible (x : Json) : Json :=
  withoutProto (overflowAsNull x)

/-! ## Tied keys -/

/-- The keys that the locale puts where the given one stands, in property order. An array index
has its own place and `__proto__` has none. -/
def tiedKeys (locale : Locale) (key : String) (members : List (String × Json)) : List String :=
  (members.map Prod.fst).filter fun k =>
    decide (k ≠ protoKey) && (arrayIndex k).isNone && locale.tied key k

mutual

/-- Wherever both values hold an object, keys that the locale ties stand in the same order. -/
def TiesAgree (locale : Locale) : Json → Json → Prop
  | .arr elems, .arr elems' => TiesAgreeElems locale elems elems'
  | .obj members, .obj members' =>
      (∀ key, tiedKeys locale key members = tiedKeys locale key members') ∧
        TiesAgreeMembers locale members members'
  | _, _ => True

def TiesAgreeElems (locale : Locale) : List Json → List Json → Prop
  | x :: xs, y :: ys => TiesAgree locale x y ∧ TiesAgreeElems locale xs ys
  | _, _ => True

def TiesAgreeMembers (locale : Locale) :
    List (String × Json) → List (String × Json) → Prop
  | [], _ => True
  | (k, x) :: ms, ns =>
      (k ≠ protoKey → ∀ y, (k, y) ∈ ns → TiesAgree locale x y) ∧ TiesAgreeMembers locale ms ns

end

lemma tiesAgreeMembers_iff {locale : Locale} {ms ns : List (String × Json)} :
    TiesAgreeMembers locale ms ns ↔
      ∀ k x y, k ≠ protoKey → (k, x) ∈ ms → (k, y) ∈ ns → TiesAgree locale x y := by
  induction ms with
  | nil => simp [TiesAgreeMembers]
  | cons m ms ih =>
      obtain ⟨l, z⟩ := m
      rw [TiesAgreeMembers, ih]
      constructor
      · rintro ⟨hfirst, hrest⟩ k x y hk hx hy
        rcases List.mem_cons.mp hx with heq | hx
        · obtain ⟨rfl, rfl⟩ := Prod.mk.inj heq
          exact hfirst hk y hy
        · exact hrest k x y hk hx hy
      · intro h
        exact ⟨fun hk y hy => h l z y hk List.mem_cons_self hy,
          fun k x y hk hx hy => h k x y hk (List.mem_cons_of_mem _ hx) hy⟩

/-! ## Array indices -/

/-- The digits of an array index, the last one first. -/
def indexDigits (key : String) : List ℕ :=
  (key.toList.map fun c => c.toNat - 48).reverse

lemma foldl_digits (cs : List Char) (start : ℕ) :
    cs.foldl (fun n d => 10 * n + (d.toNat - 48)) start =
      Nat.ofDigits 10 ((cs.map fun c => c.toNat - 48).reverse) + 10 ^ cs.length * start := by
  induction cs generalizing start with
  | nil => simp
  | cons c cs ih =>
      rw [List.foldl_cons, ih, List.map_cons, Nat.ofDigits_reverse_cons]
      simp only [List.length_map, List.length_cons, pow_succ]
      ring

/-- The shape of an array index: digits, and no zero before others. -/
lemma arrayIndex_eq_some {key : String} {index : ℕ} (h : arrayIndex key = some index) :
    ∃ c cs, key.toList = c :: cs ∧ (∀ d ∈ c :: cs, d.isDigit = true) ∧ (cs = [] ∨ c ≠ '0') ∧
      index = Nat.ofDigits 10 (indexDigits key) := by
  unfold arrayIndex at h
  cases hkey : key.toList with
  | nil => simp [hkey] at h
  | cons c cs =>
      simp only [hkey] at h
      split_ifs at h with hcond
      simp only [Bool.and_eq_true, List.all_eq_true, Bool.or_eq_true, bne_iff_ne,
        List.isEmpty_iff, decide_eq_true_eq] at hcond
      refine ⟨c, cs, rfl, hcond.1.1, hcond.1.2, ?_⟩
      rw [foldl_digits, Nat.mul_zero, Nat.add_zero] at h
      rw [indexDigits, hkey]
      exact (Option.some.inj h).symm

lemma digit_range {c : Char} (h : c.isDigit = true) : 48 ≤ c.toNat ∧ c.toNat ≤ 57 := by
  simp only [Char.isDigit, Bool.and_eq_true, decide_eq_true_eq, UInt32.le_iff_toNat_le, ge_iff_le]
    at h
  exact h

lemma digit_inj {c d : Char} (hc : c.isDigit = true) (hd : d.isDigit = true)
    (h : c.toNat - 48 = d.toNat - 48) : c = d := by
  have hc := digit_range hc
  have hd := digit_range hd
  have hnat : c.toNat = d.toNat := by omega
  exact Char.toNat_inj.mp hnat

lemma digits_text_inj {cs ds : List Char} (hcs : ∀ c ∈ cs, c.isDigit = true)
    (hds : ∀ d ∈ ds, d.isDigit = true)
    (h : (cs.map fun c => c.toNat - 48) = ds.map fun d => d.toNat - 48) : cs = ds := by
  induction cs generalizing ds with
  | nil => simpa using h.symm
  | cons c cs ih =>
      cases ds with
      | nil => simp at h
      | cons d ds =>
          simp only [List.map_cons, List.cons.injEq] at h
          have hhead := digit_inj (hcs c List.mem_cons_self) (hds d List.mem_cons_self) h.1
          rw [hhead, ih (fun e he => hcs e (List.mem_cons_of_mem c he))
            (fun e he => hds e (List.mem_cons_of_mem d he)) h.2]

lemma digits_arrayIndex {key : String} {index : ℕ} (h : arrayIndex key = some index) :
    Nat.digits 10 index = indexDigits key ∨ key.toList = ['0'] := by
  obtain ⟨c, cs, hkey, hdigits, hlead, rfl⟩ := arrayIndex_eq_some h
  by_cases hzero : c = '0'
  · right
    have hnil : cs = [] := hlead.resolve_right fun hne => hne hzero
    rw [hkey, hzero, hnil]
  · left
    refine Nat.digits_ofDigits 10 (by norm_num) _ ?_ fun _ => ?_
    · intro digit hdigit
      rw [indexDigits, List.mem_reverse, List.mem_map] at hdigit
      obtain ⟨d, hd, rfl⟩ := hdigit
      have hrange := digit_range (hdigits d (hkey ▸ hd))
      omega
    · have hrange := digit_range (hdigits c List.mem_cons_self)
      have hne : c.toNat ≠ 48 := fun heq => hzero (Char.toNat_inj.mp heq)
      simp only [indexDigits, hkey, List.map_cons, List.reverse_cons, List.getLast_append_singleton]
      omega

/-- Different keys are different array indices. -/
lemma arrayIndex_inj {k l : String} {index : ℕ} (hk : arrayIndex k = some index)
    (hl : arrayIndex l = some index) : k = l := by
  have hne : ∀ {key : String}, arrayIndex key = some index → indexDigits key ≠ [] := by
    intro key h hnil
    obtain ⟨c, cs, hkey, -⟩ := arrayIndex_eq_some h
    simp [indexDigits, hkey] at hnil
  have hsame : ∀ {key : String}, arrayIndex key = some index → key.toList = ['0'] → index = 0 := by
    intro key h hzero
    obtain ⟨c, cs, -, -, -, hindex⟩ := arrayIndex_eq_some h
    rw [hindex, indexDigits, hzero]
    rfl
  apply String.toList_inj.mp
  rcases digits_arrayIndex hk with hdk | hzk
  · rcases digits_arrayIndex hl with hdl | hzl
    · obtain ⟨c, cs, hkeyk, hdigk, -⟩ := arrayIndex_eq_some hk
      obtain ⟨d, ds, hkeyl, hdigl, -⟩ := arrayIndex_eq_some hl
      have hmap := List.reverse_injective (hdk.symm.trans hdl)
      exact digits_text_inj (hkeyk ▸ hdigk) (hkeyl ▸ hdigl) hmap
    · rw [hsame hl hzl, Nat.digits_zero] at hdk
      exact absurd hdk.symm (hne hk)
  · rcases digits_arrayIndex hl with hdl | hzl
    · rw [hsame hk hzk, Nat.digits_zero] at hdl
      exact absurd hdl.symm (hne hl)
    · rw [hzk, hzl]

/-! ## The members of a canonical object -/

/-- Rewriting values moves no member. -/
lemma sort_map_values (c : Comparator (String × Json)) (f : Json → Json)
    (hc : ∀ a b, c.le (a.1, f a.2) (b.1, f b.2) = c.le a b) (ms : List (String × Json)) :
    c.sort (ms.map fun m => (m.1, f m.2)) = (c.sort ms).map fun m => (m.1, f m.2) := by
  refine (List.map_insertionSort _ _ _ _ ?_).symm
  intro a _ b _
  rw [hc]

lemma filter_map_values (f : Json → Json) (p : String → Bool) (ms : List (String × Json)) :
    (ms.map fun m => (m.1, f m.2)).filter (fun m => p m.1) =
      (ms.filter fun m => p m.1).map fun m => (m.1, f m.2) := by
  rw [List.filter_map]
  rfl

lemma assignMembers_map_values (f : Json → Json) (ms : List (String × Json)) :
    assignMembers (ms.map fun m => (m.1, f m.2)) =
      (assignMembers ms).map fun m => (m.1, f m.2) := by
  have hown := filter_proto_map f ms
  have hindex (l : List (String × Json)) := filter_map_values f (fun k => (arrayIndex k).isSome) l
  have hplain (l : List (String × Json)) :=
    filter_map_values f (fun k => !(arrayIndex k).isSome) l
  unfold assignMembers isArrayIndex
  dsimp only
  rw [hown, hindex, hplain, sort_map_values arrayIndexOrder f fun _ _ => rfl, List.map_append]

lemma overflowAsNull_canonicalizeForHash (locale : Locale) (x : Json) :
    overflowAsNull (canonicalizeForHash locale x) =
      canonicalizeForHash locale (overflowAsNull x) := by
  induction x using Json.byMembers with
  | num number =>
      simp only [canonicalizeForHash, overflowAsNull]
      split <;> rfl
  | arr elems ih =>
      simp only [canonicalizeForHash, overflowAsNull, canonicalizeElems_eq,
        overflowAsNullElems_eq, List.map_map, arr.injEq]
      exact List.map_congr_left ih
  | obj members ih =>
      simp only [canonicalizeForHash, overflowAsNull, canonicalizeMembers_eq,
        overflowAsNullMembers_eq, obj.injEq]
      rw [← assignMembers_map_values,
        ← sort_map_values (localeKeyOrder locale) overflowAsNull fun _ _ => rfl, List.map_map,
        List.map_map]
      refine congrArg (fun ms => assignMembers ((localeKeyOrder locale).sort ms)) ?_
      exact List.map_congr_left fun m hm => congrArg (Prod.mk m.1) (ih m hm)
  | _ => rfl

/-- The members of the canonical object that stand where the locale puts them. -/
def isPlain (m : String × Json) : Bool :=
  decide (m.1 ≠ protoKey) && !isArrayIndex m

/-- The members whose key is an array index. -/
def isIndexed (m : String × Json) : Bool :=
  decide (m.1 ≠ protoKey) && isArrayIndex m

/-- The members of an object in canonical form, before they are placed. -/
def canonicalMembers (locale : Locale) (ms : List (String × Json)) : List (String × Json) :=
  ms.map fun m => (m.1, canonicalizeForHash locale m.2)

lemma assignMembers_sort (locale : Locale) (ms : List (String × Json)) :
    assignMembers ((localeKeyOrder locale).sort ms) =
      arrayIndexOrder.sort ((localeKeyOrder locale).sort (ms.filter isIndexed)) ++
        (localeKeyOrder locale).sort (ms.filter isPlain) := by
  unfold assignMembers
  dsimp only
  rw [List.filter_filter, List.filter_filter, Comparator.filter_sort, Comparator.filter_sort]
  have hindexed : (fun m : String × Json => isArrayIndex m && decide (m.1 ≠ protoKey)) =
      isIndexed := funext fun m => Bool.and_comm _ _
  have hplain : (fun m : String × Json => !isArrayIndex m && decide (m.1 ≠ protoKey)) =
      isPlain := funext fun m => Bool.and_comm _ _
  rw [hindexed, hplain]

lemma mem_canonicalMembers {locale : Locale} {ms : List (String × Json)} {k : String} {v : Json} :
    (k, v) ∈ canonicalMembers locale ms ↔ ∃ x, (k, x) ∈ ms ∧ canonicalizeForHash locale x = v := by
  unfold canonicalMembers
  rw [List.mem_map]
  constructor
  · rintro ⟨⟨l, x⟩, hx, heq⟩
    obtain ⟨rfl, hv⟩ := Prod.mk.inj heq
    exact ⟨x, hx, hv⟩
  · rintro ⟨x, hx, rfl⟩
    exact ⟨(k, x), hx, rfl⟩

lemma keys_canonicalMembers (locale : Locale) (ms : List (String × Json)) :
    (canonicalMembers locale ms).map Prod.fst = ms.map Prod.fst :=
  map_keys _ ms

/-- The keys that a sort by the locale must not reorder. -/
lemma tiedKeys_eq (locale : Locale) (key : String) (ms : List (String × Json)) :
    tiedKeys locale key ms =
      (((canonicalMembers locale ms).filter isPlain).filter
        ((localeKeyOrder locale).tied (key, .null))).map Prod.fst := by
  unfold tiedKeys
  rw [← keys_canonicalMembers locale ms, List.filter_map, List.filter_filter]
  refine congrArg (List.map Prod.fst) (List.filter_congr fun m _ => ?_)
  simp only [Function.comp, isPlain, isArrayIndex, Option.not_isSome, Comparator.tied,
    localeKeyOrder, Comparator.byKey_le]
  exact Bool.and_comm _ _

lemma mem_assignMembers {locale : Locale} {ms : List (String × Json)} {m : String × Json} :
    m ∈ assignMembers ((localeKeyOrder locale).sort ms) ↔ m ∈ ms ∧ m.1 ≠ protoKey := by
  rw [(assignMembers_perm _).mem_iff, List.mem_filter, Comparator.mem_sort, decide_eq_true_iff]

/-- The part of a canonical object that the locale orders. -/
lemma filter_isPlain_assignMembers (locale : Locale) (ms : List (String × Json)) :
    (assignMembers ((localeKeyOrder locale).sort ms)).filter isPlain =
      (localeKeyOrder locale).sort (ms.filter isPlain) := by
  rw [assignMembers_sort, List.filter_append, Comparator.filter_sort, Comparator.filter_sort,
    Comparator.filter_sort, List.filter_filter, List.filter_filter]
  have hnone : ms.filter (fun m => isPlain m && isIndexed m) = [] := by
    refine List.filter_eq_nil_iff.mpr fun m _ => ?_
    cases h : isArrayIndex m <;> simp [isPlain, isIndexed, h]
  have hself : (fun m : String × Json => isPlain m && isPlain m) = isPlain :=
    funext fun m => Bool.and_self _
  rw [hnone, hself]
  rfl

lemma eq_of_keys_eq {ms ns : List (String × Json)} (hkeys : ms.map Prod.fst = ns.map Prod.fst)
    (hvalues : ∀ k v w, (k, v) ∈ ms → (k, w) ∈ ns → v = w) : ms = ns := by
  induction ms generalizing ns with
  | nil => simpa using hkeys.symm
  | cons m ms ih =>
      cases ns with
      | nil => simp at hkeys
      | cons n ns =>
          simp only [List.map_cons, List.cons.injEq] at hkeys
          have hhead : m = n := by
            refine Prod.ext hkeys.1 (hvalues m.1 m.2 n.2 List.mem_cons_self ?_)
            rw [hkeys.1]
            exact List.mem_cons_self
          rw [hhead, ih hkeys.2 fun k v w hv hw =>
            hvalues k v w (List.mem_cons_of_mem m hv) (List.mem_cons_of_mem n hw)]

/-- Array indices are placed by their number, whatever the locale does. -/
lemma arrayIndexOrder_sort_perm {ms ns : List (String × Json)}
    (hkeys : (ms.map Prod.fst).Nodup) (hindexed : ∀ m ∈ ms, isArrayIndex m = true)
    (h : ms.Perm ns) : arrayIndexOrder.sort ms = arrayIndexOrder.sort ns := by
  refine arrayIndexOrder.sort_eq_of_perm h fun a ha b hb hab hba => ?_
  obtain ⟨i, hi⟩ := Option.isSome_iff_exists.mp (hindexed a ha)
  obtain ⟨j, hj⟩ := Option.isSome_iff_exists.mp (hindexed b hb)
  simp only [arrayIndexOrder, hi, hj, Option.getD_some, decide_eq_true_eq] at hab hba
  obtain rfl : i = j := le_antisymm hab hba
  exact eq_of_key_eq hkeys ha hb (arrayIndex_inj hi hj)

/-- Objects with the same canonical values at the same keys have one canonical form exactly if
their tied keys stand in the same order. -/
lemma assignMembers_eq_of_members {locale : Locale} {ms ns : List (String × Json)}
    (hms : (ms.map Prod.fst).Nodup) (hns : (ns.map Prod.fst).Nodup)
    (hmem : ∀ k v, k ≠ protoKey →
      ((k, v) ∈ canonicalMembers locale ms ↔ (k, v) ∈ canonicalMembers locale ns))
    (hties : ∀ key, tiedKeys locale key ms = tiedKeys locale key ns) :
    assignMembers ((localeKeyOrder locale).sort (canonicalMembers locale ms)) =
      assignMembers ((localeKeyOrder locale).sort (canonicalMembers locale ns)) := by
  have hkeys : ((canonicalMembers locale ms).map Prod.fst).Nodup := by
    rwa [keys_canonicalMembers]
  have hkeys' : ((canonicalMembers locale ns).map Prod.fst).Nodup := by
    rwa [keys_canonicalMembers]
  have hproto : ∀ p : Bool, ∀ k : String, (decide (k ≠ protoKey) && p) = true → k ≠ protoKey := by
    intro p k h
    exact of_decide_eq_true (Bool.and_eq_true_iff.mp h).1
  rw [assignMembers_sort, assignMembers_sort]
  congr 1
  · have hperm : ((canonicalMembers locale ms).filter isIndexed).Perm
        ((canonicalMembers locale ns).filter isIndexed) := by
      refine (List.perm_ext_iff_of_nodup
        (List.Nodup.of_map Prod.fst (keys_filter_nodup hkeys _))
        (List.Nodup.of_map Prod.fst (keys_filter_nodup hkeys' _))).mpr ?_
      rintro ⟨k, v⟩
      rw [List.mem_filter, List.mem_filter]
      exact and_congr_left fun h => hmem k v (hproto _ k h)
    have hsorted := ((localeKeyOrder locale).sort_perm _).trans
      (hperm.trans ((localeKeyOrder locale).sort_perm _).symm)
    refine arrayIndexOrder_sort_perm ?_ ?_ hsorted
    · have hnodup := keys_filter_nodup hkeys isIndexed
      exact ((((localeKeyOrder locale).sort_perm _).map Prod.fst).nodup_iff).mpr hnodup
    · intro m hm
      have hfilter := (List.mem_filter.mp ((localeKeyOrder locale).mem_sort.mp hm)).2
      exact (Bool.and_eq_true_iff.mp hfilter).2
  · refine (localeKeyOrder locale).sort_eq_sort_iff.mpr fun a => eq_of_keys_eq ?_ ?_
    · have hsame : (localeKeyOrder locale).tied a = (localeKeyOrder locale).tied (a.1, .null) :=
        rfl
      rw [hsame, ← tiedKeys_eq, ← tiedKeys_eq, hties]
    · intro k v w hv hw
      have hv := List.mem_filter.mp (List.mem_of_mem_filter hv)
      have hw := List.mem_of_mem_filter (List.mem_of_mem_filter hw)
      have hv' := (hmem k v (hproto _ k hv.2)).mp hv.1
      exact (Prod.mk.inj (eq_of_key_eq hkeys' hv' hw rfl)).2

/-! ## Equal canonical forms -/

/-- The canonical forms of two objects agree, given that those of their values are known. -/
lemma canonicalizeForHash_obj_iff {locale : Locale} {ms ns : List (String × Json)}
    (hms : (Json.obj ms).DistinctKeys) (hns : (Json.obj ns).DistinctKeys)
    (hvalues : ∀ k x y, (k, x) ∈ ms → (k, y) ∈ ns →
      (canonicalizeForHash locale x = canonicalizeForHash locale y ↔
        SameValue (withoutProto x) (withoutProto y) ∧ TiesAgree locale x y)) :
    canonicalizeForHash locale (.obj ms) = canonicalizeForHash locale (.obj ns) ↔
      SameValue (withoutProto (.obj ms)) (withoutProto (.obj ns)) ∧
        TiesAgree locale (.obj ms) (.obj ns) := by
  have hsame := canonicalizeForHash_sameValue locale (.obj ms) hms
  have hsame' := canonicalizeForHash_sameValue locale (.obj ns) hns
  rw [distinctKeys_obj] at hms hns
  have hform : ∀ ms, canonicalizeForHash locale (.obj ms) =
      .obj (assignMembers ((localeKeyOrder locale).sort (canonicalMembers locale ms))) := by
    intro ms
    rw [canonicalizeForHash, canonicalizeMembers_eq]
    rfl
  constructor
  · intro h
    rw [h] at hsame
    refine ⟨hsame.symm.trans hsame', ?_⟩
    rw [hform, hform, obj.injEq] at h
    refine ⟨fun key => ?_, tiesAgreeMembers_iff.mpr fun k x y hk hx hy => ?_⟩
    · have hplain := congrArg (List.filter isPlain) h
      rw [filter_isPlain_assignMembers, filter_isPlain_assignMembers] at hplain
      rw [tiedKeys_eq, tiedKeys_eq,
        (localeKeyOrder locale).sort_eq_sort_iff.mp hplain (key, .null)]
    · have hmem : (k, canonicalizeForHash locale x) ∈
          assignMembers ((localeKeyOrder locale).sort (canonicalMembers locale ns)) := by
        rw [← h, mem_assignMembers]
        exact ⟨mem_canonicalMembers.mpr ⟨x, hx, rfl⟩, hk⟩
      obtain ⟨y', hy', hxy⟩ := mem_canonicalMembers.mp (mem_assignMembers.mp hmem).1
      obtain rfl : y' = y := (Prod.mk.inj (eq_of_key_eq hns.1 hy' hy rfl)).2
      exact ((hvalues k x y' hx hy).mp hxy.symm).2
  · rintro ⟨hvisible, htied, hagree⟩
    rw [tiesAgreeMembers_iff] at hagree
    have hown : ∀ ms : List (String × Json),
        withoutProto (.obj ms) =
          .obj ((ms.filter fun m => m.1 ≠ protoKey).map fun m => (m.1, withoutProto m.2)) := by
      intro ms
      rw [withoutProto, withoutProtoMembers_eq, filter_proto_map]
    rw [hown, hown] at hvisible
    have hkeys : ∀ {ms : List (String × Json)}, (ms.map Prod.fst).Nodup →
        (((ms.filter fun m => m.1 ≠ protoKey).map fun m =>
          (m.1, withoutProto m.2)).map Prod.fst).Nodup := by
      intro ms hnodup
      rw [map_keys]
      exact keys_filter_nodup hnodup _
    have hown_mem : ∀ {ms : List (String × Json)} {k : String} {x : Json}, k ≠ protoKey →
        (k, x) ∈ ms → (k, withoutProto x) ∈
          (ms.filter fun m => m.1 ≠ protoKey).map fun m => (m.1, withoutProto m.2) := by
      intro ms k x hk hx
      exact List.mem_map.mpr ⟨(k, x), List.mem_filter.mpr ⟨hx, by simpa using hk⟩, rfl⟩
    have hmem_own : ∀ {ms : List (String × Json)} {k : String} {v : Json},
        (k, v) ∈ ((ms.filter fun m => m.1 ≠ protoKey).map fun m => (m.1, withoutProto m.2)) →
          ∃ x, (k, x) ∈ ms ∧ withoutProto x = v := by
      intro ms k v hv
      obtain ⟨⟨l, x⟩, hx, heq⟩ := List.mem_map.mp hv
      obtain ⟨rfl, hvalue⟩ := Prod.mk.inj heq
      exact ⟨x, List.mem_of_mem_filter hx, hvalue⟩
    rw [hform, hform]
    refine congrArg Json.obj (assignMembers_eq_of_members hms.1 hns.1 (fun k v hk => ?_) htied)
    rw [mem_canonicalMembers, mem_canonicalMembers]
    constructor
    · rintro ⟨x, hx, rfl⟩
      obtain ⟨v, hv, hxv⟩ := members_of_sameValue (hkeys hms.1) hvisible (hown_mem hk hx)
      obtain ⟨y, hy, rfl⟩ := hmem_own hv
      exact ⟨y, hy, ((hvalues k x y hx hy).mpr ⟨hxv, hagree k x y hk hx hy⟩).symm⟩
    · rintro ⟨y, hy, rfl⟩
      obtain ⟨v, hv, hyv⟩ := members_of_sameValue (hkeys hns.1) hvisible.symm (hown_mem hk hy)
      obtain ⟨x, hx, rfl⟩ := hmem_own hv
      exact ⟨x, hx, (hvalues k x y hx hy).mpr ⟨hyv.symm, hagree k x y hk hx hy⟩⟩

theorem canonicalizeForHash_eq_iff (locale : Locale) (x : Json) :
    ∀ y : Json, x.DistinctKeys → y.DistinctKeys →
      (canonicalizeForHash locale x = canonicalizeForHash locale y ↔
        SameValue (withoutProto x) (withoutProto y) ∧ TiesAgree locale x y) := by
  induction x using Json.byMembers with
  | arr elems ih =>
      intro y hx hy
      cases y with
      | arr elems' =>
          rw [distinctKeys_arr] at hx hy
          simp only [canonicalizeForHash, withoutProto, canonicalizeElems_eq, withoutProtoElems_eq,
            sameValue_arr, List.forall₂_map_left_iff, List.forall₂_map_right_iff, arr.injEq,
            TiesAgree]
          induction elems generalizing elems' with
          | nil => cases elems' <;> simp [TiesAgreeElems]
          | cons x xs ihxs =>
              cases elems' with
              | nil => simp
              | cons y ys =>
                  have hhead := ih x List.mem_cons_self y (hx x List.mem_cons_self)
                    (hy y List.mem_cons_self)
                  have htail := ihxs (fun z hz => ih z (List.mem_cons_of_mem x hz))
                    (fun z hz => hx z (List.mem_cons_of_mem x hz)) ys
                    fun z hz => hy z (List.mem_cons_of_mem y hz)
                  rw [List.map_cons, List.map_cons, List.cons.injEq, hhead, htail,
                    List.forall₂_cons, TiesAgreeElems]
                  tauto
      | _ => simp [SameValue, withoutProto, sortKeys, canonicalizeForHash]
  | obj ms ih =>
      intro y hx hy
      cases y with
      | obj ns =>
          refine canonicalizeForHash_obj_iff hx hy fun k x y hx' hy' => ?_
          rw [distinctKeys_obj] at hx hy
          exact ih (k, x) hx' y (hx.2 (k, x) hx') (hy.2 (k, y) hy')
      | _ => simp [SameValue, withoutProto, sortKeys, canonicalizeForHash]
  | _ =>
      intro y _ _
      cases y <;> simp [SameValue, withoutProto, sortKeys, canonicalizeForHash, TiesAgree]

/-! ## Equal texts -/

lemma sortKeys_overflowAsNull (x : Json) :
    sortKeys (overflowAsNull x) = overflowAsNull (sortKeys x) := by
  induction x using Json.byMembers with
  | num number =>
      simp only [sortKeys, overflowAsNull]
      split <;> rfl
  | arr elems ih =>
      simp only [sortKeys, overflowAsNull, sortKeysElems_eq, overflowAsNullElems_eq, List.map_map,
        arr.injEq]
      exact List.map_congr_left ih
  | obj members ih =>
      simp only [sortKeys, overflowAsNull, sortKeysMembers_eq, overflowAsNullMembers_eq,
        obj.injEq]
      rw [← memberOrder_sort_map, List.map_map, List.map_map]
      refine congrArg memberOrder.sort ?_
      exact List.map_congr_left fun m hm => congrArg (Prod.mk m.1) (ih m hm)
  | _ => rfl

lemma distinctKeys_overflowAsNull {x : Json} (hx : x.DistinctKeys) :
    (overflowAsNull x).DistinctKeys := by
  induction x using Json.byMembers with
  | num number =>
      unfold overflowAsNull
      split <;> trivial
  | arr elems ih =>
      rw [distinctKeys_arr] at hx
      simp only [overflowAsNull, overflowAsNullElems_eq, distinctKeys_arr, List.forall_mem_map]
      exact fun x hmem => ih x hmem (hx x hmem)
  | obj members ih =>
      rw [distinctKeys_obj] at hx
      simp only [overflowAsNull, overflowAsNullMembers_eq, distinctKeys_obj, map_keys,
        List.forall_mem_map]
      exact ⟨hx.1, fun m hm => ih m hm (hx.2 m hm)⟩
  | _ => exact hx

lemma SameValue.visible {x y : Json} (hx : x.DistinctKeys) (hy : y.DistinctKeys)
    (h : SameValue x y) : SameValue (visible x) (visible y) := by
  have hover : SameValue (overflowAsNull x) (overflowAsNull y) := by
    unfold SameValue
    rw [sortKeys_overflowAsNull, sortKeys_overflowAsNull, show sortKeys x = sortKeys y from h]
  exact (parts_of_sameValue _ _ (distinctKeys_overflowAsNull hx) (distinctKeys_overflowAsNull hy)
    hover).1

lemma tiedKeys_overflowAsNull (locale : Locale) (key : String) (ms : List (String × Json)) :
    tiedKeys locale key (ms.map fun m => (m.1, overflowAsNull m.2)) = tiedKeys locale key ms := by
  unfold tiedKeys
  rw [map_keys]

lemma tiesAgree_overflowAsNull (locale : Locale) (x : Json) : ∀ y : Json,
    TiesAgree locale (overflowAsNull x) (overflowAsNull y) ↔ TiesAgree locale x y := by
  have hnum : ∀ number, overflowAsNull (.num number) = .null ∨
      overflowAsNull (.num number) = .num number := by
    intro number
    unfold overflowAsNull
    split
    · exact .inl rfl
    · exact .inr rfl
  have hright : ∀ z number, TiesAgree locale z (overflowAsNull (.num number)) := by
    intro z number
    rcases hnum number with h | h
    · rw [h]
      cases z <;> trivial
    · rw [h]
      cases z <;> trivial
  induction x using Json.byMembers with
  | num number =>
      intro y
      rcases hnum number with h | h <;> simp [h, TiesAgree]
  | arr elems ih =>
      intro y
      cases y with
      | num number => exact iff_of_true (hright _ number) trivial
      | arr elems' =>
          simp only [overflowAsNull, overflowAsNullElems_eq, TiesAgree]
          induction elems generalizing elems' with
          | nil => cases elems' <;> simp [TiesAgreeElems]
          | cons x xs ihxs =>
              cases elems' with
              | nil => simp [TiesAgreeElems]
              | cons y ys =>
                  rw [List.map_cons, List.map_cons, TiesAgreeElems, TiesAgreeElems,
                    ih x List.mem_cons_self y,
                    ihxs (fun z hz => ih z (List.mem_cons_of_mem x hz)) ys]
      | _ => simp [overflowAsNull, TiesAgree]
  | obj ms ih =>
      intro y
      cases y with
      | num number => exact iff_of_true (hright _ number) trivial
      | obj ns =>
          simp only [overflowAsNull, overflowAsNullMembers_eq, TiesAgree, tiedKeys_overflowAsNull,
            tiesAgreeMembers_iff]
          refine and_congr_right fun _ => ⟨fun h k x y hk hx hy => ?_, fun h k v w hk hv hw => ?_⟩
          · have hover := h k (overflowAsNull x) (overflowAsNull y) hk
              (List.mem_map.mpr ⟨(k, x), hx, rfl⟩) (List.mem_map.mpr ⟨(k, y), hy, rfl⟩)
            exact (ih (k, x) hx y).mp hover
          · obtain ⟨⟨l, x⟩, hx, heq⟩ := List.mem_map.mp hv
            obtain ⟨rfl, rfl⟩ := Prod.mk.inj heq
            obtain ⟨⟨l', y⟩, hy, heq'⟩ := List.mem_map.mp hw
            obtain ⟨rfl, rfl⟩ := Prod.mk.inj heq'
            exact (ih (l', x) hx y).mpr (h l' x y hk hx hy)
      | _ => simp [overflowAsNull, TiesAgree]
  | _ =>
      intro y
      simp [overflowAsNull, TiesAgree]

/-- Two parsed values share their canonical text exactly if what it shows of them is the same up
to the order of keys, and keys that the locale ties stand in the same order. -/
theorem canonicalJsonOfParsed_eq_iff (locale : Locale) {x y : Json} (hx : x.DistinctKeys)
    (hy : y.DistinctKeys) :
    canonicalJsonOfParsed locale x = canonicalJsonOfParsed locale y ↔
      SameValue (visible x) (visible y) ∧ TiesAgree locale x y := by
  have htext : canonicalJsonOfParsed locale x = canonicalJsonOfParsed locale y ↔
      canonicalizeForHash locale (overflowAsNull x) =
        canonicalizeForHash locale (overflowAsNull y) := by
    unfold canonicalJsonOfParsed
    rw [overflowAsNull_canonicalizeForHash, overflowAsNull_canonicalizeForHash]
    exact ⟨stringify_injective, congrArg stringify⟩
  rw [htext, canonicalizeForHash_eq_iff locale _ _ (distinctKeys_overflowAsNull hx)
    (distinctKeys_overflowAsNull hy), tiesAgree_overflowAsNull]
  exact Iff.rfl

/-- The canonical text identifies two parsed values up to the order of their keys exactly if equal
values have their tied keys in the same order, and different values with their tied keys in the
same order differ in what the text shows. -/
theorem canonical_text_identifies_iff (locale : Locale) (x y : Json) (hx : x.DistinctKeys)
    (hy : y.DistinctKeys) :
    (canonicalJsonOfParsed locale x = canonicalJsonOfParsed locale y ↔ SameValue x y) ↔
      (SameValue x y → TiesAgree locale x y) ∧
        (¬ SameValue x y → TiesAgree locale x y → ¬ SameValue (visible x) (visible y)) := by
  rw [canonicalJsonOfParsed_eq_iff locale hx hy]
  have hvisible : SameValue x y → SameValue (visible x) (visible y) := SameValue.visible hx hy
  tauto

/-- A grant as one caller writes it. -/
def grantDocument : Json :=
  .obj [("id", .str "grant-1"), ("open", .bool true)]

/-- The same grant with its keys in another order. -/
def reorderedGrant : Json :=
  .obj [("open", .bool true), ("id", .str "grant-1")]

/-- Another document, with a `__proto__` member that `JSON.parse` creates. -/
def protoGrant : Json :=
  .obj [("id", .str "grant-1"), ("__proto__", .null), ("open", .bool true)]

theorem canonical_text_identifies_iff_grants :
    (canonicalJsonOfParsed codeUnitOrder grantDocument =
        canonicalJsonOfParsed codeUnitOrder reorderedGrant ↔
      SameValue grantDocument reorderedGrant) ↔
      (SameValue grantDocument reorderedGrant →
          TiesAgree codeUnitOrder grantDocument reorderedGrant) ∧
        (¬ SameValue grantDocument reorderedGrant →
          TiesAgree codeUnitOrder grantDocument reorderedGrant →
            ¬ SameValue (visible grantDocument) (visible reorderedGrant)) :=
  canonical_text_identifies_iff codeUnitOrder grantDocument reorderedGrant
    (by simp [grantDocument, DistinctKeys]) (by simp [reorderedGrant, DistinctKeys])

/-- The canonical text leaves a `__proto__` member out. -/
theorem canonical_text_hides_proto :
    grantDocument.DistinctKeys ∧ protoGrant.DistinctKeys ∧
      canonicalJsonOfParsed codeUnitOrder protoGrant =
        canonicalJsonOfParsed codeUnitOrder grantDocument ∧
      ¬ SameValue protoGrant grantDocument := by
  refine ⟨by simp [grantDocument, DistinctKeys], by simp [protoGrant, DistinctKeys], ?_, ?_⟩
  · decide
  · decide

end AgentBigBrain.Core
