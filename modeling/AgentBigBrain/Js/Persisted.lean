import AgentBigBrain.Js.Host

/-!
# Reading saved values back

What the guards `typeof value === "string"` and `Number.isInteger(value)` let through of a
parsed document, and that a count written by `JSON.stringify` reads back as itself.
-/
namespace AgentBigBrain.Js

/-! ## Counts -/

lemma digitsValue_append (cs : List Char) (c : Char) :
    digitsValue (cs ++ [c]) = 10 * digitsValue cs + (c.toNat - 48) := by
  simp [digitsValue]

lemma digitChar_value {d : ℕ} (h : d < 10) : (Nat.digitChar d).toNat - 48 = d := by
  interval_cases d <;> rfl

lemma digitsValue_toDigits (n : ℕ) : digitsValue (Nat.toDigits 10 n) = n := by
  induction n using Nat.strong_induction_on with
  | _ n ih =>
      by_cases h : n < 10
      · rw [Nat.toDigits_of_lt_base h]
        simpa [digitsValue] using digitChar_value h
      · rw [Nat.toDigits_of_base_le (by decide) (by omega), digitsValue_append, ih (n / 10) (by omega),
          digitChar_value (Nat.mod_lt _ (by decide))]
        omega

lemma splitAtChar_of_not_mem {mark : Char} {cs : List Char} (h : mark ∉ cs) :
    splitAtChar mark cs = (cs, []) := by
  have hall : ∀ c ∈ cs, decide (c ≠ mark) = true := by
    intro c hc
    have hne : c ≠ mark := fun heq => h (heq ▸ hc)
    simpa using hne
  have htake : cs.takeWhile (fun c => decide (c ≠ mark)) = cs :=
    List.takeWhile_eq_self_iff.mpr hall
  have hdrop : cs.dropWhile (fun c => decide (c ≠ mark)) = [] :=
    List.dropWhile_eq_nil_iff.mpr hall
  rw [splitAtChar, htake, hdrop]
  rfl

namespace NumberText

lemma isDigit_of_mem_ofNat {n : ℕ} {c : Char} (hc : c ∈ (ofNat n).text) : c.isDigit = true :=
  Nat.isDigit_of_mem_toDigits (by decide) (by decide) hc

lemma value_ofNat (n : ℕ) : (ofNat n).value = n := by
  have hnone : ∀ mark : Char, mark.isDigit = false → mark ∉ (ofNat n).text := by
    intro mark hmark hmem
    rw [isDigit_of_mem_ofNat hmem] at hmark
    exact Bool.noConfusion hmark
  have hsplit := splitAtChar_of_not_mem (hnone 'e' (by decide))
  have hdot := splitAtChar_of_not_mem (hnone '.' (by decide))
  have hdigits : digitsValue (ofNat n).text = n := digitsValue_toDigits n
  have hdecimal : decimalValue (ofNat n).text = n := by
    simp [decimalValue, hdot, hdigits]
  have hsign : ∀ cs, (ofNat n).text ≠ '-' :: cs := by
    intro cs hcs
    exact hnone '-' (by decide) (by rw [hcs]; exact List.mem_cons_self)
  unfold value
  -- the text has no sign, so the second branch is the one taken
  simp only [hsplit]
  simp [hdecimal, exponentFactor, digitsValue]

@[simp] lemma toInt_ofNat (n : ℕ) : (ofNat n).toInt = some (n : ℤ) := by
  simp [toInt, value_ofNat]

end NumberText

/-! ## Guards -/

/-- The text itself where `typeof value === "string"`; `none` is also an absent member. -/
def textOf : Option Json → Option String
  | some (.str text) => some text
  | _ => none

/-- A number for which `Number.isInteger(value) && value >= 0`. -/
def naturalOf : Option Json → Option ℕ
  | some (.num n) => n.toInt.bind fun k => if 0 ≤ k then some k.toNat else none
  | _ => none

/-- A number for which `Number.isInteger(value) && value > 0`. -/
def positiveOf (value : Option Json) : Option ℕ :=
  (naturalOf value).filter (0 < ·)

/-- The elements where `Array.isArray(value)`, and none otherwise. -/
def elementsOf : Option Json → List Json
  | some (.arr elems) => elems
  | _ => []

/-- The members of an object that is no array. -/
def membersOf : Option Json → Option (List (String × Json))
  | some (.obj members) => some members
  | _ => none

/-- A text or `null`. -/
def textOrNull : Option String → Json
  | some text => .str text
  | none => .null

def countJson (n : ℕ) : Json :=
  .num (NumberText.ofNat n)

@[simp] lemma textOf_str (text : String) : textOf (some (.str text)) = some text := rfl

@[simp] lemma textOf_textOrNull (text : Option String) :
    textOf (some (textOrNull text)) = text := by
  cases text <;> rfl

@[simp] lemma naturalOf_countJson (n : ℕ) : naturalOf (some (countJson n)) = some n := by
  simp [naturalOf, countJson]

lemma positiveOf_countJson {n : ℕ} (h : 0 < n) : positiveOf (some (countJson n)) = some n := by
  simp [positiveOf, Option.filter_some, h]

@[simp] lemma elementsOf_arr (elems : List Json) : elementsOf (some (.arr elems)) = elems := rfl

@[simp] lemma membersOf_obj (members : List (String × Json)) :
    membersOf (some (.obj members)) = some members := rfl

lemma filterMap_textOf_map_str (texts : List String) :
    (texts.map Json.str).filterMap (fun x => textOf (some x)) = texts := by
  rw [List.filterMap_map]
  exact List.filterMap_some

end AgentBigBrain.Js
