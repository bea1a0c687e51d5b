import AgentBigBrain.Js.Text

/-!
# Texts that were cut between code units

A slice may begin or end inside a surrogate pair. Stored as text, a half of a pair becomes the
replacement character, which is one unit as well; the whole characters stay where they are.
-/
namespace AgentBigBrain.Js

def isHighSurrogate (unit : ℕ) : Bool := 0xD800 ≤ unit && unit < 0xDC00

def isLowSurrogate (unit : ℕ) : Bool := 0xDC00 ≤ unit && unit < 0xE000

/-- A unit on its own. -/
def unitChar (unit : ℕ) : Char :=
  if isHighSurrogate unit || isLowSurrogate unit then Char.ofNat 0xFFFD else Char.ofNat unit

def pairChar (high low : ℕ) : Char :=
  Char.ofNat (0x10000 + (high - 0xD800) * 0x400 + (low - 0xDC00))

/-- The characters of a list of code units. -/
def decodeUnits : List ℕ → List Char
  | [] => []
  | [unit] => [unitChar unit]
  | unit :: next :: rest =>
      if isHighSurrogate unit && isLowSurrogate next then pairChar unit next :: decodeUnits rest
      else unitChar unit :: decodeUnits (next :: rest)

def textOfUnits (units : List ℕ) : String := String.ofList (decodeUnits units)

/-- The list does not begin with the second half of a pair. -/
def StartsWhole (units : List ℕ) : Prop := ∀ unit ∈ units.head?, isLowSurrogate unit = false

lemma decodeUnits_cons {unit : ℕ} {rest : List ℕ}
    (h : isHighSurrogate unit = false ∨ StartsWhole rest) :
    decodeUnits (unit :: rest) = unitChar unit :: decodeUnits rest := by
  cases rest with
  | nil => rfl
  | cons next rest =>
      have hnot : (isHighSurrogate unit && isLowSurrogate next) = false := by
        rcases h with hhigh | hwhole
        · rw [hhigh, Bool.false_and]
        · have hlow := hwhole next (by simp)
          rw [hlow, Bool.and_false]
      rw [decodeUnits, hnot]
      rfl

lemma startsWhole_charUnits_append (c : Char) (rest : List ℕ) :
    StartsWhole (charUnits c ++ rest) := by
  have hvalid : c.toNat < 0xD800 ∨ 0xDFFF < c.toNat ∧ c.toNat < 0x110000 := c.valid
  intro unit hunit
  unfold charUnits at hunit
  split_ifs at hunit with hsmall
  · obtain rfl : c.toNat = unit := by simpa using hunit
    simp only [isLowSurrogate, Bool.and_eq_false_iff, decide_eq_false_iff_not]
    omega
  · obtain rfl : 0xD800 + (c.toNat - 0x10000) / 0x400 = unit := by simpa using hunit
    simp only [isLowSurrogate, Bool.and_eq_false_iff, decide_eq_false_iff_not]
    omega

/-- A whole character is read as it was written. -/
lemma decodeUnits_charUnits_append (c : Char) (rest : List ℕ) :
    decodeUnits (charUnits c ++ rest) = c :: decodeUnits rest := by
  have hvalid : c.toNat < 0xD800 ∨ 0xDFFF < c.toNat ∧ c.toNat < 0x110000 := c.valid
  unfold charUnits
  split_ifs with hsmall
  · have hhigh : isHighSurrogate c.toNat = false := by
      simp only [isHighSurrogate, Bool.and_eq_false_iff, decide_eq_false_iff_not]
      omega
    have hlow : isLowSurrogate c.toNat = false := by
      simp only [isLowSurrogate, Bool.and_eq_false_iff, decide_eq_false_iff_not]
      omega
    rw [List.singleton_append, decodeUnits_cons (.inl hhigh), unitChar, hhigh, hlow]
    simp
  · have hhigh : isHighSurrogate (0xD800 + (c.toNat - 0x10000) / 0x400) = true := by
      simp only [isHighSurrogate, Bool.and_eq_true, decide_eq_true_eq]
      omega
    have hlow : isLowSurrogate (0xDC00 + (c.toNat - 0x10000) % 0x400) = true := by
      simp only [isLowSurrogate, Bool.and_eq_true, decide_eq_true_eq]
      omega
    have hvalue : 0x10000 + (0xD800 + (c.toNat - 0x10000) / 0x400 - 0xD800) * 0x400 +
        (0xDC00 + (c.toNat - 0x10000) % 0x400 - 0xDC00) = c.toNat := by
      omega
    simp only [List.cons_append, List.nil_append, decodeUnits, hhigh, hlow, Bool.and_self,
      if_true, pairChar, hvalue, Char.ofNat_toNat]

lemma decodeUnits_codeUnits_append (text : String) (rest : List ℕ) :
    decodeUnits (codeUnits text ++ rest) = text.toList ++ decodeUnits rest := by
  unfold codeUnits
  induction text.toList with
  | nil => rfl
  | cons c cs ih =>
      rw [List.flatMap_cons, List.append_assoc, decodeUnits_charUnits_append, ih, List.cons_append]

lemma decodeUnits_append (before : List ℕ) {after : List ℕ} (h : StartsWhole after) :
    decodeUnits (before ++ after) = decodeUnits before ++ decodeUnits after := by
  induction before using decodeUnits.induct with
  | case1 => rfl
  | case2 unit => exact decodeUnits_cons (.inr h)
  | case3 unit next rest hpair ih =>
      simp only [List.cons_append, decodeUnits, hpair, if_true, ih]
  | case4 unit next rest hpair ih =>
      simp only [List.cons_append, decodeUnits, hpair] at ih ⊢
      rw [ih]
      rfl

/-- What stands whole in the units stands in the text that is stored for them. -/
theorem infix_textOfUnits {text : String} {units : List ℕ} (h : codeUnits text <:+: units)
    (hnonempty : text ≠ "") : codeUnits text <:+: codeUnits (textOfUnits units) := by
  obtain ⟨before, after, rfl⟩ := h
  obtain ⟨c, cs, hcs⟩ : ∃ c cs, text.toList = c :: cs := by
    refine List.exists_cons_of_ne_nil fun hempty => hnonempty ?_
    exact String.toList_inj.mp hempty
  have hwhole : StartsWhole (codeUnits text ++ after) := by
    unfold codeUnits
    rw [hcs, List.flatMap_cons, List.append_assoc]
    exact startsWhole_charUnits_append c _
  rw [List.append_assoc, textOfUnits, decodeUnits_append before hwhole,
    decodeUnits_codeUnits_append]
  refine ⟨(decodeUnits before).flatMap charUnits, (decodeUnits after).flatMap charUnits, ?_⟩
  simp [codeUnits, List.flatMap_append]

end AgentBigBrain.Js
