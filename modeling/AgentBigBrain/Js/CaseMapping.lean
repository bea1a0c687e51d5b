import AgentBigBrain.Js.Host
import AgentBigBrain.Lib.Occurrences

/-!
# Searching without regard to case

The source finds a marker in the lower-case form of a text and cuts the text itself at the place
it found. Places are counted in UTF-16 code units. Lower-casing keeps the number of units of every
character but one: a capital i with a dot becomes an i and a combining dot.
-/
namespace AgentBigBrain.Js

open AgentBigBrain.Lib

/-- The length of a character in code units. -/
def unitCount (c : Char) : ℕ := (charUnits c).length

/-- `text.indexOf(part)`. -/
def indexOf (part text : List Char) : Option ℕ := firstOffset unitCount part text

/-- `text.lastIndexOf(part)`. -/
def lastIndexOf (part text : List Char) : Option ℕ := lastOffset unitCount part text

/-- `text.slice(n)` on characters; the second half of a divided pair is left out. -/
def dropUnits : ℕ → List Char → List Char
  | _, [] => []
  | n, c :: cs => if n = 0 then c :: cs else dropUnits (n - unitCount c) cs

lemma unitCount_pos (c : Char) : 0 < unitCount c :=
  List.length_pos_of_ne_nil (charUnits_ne_nil c)

@[simp] lemma dropUnits_zero (cs : List Char) : dropUnits 0 cs = cs := by
  cases cs <;> simp [dropUnits]

@[simp] lemma takeUnits_zero (cs : List Char) : takeUnits 0 cs = [] := by
  cases cs with
  | nil => rfl
  | cons c cs =>
      have hpos := unitCount_pos c
      rw [takeUnits, if_neg (by unfold unitCount at hpos; omega)]

/-- Cutting at the end of the front gives the rest. -/
lemma dropUnits_size (front rest : List Char) :
    dropUnits (size unitCount front) (front ++ rest) = rest := by
  induction front with
  | nil => simp
  | cons c front ih =>
      have hpos := unitCount_pos c
      rw [List.cons_append, dropUnits, size_cons, if_neg (by omega), Nat.add_sub_cancel_left, ih]

lemma takeUnits_size (front rest : List Char) :
    takeUnits (size unitCount front) (front ++ rest) = front := by
  induction front with
  | nil => simp
  | cons c front ih =>
      have hlength : (charUnits c).length = unitCount c := rfl
      rw [List.cons_append, takeUnits, size_cons, hlength, if_pos (by omega),
        Nat.add_sub_cancel_left, ih]

/-! ## Lower case -/

/-- The capital i with a dot, whose lower case is two characters. -/
def dottedI : Char := Char.ofNat 0x130

/-- The lower case of a single character. Which of its two small forms a sigma gets is left
open: no marker has one. -/
structure CaseMapping where
  lowerOf : Char → Char
  ascii : ∀ c, c.toNat < 128 → lowerOf c = c.toLower
  unitCount_lowerOf : ∀ c, unitCount (lowerOf c) = unitCount c

namespace CaseMapping

/-- The mapping that knows the ASCII letters. -/
def asciiLetters : CaseMapping where
  lowerOf := Char.toLower
  ascii _ _ := rfl
  unitCount_lowerOf c := by
    rcases toLower_cases c with ⟨h, -⟩ | ⟨hrange, h⟩
    · rw [h]
    · have hsmall : c.toNat < 0x10000 := by omega
      have hlower : c.toLower.toNat < 0x10000 := by omega
      simp [unitCount, charUnits, hsmall, hlower]

variable (mapping : CaseMapping)

def lowered (c : Char) : List Char :=
  if c = dottedI then ['i', Char.ofNat 0x307] else [mapping.lowerOf c]

/-- `text.toLowerCase()`. -/
def lower (text : List Char) : List Char := text.flatMap mapping.lowered

@[simp] lemma lower_nil : mapping.lower [] = [] := rfl

@[simp] lemma lower_append (front rest : List Char) :
    mapping.lower (front ++ rest) = mapping.lower front ++ mapping.lower rest :=
  List.flatMap_append

lemma lower_infix {part text : List Char} (h : part <:+: text) :
    mapping.lower part <:+: mapping.lower text := by
  obtain ⟨front, rest, rfl⟩ := h
  rw [lower_append, lower_append]
  exact ⟨_, _, rfl⟩

/-- An ASCII text is lower-cased letter by letter. -/
lemma lower_of_ascii {text : List Char} (h : ∀ c ∈ text, c.toNat < 128) :
    mapping.lower text = text.map Char.toLower := by
  induction text with
  | nil => rfl
  | cons c text ih =>
      have hc : c.toNat < 128 := h c (by simp)
      have hne : c ≠ dottedI := by
        rintro rfl
        exact absurd hc (by decide)
      have hrest := ih fun d hd => h d (List.mem_cons_of_mem _ hd)
      have hstep : mapping.lower (c :: text) = mapping.lowered c ++ mapping.lower text := rfl
      rw [hstep, hrest, lowered, if_neg hne, mapping.ascii c hc]
      rfl

/-- Without a dotted capital i the lower case has the places of the text. -/
lemma size_lower {text : List Char} (h : dottedI ∉ text) :
    size unitCount (mapping.lower text) = size unitCount text := by
  induction text with
  | nil => rfl
  | cons c text ih =>
      obtain ⟨hc, htext⟩ := not_or.mp (mt List.mem_cons.mpr h)
      have hstep : mapping.lower (c :: text) = mapping.lowered c ++ mapping.lower text := rfl
      rw [hstep, lowered, if_neg (Ne.symm hc), size_append, ih htext]
      simp [mapping.unitCount_lowerOf]

end CaseMapping

end AgentBigBrain.Js
