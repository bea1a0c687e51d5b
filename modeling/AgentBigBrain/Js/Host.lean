import AgentBigBrain.Js.SameValue

/-!
# Numbers and host functions

The value of a number is read off its decimal text. What the language gives the source
beyond that (collation, dates, case mapping, URL and JSON parsing) is a `Host`, with the
laws of these functions that the proofs rely on.
-/
namespace AgentBigBrain.Js

/-! ## Numbers -/

def digitsValue (cs : List Char) : ℕ :=
  cs.foldl (fun n c => 10 * n + (c.toNat - 48)) 0

/-- A mark and what stands behind it, such as `.25` or `e+21`. -/
def splitAtChar (mark : Char) (cs : List Char) : List Char × List Char :=
  (cs.takeWhile (· ≠ mark), (cs.dropWhile (· ≠ mark)).drop 1)

/-- The value of an unsigned decimal without exponent. -/
def decimalValue (cs : List Char) : ℚ :=
  let parts := splitAtChar '.' cs
  digitsValue (parts.1 ++ parts.2) / 10 ^ parts.2.length

def exponentFactor : List Char → ℚ
  | '-' :: cs => 1 / 10 ^ digitsValue cs
  | '+' :: cs => 10 ^ digitsValue cs
  | cs => 10 ^ digitsValue cs

namespace NumberText

def value (n : NumberText) : ℚ :=
  let parts := splitAtChar 'e' n.text
  let magnitude : List Char → ℚ := fun cs => decimalValue cs * exponentFactor parts.2
  match parts.1 with
  | '-' :: cs => -magnitude cs
  | cs => magnitude cs

/-- The value of an integral number; `none` when `Number.isInteger` fails. -/
def toInt (n : NumberText) : Option ℤ :=
  if n.value.den = 1 then some n.value.num else none

/-- The decimal text of a count. -/
def ofNat (n : ℕ) : NumberText where
  text := Nat.toDigits 10 n
  nonempty := Nat.toDigits_ne_nil
  numeric c hc := by
    have hdigit : c.isDigit = true := Nat.isDigit_of_mem_toDigits (by decide) (by decide) hc
    simp [isNumberChar, hdigit]

/-- The decimal text of an integer. -/
def ofInt : ℤ → NumberText
  | .ofNat n => ofNat n
  | .negSucc n =>
      { text := '-' :: (ofNat (n + 1)).text
        nonempty := by simp
        numeric := by
          intro c hc
          rcases List.mem_cons.mp hc with rfl | hc
          · decide
          · exact (ofNat (n + 1)).numeric c hc }

end NumberText

/-- `value.toFixed(digits)` of a non-negative rational, as a number. -/
def roundTo (digits : ℕ) (x : ℚ) : ℚ :=
  ⌊x * 10 ^ digits + 1 / 2⌋ / 10 ^ digits

def padLeft (width : ℕ) (cs : List Char) : List Char :=
  List.replicate (width - cs.length) '0' ++ cs

/-- `value.toFixed(digits)` as text. -/
def toFixed (digits : ℕ) (x : ℚ) : String :=
  let scaled := ⌊|x| * 10 ^ digits + 1 / 2⌋.toNat
  let whole := Nat.toDigits 10 (scaled / 10 ^ digits)
  let fraction := padLeft digits (Nat.toDigits 10 (scaled % 10 ^ digits))
  let sign := if x < 0 then ['-'] else []
  String.ofList (sign ++ whole ++ (if digits = 0 then [] else '.' :: fraction))

/-! ## Host functions -/

/-- What `new URL(text)` exposes of a valid URL. -/
structure UrlParts where
  protocol : String
  hostname : String
  port : String
  pathname : String
  search : String
  href : String

structure Host where
  /-- `left.localeCompare(right)`. -/
  locale : Comparator String
  /-- `Date.parse(text)`; `none` is `NaN`. -/
  dateParse : String → Option ℤ
  /-- `text.toLowerCase()`. -/
  toLowerCase : String → String
  /-- `new URL(text)`; `none` when it throws. -/
  parseUrl : String → Option UrlParts
  /-- `JSON.parse(text)`; `none` when it throws. -/
  parseJson : String → Option Json
  toLowerCase_idem : ∀ s, toLowerCase (toLowerCase s) = toLowerCase s
  trim_toLowerCase : ∀ s, trim (toLowerCase s) = toLowerCase (trim s)
  parseJson_distinct : ∀ s x, parseJson s = some x → x.DistinctKeys

/-! ## A host for ASCII texts -/

lemma toLower_cases (c : Char) :
    c.toLower = c ∧ ¬ (65 ≤ c.toNat ∧ c.toNat ≤ 90) ∨
      (65 ≤ c.toNat ∧ c.toNat ≤ 90) ∧ c.toLower.toNat = c.toNat + 32 := by
  have hn : c.val.toNat = c.toNat := rfl
  unfold Char.toLower
  split
  · rename_i h
    right
    simp only [ge_iff_le, UInt32.le_iff_toNat_le] at h
    have h1 : 65 ≤ c.toNat := h.1
    have h2 : c.toNat ≤ 90 := h.2
    refine ⟨⟨h1, h2⟩, ?_⟩
    change (c.val + 32).toNat = _
    rw [UInt32.toNat_add, hn]
    change (c.toNat + 32) % 4294967296 = _
    omega
  · rename_i h
    left
    refine ⟨rfl, ?_⟩
    simp only [ge_iff_le, UInt32.le_iff_toNat_le] at h
    exact h

lemma toLower_idem (c : Char) : c.toLower.toLower = c.toLower := by
  rcases toLower_cases c with ⟨h, -⟩ | ⟨hrange, h⟩
  · rw [h, h]
  · rcases toLower_cases c.toLower with ⟨h', -⟩ | ⟨hrange', -⟩
    · exact h'
    · omega

lemma isWhitespace_toLower (c : Char) : isWhitespace c.toLower = isWhitespace c := by
  rcases toLower_cases c with ⟨h, -⟩ | ⟨hrange, h⟩
  · rw [h]
  · have hw : ∀ d : Char, 65 ≤ d.toNat → d.toNat ≤ 122 → isWhitespace d = false := by
      intro d h1 h2
      simp only [isWhitespace, Bool.or_eq_false_iff, Bool.and_eq_false_iff,
        decide_eq_false_iff_not, beq_eq_false_iff_ne]
      omega
    rw [hw c (by omega) (by omega), hw c.toLower (by omega) (by omega)]

/-- A text with its ASCII letters in lower case. -/
def asciiLower (s : String) : String :=
  String.ofList (s.toList.map Char.toLower)

lemma asciiLower_idem (s : String) : asciiLower (asciiLower s) = asciiLower s := by
  have htwice : Char.toLower ∘ Char.toLower = Char.toLower := funext toLower_idem
  rw [asciiLower, asciiLower, String.toList_ofList, List.map_map, htwice]

lemma dropWhile_map_toLower (cs : List Char) :
    (cs.map Char.toLower).dropWhile isWhitespace =
      (cs.dropWhile isWhitespace).map Char.toLower := by
  rw [List.dropWhile_map]
  congr 1
  exact congrArg (List.dropWhile · cs) (funext isWhitespace_toLower)

lemma trim_asciiLower (s : String) : trim (asciiLower s) = asciiLower (trim s) := by
  simp [trim, asciiLower, trimChars, dropWhile_map_toLower, ← List.map_reverse]

/-- A host that collates by code units, maps the case of ASCII letters and parses nothing but
the given dates and URLs. -/
def Host.ofTables (dates : List (String × ℤ)) (urls : List (String × UrlParts)) : Host where
  locale := codeUnitOrder
  dateParse s := dates.lookup s
  toLowerCase := asciiLower
  parseUrl s := urls.lookup s
  parseJson _ := none
  toLowerCase_idem := asciiLower_idem
  trim_toLowerCase := trim_asciiLower
  parseJson_distinct _ _ h := by simp at h

/-- A reading of the clock, as text and in milliseconds. -/
structure ClockReading (host : Host) where
  iso : String
  ms : ℤ
  parses : host.dateParse iso = some ms

/-! ## Text search -/

/-- `text.includes(part)` on characters. -/
def includesChars (part : List Char) : List Char → Bool
  | [] => part.isEmpty
  | c :: cs => part.isPrefixOf (c :: cs) || includesChars part cs

def includes (text part : String) : Bool :=
  includesChars part.toList text.toList

def startsWith (text start : String) : Bool :=
  start.toList.isPrefixOf text.toList

def endsWith (text tail : String) : Bool :=
  tail.toList.isSuffixOf text.toList

/-- `\w` in a regular expression. -/
def isWordChar (c : Char) : Bool :=
  c.isAlphanum || c == '_'

/-- The remaining input begins with a word boundary, given the character before it. -/
def atBoundary (before : Option Char) (rest : List Char) : Bool :=
  (before.any isWordChar) != (rest.head?.any isWordChar)

/-- `/\bpart\b/` on text that is already lower case. -/
def hasWordFrom (part : List Char) (before : Option Char) : List Char → Bool
  | [] => false
  | c :: cs =>
      (part.isPrefixOf (c :: cs) && atBoundary before (c :: cs) &&
        atBoundary part.getLast? ((c :: cs).drop part.length)) ||
      hasWordFrom part (some c) cs

def hasWord (text part : String) : Bool :=
  hasWordFrom part.toList none text.toList

end AgentBigBrain.Js
