import AgentBigBrain.Core.ReviewActions
import AgentBigBrain.Lib.SlashPaths

/-!
# What rewriting keeps of a note

A rewritten note is read with the same small parser that read the original. Its fields are
written with escapes that the parser does not undo, so a field survives where it has nothing to
escape; the lines and the body survive where no line is taken for the entry of a list above it
and no carriage return is left in the body.
-/
namespace AgentBigBrain.Core

open Js

/-! ## Escapes -/

def escapedChars (cs : List Char) : List Char := cs.flatMap Json.escapeChar

def escapedText (text : String) : String := String.ofList (escapedChars text.toList)

/-- An escape is the character itself, or spelled with visible characters. -/
lemma escapeChar_visible (c : Char) :
    Json.escapeChar c = [c] ∨
      ∀ d ∈ Json.escapeChar c, 33 ≤ d.toNat ∧ d.toNat ≤ 126 := by
  have hdigit : ∀ n < 16, 33 ≤ (Json.hexDigit n).toNat ∧ (Json.hexDigit n).toNat ≤ 126 := by
    decide
  rcases Json.escapeChar_cases c with ⟨e, he, hshape⟩ | ⟨hlow, hshape⟩ | ⟨-, -, hshape⟩
  · have hvisible : 33 ≤ e.toNat ∧ e.toNat ≤ 126 := by
      unfold Json.shortEscape at he
      split_ifs at he <;> obtain rfl := Option.some.inj he <;> decide
    right
    intro d hd
    rw [hshape] at hd
    simp only [List.mem_cons, List.not_mem_nil, or_false] at hd
    rcases hd with rfl | rfl
    · decide
    · exact hvisible
  · right
    intro d hd
    rw [hshape] at hd
    simp only [List.mem_cons, List.not_mem_nil, or_false] at hd
    rcases hd with rfl | rfl | rfl | rfl | rfl | rfl
    · decide
    · decide
    · decide
    · decide
    · exact hdigit _ (by omega)
    · exact hdigit _ (by omega)
  · exact Or.inl hshape

lemma isWhitespace_of_visible {c : Char} (h : 33 ≤ c.toNat ∧ c.toNat ≤ 126) :
    isWhitespace c = false := by
  simp only [isWhitespace, Bool.or_eq_false_iff, Bool.and_eq_false_iff, decide_eq_false_iff_not,
    beq_eq_false_iff_ne]
  omega

lemma isLineTerminator_of_visible {c : Char} (h : 33 ≤ c.toNat ∧ c.toNat ≤ 126) :
    isLineTerminator c = false := by
  have hnewline : c ≠ '\n' := by
    rintro rfl
    exact absurd h.1 (by decide)
  have hreturn : c ≠ '\r' := by
    rintro rfl
    exact absurd h.1 (by decide)
  simp only [isLineTerminator, hnewline, hreturn, decide_false, Bool.false_or,
    Bool.or_eq_false_iff, decide_eq_false_iff_not]
  omega

/-- Nothing that ends a line stands in an escaped text, except for the two separators. -/
lemma mem_escapedChars {cs : List Char} {d : Char} (h : d ∈ escapedChars cs) :
    (d ∈ cs ∧ Json.escapeChar d = [d]) ∨ 33 ≤ d.toNat ∧ d.toNat ≤ 126 := by
  obtain ⟨c, hc, hd⟩ := List.mem_flatMap.mp h
  rcases escapeChar_visible c with hself | hvisible
  · rw [hself] at hd
    obtain rfl := List.mem_singleton.mp hd
    exact Or.inl ⟨hc, hself⟩
  · exact Or.inr (hvisible d hd)

lemma newline_not_mem_escapedChars (cs : List Char) : '\n' ∉ escapedChars cs := by
  intro h
  rcases mem_escapedChars h with ⟨-, hself⟩ | hvisible
  · exact absurd hself (by decide)
  · exact absurd hvisible.1 (by decide)

lemma isLineTerminator_escapedChars {cs : List Char}
    (h : ∀ c ∈ cs, isLineTerminator c = false) :
    ∀ d ∈ escapedChars cs, isLineTerminator d = false := by
  intro d hd
  rcases mem_escapedChars hd with ⟨hmem, -⟩ | hvisible
  · exact h d hmem
  · exact isLineTerminator_of_visible hvisible

def solidCount (cs : List Char) : ℕ := cs.countP fun c => !isWhitespace c

lemma solidCount_trimChars (cs : List Char) : solidCount (trimChars cs) = solidCount cs := by
  have hdrop : ∀ ds : List Char, solidCount (ds.dropWhile isWhitespace) = solidCount ds := by
    intro ds
    induction ds with
    | nil => rfl
    | cons d ds ih =>
        by_cases hd : isWhitespace d = true
        · rw [List.dropWhile_cons_of_pos hd, ih]
          simp [solidCount, hd]
        · rw [List.dropWhile_cons_of_neg hd]
  have hreverse : ∀ ds : List Char, solidCount ds.reverse = solidCount ds :=
    fun ds => List.countP_reverse
  rw [trimChars, hreverse, hdrop, hreverse, hdrop]

lemma solidCount_escapeChar (c : Char) :
    solidCount [c] ≤ solidCount (Json.escapeChar c) ∧
      (Json.escapeChar c ≠ [c] → solidCount [c] < solidCount (Json.escapeChar c)) := by
  rcases escapeChar_visible c with hself | hvisible
  · exact ⟨by rw [hself], fun hne => absurd hself hne⟩
  · have hall : solidCount (Json.escapeChar c) = (Json.escapeChar c).length := by
      rw [solidCount, List.countP_eq_length]
      intro d hd
      simp [isWhitespace_of_visible (hvisible d hd)]
    have hle : solidCount [c] ≤ 1 := List.countP_le_length
    have hlength : Json.escapeChar c ≠ [c] → 2 ≤ (Json.escapeChar c).length := by
      intro hne
      rcases Json.escapeChar_cases c with ⟨e, -, hshape⟩ | ⟨-, hshape⟩ | ⟨-, -, hshape⟩
      · simp [hshape]
      · simp [hshape]
      · exact absurd hshape hne
    constructor
    · by_cases hne : Json.escapeChar c = [c]
      · rw [hne]
      · have := hlength hne
        omega
    · intro hne
      have := hlength hne
      omega

lemma solidCount_escapedChars (cs : List Char) :
    solidCount cs ≤ solidCount (escapedChars cs) ∧
      (solidCount (escapedChars cs) = solidCount cs → escapedChars cs = cs) := by
  induction cs with
  | nil => exact ⟨le_rfl, fun _ => rfl⟩
  | cons c cs ih =>
      obtain ⟨hle, hlt⟩ := solidCount_escapeChar c
      have hsplit : solidCount (c :: cs) = solidCount [c] + solidCount cs := by
        rw [← List.singleton_append, solidCount, List.countP_append]
        rfl
      have hescaped : solidCount (escapedChars (c :: cs)) =
          solidCount (Json.escapeChar c) + solidCount (escapedChars cs) := by
        rw [escapedChars, List.flatMap_cons, solidCount, List.countP_append]
        rfl
      rw [hsplit, hescaped]
      refine ⟨by omega, fun heq => ?_⟩
      by_cases hself : Json.escapeChar c = [c]
      · rw [hself] at heq
        have hrest := ih.2 (by omega)
        change Json.escapeChar c ++ escapedChars cs = c :: cs
        rw [hself, hrest]
        rfl
      · have := hlt hself
        omega

/-- Escaping shows in the trimmed text. -/
lemma escapedText_of_trim {text : String} (h : trim (escapedText text) = trim text) :
    escapedText text = text := by
  have hchars := congrArg String.toList h
  rw [trim, trim, String.toList_ofList, String.toList_ofList, escapedText,
    String.toList_ofList] at hchars
  have hcount := congrArg solidCount hchars
  rw [solidCount_trimChars, solidCount_trimChars] at hcount
  rw [escapedText, (solidCount_escapedChars text.toList).2 hcount, String.ofList_toList]

def escapedValue : ReviewActionFrontmatterValue → ReviewActionFrontmatterValue
  | .text value => .text (escapedText value)
  | .list entries => .list (entries.map escapedText)
  | .null => .null

/-! ## Fields that are read -/

/-- A key as a line can carry it. -/
structure IsFieldKey (key : String) : Prop where
  trimmed : trimChars key.toList = key.toList
  colon : ':' ∉ key.toList
  newline : '\n' ∉ key.toList
  proto : key ≠ "__proto__"

/-- A value as it can stand under a key. -/
structure IsFieldValue (key : String) (value : ReviewActionFrontmatterValue) : Prop where
  terminators : ∀ entry ∈ listEntries (some value), ∀ c ∈ entry.toList, isLineTerminator c = false
  unnamed : key = "" → listEntries (some value) = []

def AreFields (properties : List (String × ReviewActionFrontmatterValue)) : Prop :=
  ∀ property ∈ properties, IsFieldKey property.1 ∧ IsFieldValue property.1 property.2

lemma mem_trimChars {cs : List Char} {c : Char} (h : c ∈ trimChars cs) : c ∈ cs :=
  (trimChars_part cs).subset h

lemma mem_trimEnd {cs : List Char} {c : Char} (h : c ∈ trimEnd cs) : c ∈ cs :=
  (trimEnd_begins cs).subset h

/-- The key that a line names. -/
lemma isFieldKey_of_line {line : List Char} (hnewline : '\n' ∉ line)
    (hproto : String.ofList (trimChars (line.takeWhile (· ≠ ':'))) ≠ "__proto__") :
    IsFieldKey (String.ofList (trimChars (line.takeWhile (· ≠ ':')))) where
  trimmed := by rw [String.toList_ofList, trimChars_idem]
  colon := by
    rw [String.toList_ofList]
    intro h
    have hne := List.mem_takeWhile_imp (mem_trimChars h)
    simp at hne
  newline := by
    rw [String.toList_ofList]
    exact fun h => hnewline ((List.takeWhile_prefix _).subset (mem_trimChars h))
  proto := hproto

/-- What matches as an entry has no line terminator. -/
lemma arrayMatch_terminators {line entry : List Char} (h : arrayMatch line = some entry) :
    ∀ c ∈ entry, isLineTerminator c = false := by
  unfold arrayMatch at h
  split at h
  · dsimp only at h
    split_ifs at h with hmatch
    obtain rfl := Option.some.inj h
    intro c hc
    simpa using List.all_eq_true.mp hmatch.2 c hc
  · cases h

lemma mem_stripWrappingQuotes {value : List Char} {c : Char}
    (h : c ∈ stripWrappingQuotes value) : c ∈ value := by
  unfold stripWrappingQuotes at h
  split_ifs at h
  · exact List.mem_of_mem_drop (List.dropLast_subset _ h)
  · exact h

/-- What every line leaves behind. -/
structure ReadsFields (state : FrontmatterState) : Prop where
  ordered : InKeyOrder state.properties
  fields : AreFields state.properties

lemma readsFields_setProperty (key : String) (value : ReviewActionFrontmatterValue)
    {properties : List (String × ReviewActionFrontmatterValue)} (hordered : InKeyOrder properties)
    (hfields : AreFields properties)
    (hnew : key ≠ "__proto__" → IsFieldKey key ∧ IsFieldValue key value) :
    InKeyOrder (setProperty key value properties) ∧
      AreFields (setProperty key value properties) := by
  unfold setProperty
  split_ifs with hproto
  · exact ⟨hordered, hfields⟩
  · refine ⟨inKeyOrder_assign hordered, fun property hmem => ?_⟩
    rcases mem_assign hmem with rfl | hmem
    · exact hnew hproto
    · exact hfields property hmem

lemma listEntries_lookup {properties : List (String × ReviewActionFrontmatterValue)}
    (hfields : AreFields properties) (key : String) :
    ∀ entry ∈ listEntries (properties.lookup key), ∀ c ∈ entry.toList,
      isLineTerminator c = false := by
  cases hlookup : properties.lookup key with
  | none => simp [listEntries]
  | some value => exact (hfields _ (mem_of_lookup hlookup)).2.terminators

/-- The key that stays open is one that a line has named. -/
def OpenKey (state : FrontmatterState) : Prop :=
  ∀ key, state.currentArrayKey = some key → key ≠ "__proto__" → IsFieldKey key

lemma readFrontmatterLine_reads {state : FrontmatterState} (h : ReadsFields state)
    (hopen : OpenKey state) {rawLine : List Char} (hnewline : '\n' ∉ rawLine) :
    ReadsFields (readFrontmatterLine state rawLine) ∧
      OpenKey (readFrontmatterLine state rawLine) := by
  have hline : '\n' ∉ trimEnd rawLine := fun hmem => hnewline (mem_trimEnd hmem)
  simp only [readFrontmatterLine]
  split
  · rename_i entry key hentry hkey
    have hcurrent := Option.filter_eq_some_iff.mp hkey
    have hset := readsFields_setProperty key (.list
        (listEntries (state.properties.lookup key) ++
          [String.ofList (stripWrappingQuotes entry)])) h.ordered h.fields fun hproto => by
      refine ⟨hopen key hcurrent.1 hproto, ?_, fun hempty => by simp [hempty] at hcurrent⟩
      intro text htext c hc
      rcases List.mem_append.mp htext with htext | htext
      · exact listEntries_lookup h.fields key text htext c hc
      · rw [List.mem_singleton.mp htext, String.toList_ofList] at hc
        exact arrayMatch_terminators hentry c (mem_stripWrappingQuotes hc)
    exact ⟨⟨hset.1, hset.2⟩, hopen⟩
  · split_ifs with hcolon hempty
    · have hset := readsFields_setProperty
        (String.ofList (trimChars ((trimEnd rawLine).takeWhile (· ≠ ':')))) (.list [])
        h.ordered h.fields fun hproto =>
          ⟨isFieldKey_of_line hline hproto, by simp [listEntries], by simp [listEntries]⟩
      refine ⟨⟨hset.1, hset.2⟩, ?_⟩
      intro key hkey hproto
      obtain rfl := Option.some.inj hkey
      exact isFieldKey_of_line hline hproto
    · have hset := readsFields_setProperty
        (String.ofList (trimChars ((trimEnd rawLine).takeWhile (· ≠ ':'))))
        (parseFrontmatterScalar
          (trimChars (((trimEnd rawLine).dropWhile (· ≠ ':')).drop 1))) h.ordered h.fields
        fun hproto => by
          refine ⟨isFieldKey_of_line hline hproto, ?_, ?_⟩ <;>
            unfold parseFrontmatterScalar <;> split_ifs <;> simp [listEntries]
      exact ⟨⟨hset.1, hset.2⟩, fun key hkey => by cases hkey⟩
    · exact ⟨⟨h.ordered, h.fields⟩, fun key hkey => by cases hkey⟩

/-- The fields of a block, however it is written. -/
lemma readFrontmatterLines_reads {lines : List (List Char)} (h : ∀ line ∈ lines, '\n' ∉ line) :
    ReadsFields (readFrontmatterLines lines) := by
  have hall : ∀ state, ReadsFields state → OpenKey state →
      ReadsFields (lines.foldl readFrontmatterLine state) := by
    induction lines with
    | nil => exact fun _ hreads _ => hreads
    | cons line lines ih =>
        intro state hreads hopen
        obtain ⟨hnext, hnextOpen⟩ :=
          readFrontmatterLine_reads hreads hopen (h line List.mem_cons_self)
        exact ih (fun other hmem => h other (List.mem_cons_of_mem _ hmem)) _ hnext hnextOpen
  refine hall _ ⟨List.Pairwise.nil, ?_⟩ ?_
  · exact fun property hmem => by cases hmem
  · exact fun key hkey => by cases hkey

/-! ## Reading what was written -/

lemma trimEnd_concat (cs : List Char) {c : Char} (h : isWhitespace c = false) :
    trimEnd (cs ++ [c]) = cs ++ [c] := by
  simp [trimEnd, h]

/-- A text between two visible characters is trimmed. -/
lemma trimChars_between {c d : Char} (hc : isWhitespace c = false) (hd : isWhitespace d = false)
    (cs : List Char) : trimChars (c :: (cs ++ [d])) = c :: (cs ++ [d]) := by
  rw [trimChars_eq, List.dropWhile_cons_of_neg (by simp [hc]), ← List.cons_append,
    trimEnd_concat _ hd]

lemma stringifyText_eq (text : String) :
    stringifyText text = '"' :: (escapedChars text.toList ++ ['"']) := rfl

lemma stripWrappingQuotes_stringifyText (text : String) :
    String.ofList (stripWrappingQuotes (stringifyText text)) = escapedText text := by
  have hlast : ('"' :: (escapedChars text.toList ++ ['"'])).getLast? = some '"' := by
    rw [← List.cons_append, List.getLast?_concat]
  rw [stringifyText_eq, stripWrappingQuotes, if_pos (Or.inl ⟨rfl, hlast⟩), List.drop_one,
    List.tail_cons, List.dropLast_concat, escapedText]

lemma trimChars_stringifyText (text : String) :
    trimChars (stringifyText text) = stringifyText text :=
  trimChars_between (by decide) (by decide) _

lemma parseFrontmatterScalar_stringifyText (text : String) :
    parseFrontmatterScalar (stringifyText text) = .text (escapedText text) := by
  have hquote : stringifyText text ≠ "null".toList := by
    rw [stringifyText_eq]
    intro h
    cases h
  rw [parseFrontmatterScalar, if_neg hquote, stripWrappingQuotes_stringifyText]

/-- The first line of a field. -/
def headLine (property : String × ReviewActionFrontmatterValue) : List Char :=
  match property.2 with
  | .list _ => property.1.toList ++ [':']
  | .null => property.1.toList ++ ": null".toList
  | .text value => property.1.toList ++ ": ".toList ++ stringifyText value

/-- The lines of the entries of a list. -/
def entryLine (entry : String) : List Char := "  - ".toList ++ stringifyText entry

lemma fieldLines_eq (key : String) (value : ReviewActionFrontmatterValue) :
    fieldLines key value = headLine (key, value) :: (listEntries (some value)).map entryLine := by
  cases value <;> rfl

/-- What stands behind the colon of a field's first line. -/
def headRest : ReviewActionFrontmatterValue → List Char
  | .list _ => []
  | .null => " null".toList
  | .text value => ' ' :: stringifyText value

lemma headLine_eq (key : String) (value : ReviewActionFrontmatterValue) :
    headLine (key, value) = key.toList ++ ':' :: headRest value := by
  cases value with
  | list entries => rfl
  | null => rfl
  | text text => simp [headLine, headRest]

lemma trimEnd_headLine (key : String) (value : ReviewActionFrontmatterValue) :
    trimEnd (headLine (key, value)) = headLine (key, value) := by
  rw [headLine_eq]
  cases value with
  | list entries => exact trimEnd_concat _ (by decide)
  | null =>
      have hsplit : key.toList ++ ':' :: headRest .null =
          (key.toList ++ ": nul".toList) ++ ['l'] := by
        simp [headRest]
      rw [hsplit]
      exact trimEnd_concat _ (by decide)
  | text text =>
      have hsplit : key.toList ++ ':' :: headRest (.text text) =
          (key.toList ++ ':' :: ' ' :: '"' :: escapedChars text.toList) ++ ['"'] := by
        simp [headRest, stringifyText_eq]
      rw [hsplit]
      exact trimEnd_concat _ (by decide)

lemma span_headLine {key : String} (hcolon : ':' ∉ key.toList)
    (value : ReviewActionFrontmatterValue) :
    (headLine (key, value)).takeWhile (· ≠ ':') = key.toList ∧
      ((headLine (key, value)).dropWhile (· ≠ ':')).drop 1 = headRest value := by
  have hall : ∀ c ∈ key.toList, (decide (c ≠ ':')) = true := by
    intro c hc
    exact decide_eq_true fun heq => hcolon (heq ▸ hc)
  rw [headLine_eq]
  constructor
  · rw [List.takeWhile_append_of_pos hall, List.takeWhile_cons_of_neg (by simp), List.append_nil]
  · rw [List.dropWhile_append_of_pos hall, List.dropWhile_cons_of_neg (by simp)]
    rfl

/-- What the first line of a field sets it to. -/
def headValue : ReviewActionFrontmatterValue → ReviewActionFrontmatterValue
  | .list _ => .list []
  | .null => .null
  | .text value => .text (escapedText value)

/-- The key that a field leaves open. -/
def openedKey (key : String) : ReviewActionFrontmatterValue → Option String
  | .list _ => some key
  | _ => none

/-- A list whose entries may follow. -/
def OpensList (property : String × ReviewActionFrontmatterValue) : Prop :=
  property.1 ≠ "" ∧ ∃ entries, property.2 = .list entries

/-- The key that stands open for entries. -/
def openKey (state : FrontmatterState) : Option String :=
  state.currentArrayKey.filter (· ≠ "")

lemma readFrontmatterLine_absorbed {state : FrontmatterState} {line entry : List Char}
    {key : String} (htrim : trimEnd line = line) (hentry : arrayMatch line = some entry)
    (hkey : openKey state = some key) :
    readFrontmatterLine state line =
      { state with
        properties := setProperty key
          (.list (listEntries (state.properties.lookup key) ++
            [String.ofList (stripWrappingQuotes entry)])) state.properties } := by
  unfold openKey at hkey
  simp only [readFrontmatterLine, htrim, hentry, hkey]

lemma readFrontmatterLine_head {state : FrontmatterState} {key : String}
    {value : ReviewActionFrontmatterValue} (hkey : IsFieldKey key)
    (hfree : openKey state = none ∨ arrayMatch (headLine (key, value)) = none) :
    readFrontmatterLine state (headLine (key, value)) =
      { properties := assign key (headValue value) state.properties
        currentArrayKey := openedKey key value } := by
  have hmiss : ∀ entry k, arrayMatch (headLine (key, value)) = some entry →
      openKey state = some k → False := by
    intro entry k hentry hk
    rcases hfree with hfree | hfree
    · rw [hfree] at hk
      cases hk
    · rw [hfree] at hentry
      cases hentry
  obtain ⟨htake, hdrop⟩ := span_headLine hkey.colon value
  have hcolon : ':' ∈ headLine (key, value) := by simp [headLine_eq]
  have hname : String.ofList (trimChars key.toList) = key := by
    rw [hkey.trimmed, String.ofList_toList]
  simp only [readFrontmatterLine, trimEnd_headLine]
  split
  · rename_i entry k hentry hk
    exact (hmiss entry k hentry hk).elim
  · simp only [hcolon, if_true, htake, hdrop, hname, setProperty, if_neg hkey.proto]
    cases value with
    | list entries => rfl
    | null =>
        have hnull : trimChars (headRest .null) = "null".toList := by decide
        simp [hnull, parseFrontmatterScalar, headValue, openedKey]
    | text text =>
        have htext : trimChars (headRest (.text text)) = stringifyText text := by
          rw [headRest, trimChars_eq, List.dropWhile_cons_of_pos (by decide), ← trimChars_eq,
            trimChars_stringifyText]
        have hne : stringifyText text ≠ [] := by
          rw [stringifyText_eq]
          exact List.cons_ne_nil _ _
        simp [htext, hne, parseFrontmatterScalar_stringifyText, headValue, openedKey]

lemma arrayMatch_entryLine {entry : String}
    (h : ∀ c ∈ entry.toList, isLineTerminator c = false) :
    arrayMatch (entryLine entry) = some (stringifyText entry) := by
  have hquote : isLineTerminator '"' = false := by decide
  have hall : (stringifyText entry).all (fun d => !isLineTerminator d) = true := by
    rw [List.all_eq_true]
    intro d hd
    simp only [stringifyText_eq, List.mem_cons, List.mem_append, List.not_mem_nil,
      or_false] at hd
    rcases hd with rfl | hd | rfl
    · simp [hquote]
    · simp [isLineTerminator_escapedChars h d hd]
    · simp [hquote]
  have hdrop : (stringifyText entry).dropWhile isWhitespace = stringifyText entry := by
    rw [stringifyText_eq]
    exact List.dropWhile_cons_of_neg (by decide)
  have hspace : isWhitespace ' ' = true := by decide
  have hdash : isWhitespace '-' = false := by decide
  have hline : (entryLine entry).dropWhile isWhitespace = '-' :: ' ' :: stringifyText entry := by
    change (' ' :: ' ' :: '-' :: ' ' :: stringifyText entry).dropWhile isWhitespace = _
    simp [hspace, hdash]
  simp only [arrayMatch, hline, hdrop, hall, hspace, and_self, if_true]

lemma trimEnd_entryLine (entry : String) : trimEnd (entryLine entry) = entryLine entry := by
  have hsplit : entryLine entry =
      ("  - ".toList ++ '"' :: escapedChars entry.toList) ++ ['"'] := by
    simp [entryLine, stringifyText_eq]
  rw [hsplit]
  exact trimEnd_concat _ (by decide)

lemma openKey_ne {state : FrontmatterState} {key : String} (h : openKey state = some key) :
    state.currentArrayKey = some key ∧ key ≠ "" := by
  obtain ⟨hkey, hne⟩ := Option.filter_eq_some_iff.mp h
  exact ⟨hkey, by simpa using hne⟩

/-- The entries of an open list. -/
lemma readEntries {key : String} (hne : key ≠ "") (hproto : key ≠ "__proto__")
    (base : List (String × ReviewActionFrontmatterValue)) (entries : List String)
    (h : ∀ entry ∈ entries, ∀ c ∈ entry.toList, isLineTerminator c = false) :
    ∀ done : List String, (entries.map entryLine).foldl readFrontmatterLine
        ⟨assign key (.list done) base, some key⟩ =
      ⟨assign key (.list (done ++ entries.map escapedText)) base, some key⟩ := by
  induction entries with
  | nil => simp
  | cons entry entries ih =>
      intro done
      have hopen : openKey ⟨assign key (.list done) base, some key⟩ = some key := by
        simp [openKey, hne]
      rw [List.map_cons, List.foldl_cons, readFrontmatterLine_absorbed (trimEnd_entryLine entry)
        (arrayMatch_entryLine (h entry List.mem_cons_self)) hopen, lookup_assign, if_pos rfl,
        setProperty, if_neg hproto, assign_assign, stripWrappingQuotes_stringifyText,
        ih (fun other hmem => h other (List.mem_cons_of_mem _ hmem))]
      simp [listEntries]

/-- A field whose first line is read as such. -/
lemma readField_free {state : FrontmatterState} {key : String}
    {value : ReviewActionFrontmatterValue} (hkey : IsFieldKey key) (hvalue : IsFieldValue key value)
    (hfree : openKey state = none ∨ arrayMatch (headLine (key, value)) = none) :
    (fieldLines key value).foldl readFrontmatterLine state =
      { properties := assign key (escapedValue value) state.properties
        currentArrayKey := openedKey key value } := by
  rw [fieldLines_eq, List.foldl_cons, readFrontmatterLine_head hkey hfree]
  cases value with
  | null => rfl
  | text text => rfl
  | list entries =>
      by_cases hne : key = ""
      · have hnone : entries = [] := hvalue.unnamed hne
        rw [hnone]
        rfl
      · exact readEntries hne hkey.proto state.properties entries hvalue.terminators []

/-! ### Lines taken for entries -/

/-- No property and no open list has this name. -/
def Avoids (name : String) (state : FrontmatterState) : Prop :=
  (∀ property ∈ state.properties, property.1 ≠ name) ∧ state.currentArrayKey ≠ some name

lemma readFrontmatterLine_avoids {state : FrontmatterState} {line entry : List Char}
    {key name : String} (htrim : trimEnd line = line) (hentry : arrayMatch line = some entry)
    (hkey : openKey state = some key) (h : Avoids name state) :
    Avoids name (readFrontmatterLine state line) ∧
      openKey (readFrontmatterLine state line) = some key := by
  rw [readFrontmatterLine_absorbed htrim hentry hkey]
  refine ⟨⟨?_, h.2⟩, hkey⟩
  intro property hmem
  unfold setProperty at hmem
  split_ifs at hmem
  · exact h.1 property hmem
  · rcases mem_assign hmem with rfl | hmem
    · rintro rfl
      exact h.2 (openKey_ne hkey).1
    · exact h.1 property hmem

lemma readEntries_avoids {key name : String} (entries : List String)
    (hentries : ∀ entry ∈ entries, ∀ c ∈ entry.toList, isLineTerminator c = false) :
    ∀ state : FrontmatterState, openKey state = some key → Avoids name state →
      Avoids name ((entries.map entryLine).foldl readFrontmatterLine state) ∧
        openKey ((entries.map entryLine).foldl readFrontmatterLine state) = some key := by
  induction entries with
  | nil => exact fun state hkey h => ⟨h, hkey⟩
  | cons entry entries ih =>
      intro state hkey h
      obtain ⟨hnext, hopen⟩ := readFrontmatterLine_avoids (trimEnd_entryLine entry)
        (arrayMatch_entryLine (hentries entry List.mem_cons_self)) hkey h
      exact ih (fun other hmem => hentries other (List.mem_cons_of_mem _ hmem)) _ hopen hnext

/-- A field that is taken for entries leaves no property of its name. -/
lemma readField_taken {state : FrontmatterState} {key name other : String}
    {value : ReviewActionFrontmatterValue} (hvalue : IsFieldValue key value)
    (htaken : arrayMatch (headLine (key, value)) ≠ none) (hopen : openKey state = some other)
    (h : Avoids name state) :
    Avoids name ((fieldLines key value).foldl readFrontmatterLine state) ∧
      openKey ((fieldLines key value).foldl readFrontmatterLine state) = some other := by
  obtain ⟨entry, hentry⟩ := Option.ne_none_iff_exists'.mp htaken
  rw [fieldLines_eq, List.foldl_cons]
  obtain ⟨hnext, hopen⟩ := readFrontmatterLine_avoids (trimEnd_headLine key value) hentry hopen h
  exact readEntries_avoids _ hvalue.terminators _ hopen hnext

lemma readField_avoids {state : FrontmatterState} {key name : String}
    {value : ReviewActionFrontmatterValue} (hkey : IsFieldKey key) (hvalue : IsFieldValue key value)
    (hname : key ≠ name) (h : Avoids name state) :
    Avoids name ((fieldLines key value).foldl readFrontmatterLine state) ∧
      (OpensList (key, value) →
        openKey ((fieldLines key value).foldl readFrontmatterLine state) ≠ none) := by
  by_cases hfree : openKey state = none ∨ arrayMatch (headLine (key, value)) = none
  · rw [readField_free hkey hvalue hfree]
    refine ⟨⟨?_, ?_⟩, ?_⟩
    · intro property hmem
      rcases mem_assign hmem with rfl | hmem
      · exact hname
      · exact h.1 property hmem
    · cases value <;> simp [openedKey, hname]
    · rintro ⟨hne, entries, hlist⟩
      have hvalueList : value = .list entries := hlist
      have hnonempty : key ≠ "" := hne
      rw [hvalueList]
      simp [openKey, openedKey, hnonempty]
  · push Not at hfree
    obtain ⟨other, hopen⟩ := Option.ne_none_iff_exists'.mp hfree.1
    obtain ⟨havoids, hstill⟩ := readField_taken hvalue hfree.2 hopen h
    refine ⟨havoids, fun _ => ?_⟩
    rw [hstill]
    exact Option.some_ne_none other

lemma readFields_avoids {name : String}
    (properties : List (String × ReviewActionFrontmatterValue)) :
    ∀ state : FrontmatterState, AreFields properties →
      (∀ property ∈ properties, property.1 ≠ name) → Avoids name state →
      Avoids name ((frontmatterLines properties).foldl readFrontmatterLine state) := by
  induction properties with
  | nil => exact fun _ _ _ h => h
  | cons property properties ih =>
      intro state hfields hnames h
      obtain ⟨hkey, hvalue⟩ := hfields property List.mem_cons_self
      rw [frontmatterLines, List.flatMap_cons, List.foldl_append]
      exact ih _ (fun other hmem => hfields other (List.mem_cons_of_mem _ hmem))
        (fun other hmem => hnames other (List.mem_cons_of_mem _ hmem))
        (readField_avoids hkey hvalue (hnames property List.mem_cons_self) h).1

/-- Behind a list, a first line that looks like an entry loses its field. -/
lemma readFields_taken {before after : List (String × ReviewActionFrontmatterValue)}
    {opening taken : String × ReviewActionFrontmatterValue}
    (hfields : AreFields (before ++ opening :: taken :: after))
    (hordered : InKeyOrder (before ++ opening :: taken :: after)) (hopens : OpensList opening)
    (htaken : arrayMatch (headLine taken) ≠ none) :
    Avoids taken.1 (readFrontmatterLines
      (frontmatterLines (before ++ opening :: taken :: after))) := by
  obtain ⟨-, hrest, hcross⟩ := List.pairwise_append.mp hordered
  obtain ⟨hopening, hrest⟩ := List.pairwise_cons.mp hrest
  obtain ⟨hafter, -⟩ := List.pairwise_cons.mp hrest
  have hmem : ∀ property ∈ before ++ opening :: taken :: after,
      IsFieldKey property.1 ∧ IsFieldValue property.1 property.2 := hfields
  simp only [readFrontmatterLines, frontmatterLines, List.flatMap_append, List.flatMap_cons,
    List.foldl_append]
  have hstart : Avoids taken.1 ⟨[], none⟩ := by
    constructor
    · exact fun property hnone => by cases hnone
    · exact fun hnone => by cases hnone
  have hbefore := readFields_avoids before _ (fun property h => hmem property (by simp [h]))
    (fun property h => (hcross property h taken (by simp)).1) hstart
  obtain ⟨havoids, hopen⟩ := readField_avoids (hmem opening (by simp)).1 (hmem opening (by simp)).2
    (hopening taken List.mem_cons_self).1 hbefore
  obtain ⟨key, hkey⟩ := Option.ne_none_iff_exists'.mp (hopen hopens)
  have htakenAvoids := (readField_taken (hmem taken (by simp)).2 htaken hkey havoids).1
  exact readFields_avoids after _ (fun property h => hmem property (by simp [h]))
    (fun property h => (hafter property h).1.symm) htakenAvoids

/-! ### Lines read as written -/

/-- The second field is not taken for an entry of the first. -/
def Apart (first second : String × ReviewActionFrontmatterValue) : Prop :=
  OpensList first → arrayMatch (headLine second) = none

def escapedProperties (properties : List (String × ReviewActionFrontmatterValue)) :
    List (String × ReviewActionFrontmatterValue) :=
  properties.map fun property => (property.1, escapedValue property.2)

lemma opensList_of_openKey {key : String} {value : ReviewActionFrontmatterValue}
    {properties : List (String × ReviewActionFrontmatterValue)}
    (h : openKey ⟨properties, openedKey key value⟩ ≠ none) : OpensList (key, value) := by
  cases value with
  | list entries =>
      refine ⟨?_, entries, rfl⟩
      rintro rfl
      simp [openKey, openedKey] at h
  | null => simp [openKey, openedKey] at h
  | text text => simp [openKey, openedKey] at h

lemma readFields_apart (properties : List (String × ReviewActionFrontmatterValue)) :
    ∀ state : FrontmatterState, AreFields properties → properties.IsChain Apart →
      (∀ first ∈ properties.head?, openKey state = none ∨ arrayMatch (headLine first) = none) →
      ((frontmatterLines properties).foldl readFrontmatterLine state).properties =
        assignAll state.properties (escapedProperties properties) := by
  induction properties with
  | nil => exact fun _ _ _ _ => rfl
  | cons property properties ih =>
      intro state hfields hchain hfirst
      obtain ⟨hkey, hvalue⟩ := hfields property List.mem_cons_self
      rw [frontmatterLines, List.flatMap_cons, List.foldl_append,
        readField_free hkey hvalue (hfirst property rfl)]
      refine ih _ (fun other hmem => hfields other (List.mem_cons_of_mem _ hmem)) hchain.tail ?_
      intro next hnext
      by_cases hopen : openKey ⟨assign property.1 (escapedValue property.2) state.properties,
          openedKey property.1 property.2⟩ = none
      · exact Or.inl hopen
      · refine Or.inr ?_
        obtain ⟨rest, rfl⟩ : ∃ rest, properties = next :: rest := by
          cases properties with
          | nil => cases hnext
          | cons head rest => exact ⟨rest, by rw [Option.some.inj hnext]⟩
        exact (List.isChain_cons_cons.mp hchain).1 (opensList_of_openKey hopen)

/-- Fields that stand apart are read as they are written, with their escapes. -/
lemma readFrontmatterLines_apart {properties : List (String × ReviewActionFrontmatterValue)}
    (hfields : AreFields properties) (hordered : InKeyOrder properties)
    (hchain : properties.IsChain Apart) :
    (readFrontmatterLines (frontmatterLines properties)).properties =
      escapedProperties properties := by
  have hread := readFields_apart properties ⟨[], none⟩ hfields hchain fun _ _ => Or.inl rfl
  rw [readFrontmatterLines, hread]
  have hkeys : InKeyOrder ([] ++ escapedProperties properties) := inKeyOrder_map hordered _
  exact assignAll_new hkeys

/-- Where two fields do not stand apart, a field is lost. -/
lemma exists_taken_of_not_chain {properties : List (String × ReviewActionFrontmatterValue)}
    (h : ¬ properties.IsChain Apart) :
    ∃ before opening taken after, properties = before ++ opening :: taken :: after ∧
      OpensList opening ∧ arrayMatch (headLine taken) ≠ none := by
  induction properties with
  | nil => exact absurd List.IsChain.nil h
  | cons first rest ih =>
      cases rest with
      | nil => exact absurd (List.IsChain.singleton first) h
      | cons second rest =>
          rw [List.isChain_cons_cons, not_and_or] at h
          rcases h with happart | hrest
          · unfold Apart at happart
            push Not at happart
            exact ⟨[], first, second, rest, rfl, happart⟩
          · obtain ⟨before, opening, taken, after, heq, htaken⟩ := ih hrest
            exact ⟨first :: before, opening, taken, after, by rw [heq]; rfl, htaken⟩

/-! ## The text of a note -/

lemma isWhitespace_last_of_trimmed {cs : List Char} (h : trimChars cs = cs) {last : Char}
    (hlast : cs.getLast? = some last) : isWhitespace last = false := by
  rw [← h, trimChars, List.getLast?_reverse] at hlast
  exact head_dropWhile _ last hlast

/-- The body at the end of a note. -/
def noteTail (body : List Char) : List Char :=
  if body = [] then [] else '\n' :: (body ++ ['\n'])

def closedLines (lines : List (List Char)) : List Char :=
  lines.flatMap fun line => line ++ ['\n']

lemma intercalate_append_closed (lines : List (List Char)) (rest : List (List Char))
    (hrest : rest ≠ []) :
    ['\n'].intercalate (lines ++ rest) = closedLines lines ++ ['\n'].intercalate rest := by
  induction lines with
  | nil => rfl
  | cons line lines ih =>
      have hne : lines ++ rest ≠ [] := by simp [hrest]
      obtain ⟨next, others, hsplit⟩ := List.exists_cons_of_ne_nil hne
      rw [List.cons_append, hsplit, List.intercalate_cons_cons, ← hsplit, ih]
      simp [closedLines]

/-- A rewritten note: the block with its marks, and the body. -/
lemma renderNote_eq (properties : List (String × ReviewActionFrontmatterValue))
    {body : List Char} (hbody : trimChars body = body) :
    renderNote properties body =
      closedLines ("---".toList :: frontmatterLines properties ++ ["---".toList]) ++
        noteTail body := by
  have hsplit : "---".toList :: frontmatterLines properties ++ ["---".toList, [], trimChars body] =
      ("---".toList :: frontmatterLines properties ++ ["---".toList]) ++ [[], body] := by
    rw [hbody]
    simp
  have hend : ['\n'].intercalate [[], body] = '\n' :: body := by
    rw [List.intercalate_cons_cons, List.intercalate_singleton]
    rfl
  rw [renderNote, hsplit, intercalate_append_closed _ _ (by simp), hend]
  by_cases hempty : body = []
  · have hclosed : closedLines ("---".toList :: frontmatterLines properties ++ ["---".toList]) =
        (closedLines ("---".toList :: frontmatterLines properties) ++ "--".toList) ++
          ['-', '\n'] := by
      simp [closedLines]
    have hdash : isWhitespace '-' = false := by decide
    have hnewline : isWhitespace '\n' = true := by decide
    rw [hempty, hclosed, noteTail, if_pos rfl]
    simp [trimEnd, hdash, hnewline]
  · obtain ⟨init, last, hlast⟩ : ∃ init last, body = init ++ [last] :=
      ⟨_, _, (List.dropLast_append_getLast hempty).symm⟩
    have hsolid : isWhitespace last = false :=
      isWhitespace_last_of_trimmed hbody (by rw [hlast, List.getLast?_concat])
    rw [noteTail, if_neg hempty, hlast]
    have htrim := trimEnd_concat (closedLines ("---".toList ::
      frontmatterLines properties ++ ["---".toList]) ++ '\n' :: init) hsolid
    simp only [List.append_assoc, List.cons_append] at htrim ⊢
    rw [htrim]
    simp

/-- A line of a block: it ends where the next one begins, and is no mark. -/
structure IsBlockLine (line : List Char) : Prop where
  newline : '\n' ∉ line
  last : line.getLast? ≠ some '\r'
  mark : line ≠ "---".toList

lemma newline_not_mem_stringifyText (text : String) : '\n' ∉ stringifyText text := by
  rw [stringifyText_eq]
  simp [newline_not_mem_escapedChars]

lemma isBlockLine_headLine {key : String} (hkey : IsFieldKey key)
    (value : ReviewActionFrontmatterValue) : IsBlockLine (headLine (key, value)) where
  newline := by
    rw [headLine_eq]
    cases value with
    | list entries => simp [headRest, hkey.newline]
    | null => simp [headRest, hkey.newline]
    | text text => simp [headRest, hkey.newline, newline_not_mem_stringifyText]
  last := by
    cases value with
    | list entries => simp [headLine]
    | null =>
        have hsplit : headLine (key, .null) = (key.toList ++ ": nul".toList) ++ ['l'] := by
          simp [headLine]
        rw [hsplit, List.getLast?_concat]
        simp
    | text text =>
        have hsplit : headLine (key, .text text) =
            (key.toList ++ ": ".toList ++ '"' :: escapedChars text.toList) ++ ['"'] := by
          simp [headLine, stringifyText_eq]
        rw [hsplit, List.getLast?_concat]
        simp
  mark := by
    intro h
    have hcolon : ':' ∈ headLine (key, value) := by simp [headLine_eq]
    rw [h] at hcolon
    exact absurd hcolon (by decide)

lemma isBlockLine_entryLine (entry : String) : IsBlockLine (entryLine entry) where
  newline := by simp [entryLine, newline_not_mem_stringifyText]
  last := by
    have hsplit : entryLine entry =
        ("  - ".toList ++ '"' :: escapedChars entry.toList) ++ ['"'] := by
      simp [entryLine, stringifyText_eq]
    rw [hsplit, List.getLast?_concat]
    simp
  mark := by
    intro h
    have hhead := congrArg List.head? h
    cases hhead

lemma isBlockLine_frontmatterLines
    {properties : List (String × ReviewActionFrontmatterValue)} (hfields : AreFields properties) :
    ∀ line ∈ frontmatterLines properties, IsBlockLine line := by
  intro line hline
  obtain ⟨property, hmem, hline⟩ := List.mem_flatMap.mp hline
  rw [fieldLines_eq] at hline
  rcases List.mem_cons.mp hline with rfl | hline
  · exact isBlockLine_headLine (hfields property hmem).1 property.2
  · obtain ⟨entry, -, rfl⟩ := List.mem_map.mp hline
    exact isBlockLine_entryLine entry

lemma replaceCrLf_cons (c : Char) (cs : List Char) :
    replaceCrLf (c :: cs) =
      if c = '\r' ∧ cs.head? = some '\n' then replaceCrLf cs else c :: replaceCrLf cs := rfl

lemma replaceCrLf_append {front : List Char} (hlast : front.getLast? ≠ some '\r')
    (rest : List Char) : replaceCrLf (front ++ rest) = replaceCrLf front ++ replaceCrLf rest := by
  induction front with
  | nil => rfl
  | cons c cs ih =>
      cases cs with
      | nil =>
          have hreturn : c ≠ '\r' := fun heq => hlast (by rw [heq]; rfl)
          simp [replaceCrLf, hreturn]
      | cons d ds =>
          have hrest : (d :: ds).getLast? ≠ some '\r' := by
            rwa [List.getLast?_cons_cons] at hlast
          have hhead : ((d :: ds) ++ rest).head? = (d :: ds).head? := rfl
          rw [List.cons_append, replaceCrLf_cons, replaceCrLf_cons, hhead, ih hrest]
          by_cases hpair : c = '\r' ∧ (d :: ds).head? = some '\n'
          · rw [if_pos hpair, if_pos hpair]
          · rw [if_neg hpair, if_neg hpair, List.cons_append]

lemma replaceCrLf_of_no_newline {cs : List Char} (h : '\n' ∉ cs) : replaceCrLf cs = cs := by
  induction cs with
  | nil => rfl
  | cons c cs ih =>
      simp only [List.mem_cons, not_or] at h
      have hhead : cs.head? ≠ some '\n' := fun hhead => h.2 (List.mem_of_head? hhead)
      rw [replaceCrLf, if_neg (fun hboth => hhead hboth.2), ih h.2]

lemma replaceCrLf_closedLines {lines : List (List Char)}
    (h : ∀ line ∈ lines, '\n' ∉ line ∧ line.getLast? ≠ some '\r') (rest : List Char) :
    replaceCrLf (closedLines lines ++ rest) = closedLines lines ++ replaceCrLf rest := by
  induction lines with
  | nil => rfl
  | cons line lines ih =>
      obtain ⟨hnewline, hlast⟩ := h line List.mem_cons_self
      have hsplit : ∀ more : List Char, closedLines (line :: lines) ++ more =
          line ++ (['\n'] ++ (closedLines lines ++ more)) := by
        intro more
        simp [closedLines]
      have hbreak : ['\n'].getLast? ≠ some '\r' := by decide
      rw [hsplit, hsplit, replaceCrLf_append hlast, replaceCrLf_of_no_newline hnewline,
        replaceCrLf_append hbreak, ih fun other hmem => h other (List.mem_cons_of_mem _ hmem)]
      rfl

/-- The mark is found at the end of a line only. -/
lemma splitFirst_line {part line : List Char} (hnewline : '\n' ∉ line) (rest : List Char) :
    splitFirst ('\n' :: part) (line ++ '\n' :: rest) =
      (splitFirst ('\n' :: part) ('\n' :: rest)).map fun found =>
        (line ++ found.1, found.2) := by
  induction line with
  | nil => simp
  | cons c cs ih =>
      simp only [List.mem_cons, not_or] at hnewline
      have hmiss : ¬ ('\n' :: part).isPrefixOf (c :: (cs ++ '\n' :: rest)) = true := by
        simp [hnewline.1]
      rw [List.cons_append, splitFirst, if_neg hmiss, ih hnewline.2, Option.map_map]
      rfl

lemma isPrefixOf_mark {line : List Char} (hnewline : '\n' ∉ line) (hmark : line ≠ "---".toList)
    (rest : List Char) : "---\n".toList.isPrefixOf (line ++ '\n' :: rest) = false := by
  by_contra h
  rw [Bool.not_eq_false, List.isPrefixOf_iff_prefix] at h
  obtain ⟨more, hmore⟩ := h
  have hsame : "---".toList ++ '\n' :: more = line ++ '\n' :: rest := hmore
  have htake := congrArg (List.takeWhile fun c => decide (c ≠ '\n')) hsame
  have hline : ∀ c ∈ line, decide (c ≠ '\n') = true := by
    intro c hc
    exact decide_eq_true fun heq => hnewline (heq ▸ hc)
  have hdashes : ∀ c ∈ "---".toList, decide (c ≠ '\n') = true := by
    simp
  rw [List.takeWhile_append_of_pos hline, List.takeWhile_append_of_pos hdashes] at htake
  simp only [ne_eq, not_true_eq_false, decide_false, Bool.false_eq_true, not_false_eq_true,
    List.takeWhile_cons_of_neg, List.append_nil] at htake
  exact hmark htake.symm

/-- The first mark behind a block closes it. -/
lemma splitFirst_closedLines (lines : List (List Char)) (hne : lines ≠ [])
    (h : ∀ line ∈ lines, IsBlockLine line) (rest : List Char) :
    splitFirst "\n---\n".toList (closedLines lines ++ ("---\n".toList ++ rest)) =
      some (['\n'].intercalate lines, rest) := by
  induction lines with
  | nil => exact absurd rfl hne
  | cons line lines ih =>
      have hline := h line List.mem_cons_self
      have hsplit : closedLines (line :: lines) ++ ("---\n".toList ++ rest) =
          line ++ '\n' :: (closedLines lines ++ ("---\n".toList ++ rest)) := by
        simp [closedLines]
      have hmark : "\n---\n".toList = '\n' :: "---\n".toList := rfl
      rw [hsplit, hmark, splitFirst_line hline.newline]
      cases lines with
      | nil =>
          have hfound : splitFirst ('\n' :: "---\n".toList)
              ('\n' :: (closedLines [] ++ ("---\n".toList ++ rest))) = some ([], rest) := rfl
          rw [hfound]
          simp
      | cons next others =>
          have hnext := h next (by simp)
          have hopen : closedLines (next :: others) ++ ("---\n".toList ++ rest) =
              next ++ '\n' :: (closedLines others ++ ("---\n".toList ++ rest)) := by
            simp [closedLines]
          have hmiss : ¬ ('\n' :: "---\n".toList).isPrefixOf
              ('\n' :: (closedLines (next :: others) ++ ("---\n".toList ++ rest))) = true := by
            rw [hopen, List.isPrefixOf_cons_cons, isPrefixOf_mark hnext.newline hnext.mark]
            simp
          rw [splitFirst, if_neg hmiss, ← hmark,
            ih (by simp) fun other hmem => h other (List.mem_cons_of_mem _ hmem)]
          simp [List.intercalate_cons_cons]

/-- How a rewritten note is read. -/
lemma parseSimpleFrontmatter_renderNote
    {properties : List (String × ReviewActionFrontmatterValue)} {body : List Char}
    (hfields : AreFields properties) (hne : properties ≠ []) (hbody : trimChars body = body) :
    parseSimpleFrontmatter (String.ofList (renderNote properties body)) =
      some {
        properties := (readFrontmatterLines (frontmatterLines properties)).properties
        body := trimChars (replaceCrLf (noteTail body)) } := by
  have hlines := isBlockLine_frontmatterLines hfields
  have hlinesNe : frontmatterLines properties ≠ [] := by
    obtain ⟨property, rest, rfl⟩ := List.exists_cons_of_ne_nil hne
    rw [frontmatterLines, List.flatMap_cons, fieldLines_eq]
    simp
  have hall : ∀ line ∈ "---".toList :: frontmatterLines properties ++ ["---".toList],
      '\n' ∉ line ∧ line.getLast? ≠ some '\r' := by
    intro line hline
    simp only [List.cons_append, List.mem_cons, List.mem_append, List.not_mem_nil,
      or_false] at hline
    rcases hline with rfl | hline | rfl
    · exact ⟨by decide, by decide⟩
    · exact ⟨(hlines line hline).newline, (hlines line hline).last⟩
    · exact ⟨by decide, by decide⟩
  have hsplit : closedLines ("---".toList :: frontmatterLines properties ++ ["---".toList]) ++
      replaceCrLf (noteTail body) = "---\n".toList ++
        (closedLines (frontmatterLines properties) ++
          ("---\n".toList ++ replaceCrLf (noteTail body))) := by
    simp [closedLines]
  have hstart : "---\n".toList.isPrefixOf ("---\n".toList ++
      (closedLines (frontmatterLines properties) ++
        ("---\n".toList ++ replaceCrLf (noteTail body)))) = true := by
    rw [List.isPrefixOf_iff_prefix]
    exact List.prefix_append _ _
  have hdrop : ("---\n".toList ++ (closedLines (frontmatterLines properties) ++
      ("---\n".toList ++ replaceCrLf (noteTail body)))).drop 4 =
        closedLines (frontmatterLines properties) ++
          ("---\n".toList ++ replaceCrLf (noteTail body)) := rfl
  have hnormalized : replaceCrLf (String.ofList (renderNote properties body)).toList =
      "---\n".toList ++ (closedLines (frontmatterLines properties) ++
        ("---\n".toList ++ replaceCrLf (noteTail body))) := by
    rw [String.toList_ofList, renderNote_eq _ hbody, replaceCrLf_closedLines hall, hsplit]
  have hlinesSplit : (['\n'].intercalate (frontmatterLines properties)).splitOn '\n' =
      frontmatterLines properties :=
    List.splitOn_intercalate _ (fun line hline => (hlines line hline).newline) hlinesNe
  simp only [parseSimpleFrontmatter, hnormalized, hdrop, hstart, if_true,
    splitFirst_closedLines _ hlinesNe hlines, Option.map_some, hlinesSplit]

/-! ### The body -/

lemma replaceCrLf_sublist (cs : List Char) : (replaceCrLf cs).Sublist cs := by
  induction cs with
  | nil => exact List.Sublist.refl _
  | cons c cs ih =>
      rw [replaceCrLf]
      split_ifs
      · exact ih.cons c
      · exact ih.cons_cons c

lemma trimChars_newlines (cs : List Char) : trimChars ('\n' :: (cs ++ ['\n'])) = trimChars cs := by
  have hnewline : isWhitespace '\n' = true := by decide
  have hend : trimEnd (cs ++ ['\n']) = trimEnd cs := by simp [trimEnd, hnewline]
  rw [trimChars_eq, List.dropWhile_cons_of_pos hnewline, ← trimChars_eq, ← trimChars_trimEnd, hend,
    trimChars_trimEnd]

/-- A body comes back if no carriage return stands in front of a newline of it. -/
lemma body_read_iff {body : List Char} (hbody : trimChars body = body) :
    trimChars (replaceCrLf (noteTail body)) = body ↔ replaceCrLf body = body := by
  by_cases hempty : body = []
  · rw [hempty]
    exact iff_of_true rfl rfl
  · have hlast : body.getLast? ≠ some '\r' := fun hlast =>
      absurd (isWhitespace_last_of_trimmed hbody hlast) (by decide)
    have hstart : ['\n'].getLast? ≠ some '\r' := by decide
    have htail : replaceCrLf (noteTail body) = '\n' :: (replaceCrLf body ++ ['\n']) := by
      rw [noteTail, if_neg hempty, ← List.singleton_append, replaceCrLf_append hstart,
        replaceCrLf_append hlast]
      rfl
    rw [htail, trimChars_newlines]
    constructor
    · intro h
      have hle := (trimChars_part (replaceCrLf body)).length_le
      rw [h] at hle
      exact (replaceCrLf_sublist body).eq_of_length_le hle
    · intro h
      rw [h, hbody]

/-! ### Different fields, different lines -/

lemma headLine_head {key : String} (hkey : IsFieldKey key) (value : ReviewActionFrontmatterValue) :
    ∀ c ∈ (headLine (key, value)).head?, isWhitespace c = false := by
  intro c hc
  rw [headLine_eq] at hc
  cases hchars : key.toList with
  | nil =>
      rw [hchars] at hc
      obtain rfl := Option.some.inj hc
      decide
  | cons d ds =>
      rw [hchars] at hc
      obtain rfl := Option.some.inj hc
      have htrimmed : ∀ c ∈ (trimChars key.toList).head?, isWhitespace c = false :=
        head_reverse_dropWhile (head_dropWhile key.toList)
      rw [hkey.trimmed, hchars] at htrimmed
      exact htrimmed d rfl

lemma stringifyText_injective {a b : String} (h : stringifyText a = stringifyText b) : a = b := by
  have hrest : Json.renderString a.toList ++ [] = Json.renderString b.toList ++ [] := by
    rw [List.append_nil, List.append_nil]
    exact (List.cons.inj h).2
  exact String.toList_injective (Json.renderString_append_inj hrest).1

lemma entryLine_injective : Function.Injective entryLine := fun _ _ h =>
  stringifyText_injective (List.append_cancel_left h)

/-- The first lines of two fields agree in the key, and in the value but for the entries. -/
lemma headLine_injective {key key' : String} {value value' : ReviewActionFrontmatterValue}
    (hkey : IsFieldKey key) (hkey' : IsFieldKey key')
    (h : headLine (key, value) = headLine (key', value')) :
    key = key' ∧ (listEntries (some value) = listEntries (some value') → value = value') := by
  obtain ⟨htake, hdrop⟩ := span_headLine hkey.colon value
  obtain ⟨htake', hdrop'⟩ := span_headLine hkey'.colon value'
  rw [h] at htake hdrop
  have hrest : headRest value = headRest value' := hdrop.symm.trans hdrop'
  refine ⟨String.toList_injective (htake.symm.trans htake'), fun hentries => ?_⟩
  cases value with
  | list entries =>
      cases value' with
      | list entries' => rw [show entries = entries' from hentries]
      | null => cases hrest
      | text text => cases hrest
  | null =>
      cases value' with
      | list entries' => cases hrest
      | null => rfl
      | text text => cases hrest
  | text text =>
      cases value' with
      | list entries' => cases hrest
      | null => cases hrest
      | text text' => rw [stringifyText_injective (List.cons.inj hrest).2]

lemma takeWhile_entryLines (entries : List String)
    {properties : List (String × ReviewActionFrontmatterValue)} (hfields : AreFields properties) :
    (entries.map entryLine ++ frontmatterLines properties).takeWhile
        (fun line => line.head? == some ' ') = entries.map entryLine := by
  have hentries : ∀ line ∈ entries.map entryLine, (line.head? == some ' ') = true := by
    intro line hline
    obtain ⟨entry, -, rfl⟩ := List.mem_map.mp hline
    rfl
  have hstop :
      (frontmatterLines properties).takeWhile (fun line => line.head? == some ' ') = [] := by
    cases properties with
    | nil => rfl
    | cons property properties =>
        rw [frontmatterLines, List.flatMap_cons, fieldLines_eq, List.cons_append]
        refine List.takeWhile_cons_of_neg ?_
        intro hspace
        have hhead := headLine_head (hfields property List.mem_cons_self).1 property.2 ' '
          (by simpa using hspace)
        exact absurd hhead (by decide)
  rw [List.takeWhile_append_of_pos hentries, hstop, List.append_nil]

lemma frontmatterLines_injective {properties : List (String × ReviewActionFrontmatterValue)} :
    ∀ {others : List (String × ReviewActionFrontmatterValue)}, AreFields properties →
      AreFields others → frontmatterLines properties = frontmatterLines others →
      properties = others := by
  induction properties with
  | nil =>
      intro others _ _ h
      cases others with
      | nil => rfl
      | cons other others =>
          rw [frontmatterLines, frontmatterLines, List.flatMap_cons, fieldLines_eq] at h
          cases h
  | cons property properties ih =>
      intro others hfields hothers h
      cases others with
      | nil =>
          rw [frontmatterLines, frontmatterLines, List.flatMap_cons, fieldLines_eq] at h
          cases h
      | cons other others =>
          obtain ⟨key, value⟩ := property
          obtain ⟨key', value'⟩ := other
          have hrest : AreFields properties := fun p hp => hfields p (List.mem_cons_of_mem _ hp)
          have hrest' : AreFields others := fun p hp => hothers p (List.mem_cons_of_mem _ hp)
          change fieldLines key value ++ frontmatterLines properties =
            fieldLines key' value' ++ frontmatterLines others at h
          rw [fieldLines_eq, fieldLines_eq, List.cons_append, List.cons_append] at h
          obtain ⟨hhead, htail⟩ := List.cons.inj h
          obtain ⟨rfl, hvalue⟩ := headLine_injective (hfields (key, value) List.mem_cons_self).1
            (hothers (key', value') List.mem_cons_self).1 hhead
          have hentries := congrArg (List.takeWhile fun line => line.head? == some ' ') htail
          rw [takeWhile_entryLines _ hrest, takeWhile_entryLines _ hrest'] at hentries
          rw [hentries] at htail
          rw [hvalue (entryLine_injective.list_map hentries),
            ih hrest hrest' (List.append_cancel_left htail)]

/-- Two notes with one body are the same text only if their fields are the same. -/
lemma renderNote_injective {properties others : List (String × ReviewActionFrontmatterValue)}
    {body : List Char} (hfields : AreFields properties) (hothers : AreFields others)
    (hne : properties ≠ []) (hne' : others ≠ []) (hbody : trimChars body = body)
    (h : renderNote properties body = renderNote others body) : properties = others := by
  have hread : ∀ {fields : List (String × ReviewActionFrontmatterValue)}, AreFields fields →
      fields ≠ [] → (splitFirst "\n---\n".toList ((renderNote fields body).drop 4)).map
        (fun found => found.1.splitOn '\n') = some (frontmatterLines fields) := by
    intro fields hfields hne
    have hlines := isBlockLine_frontmatterLines hfields
    have hlinesNe : frontmatterLines fields ≠ [] := by
      obtain ⟨property, rest, rfl⟩ := List.exists_cons_of_ne_nil hne
      rw [frontmatterLines, List.flatMap_cons, fieldLines_eq]
      simp
    have hdrop : (renderNote fields body).drop 4 = closedLines (frontmatterLines fields) ++
        ("---\n".toList ++ noteTail body) := by
      rw [renderNote_eq _ hbody]
      simp [closedLines]
    rw [hdrop, splitFirst_closedLines _ hlinesNe hlines, Option.map_some,
      List.splitOn_intercalate _ (fun line hline => (hlines line hline).newline) hlinesNe]
  have hlines := (hread hfields hne).symm.trans ((h ▸ hread hothers hne'))
  exact frontmatterLines_injective hfields hothers (Option.some.inj hlines)

/-! ## Updated fields -/

/-- Names as the runtime gives them: a line can carry them, and they do not look like entries. -/
def ReviewActionUpdates.NameFields (updates : ReviewActionUpdates) : Prop :=
  ∀ update ∈ updates.members, IsFieldKey update.1 ∧ update.1.toList.head? ≠ some '-'

def updateFields (updates : ReviewActionUpdates) :
    List (String × ReviewActionFrontmatterValue) :=
  updates.members.map fun update => (update.1, updateValue update.2)

lemma inKeyOrder_updateFields (updates : ReviewActionUpdates) :
    InKeyOrder (updateFields updates) :=
  inKeyOrder_map updates.ordered fun update => updateValue update.2

lemma lookup_map_value {α β : Type*} (f : α → β) (members : List (String × α)) (key : String) :
    (members.map fun m => (m.1, f m.2)).lookup key = (members.lookup key).map f := by
  induction members with
  | nil => rfl
  | cons m members ih =>
      obtain ⟨k, v⟩ := m
      rw [List.map_cons, lookup_cons_eq, lookup_cons_eq, ih]
      split_ifs <;> rfl

lemma lookup_updateFields (updates : ReviewActionUpdates) (key : String) :
    (updateFields updates).lookup key = (updates.members.lookup key).map updateValue :=
  lookup_map_value updateValue updates.members key

lemma lookup_escapedProperties (properties : List (String × ReviewActionFrontmatterValue))
    (key : String) :
    (escapedProperties properties).lookup key = (properties.lookup key).map escapedValue :=
  lookup_map_value escapedValue properties key

section Updated

variable {properties : List (String × ReviewActionFrontmatterValue)}
  {updates : ReviewActionUpdates}

lemma updatedProperties_eq (hordered : InKeyOrder properties) :
    updatedProperties properties updates = assignAll properties (updateFields updates) := by
  have hspread : assignAll [] properties = properties := by
    have hnew : InKeyOrder ([] ++ properties) := hordered
    exact assignAll_new hnew
  rw [updatedProperties, hspread]
  rfl

lemma lookup_updatedProperties (hordered : InKeyOrder properties) (key : String) :
    (updatedProperties properties updates).lookup key =
      ((updates.members.lookup key).map updateValue).or (properties.lookup key) := by
  rw [updatedProperties_eq hordered, lookup_assignAll (inKeyOrder_updateFields updates),
    lookup_updateFields]

lemma inKeyOrder_updatedProperties (hordered : InKeyOrder properties) :
    InKeyOrder (updatedProperties properties updates) := by
  rw [updatedProperties_eq hordered]
  exact inKeyOrder_assignAll _ hordered

lemma areFields_updatedProperties (hordered : InKeyOrder properties)
    (hfields : AreFields properties) (hnames : updates.NameFields) :
    AreFields (updatedProperties properties updates) := by
  intro property hmem
  rw [updatedProperties_eq hordered] at hmem
  rcases mem_assignAll _ hmem with hmem | hmem
  · exact hfields property hmem
  · obtain ⟨update, hupdate, rfl⟩ := List.mem_map.mp hmem
    refine ⟨(hnames update hupdate).1, ?_, fun _ => ?_⟩ <;>
      cases update.2 <;> simp [updateValue, listEntries]

end Updated

/-! ## Actions that are read again -/

/-- The fields that an action reads as texts. -/
def actionTextKeys : List String :=
  ["abb_review_action_id", "abb_action_kind", "abb_target_id", "abb_status",
    "abb_replacement_value", "abb_follow_up_text", "abb_thread_key"]

def actionListKeys : List String := ["abb_entity_refs", "abb_source_recall_refs"]

lemma reviewActionOf_congr {parsed other : SimpleFrontmatter} (hbody : parsed.body = other.body)
    (htexts : ∀ key ∈ actionTextKeys, parsed.properties.lookup key = other.properties.lookup key)
    (hlists : ∀ key ∈ actionListKeys, normalizeTextArray (parsed.properties.lookup key) =
      normalizeTextArray (other.properties.lookup key)) (sourcePath : String) :
    reviewActionOf parsed sourcePath = reviewActionOf other sourcePath := by
  simp only [actionTextKeys, actionListKeys, List.mem_cons, List.not_mem_nil, or_false,
    forall_eq_or_imp, forall_eq] at htexts hlists
  simp only [reviewActionOf, htexts, hlists, hbody]

/-- What the fields of a block say about its action. -/
structure Describes (parsed : SimpleFrontmatter) (action : ObsidianReviewAction) : Prop where
  kind : normalizeReviewActionKind (parsed.properties.lookup "abb_action_kind") =
    some action.actionKind
  id : normalizeText (parsed.properties.lookup "abb_review_action_id") = some action.actionId
  status : normalizeReviewActionStatus (parsed.properties.lookup "abb_status") =
    some action.status
  target : normalizeText (parsed.properties.lookup "abb_target_id") = action.targetId
  replacement : normalizeText (parsed.properties.lookup "abb_replacement_value") =
    action.replacementValue
  followUp : normalizeText (parsed.properties.lookup "abb_follow_up_text") = action.followUpText
  thread : normalizeText (parsed.properties.lookup "abb_thread_key") = action.threadKey
  body : String.ofList parsed.body = action.noteBody

lemma describes_of_reviewActionOf {parsed : SimpleFrontmatter} {sourcePath : String}
    {action : ObsidianReviewAction} (h : reviewActionOf parsed sourcePath = some action) :
    Describes parsed action := by
  simp only [reviewActionOf, Option.bind_eq_bind, Option.bind_eq_some_iff] at h
  obtain ⟨kind, hkind, actionId, hid, status, hstatus, h⟩ := h
  split_ifs at h
  · cases h
  · obtain rfl := Option.some.inj h
    exact ⟨hkind, hid, hstatus, rfl, rfl, rfl, rfl, rfl⟩

lemma trim_of_normalizeText {a b : String}
    (h : normalizeText (some (.text a)) = normalizeText (some (.text b))) : trim a = trim b := by
  simp only [normalizeText] at h
  split_ifs at h with ha hb hb
  · rw [ha, hb]
  · exact Option.some.inj h

lemma trim_of_normalizeKind {a : String} {kind : ObsidianReviewActionKind}
    (h : normalizeReviewActionKind (some (.text a)) = some kind) : trim a = kind.text := by
  simpa using List.find?_some h

lemma trim_of_normalizeStatus {a : String} {status : ObsidianReviewActionStatus}
    (h : normalizeReviewActionStatus (some (.text a)) = some status) : trim a = status.text := by
  simpa using List.find?_some h

/-- Two blocks of one action have the same trimmed texts. -/
lemma trim_of_describes {parsed other : SimpleFrontmatter} {action : ObsidianReviewAction}
    (h : Describes parsed action) (h' : Describes other action) {key a b : String}
    (hkey : key ∈ actionTextKeys) (ha : parsed.properties.lookup key = some (.text a))
    (hb : other.properties.lookup key = some (.text b)) : trim a = trim b := by
  simp only [actionTextKeys, List.mem_cons, List.not_mem_nil, or_false] at hkey
  rcases hkey with rfl | rfl | rfl | rfl | rfl | rfl | rfl
  · exact trim_of_normalizeText (ha ▸ hb ▸ h.id.trans h'.id.symm)
  · rw [trim_of_normalizeKind (ha ▸ h.kind), trim_of_normalizeKind (hb ▸ h'.kind)]
  · exact trim_of_normalizeText (ha ▸ hb ▸ h.target.trans h'.target.symm)
  · rw [trim_of_normalizeStatus (ha ▸ h.status), trim_of_normalizeStatus (hb ▸ h'.status)]
  · exact trim_of_normalizeText (ha ▸ hb ▸ h.replacement.trans h'.replacement.symm)
  · exact trim_of_normalizeText (ha ▸ hb ▸ h.followUp.trans h'.followUp.symm)
  · exact trim_of_normalizeText (ha ▸ hb ▸ h.thread.trans h'.thread.symm)

lemma Describes.properties_ne_nil {parsed : SimpleFrontmatter} {action : ObsidianReviewAction}
    (h : Describes parsed action) : parsed.properties ≠ [] := by
  intro hnil
  have hkind := h.kind
  rw [hnil] at hkind
  cases hkind

/-! ## What a rewrite keeps -/

/-- The fields and the body of a note that is read. -/
structure IsParsed (parsed : SimpleFrontmatter) : Prop where
  ordered : InKeyOrder parsed.properties
  fields : AreFields parsed.properties
  body : trimChars parsed.body = parsed.body

lemma isParsed_of_parseSimpleFrontmatter {markdown : String} {parsed : SimpleFrontmatter}
    (h : parseSimpleFrontmatter markdown = some parsed) : IsParsed parsed := by
  unfold parseSimpleFrontmatter at h
  dsimp only at h
  split_ifs at h
  obtain ⟨⟨frontmatter, rest⟩, -, rfl⟩ := Option.map_eq_some_iff.mp h
  have hlines : ∀ line ∈ frontmatter.splitOn '\n', '\n' ∉ line :=
    fun line hline => Lib.sep_not_mem_segment hline
  have hreads := readFrontmatterLines_reads hlines
  exact ⟨hreads.ordered, hreads.fields, trimChars_idem rest⟩

/-- The fields of a note once they are updated. -/
def SimpleFrontmatter.update (parsed : SimpleFrontmatter) (updates : ReviewActionUpdates) :
    SimpleFrontmatter :=
  { parsed with properties := updatedProperties parsed.properties updates }

lemma rewriteObsidianReviewActionMarkdown_eq {markdown : String} {parsed : SimpleFrontmatter}
    (h : parseSimpleFrontmatter markdown = some parsed) (updates : ReviewActionUpdates) :
    rewriteObsidianReviewActionMarkdown markdown updates =
      String.ofList (renderNote (parsed.update updates).properties parsed.body) := by
  rw [rewriteObsidianReviewActionMarkdown, h]
  rfl

lemma IsParsed.update {parsed : SimpleFrontmatter} (h : IsParsed parsed)
    {updates : ReviewActionUpdates} (hnames : updates.NameFields) :
    IsParsed (parsed.update updates) where
  ordered := inKeyOrder_updatedProperties h.ordered
  fields := areFields_updatedProperties h.ordered h.fields hnames
  body := h.body

lemma IsParsed.lookup_update {parsed : SimpleFrontmatter} (h : IsParsed parsed)
    (updates : ReviewActionUpdates) (key : String) :
    (parsed.update updates).properties.lookup key =
      ((updates.members.lookup key).map updateValue).or (parsed.properties.lookup key) :=
  lookup_updatedProperties h.ordered key

/-- The rewritten note is read as the action with the updated fields, and a second rewrite
changes nothing. -/
def RewritesFaithfully (markdown sourcePath : String) (updates : ReviewActionUpdates) : Prop :=
  ∃ parsed action, parseSimpleFrontmatter markdown = some parsed ∧
    reviewActionOf (parsed.update updates) sourcePath = some action ∧
    parseObsidianReviewActionMarkdown (rewriteObsidianReviewActionMarkdown markdown updates)
      sourcePath = some action ∧
    rewriteObsidianReviewActionMarkdown (rewriteObsidianReviewActionMarkdown markdown updates)
      updates = rewriteObsidianReviewActionMarkdown markdown updates

/-- Nothing in the note is lost on the way through the printer and the parser. -/
structure SurvivesRewriting (parsed : SimpleFrontmatter) (sourcePath : String)
    (updates : ReviewActionUpdates) : Prop where
  /-- The updated fields describe an action. -/
  valid : (reviewActionOf (parsed.update updates) sourcePath).isSome
  /-- The body has no carriage return in front of a newline. -/
  body : replaceCrLf parsed.body = parsed.body
  /-- The other fields have nothing to escape. -/
  kept : ∀ property ∈ parsed.properties, updates.members.lookup property.1 = none →
    escapedValue property.2 = property.2
  /-- The new texts that the action reads have nothing to escape. -/
  read : ∀ key ∈ actionTextKeys, ∀ text, updates.members.lookup key = some (some text) →
    escapedText text = text
  /-- No field stands behind a list and looks like an entry of it. -/
  apart : (parsed.update updates).properties.IsChain Apart

section Rewritten

variable {parsed : SimpleFrontmatter} {updates : ReviewActionUpdates} {sourcePath : String}

lemma updatedProperties_ne_nil {properties : List (String × ReviewActionFrontmatterValue)}
    (hordered : InKeyOrder properties) (hne : properties ≠ []) :
    updatedProperties properties updates ≠ [] := by
  intro hnil
  obtain ⟨property, rest, hproperties⟩ := List.exists_cons_of_ne_nil hne
  have hmem : property ∈ properties := by simp [hproperties]
  have hlookup : (updatedProperties properties updates).lookup property.1 = _ :=
    lookup_updatedProperties hordered property.1
  rw [hnil, lookup_of_mem hordered hmem] at hlookup
  cases hupdate : updates.members.lookup property.1 <;> simp [hupdate] at hlookup

/-- Fields that escape to themselves are updated to the same fields again. -/
lemma updatedProperties_escapedProperties (hparsed : IsParsed parsed)
    (hkept : ∀ property ∈ parsed.properties, updates.members.lookup property.1 = none →
      escapedValue property.2 = property.2) :
    updatedProperties (escapedProperties (parsed.update updates).properties) updates =
      (parsed.update updates).properties := by
  have hupdated : InKeyOrder (parsed.update updates).properties :=
    inKeyOrder_updatedProperties hparsed.ordered
  have hordered : InKeyOrder (escapedProperties (parsed.update updates).properties) :=
    inKeyOrder_map hupdated _
  have hlookup := hparsed.lookup_update updates
  have hkeys : ∀ m ∈ updateFields updates,
      m.1 ∈ (escapedProperties (parsed.update updates).properties).map Prod.fst := by
    intro m hm
    have hfound := lookup_of_mem (inKeyOrder_updateFields updates) hm
    rw [lookup_updateFields] at hfound
    have hmem := mem_of_lookup ((hlookup m.1).trans (by rw [hfound]; rfl))
    simpa [escapedProperties] using ⟨_, hmem⟩
  rw [updatedProperties_eq hordered, assignAll_existing hordered (inKeyOrder_updateFields updates)
    hkeys, escapedProperties, List.map_map]
  conv_rhs => rw [← List.map_id (parsed.update updates).properties]
  refine List.map_congr_left fun property hmem => ?_
  have hvalue := (hlookup property.1).symm.trans (lookup_of_mem hupdated hmem)
  simp only [Function.comp_apply, lookup_updateFields, id_eq]
  cases hupdate : updates.members.lookup property.1 with
  | some text =>
      rw [hupdate] at hvalue
      rw [Option.map_some, Option.getD_some, Option.some.inj hvalue]
  | none =>
      rw [hupdate] at hvalue
      have hstood : property ∈ parsed.properties := mem_of_lookup hvalue
      rw [Option.map_none, Option.getD_none, hkept property hstood hupdate]

/-- An action does not change where its fields escape to themselves. -/
lemma reviewActionOf_escapedProperties (hparsed : IsParsed parsed)
    (h : SurvivesRewriting parsed sourcePath updates) :
    reviewActionOf ⟨escapedProperties (parsed.update updates).properties, parsed.body⟩
        sourcePath =
      reviewActionOf (parsed.update updates) sourcePath := by
  have hlookup := hparsed.lookup_update updates
  have hstood : ∀ key, updates.members.lookup key = none →
      (parsed.properties.lookup key).map escapedValue = parsed.properties.lookup key := by
    intro key hnone
    cases hfound : parsed.properties.lookup key with
    | none => rfl
    | some value => rw [Option.map_some, h.kept (key, value) (mem_of_lookup hfound) hnone]
  have hbody : (⟨escapedProperties (parsed.update updates).properties, parsed.body⟩ :
      SimpleFrontmatter).body = (parsed.update updates).body := rfl
  refine reviewActionOf_congr hbody (fun key hkey => ?_) (fun key _ => ?_) sourcePath
  · rw [lookup_escapedProperties, hlookup]
    cases hupdate : updates.members.lookup key with
    | none => exact hstood key hupdate
    | some update =>
        cases update with
        | none => rfl
        | some text =>
            simp only [Option.map_some, Option.some_or, updateValue, escapedValue]
            rw [h.read key hkey text hupdate]
  · rw [lookup_escapedProperties, hlookup]
    cases hupdate : updates.members.lookup key with
    | none =>
        rw [Option.map_none, Option.none_or, hstood key hupdate]
    | some update => cases update <;> rfl

/-- How a rewritten note of fields is read. -/
lemma parseSimpleFrontmatter_rewritten (hparsed : IsParsed parsed) (hnames : updates.NameFields)
    (hne : (parsed.update updates).properties ≠ []) :
    parseSimpleFrontmatter
        (String.ofList (renderNote (parsed.update updates).properties parsed.body)) =
      some {
        properties := (readFrontmatterLines
          (frontmatterLines (parsed.update updates).properties)).properties
        body := trimChars (replaceCrLf (noteTail parsed.body)) } :=
  parseSimpleFrontmatter_renderNote
    (areFields_updatedProperties hparsed.ordered hparsed.fields hnames) hne hparsed.body

lemma rewritesFaithfully_of_survives {markdown : String}
    (hmarkdown : parseSimpleFrontmatter markdown = some parsed) (hnames : updates.NameFields)
    (h : SurvivesRewriting parsed sourcePath updates) :
    RewritesFaithfully markdown sourcePath updates := by
  have hparsed := isParsed_of_parseSimpleFrontmatter hmarkdown
  obtain ⟨action, haction⟩ := Option.isSome_iff_exists.mp h.valid
  have hne := (describes_of_reviewActionOf haction).properties_ne_nil
  have hread := parseSimpleFrontmatter_rewritten hparsed hnames hne
  have hupdated := hparsed.update hnames
  rw [readFrontmatterLines_apart hupdated.fields hupdated.ordered h.apart,
    (body_read_iff hparsed.body).mpr h.body] at hread
  refine ⟨parsed, action, hmarkdown, haction, ?_, ?_⟩
  · rw [rewriteObsidianReviewActionMarkdown_eq hmarkdown, parseObsidianReviewActionMarkdown,
      hread, Option.bind_some, reviewActionOf_escapedProperties hparsed h, haction]
  · rw [rewriteObsidianReviewActionMarkdown_eq hmarkdown,
      rewriteObsidianReviewActionMarkdown_eq hread]
    simp only [SimpleFrontmatter.update]
    exact congrArg (fun properties => String.ofList (renderNote properties parsed.body))
      (updatedProperties_escapedProperties hparsed h.kept)

/-- A name that looks like an entry begins with a dash. -/
lemma head_of_arrayMatch {key : String} (hkey : IsFieldKey key)
    {value : ReviewActionFrontmatterValue} (h : arrayMatch (headLine (key, value)) ≠ none) :
    key.toList.head? = some '-' := by
  have hkept : (headLine (key, value)).dropWhile isWhitespace = headLine (key, value) := by
    cases hline : headLine (key, value) with
    | nil => rfl
    | cons c cs =>
        have hsolid := headLine_head hkey value c (by rw [hline]; rfl)
        rw [List.dropWhile_cons_of_neg (by simp [hsolid])]
  unfold arrayMatch at h
  rw [hkept] at h
  split at h
  · rename_i c cs hline
    rw [headLine_eq] at hline
    cases hchars : key.toList with
    | nil =>
        rw [hchars] at hline
        cases hline
    | cons d ds =>
        rw [hchars] at hline
        exact congrArg some (List.cons.inj hline).1
  · exact absurd rfl h

/-- Where the fields of the note are the same after the second rewrite, they stood apart. -/
lemma apart_of_rewritten (hparsed : IsParsed parsed) (hnames : updates.NameFields)
    {reread : List (String × ReviewActionFrontmatterValue)}
    (hreread : reread = (readFrontmatterLines
      (frontmatterLines (parsed.update updates).properties)).properties)
    (hordered : InKeyOrder reread)
    (hsame : updatedProperties reread updates = (parsed.update updates).properties) :
    (parsed.update updates).properties.IsChain Apart := by
  by_contra hchain
  obtain ⟨before, opening, taken, after, heq, hopens, htaken⟩ := exists_taken_of_not_chain hchain
  have hfields := (hparsed.update hnames).fields
  have hkeys := (hparsed.update hnames).ordered
  have hmem : taken ∈ (parsed.update updates).properties := by simp [heq]
  have havoids : ∀ property ∈ reread, property.1 ≠ taken.1 := by
    rw [hreread, heq]
    exact (readFields_taken (heq ▸ hfields) (heq ▸ hkeys) hopens htaken).1
  rw [← hsame, updatedProperties_eq hordered] at hmem
  rcases mem_assignAll _ hmem with hmem | hmem
  · exact havoids taken hmem rfl
  · obtain ⟨update, hupdate, rfl⟩ := List.mem_map.mp hmem
    obtain ⟨hkey, hdash⟩ := hnames update hupdate
    exact hdash (head_of_arrayMatch hkey htaken)

lemma survives_of_rewritesFaithfully {markdown : String}
    (hmarkdown : parseSimpleFrontmatter markdown = some parsed) (hnames : updates.NameFields)
    (h : RewritesFaithfully markdown sourcePath updates) :
    SurvivesRewriting parsed sourcePath updates := by
  obtain ⟨parsed', action, hmarkdown', haction, hagain, htwice⟩ := h
  obtain rfl : parsed = parsed' := Option.some.inj (hmarkdown.symm.trans hmarkdown')
  have hparsed := isParsed_of_parseSimpleFrontmatter hmarkdown
  have hdescribes := describes_of_reviewActionOf haction
  have hread := parseSimpleFrontmatter_rewritten hparsed hnames hdescribes.properties_ne_nil
  rw [rewriteObsidianReviewActionMarkdown_eq hmarkdown] at hagain htwice
  rw [parseObsidianReviewActionMarkdown, hread, Option.bind_some] at hagain
  have hreread := isParsed_of_parseSimpleFrontmatter hread
  have hdescribes' := describes_of_reviewActionOf hagain
  have hbody : trimChars (replaceCrLf (noteTail parsed.body)) = parsed.body :=
    String.ofList_injective (hdescribes'.body.trans hdescribes.body.symm)
  rw [rewriteObsidianReviewActionMarkdown_eq hread] at htwice
  have htext := String.ofList_injective htwice
  simp only [hbody] at htext hread hreread
  have hupdated := hparsed.update hnames
  have hsame := renderNote_injective (hreread.update hnames).fields hupdated.fields
    (updatedProperties_ne_nil hreread.ordered hdescribes'.properties_ne_nil)
    hdescribes.properties_ne_nil hparsed.body htext
  have hapart := apart_of_rewritten hparsed hnames rfl hreread.ordered hsame
  have hescaped := readFrontmatterLines_apart hupdated.fields hupdated.ordered hapart
  have hlookup := hparsed.lookup_update updates
  refine ⟨by rw [haction]; rfl, (body_read_iff hparsed.body).mp hbody, ?_, ?_, hapart⟩
  · intro property hmem hnone
    have hstood : (parsed.update updates).properties.lookup property.1 = some property.2 := by
      rw [hlookup, hnone, lookup_of_mem hparsed.ordered hmem]
      rfl
    have hsecond := hreread.lookup_update updates property.1
    rw [hsame, hnone, hstood, hescaped, lookup_escapedProperties, hstood] at hsecond
    exact (Option.some.inj hsecond).symm
  · intro key hkey text hupdate
    have hfirst : (parsed.update updates).properties.lookup key = some (.text text) := by
      rw [hlookup, hupdate]
      rfl
    have hsecond : (readFrontmatterLines
        (frontmatterLines (parsed.update updates).properties)).properties.lookup key =
          some (.text (escapedText text)) := by
      rw [hescaped, lookup_escapedProperties, hfirst]
      rfl
    exact escapedText_of_trim (trim_of_describes hdescribes' hdescribes hkey hsecond hfirst)

end Rewritten

/-- A rewrite changes only what it is told to exactly where everything else survives it. -/
theorem rewritesFaithfully_iff {markdown sourcePath : String} {updates : ReviewActionUpdates}
    (haccepted : (parseObsidianReviewActionMarkdown markdown sourcePath).isSome)
    (hnames : updates.NameFields) :
    RewritesFaithfully markdown sourcePath updates ↔
      ∃ parsed, parseSimpleFrontmatter markdown = some parsed ∧
        SurvivesRewriting parsed sourcePath updates := by
  obtain ⟨action, haction⟩ := Option.isSome_iff_exists.mp haccepted
  obtain ⟨parsed, hmarkdown, -⟩ := Option.bind_eq_some_iff.mp haction
  constructor
  · exact fun h => ⟨parsed, hmarkdown, survives_of_rewritesFaithfully hmarkdown hnames h⟩
  · rintro ⟨other, hother, h⟩
    exact rewritesFaithfully_of_survives hother hnames h

/-- The block and the text of a note. -/
def noteOf (lines : List String) : String := "\n".intercalate lines

/-- A resolved episode, as it stands in the inbox. -/
def resolveNote : String :=
  noteOf ["---", "abb_review_action_id: r1", "abb_action_kind: resolve_episode",
    "abb_target_id: e1", "abb_status: pending", "abb_entity_refs:", "  - ada", "---", "Done."]

def resolveFields : SimpleFrontmatter where
  properties := [("abb_review_action_id", .text "r1"), ("abb_action_kind", .text "resolve_episode"),
    ("abb_target_id", .text "e1"), ("abb_status", .text "pending"),
    ("abb_entity_refs", .list ["ada"])]
  body := "Done.".toList

/-- The update that marks an action as applied. -/
def appliedUpdate : ReviewActionUpdates where
  members := [("abb_status", some "applied"), ("abb_result", some "Resolved.")]
  ordered := by
    refine List.pairwise_pair.mpr ⟨by decide, ?_⟩
    decide

lemma nameFields_appliedUpdate : appliedUpdate.NameFields := by
  intro update hupdate
  simp only [appliedUpdate, List.mem_cons, List.not_mem_nil, or_false] at hupdate
  rcases hupdate with rfl | rfl
  · exact ⟨⟨by decide, by decide, by decide, by decide⟩, by decide⟩
  · exact ⟨⟨by decide, by decide, by decide, by decide⟩, by decide⟩

lemma parseSimpleFrontmatter_resolveNote :
    (parseSimpleFrontmatter resolveNote) = some resolveFields := by
  have hproperties : (parseSimpleFrontmatter resolveNote).map (·.properties) =
      some resolveFields.properties := by decide +kernel
  have hbody : (parseSimpleFrontmatter resolveNote).map (·.body) =
      some resolveFields.body := by decide +kernel
  obtain ⟨parsed, hparsed, hfields⟩ := Option.map_eq_some_iff.mp hproperties
  rw [hparsed] at hbody ⊢
  have hsame : parsed.body = resolveFields.body := Option.some.inj hbody
  cases parsed
  simp only at hfields hsame
  rw [hfields, hsame]

lemma survivesRewriting_resolveNote :
    SurvivesRewriting resolveFields "inbox/a.md" appliedUpdate where
  valid := by decide +kernel
  body := by decide +kernel
  kept := by
    intro property hmem _
    simp only [resolveFields, List.mem_cons, List.not_mem_nil, or_false] at hmem
    rcases hmem with rfl | rfl | rfl | rfl | rfl <;> decide +kernel
  read := by
    intro key _ text hupdate
    have hmem : (key, some text) ∈ appliedUpdate.members := mem_of_lookup hupdate
    simp only [appliedUpdate, List.mem_cons, Prod.mk.injEq, Option.some.injEq, List.not_mem_nil,
      or_false] at hmem
    rcases hmem with ⟨-, rfl⟩ | ⟨-, rfl⟩ <;> decide +kernel
  apart := by
    have hfields : (resolveFields.update appliedUpdate).properties =
        [("abb_review_action_id", .text "r1"), ("abb_action_kind", .text "resolve_episode"),
          ("abb_target_id", .text "e1"), ("abb_status", .text "applied"),
          ("abb_entity_refs", .list ["ada"]), ("abb_result", .text "Resolved.")] := by
      decide +kernel
    have hlast : arrayMatch (headLine ("abb_result", .text "Resolved.")) = none := by decide
    rw [hfields]
    simp [Apart, OpensList, hlast]

theorem rewritesFaithfully_resolveNote :
    RewritesFaithfully resolveNote "inbox/a.md" appliedUpdate :=
  (rewritesFaithfully_iff (by decide +kernel) nameFields_appliedUpdate).mpr
    ⟨resolveFields, parseSimpleFrontmatter_resolveNote, survivesRewriting_resolveNote⟩

/-- A follow-up with a quotation in it. -/
def quotingNote : String :=
  noteOf ["---", "abb_review_action_id: r1", "abb_action_kind: create_follow_up_loop",
    "abb_follow_up_text: say \"hi\"", "---", ""]

/-- The quotation marks come back with a backslash in front of each. -/
theorem not_rewritesFaithfully_quotingNote :
    (parseObsidianReviewActionMarkdown quotingNote "inbox/a.md").isSome ∧
      ¬ RewritesFaithfully quotingNote "inbox/a.md" appliedUpdate := by
  constructor
  · decide +kernel
  · rintro ⟨parsed, action, -, -, -, htwice⟩
    revert htwice
    decide +kernel

end AgentBigBrain.Core
