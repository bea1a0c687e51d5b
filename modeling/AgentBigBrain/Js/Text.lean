import Mathlib.Order.Basic
import Mathlib.Data.List.Lex
import Mathlib.Tactic
import Mathlib.Data.List.TakeWhile

/-!
# Strings of the host language

The source compares strings with `<` and `>=`, measures them with `.length` and
strips them with `.trim()`. The first two work on UTF-16 code units and the last
one on a fixed set of white space characters, so none of them is the operation of
the same name on Lean strings.
-/
namespace AgentBigBrain.Js

/-- The UTF-16 code units of one character: itself, or a surrogate pair. -/
def charUnits (c : Char) : List ℕ :=
  if c.toNat < 0x10000 then
    [c.toNat]
  else
    [0xD800 + (c.toNat - 0x10000) / 0x400, 0xDC00 + (c.toNat - 0x10000) % 0x400]

/-- The UTF-16 code units of a string. -/
def codeUnits (s : String) : List ℕ :=
  s.toList.flatMap charUnits

/-- `text.length`. -/
def utf16Length (s : String) : ℕ :=
  (codeUnits s).length

/-- `left <= right` on strings. -/
def textLe (left right : String) : Bool :=
  decide (codeUnits left ≤ codeUnits right)

/-- `left < right` on strings. -/
def textLt (left right : String) : Bool :=
  !textLe right left

@[simp] lemma textLe_refl (s : String) : textLe s s = true := by
  simp [textLe]

lemma textLe_total (s t : String) : textLe s t = true ∨ textLe t s = true := by
  simpa [textLe] using le_total (codeUnits s) (codeUnits t)

lemma textLe_trans {s t u : String} (hst : textLe s t = true) (htu : textLe t u = true) :
    textLe s u = true := by
  simp only [textLe, decide_eq_true_eq] at hst htu ⊢
  exact le_trans hst htu

@[simp] lemma textLt_irrefl (s : String) : textLt s s = false := by
  simp [textLt]

lemma charUnits_ne_nil (c : Char) : charUnits c ≠ [] := by
  unfold charUnits
  split_ifs <;> simp

lemma charUnits_append_inj {c d : Char} {us vs : List ℕ}
    (h : charUnits c ++ us = charUnits d ++ vs) : c = d ∧ us = vs := by
  have hvalid (e : Char) : e.toNat < 0xD800 ∨ 0xDFFF < e.toNat ∧ e.toNat < 0x110000 := e.valid
  have hc := hvalid c
  have hd := hvalid d
  unfold charUnits at h
  split_ifs at h <;>
    simp only [List.cons_append, List.nil_append, List.cons.injEq] at h
  · exact ⟨Char.toNat_inj.mp h.1, h.2⟩
  · omega
  · omega
  · exact ⟨Char.toNat_inj.mp (by omega), h.2.2⟩

/-- Strings with the same code units are the same string. -/
theorem codeUnits_injective {s t : String} (h : codeUnits s = codeUnits t) : s = t := by
  have hunits : ∀ cs ds : List Char, cs.flatMap charUnits = ds.flatMap charUnits → cs = ds := by
    intro cs
    induction cs with
    | nil =>
        intro ds hds
        cases ds with
        | nil => rfl
        | cons d ds => simp [charUnits_ne_nil] at hds
    | cons c cs ih =>
        intro ds hds
        cases ds with
        | nil => simp [charUnits_ne_nil] at hds
        | cons d ds =>
            simp only [List.flatMap_cons] at hds
            obtain ⟨rfl, hrest⟩ := charUnits_append_inj hds
            rw [ih ds hrest]
  exact String.toList_inj.mp (hunits _ _ h)

lemma textLe_antisymm {s t : String} (hst : textLe s t = true) (hts : textLe t s = true) :
    s = t := by
  simp only [textLe, decide_eq_true_eq] at hst hts
  exact codeUnits_injective (le_antisymm hst hts)

/-- The characters `.trim()` removes: `WhiteSpace` and `LineTerminator`. -/
def isWhitespace (c : Char) : Bool :=
  (9 ≤ c.toNat && c.toNat ≤ 13) || c.toNat == 0x20 || c.toNat == 0xA0 || c.toNat == 0x1680 ||
    (0x2000 ≤ c.toNat && c.toNat ≤ 0x200A) || c.toNat == 0x2028 || c.toNat == 0x2029 ||
    c.toNat == 0x202F || c.toNat == 0x205F || c.toNat == 0x3000 || c.toNat == 0xFEFF

def trimChars (cs : List Char) : List Char :=
  ((cs.dropWhile isWhitespace).reverse.dropWhile isWhitespace).reverse

/-- `text.trim()`. -/
def trim (s : String) : String :=
  String.ofList (trimChars s.toList)

lemma dropWhile_of_head {p : Char → Bool} {cs : List Char}
    (h : ∀ c ∈ cs.head?, p c = false) : cs.dropWhile p = cs := by
  cases cs with
  | nil => rfl
  | cons c cs => simp [List.dropWhile, h c (by simp)]

lemma head_dropWhile {p : Char → Bool} (cs : List Char) :
    ∀ c ∈ (cs.dropWhile p).head?, p c = false := by
  induction cs with
  | nil => simp
  | cons c cs ih =>
      by_cases hc : p c = true
      · simpa [List.dropWhile, hc] using ih
      · simp [List.dropWhile, hc]

lemma head_reverse_dropWhile {p : Char → Bool} {cs : List Char}
    (h : ∀ c ∈ cs.head?, p c = false) :
    ∀ c ∈ ((cs.reverse.dropWhile p).reverse).head?, p c = false := by
  intro c hc
  have hprefix : (cs.reverse.dropWhile p).reverse <+: cs := by
    have hsuffix := List.dropWhile_suffix (l := cs.reverse) p
    simpa using List.reverse_prefix.mpr hsuffix
  obtain ⟨rest, hrest⟩ := hprefix
  cases hd : (cs.reverse.dropWhile p).reverse with
  | nil => simp [hd] at hc
  | cons d ds =>
      simp only [hd, List.head?_cons, Option.mem_def, Option.some.injEq] at hc
      subst hc
      rw [hd] at hrest
      exact h d (by rw [← hrest]; rfl)

lemma trimChars_idem (cs : List Char) : trimChars (trimChars cs) = trimChars cs := by
  have hhead : ∀ c ∈ (trimChars cs).head?, isWhitespace c = false :=
    head_reverse_dropWhile (head_dropWhile cs)
  have hlast : ∀ c ∈ (trimChars cs).reverse.head?, isWhitespace c = false := by
    rw [trimChars, List.reverse_reverse]
    exact head_dropWhile (cs.dropWhile isWhitespace).reverse
  calc
    trimChars (trimChars cs)
        = ((trimChars cs).reverse.dropWhile isWhitespace).reverse := by
          rw [trimChars, dropWhile_of_head hhead]
    _ = trimChars cs := by rw [dropWhile_of_head hlast, List.reverse_reverse]

@[simp] theorem trim_trim (s : String) : trim (trim s) = trim s := by
  simp [trim, trimChars_idem]

lemma trim_of_no_whitespace {s : String} (h : ∀ c ∈ s.toList, isWhitespace c = false) :
    trim s = s := by
  have hfront : s.toList.dropWhile isWhitespace = s.toList :=
    dropWhile_of_head fun c hc => h c (List.mem_of_mem_head? hc)
  have hback : s.toList.reverse.dropWhile isWhitespace = s.toList.reverse :=
    dropWhile_of_head fun c hc => h c (List.mem_reverse.mp (List.mem_of_mem_head? hc))
  rw [trim, trimChars, hfront, hback, List.reverse_reverse, String.ofList_toList]

/-- `text.trim().length > 0`, the test behind every optional text field. -/
def isPresent (s : String) : Bool :=
  decide (trim s ≠ "")

@[simp] lemma isPresent_trim (s : String) : isPresent (trim s) = isPresent s := by
  simp [isPresent]

/-! ## Runs of white space -/

/-- `text.replace(/\s+/g, " ")` on characters; `inRun` says that the blank of the current run
is already written. -/
def collapseChars (inRun : Bool) : List Char → List Char
  | [] => []
  | c :: cs =>
      if isWhitespace c then
        if inRun then collapseChars true cs else ' ' :: collapseChars true cs
      else
        c :: collapseChars false cs

/-- `text.replace(/\s+/g, " ").trim()`. -/
def normalizeWhitespace (s : String) : String :=
  trim (String.ofList (collapseChars false s.toList))

/-- The only white space is single blanks. -/
def Collapsed (cs : List Char) : Prop :=
  (∀ c ∈ cs, isWhitespace c = true → c = ' ') ∧
    cs.IsChain fun c d => ¬ (isWhitespace c = true ∧ isWhitespace d = true)

lemma collapsed_collapseChars (cs : List Char) (inRun : Bool) :
    Collapsed (collapseChars inRun cs) ∧
      (inRun = true → ∀ c ∈ (collapseChars inRun cs).head?, isWhitespace c = false) := by
  induction cs generalizing inRun with
  | nil => simp [collapseChars, Collapsed]
  | cons c cs ih =>
      have hblank : isWhitespace ' ' = true := by decide
      unfold collapseChars
      split_ifs with hc hrun
      · exact ⟨(ih true).1, fun _ => (ih true).2 rfl⟩
      · refine ⟨⟨?_, List.isChain_cons.mpr ⟨?_, (ih true).1.2⟩⟩, fun h => absurd h hrun⟩
        · intro d hd hwd
          rcases List.mem_cons.mp hd with rfl | hd
          · rfl
          · exact (ih true).1.1 d hd hwd
        · intro d hd hboth
          rw [(ih true).2 rfl d hd] at hboth
          exact Bool.noConfusion hboth.2
      · refine ⟨⟨?_, List.isChain_cons.mpr ⟨?_, (ih false).1.2⟩⟩, ?_⟩
        · intro d hd hwd
          rcases List.mem_cons.mp hd with rfl | hd
          · exact absurd hwd hc
          · exact (ih false).1.1 d hd hwd
        · exact fun d _ hboth => hc hboth.1
        · intro _ d hd
          simp only [List.head?_cons, Option.mem_def, Option.some.injEq] at hd
          simpa [← hd] using hc

lemma collapseChars_of_collapsed {cs : List Char} {inRun : Bool} (h : Collapsed cs)
    (hhead : inRun = true → ∀ c ∈ cs.head?, isWhitespace c = false) :
    collapseChars inRun cs = cs := by
  induction cs generalizing inRun with
  | nil => rfl
  | cons c cs ih =>
      have hchain := List.isChain_cons.mp h.2
      have hrest : Collapsed cs := ⟨fun d hd => h.1 d (List.mem_cons_of_mem c hd), hchain.2⟩
      unfold collapseChars
      split_ifs with hc hrun
      · have := hhead hrun c (by simp)
        simp [hc] at this
      · rw [ih hrest fun _ d hd => ?_, h.1 c List.mem_cons_self hc]
        have := hchain.1 d hd
        simpa [hc] using this
      · rw [ih hrest (by simp)]

lemma Collapsed.of_part {cs ds : List Char} (h : Collapsed cs) (hds : ds <:+: cs) :
    Collapsed ds :=
  ⟨fun c hc => h.1 c (hds.subset hc), List.IsChain.infix h.2 hds⟩

lemma trimChars_part (cs : List Char) : trimChars cs <:+: cs := by
  have hfront : cs.dropWhile isWhitespace <:+ cs := List.dropWhile_suffix _
  have hback : trimChars cs <+: cs.dropWhile isWhitespace := by
    have hsuffix := List.dropWhile_suffix (l := (cs.dropWhile isWhitespace).reverse) isWhitespace
    simpa [trimChars] using List.reverse_prefix.mpr hsuffix
  exact hback.isInfix.trans hfront.isInfix

@[simp] theorem normalizeWhitespace_idem (s : String) :
    normalizeWhitespace (normalizeWhitespace s) = normalizeWhitespace s := by
  have hcollapsed : Collapsed (normalizeWhitespace s).toList := by
    have hchars := (collapsed_collapseChars s.toList false).1
    simpa [normalizeWhitespace, trim] using hchars.of_part (trimChars_part _)
  have hfix : collapseChars false (normalizeWhitespace s).toList = (normalizeWhitespace s).toList :=
    collapseChars_of_collapsed hcollapsed (by simp)
  rw [normalizeWhitespace, hfix, String.ofList_toList, normalizeWhitespace, trim_trim]

/-! ## Characters mapped before white space is collapsed -/

section MapChars

variable {f : Char → Char}

lemma collapseChars_map_collapse (hf : ∀ c, isWhitespace c = true → isWhitespace (f c) = true)
    (cs : List Char) : ∀ inRun within : Bool, (inRun = true → within = true) →
      collapseChars within ((collapseChars inRun cs).map f) = collapseChars within (cs.map f) := by
  have hblank : isWhitespace (f ' ') = true := hf ' ' (by decide)
  induction cs with
  | nil => simp [collapseChars]
  | cons c cs ih =>
      intro inRun within hrun
      by_cases hc : isWhitespace c = true
      · have hfc := hf c hc
        cases inRun with
        | true =>
            have hw : within = true := hrun rfl
            subst hw
            simpa [collapseChars, hc, hfc] using ih true true (fun h => h)
        | false =>
            have hrest := ih true true (fun h => h)
            cases within <;> simpa [collapseChars, hc, hfc, hblank] using hrest
      · have htrue := ih false true (by simp)
        have hfalse := ih false false (by simp)
        by_cases hfc : isWhitespace (f c) = true
        · cases within <;> simpa [collapseChars, hc, hfc] using htrue
        · simpa [collapseChars, hc, hfc] using hfalse

lemma dropWhile_collapseChars (cs : List Char) (inRun : Bool) :
    (collapseChars inRun cs).dropWhile isWhitespace =
      collapseChars false (cs.dropWhile isWhitespace) := by
  have hblank : isWhitespace ' ' = true := by decide
  induction cs generalizing inRun with
  | nil => rfl
  | cons c cs ih =>
      by_cases hc : isWhitespace c = true
      · cases inRun <;> simpa [collapseChars, hc, hblank] using ih true
      · simp [collapseChars, hc]

lemma collapseChars_concat (cs : List Char) (c : Char) (inRun : Bool) :
    ∃ tail : List Char, collapseChars inRun (cs ++ [c]) = collapseChars inRun cs ++ tail ∧
      (isWhitespace c = true → ∀ d ∈ tail, isWhitespace d = true) ∧
      (isWhitespace c = false → tail = [c]) := by
  have hblank : isWhitespace ' ' = true := by decide
  induction cs generalizing inRun with
  | nil =>
      by_cases hc : isWhitespace c = true
      · cases inRun <;> simp [collapseChars, hc, hblank]
      · simp [collapseChars, hc]
  | cons d ds ih =>
      by_cases hd : isWhitespace d = true
      · obtain ⟨tail, htail, hrest⟩ := ih true
        refine ⟨tail, ?_, hrest⟩
        cases inRun <;> simp [collapseChars, hd, htail]
      · obtain ⟨tail, htail, hrest⟩ := ih false
        exact ⟨tail, by simp [collapseChars, hd, htail], hrest⟩

lemma dropWhile_reverse_collapseChars (cs : List Char) (inRun : Bool) :
    ((collapseChars inRun cs).reverse.dropWhile isWhitespace).reverse =
      collapseChars inRun (cs.reverse.dropWhile isWhitespace).reverse := by
  induction cs using List.reverseRecOn with
  | nil => rfl
  | append_singleton cs c ih =>
      obtain ⟨tail, htail, hblank, hsame⟩ := collapseChars_concat cs c inRun
      by_cases hc : isWhitespace c = true
      · have hdrop : tail.reverse.dropWhile isWhitespace = [] :=
          List.dropWhile_eq_nil_iff.mpr fun d hd => hblank hc d (List.mem_reverse.mp hd)
        rw [htail, List.reverse_append, List.dropWhile_append, hdrop]
        simpa [hc] using ih
      · have hcf : isWhitespace c = false := by simpa using hc
        have htailc : tail = [c] := hsame hcf
        simp [htail, htailc, hcf]

/-- Collapsing and trimming may be done in either order. -/
lemma trimChars_collapseChars (cs : List Char) :
    trimChars (collapseChars false cs) = collapseChars false (trimChars cs) := by
  rw [trimChars, dropWhile_collapseChars, dropWhile_reverse_collapseChars, trimChars]

lemma dropWhile_reverse_comm {p : Char → Bool} (cs : List Char) :
    ((cs.reverse.dropWhile p).reverse).dropWhile p =
      ((cs.dropWhile p).reverse.dropWhile p).reverse := by
  induction cs with
  | nil => rfl
  | cons c cs ih =>
      rw [List.reverse_cons, List.dropWhile_append]
      by_cases hc : p c = true
      · by_cases hnil : cs.reverse.dropWhile p = []
        · simpa [hnil, hc] using ih
        · simpa [hnil, hc] using ih
      · by_cases hnil : cs.reverse.dropWhile p = []
        · simp [hnil, hc, List.dropWhile_append]
        · simp [hnil, hc, List.dropWhile_append]

lemma trimChars_map_trim (hf : ∀ c, isWhitespace c = true → isWhitespace (f c) = true)
    (cs : List Char) : trimChars ((trimChars cs).map f) = trimChars (cs.map f) := by
  have hfront : ∀ ds : List Char,
      ((ds.dropWhile isWhitespace).map f).dropWhile isWhitespace =
        (ds.map f).dropWhile isWhitespace := by
    intro ds
    induction ds with
    | nil => rfl
    | cons d ds ih =>
        by_cases hd : isWhitespace d = true
        · simpa [hd, hf d hd] using ih
        · simp [hd]
  have hback := hfront (cs.dropWhile isWhitespace).reverse
  have hinner : (trimChars cs).map f =
      (((cs.dropWhile isWhitespace).reverse.dropWhile isWhitespace).map f).reverse := by
    rw [trimChars, List.map_reverse]
  calc
    trimChars ((trimChars cs).map f)
        = ((((trimChars cs).map f).reverse.dropWhile isWhitespace).reverse).dropWhile
            isWhitespace := by rw [trimChars, dropWhile_reverse_comm]
    _ = ((((cs.dropWhile isWhitespace).map f).reverse.dropWhile isWhitespace).reverse).dropWhile
            isWhitespace := by
          rw [hinner, List.reverse_reverse, hback, List.map_reverse]
    _ = trimChars (cs.map f) := by rw [dropWhile_reverse_comm, hfront, trimChars]

/-- White space may be normalized before such a map as well as after it. -/
theorem normalizeWhitespace_map (hf : ∀ c, isWhitespace c = true → isWhitespace (f c) = true)
    (s : String) :
    normalizeWhitespace (String.ofList ((normalizeWhitespace s).toList.map f)) =
      normalizeWhitespace (String.ofList (s.toList.map f)) := by
  have hcollapse := collapseChars_map_collapse hf (trimChars s.toList) false false (by simp)
  simp only [normalizeWhitespace, trim, String.toList_ofList, trimChars_collapseChars]
  rw [← trimChars_collapseChars, hcollapse, trimChars_collapseChars, trimChars_map_trim hf]

end MapChars
/-- `text.slice(0, n)` on characters; the first half of a divided pair is left out. -/
def takeUnits : ℕ → List Char → List Char
  | _, [] => []
  | n, c :: cs =>
      if (charUnits c).length ≤ n then c :: takeUnits (n - (charUnits c).length) cs else []

/-- `text.slice(0, n)`. -/
def sliceUnits (n : ℕ) (s : String) : String :=
  String.ofList (takeUnits n s.toList)

end AgentBigBrain.Js
