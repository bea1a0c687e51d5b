import Mathlib.Tactic
import Mathlib.Data.List.Infix

/-!
# Occurrences of an ended word

A word whose last letter stands nowhere else in it cannot overlap another word that ends in the
same letter. Its first and its last place in a text are therefore those one reads off the way the
text was put together. Places are offsets: each letter has a weight, and the offset of a place is
the weight of what stands before it.
-/
namespace AgentBigBrain.Lib

variable {α : Type*}

/-- The mark is the last letter of the word and none of its other letters. -/
def EndsIn (mark : α) (word : List α) : Prop :=
  ∃ stem, word = stem ++ [mark] ∧ mark ∉ stem

/-! ## Overlaps -/

lemma EndsIn.ne_nil {mark : α} {word : List α} (h : EndsIn mark word) : word ≠ [] := by
  obtain ⟨stem, rfl, -⟩ := h
  simp

/-- A part at the end of an ended word is an ended word. -/
lemma EndsIn.of_suffix {mark : α} {word front part : List α} (h : EndsIn mark word)
    (hsplit : word = front ++ part) (hpart : part ≠ []) : EndsIn mark part := by
  obtain ⟨stem, hword, hstem⟩ := h
  rcases List.eq_nil_or_concat part with hnil | ⟨init, last, rfl⟩
  · exact absurd hnil hpart
  · have heq : stem ++ [mark] = (front ++ init) ++ [last] := by
      rw [← hword, hsplit, List.append_assoc]
      simp
    obtain ⟨hinit, hlast⟩ := List.append_inj' heq rfl
    refine ⟨init, by simpa using hlast.symm, fun hmem => hstem ?_⟩
    rw [hinit]
    exact List.mem_append_right _ hmem

/-- Ended words that begin the same text are equal. -/
lemma EndsIn.eq_of_begins {mark : α} {word other rest : List α} (h : EndsIn mark word)
    (hother : EndsIn mark other) (hleads : word <+: other ++ rest) : word = other := by
  obtain ⟨stem, rfl, hstem⟩ := h
  obtain ⟨otherStem, rfl, hotherStem⟩ := hother
  obtain ⟨tail, htail⟩ := hleads
  have heq : stem ++ mark :: tail = otherStem ++ mark :: rest := by simpa using htail
  rcases List.append_eq_append_iff.mp heq with ⟨mid, hmid, hrest⟩ | ⟨mid, hmid, hrest⟩
  · cases mid with
    | nil => rw [hmid, List.append_nil]
    | cons c mid =>
        obtain ⟨hc, -⟩ := List.cons_eq_cons.mp (by simpa using hrest)
        exact absurd (by rw [hmid, ← hc]; simp) hotherStem
  · cases mid with
    | nil => rw [hmid, List.append_nil]
    | cons c mid =>
        obtain ⟨hc, -⟩ := List.cons_eq_cons.mp (by simpa using hrest)
        exact absurd (by rw [hmid, ← hc]; simp) hstem

/-- A word that begins in front of another ended word lies in front of it or ends with it. -/
lemma EndsIn.prefix_cases {mark : α} {word other front rest : List α} (h : EndsIn mark word)
    (hother : EndsIn mark other) (hleads : word <+: front ++ (other ++ rest)) :
    word <+: front ∨ word = front ++ other := by
  rcases List.prefix_or_prefix_of_prefix hleads (List.prefix_append front _) with hin | hbegins
  · exact .inl hin
  · obtain ⟨part, hword⟩ := hbegins
    by_cases hnil : part = []
    · left
      rw [← hword, hnil, List.append_nil]
    · right
      have hpart : part <+: other ++ rest := by
        rw [← hword] at hleads
        exact (List.prefix_append_right_inj front).mp hleads
      rw [← hword, (h.of_suffix hword.symm hnil).eq_of_begins hother hpart]

/-- A word in a text that closes with another ended word lies in front of it or in it. -/
lemma EndsIn.infix_append {mark : α} {word other front : List α} (h : EndsIn mark word)
    (hother : EndsIn mark other) (hends : other <:+ word → word = other)
    (hwithin : word <:+: front ++ other) : word <:+: front ∨ word <:+: other := by
  induction front with
  | nil => exact .inr hwithin
  | cons c front ih =>
      rcases List.infix_cons_iff.mp hwithin with hleads | hwithin
      · have hclosed : word <+: (c :: front) ++ (other ++ []) := by simpa using hleads
        rcases h.prefix_cases hother hclosed with hin | hword
        · exact .inl hin.isInfix
        · exact .inr (hends ⟨c :: front, hword.symm⟩ ▸ List.infix_refl _)
      · exact (ih hwithin).imp (fun hin => hin.trans (List.suffix_cons c front).isInfix) id

/-- What is left of an ended word after its begin does not begin the word again. -/
lemma EndsIn.not_prefix_tail {mark : α} {word front part rest : List α} (h : EndsIn mark word)
    (hsplit : word = front ++ part) (hfront : front ≠ []) (hpart : part ≠ []) :
    ¬ word <+: part ++ rest := by
  intro hleads
  have hsame : word = part := h.eq_of_begins (h.of_suffix hsplit hpart) hleads
  have hlength : word.length = front.length + part.length := by rw [hsplit, List.length_append]
  have hpos : 0 < front.length := List.length_pos_of_ne_nil hfront
  rw [← hsame] at hlength
  omega

/-! ## Offsets -/

variable (weight : α → ℕ)

/-- The weight of a text, the offset of its end. -/
def size (text : List α) : ℕ := (text.map weight).sum

@[simp] lemma size_nil : size weight ([] : List α) = 0 := rfl

@[simp] lemma size_cons (c : α) (text : List α) :
    size weight (c :: text) = weight c + size weight text := by
  simp [size]

@[simp] lemma size_append (front text : List α) :
    size weight (front ++ text) = size weight front + size weight text := by
  simp [size]

variable [DecidableEq α]

/-- The offset of the first place where the word stands in the text. -/
def firstOffset (word : List α) : List α → Option ℕ
  | [] => if word = [] then some 0 else none
  | c :: text =>
      if word <+: c :: text then some 0 else (firstOffset word text).map (weight c + ·)

/-- The offset of the last place where the word stands in the text. -/
def lastOffset (word : List α) : List α → Option ℕ
  | [] => if word = [] then some 0 else none
  | c :: text =>
      match lastOffset word text with
      | some offset => some (weight c + offset)
      | none => if word <+: c :: text then some 0 else none

variable {weight}

lemma firstOffset_of_begins {word text : List α} (h : word <+: text) :
    firstOffset weight word text = some 0 := by
  cases text with
  | nil => simp [firstOffset, List.prefix_nil.mp h]
  | cons c text => rw [firstOffset, if_pos h]

/-- Where the word begins nowhere in the front, its first place is searched for behind. -/
lemma firstOffset_append {word front text : List α}
    (h : ∀ part, part ≠ [] → part <:+ front → ¬ word <+: part ++ text) :
    firstOffset weight word (front ++ text) =
      (firstOffset weight word text).map (size weight front + ·) := by
  induction front with
  | nil => simp
  | cons c front ih =>
      have hhere : ¬ word <+: c :: (front ++ text) :=
        h (c :: front) (by simp) (List.suffix_refl _)
      have hrest := ih fun part hpart hsuffix =>
        h part hpart (hsuffix.trans (List.suffix_cons c front))
      rw [List.cons_append, firstOffset, if_neg hhere, hrest, Option.map_map]
      congr 1
      funext offset
      simp only [Function.comp_apply, size_cons]
      omega

omit [DecidableEq α] in
/-- No place of a word before the ended word that follows a front without the word. -/
lemma EndsIn.not_begins {mark : α} {word other front rest : List α} (h : EndsIn mark word)
    (hother : EndsIn mark other) (hends : other <:+ word → word = other)
    (hfront : ¬ word <:+: front) (part : List α) (hpart : part ≠ []) (hsuffix : part <:+ front) :
    ¬ word <+: part ++ (other ++ rest) := by
  intro hleads
  rcases h.prefix_cases hother hleads with hin | hword
  · exact hfront (hin.isInfix.trans hsuffix.isInfix)
  · have hsame : word = other := hends ⟨part, hword.symm⟩
    rw [hsame] at hword
    exact hpart (List.append_left_eq_self.mp hword.symm)

/-- The first place of the ended word that follows a front without it. -/
lemma EndsIn.firstOffset_self {mark : α} {word front rest : List α} (h : EndsIn mark word)
    (hfront : ¬ word <:+: front) :
    firstOffset weight word (front ++ (word ++ rest)) = some (size weight front) := by
  rw [firstOffset_append (h.not_begins h (fun _ => rfl) hfront),
    firstOffset_of_begins (List.prefix_append word rest)]
  rfl

/-- Another ended word has its first place not in the front. -/
lemma EndsIn.le_firstOffset {mark : α} {word other front rest : List α} (h : EndsIn mark word)
    (hother : EndsIn mark other) (hends : other <:+ word → word = other)
    (hfront : ¬ word <:+: front) :
    ∀ offset ∈ firstOffset weight word (front ++ (other ++ rest)), size weight front ≤ offset := by
  intro offset hoffset
  rw [firstOffset_append (h.not_begins hother hends hfront), Option.mem_def,
    Option.map_eq_some_iff] at hoffset
  obtain ⟨behind, -, rfl⟩ := hoffset
  omega

lemma lastOffset_eq_none {word text : List α} (h : ¬ word <:+: text) :
    lastOffset weight word text = none := by
  induction text with
  | nil =>
      have hne : word ≠ [] := fun hnil => h (hnil ▸ List.nil_infix)
      simp [lastOffset, hne]
  | cons c text ih =>
      have hrest : ¬ word <:+: text := fun hin => h (hin.trans (List.suffix_cons c text).isInfix)
      have hhere : ¬ word <+: c :: text := fun hleads => h hleads.isInfix
      simp [lastOffset, ih hrest, hhere]

/-- The last place of an ended word that does not stand behind it. -/
lemma EndsIn.lastOffset_self {mark : α} {word rest : List α} (h : EndsIn mark word)
    (hrest : ¬ word <:+: rest) : lastOffset weight word (word ++ rest) = some 0 := by
  have htail : ∀ part front, word = front ++ part → front ≠ [] →
      lastOffset weight word (part ++ rest) = none := by
    intro part
    induction part with
    | nil => exact fun _ _ _ => lastOffset_eq_none hrest
    | cons c part ih =>
        intro front hsplit hfront
        have hnone := ih (front ++ [c]) (by simpa using hsplit) (by simp)
        have hhere : ¬ word <+: c :: (part ++ rest) :=
          h.not_prefix_tail hsplit hfront (by simp)
        simp [lastOffset, hnone, hhere]
  cases word with
  | nil => exact absurd rfl h.ne_nil
  | cons c part =>
      have hnone := htail part [c] rfl (by simp)
      have hhere : c :: part <+: c :: (part ++ rest) := ⟨rest, rfl⟩
      simp [lastOffset, hnone]

/-- A place found behind a front is the place of the whole text. -/
lemma lastOffset_append {word front text : List α} {offset : ℕ}
    (h : lastOffset weight word text = some offset) :
    lastOffset weight word (front ++ text) = some (size weight front + offset) := by
  induction front with
  | nil => simp [h]
  | cons c front ih =>
      simp only [List.cons_append, lastOffset, ih, size_cons, Option.some.injEq]
      omega

end AgentBigBrain.Lib
