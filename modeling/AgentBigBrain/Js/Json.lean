import AgentBigBrain.Js.Text

/-!
# JSON values and their text

`stringify` is the host's `JSON.stringify` without indentation. The member list of
an object is in property order, so the text depends on that order. The main result
is `stringify_injective`: the text determines the value. It holds because the text
of a value can be recognised at the front of a longer text, as long as a number is
not continued by another number character.
-/
namespace AgentBigBrain.Js

/-- The characters that occur in the decimal text of a number. -/
def isNumberChar (c : Char) : Bool :=
  c.isDigit || c == '-' || c == '+' || c == '.' || c == 'e'

/-- A finite number, known by its shortest decimal text. -/
structure NumberText where
  text : List Char
  nonempty : text ≠ []
  numeric : ∀ c ∈ text, isNumberChar c = true

lemma mem_of_lookup {α : Type*} {table : List (String × α)} {s : String} {d : α}
    (h : table.lookup s = some d) : (s, d) ∈ table := by
  induction table with
  | nil => simp at h
  | cons m table ih =>
      obtain ⟨k, e⟩ := m
      by_cases hk : s = k
      · simp only [hk, List.lookup_cons, beq_self_eq_true, Option.some.injEq] at h
        simp [hk, h]
      · have hbeq : (s == k) = false := by simpa using hk
        simp only [List.lookup_cons, hbeq] at h
        exact List.mem_cons_of_mem _ (ih h)

inductive Json where
  | null
  | bool (value : Bool)
  | num (value : NumberText)
  | str (value : String)
  | arr (elems : List Json)
  | obj (members : List (String × Json))

namespace Json

/-- Induction over a value, with one predicate for its elements and one for its members. -/
@[elab_as_elim]
theorem nested {P : Json → Prop} {Q : List Json → Prop} {R : List (String × Json) → Prop}
    (null : P .null) (bool : ∀ b, P (.bool b)) (num : ∀ n, P (.num n)) (str : ∀ s, P (.str s))
    (arr : ∀ elems, Q elems → P (.arr elems)) (obj : ∀ members, R members → P (.obj members))
    (elems_nil : Q []) (elems_cons : ∀ x xs, P x → Q xs → Q (x :: xs))
    (members_nil : R []) (members_cons : ∀ k x ms, P x → R ms → R ((k, x) :: ms))
    (x : Json) : P x :=
  Json.rec (motive_1 := P) (motive_2 := Q) (motive_3 := R) (motive_4 := fun m => P m.2)
    null bool num str arr obj elems_nil elems_cons members_nil
    (fun m ms => members_cons m.1 m.2 ms) (fun _ _ h => h) x

/-! ## Text -/

/-- The two-character escapes; `none` for the characters without one. -/
def shortEscape (c : Char) : Option Char :=
  if c = '"' then some '"'
  else if c = '\\' then some '\\'
  else if c.toNat = 0x08 then some 'b'
  else if c.toNat = 0x09 then some 't'
  else if c.toNat = 0x0A then some 'n'
  else if c.toNat = 0x0C then some 'f'
  else if c.toNat = 0x0D then some 'r'
  else none

def hexDigit (n : ℕ) : Char :=
  if n < 10 then Char.ofNat (48 + n) else Char.ofNat (87 + n)

def escapeChar (c : Char) : List Char :=
  match shortEscape c with
  | some e => ['\\', e]
  | none =>
      if c.toNat < 0x20 then
        ['\\', 'u', '0', '0', hexDigit (c.toNat / 16), hexDigit (c.toNat % 16)]
      else
        [c]

/-- A quoted string, without its opening quote. -/
def renderString (cs : List Char) : List Char :=
  cs.flatMap escapeChar ++ ['"']

mutual

def render : Json → List Char
  | .null => ['n', 'u', 'l', 'l']
  | .bool true => ['t', 'r', 'u', 'e']
  | .bool false => ['f', 'a', 'l', 's', 'e']
  | .num n => n.text
  | .str s => '"' :: renderString s.toList
  | .arr elems => '[' :: renderElems [] elems
  | .obj members => '{' :: renderMembers [] members

/-- The elements that remain and the closing bracket; `sep` goes before the next one. -/
def renderElems (sep : List Char) : List Json → List Char
  | [] => [']']
  | x :: xs => sep ++ (render x ++ renderElems [','] xs)

def renderMembers (sep : List Char) : List (String × Json) → List Char
  | [] => ['}']
  | (k, x) :: ms =>
      sep ++ '"' :: (renderString k.toList ++ ':' :: (render x ++ renderMembers [','] ms))

end

/-- `JSON.stringify(value)`. -/
def stringify (x : Json) : String :=
  String.ofList (render x)

/-! ## Strings are uniquely decodable -/

lemma shortEscape_ne_u {c e : Char} (h : shortEscape c = some e) : e ≠ 'u' := by
  unfold shortEscape at h
  split_ifs at h <;> simp only [Option.some.injEq] at h <;> rw [← h] <;> decide

lemma shortEscape_injective {c d e : Char} (hc : shortEscape c = some e)
    (hd : shortEscape d = some e) : c = d := by
  unfold shortEscape at hc hd
  split_ifs at hc <;> simp only [Option.some.injEq] at hc <;> subst hc <;>
    split_ifs at hd <;> simp_all <;> exact Char.toNat_inj.mp (by omega)

lemma shortEscape_none {c : Char} (h : shortEscape c = none) : c ≠ '"' ∧ c ≠ '\\' := by
  unfold shortEscape at h
  split_ifs at h with h1 h2
  exact ⟨h1, h2⟩

lemma hexDigit_injective : ∀ m < 16, ∀ n < 16, hexDigit m = hexDigit n → m = n := by
  decide

/-- The three shapes of an escape. -/
lemma escapeChar_cases (c : Char) :
    (∃ e, shortEscape c = some e ∧ escapeChar c = ['\\', e]) ∨
    (c.toNat < 0x20 ∧ escapeChar c =
      ['\\', 'u', '0', '0', hexDigit (c.toNat / 16), hexDigit (c.toNat % 16)]) ∨
    (c ≠ '"' ∧ c ≠ '\\' ∧ escapeChar c = [c]) := by
  unfold escapeChar
  cases hc : shortEscape c with
  | some e => exact Or.inl ⟨e, rfl, rfl⟩
  | none =>
      by_cases hlt : c.toNat < 0x20
      · exact Or.inr (Or.inl ⟨hlt, by simp only [if_pos hlt]⟩)
      · obtain ⟨hquote, hback⟩ := shortEscape_none hc
        exact Or.inr (Or.inr ⟨hquote, hback, by simp only [if_neg hlt]⟩)

/-- No escape is a proper prefix of another one. -/
lemma escapeChar_append_inj {c d : Char} {r s : List Char}
    (h : escapeChar c ++ r = escapeChar d ++ s) : c = d ∧ r = s := by
  rcases escapeChar_cases c with ⟨e, hc, hce⟩ | ⟨hc, hce⟩ | ⟨-, hc, hce⟩ <;>
    rcases escapeChar_cases d with ⟨f, hd, hde⟩ | ⟨hd, hde⟩ | ⟨-, hd, hde⟩ <;>
    simp only [hce, hde, List.cons_append, List.nil_append, List.cons.injEq, true_and] at h
  · obtain ⟨rfl, rfl⟩ := h
    exact ⟨shortEscape_injective hc hd, rfl⟩
  · exact absurd h.1 (shortEscape_ne_u hc)
  · exact absurd h.1.symm hd
  · exact absurd h.1.symm (shortEscape_ne_u hd)
  · obtain ⟨hhi, hlo, rfl⟩ := h
    have hdiv := hexDigit_injective _ (by omega) _ (by omega) hhi
    have hmod := hexDigit_injective _ (by omega) _ (by omega) hlo
    exact ⟨Char.toNat_inj.mp (by omega), rfl⟩
  · exact absurd h.1.symm hd
  · exact absurd h.1 hc
  · exact absurd h.1 hc
  · exact h

lemma quote_ne_escapeChar_append (c : Char) (r s : List Char) :
    '"' :: r ≠ escapeChar c ++ s := by
  intro h
  rcases escapeChar_cases c with ⟨e, -, hc⟩ | ⟨-, hc⟩ | ⟨hc', -, hc⟩ <;>
    simp only [hc, List.cons_append, List.nil_append, List.cons.injEq, Char.reduceEq,
      false_and] at h
  exact hc' h.1.symm

lemma renderString_append_inj {cs ds r s : List Char}
    (h : renderString cs ++ r = renderString ds ++ s) : cs = ds ∧ r = s := by
  induction cs generalizing ds with
  | nil =>
      cases ds with
      | nil => simpa [renderString] using h
      | cons d ds =>
          simp only [renderString, List.flatMap_nil, List.nil_append, List.cons_append,
            List.flatMap_cons, List.append_assoc] at h
          exact absurd h (quote_ne_escapeChar_append _ _ _)
  | cons c cs ih =>
      cases ds with
      | nil =>
          simp only [renderString, List.flatMap_nil, List.nil_append, List.cons_append,
            List.flatMap_cons, List.append_assoc] at h
          exact absurd h.symm (quote_ne_escapeChar_append _ _ _)
      | cons d ds =>
          simp only [renderString, List.flatMap_cons, List.append_assoc] at h
          obtain ⟨rfl, hrest⟩ := escapeChar_append_inj h
          obtain ⟨rfl, rfl⟩ := @ih ds (by simpa [renderString] using hrest)
          exact ⟨rfl, rfl⟩

/-! ## Values are uniquely decodable -/

/-- The text after a value does not continue a number. -/
def Delimited (r : List Char) : Prop :=
  ∀ c ∈ r.head?, isNumberChar c = false

@[simp] lemma delimited_nil : Delimited [] := by
  simp [Delimited]

lemma delimited_cons {c : Char} {r : List Char} (h : isNumberChar c = false) :
    Delimited (c :: r) := by
  simpa [Delimited] using h

lemma renderElems_delimited (xs : List Json) (r : List Char) :
    Delimited (renderElems [','] xs ++ r) := by
  cases xs with
  | nil => exact delimited_cons (by decide)
  | cons x xs => exact delimited_cons (by decide)

lemma renderMembers_delimited (ms : List (String × Json)) (r : List Char) :
    Delimited (renderMembers [','] ms ++ r) := by
  cases ms with
  | nil => exact delimited_cons (by decide)
  | cons m ms => exact delimited_cons (by decide)

lemma number_append_inj {m n r s : List Char} (hm : ∀ c ∈ m, isNumberChar c = true)
    (hn : ∀ c ∈ n, isNumberChar c = true) (hr : Delimited r) (hs : Delimited s)
    (h : m ++ r = n ++ s) : m = n ∧ r = s := by
  induction m generalizing n with
  | nil =>
      cases n with
      | nil => exact ⟨rfl, h⟩
      | cons d n =>
          have hd := hn d (by simp)
          have := hr d (by rw [List.nil_append] at h; simp [h])
          simp [hd] at this
  | cons c m ih =>
      cases n with
      | nil =>
          have hc := hm c (by simp)
          have := hs c (by rw [List.nil_append] at h; simp [← h])
          simp [hc] at this
      | cons d n =>
          simp only [List.cons_append, List.cons.injEq] at h
          obtain ⟨rfl, hrest⟩ := ih (fun c hc => hm c (by simp [hc]))
            (fun c hc => hn c (by simp [hc])) h.2
          exact ⟨by rw [h.1], hrest⟩

/-- What the first character of the text says about a value. -/
def kindChar : Json → Char
  | .null => 'n'
  | .bool true => 't'
  | .bool false => 'f'
  | .num _ => '0'
  | .str _ => '"'
  | .arr _ => '['
  | .obj _ => '{'

/-- All numbers share one kind. -/
def charKind (c : Char) : Char :=
  if isNumberChar c then '0' else c

lemma render_kind (x : Json) (r : List Char) :
    (render x ++ r).head?.map charKind = some (kindChar x) := by
  cases x with
  | bool b => cases b <;> rfl
  | num n =>
      obtain ⟨text, hne, hnum⟩ := n
      cases text with
      | nil => exact absurd rfl hne
      | cons c cs => simp [render, kindChar, charKind, hnum c (by simp)]
  | _ => rfl

lemma kindChar_eq {x y : Json} {r s : List Char} (h : render x ++ r = render y ++ s) :
    kindChar x = kindChar y := by
  have hx := render_kind x r
  rw [h, render_kind y s] at hx
  exact (Option.some.inj hx).symm

lemma close_ne_renderElems {sep : List Char} (hsep : sep = [] ∨ sep = [',']) (x : Json)
    (xs : List Json) (r s : List Char) :
    renderElems sep [] ++ r ≠ renderElems sep (x :: xs) ++ s := by
  intro h
  rcases hsep with rfl | rfl
  · have hkind := render_kind x (renderElems [','] xs ++ s)
    simp only [renderElems, List.nil_append, List.cons_append, List.append_assoc] at h
    rw [← h] at hkind
    cases x with
    | bool b => cases b <;> simp [charKind, kindChar, isNumberChar] at hkind
    | _ => simp [charKind, kindChar, isNumberChar] at hkind
  · simp [renderElems] at h

lemma close_ne_renderMembers {sep : List Char} (hsep : sep = [] ∨ sep = [','])
    (m : String × Json) (ms : List (String × Json)) (r s : List Char) :
    renderMembers sep [] ++ r ≠ renderMembers sep (m :: ms) ++ s := by
  rcases hsep with rfl | rfl <;> simp [renderMembers]

/-- The text of a value at the front of a longer text determines the value and the rest. -/
theorem render_append_inj (x : Json) : ∀ (y : Json) (r s : List Char), Delimited r →
    Delimited s → render x ++ r = render y ++ s → x = y ∧ r = s := by
  induction x using nested
    (Q := fun xs => ∀ (ys : List Json) (sep r s : List Char), sep = [] ∨ sep = [','] →
      renderElems sep xs ++ r = renderElems sep ys ++ s → xs = ys ∧ r = s)
    (R := fun ms => ∀ (ns : List (String × Json)) (sep r s : List Char),
      sep = [] ∨ sep = [','] → renderMembers sep ms ++ r = renderMembers sep ns ++ s →
        ms = ns ∧ r = s) with
  | null =>
      intro y r s _ _ h
      cases y with
      | null => simpa [render] using h
      | bool b => cases b <;> exact absurd (kindChar_eq h) (by decide)
      | _ => exact absurd (kindChar_eq h) (by simp [kindChar])
  | bool b =>
      intro y r s _ _ h
      have hkind := kindChar_eq h
      cases y with
      | bool b' => cases b <;> cases b' <;> simp_all [render, kindChar]
      | _ => cases b <;> simp [kindChar] at hkind
  | num n =>
      intro y r s hr hs h
      have hkind := kindChar_eq h
      cases y with
      | num n' =>
          obtain ⟨htext, hrest⟩ := number_append_inj n.numeric n'.numeric hr hs h
          cases n
          cases n'
          simp_all
      | bool b => cases b <;> simp [kindChar] at hkind
      | _ => simp [kindChar] at hkind
  | str t =>
      intro y r s _ _ h
      have hkind := kindChar_eq h
      cases y with
      | str t' =>
          simp only [render, List.cons_append, List.cons.injEq, true_and] at h
          obtain ⟨htext, hrest⟩ := renderString_append_inj h
          exact ⟨by rw [String.toList_inj.mp htext], hrest⟩
      | bool b => cases b <;> simp [kindChar] at hkind
      | _ => simp [kindChar] at hkind
  | arr elems ih =>
      intro y r s _ _ h
      have hkind := kindChar_eq h
      cases y with
      | arr elems' =>
          simp only [render, List.cons_append, List.cons.injEq, true_and] at h
          obtain ⟨rfl, hrest⟩ := ih elems' [] r s (Or.inl rfl) h
          exact ⟨rfl, hrest⟩
      | bool b => cases b <;> simp [kindChar] at hkind
      | _ => simp [kindChar] at hkind
  | obj members ih =>
      intro y r s _ _ h
      have hkind := kindChar_eq h
      cases y with
      | obj members' =>
          simp only [render, List.cons_append, List.cons.injEq, true_and] at h
          obtain ⟨rfl, hrest⟩ := ih members' [] r s (Or.inl rfl) h
          exact ⟨rfl, hrest⟩
      | bool b => cases b <;> simp [kindChar] at hkind
      | _ => simp [kindChar] at hkind
  | elems_nil ys sep r s hsep h =>
      cases ys with
      | nil => simpa [renderElems] using h
      | cons y ys => exact absurd h (close_ne_renderElems hsep y ys r s)
  | elems_cons x xs ihx ihxs ys sep r s hsep h =>
      cases ys with
      | nil => exact absurd h.symm (close_ne_renderElems hsep x xs s r)
      | cons y ys =>
          simp only [renderElems, List.append_assoc, List.append_cancel_left_eq] at h
          obtain ⟨rfl, hrest⟩ := ihx y _ _ (renderElems_delimited xs r)
            (renderElems_delimited ys s) h
          obtain ⟨rfl, rfl⟩ := ihxs ys [','] r s (Or.inr rfl) hrest
          exact ⟨rfl, rfl⟩
  | members_nil ns sep r s hsep h =>
      cases ns with
      | nil => simpa [renderMembers] using h
      | cons n ns => exact absurd h (close_ne_renderMembers hsep n ns r s)
  | members_cons k x ms ihx ihms ns sep r s hsep h =>
      cases ns with
      | nil => exact absurd h.symm (close_ne_renderMembers hsep (k, x) ms s r)
      | cons n ns =>
          obtain ⟨l, y⟩ := n
          simp only [renderMembers, List.append_assoc, List.cons_append,
            List.append_cancel_left_eq, List.cons.injEq, true_and] at h
          obtain ⟨hkey, h⟩ := renderString_append_inj h
          simp only [List.cons.injEq, true_and] at h
          obtain ⟨rfl, hrest⟩ := ihx y _ _ (renderMembers_delimited ms r)
            (renderMembers_delimited ns s) h
          obtain ⟨rfl, rfl⟩ := ihms ns [','] r s (Or.inr rfl) hrest
          exact ⟨by rw [String.toList_inj.mp hkey], rfl⟩

/-- The text of a value determines the value. -/
theorem stringify_injective {x y : Json} (h : stringify x = stringify y) : x = y := by
  have htext : render x = render y := String.ofList_inj.mp h
  exact (render_append_inj x y [] [] delimited_nil delimited_nil (by simp [htext])).1

instance : DecidableEq Json := fun x y =>
  decidable_of_iff (render x = render y)
    ⟨fun h => stringify_injective (by rw [stringify, h, stringify]), fun h => by rw [h]⟩

end Json

end AgentBigBrain.Js
