import AgentBigBrain.Js.Json

/-!
# Digests

All that is used of `createHash("sha256")…digest("hex")` is that its values are
non-empty hexadecimal texts, and for tamper evidence that different texts have different
digests. `tabledDigest` shows that the two assumptions go together with any finite table
of known digests.
-/
namespace AgentBigBrain.Core

def isHexDigit (c : Char) : Bool :=
  c.isDigit || decide ('a' ≤ c ∧ c ≤ 'f')

structure Sha256 where
  digest : String → String
  nonempty : ∀ s, digest s ≠ ""
  hex : ∀ s, ∀ c ∈ (digest s).toList, isHexDigit c = true

lemma Sha256.digest_ne_of_char (sha : Sha256) {t : String} {c : Char} (hc : c ∈ t.toList)
    (hhex : isHexDigit c = false) (s : String) : sha.digest s ≠ t := by
  intro h
  have := sha.hex s c (h ▸ hc)
  rw [hhex] at this
  exact Bool.noConfusion this

lemma isWhitespace_of_isHexDigit {c : Char} (h : isHexDigit c = true) :
    Js.isWhitespace c = false := by
  have hrange : 48 ≤ c.toNat ∧ c.toNat ≤ 102 := by
    simp only [isHexDigit, Char.isDigit, Bool.or_eq_true, Bool.and_eq_true, decide_eq_true_eq,
      Char.le_def, UInt32.le_iff_toNat_le] at h
    have hnat : c.val.toNat = c.toNat := rfl
    rcases h with ⟨h1, h2⟩ | ⟨h1, h2⟩
    · exact ⟨by simpa [hnat] using h1, by
        have : c.toNat ≤ 57 := by simpa [hnat] using h2
        omega⟩
    · have h1' : 97 ≤ c.toNat := by simpa [hnat] using h1
      have h2' : c.toNat ≤ 102 := by simpa [hnat] using h2
      omega
  simp only [Js.isWhitespace, Bool.or_eq_false_iff, Bool.and_eq_false_iff, decide_eq_false_iff_not,
    beq_eq_false_iff_ne]
  omega

/-- A digest is never blank. -/
lemma Sha256.isPresent_digest (sha : Sha256) (s : String) :
    Js.isPresent (sha.digest s) = true := by
  have htrim : Js.trim (sha.digest s) = sha.digest s :=
    Js.trim_of_no_whitespace fun c hc => isWhitespace_of_isHexDigit (sha.hex s c hc)
  simp [Js.isPresent, htrim, sha.nonempty s]

/-! ## Digests with a known table -/

/-- Six hexadecimal digits for one character. -/
def hexCode (c : Char) : List Char :=
  [Js.Json.hexDigit (c.toNat / 1048576 % 16), Js.Json.hexDigit (c.toNat / 65536 % 16),
    Js.Json.hexDigit (c.toNat / 4096 % 16), Js.Json.hexDigit (c.toNat / 256 % 16),
    Js.Json.hexDigit (c.toNat / 16 % 16), Js.Json.hexDigit (c.toNat % 16)]

def hexText (s : String) : List Char :=
  s.toList.flatMap hexCode

/-- The digest of the table, and elsewhere a longer text that spells the input. -/
def tabledDigest (table : List (String × String)) (s : String) : String :=
  match table.lookup s with
  | some d => d
  | none => String.ofList (List.replicate 65 '0' ++ hexText s)

lemma isHexDigit_hexDigit : ∀ n < 16, isHexDigit (Js.Json.hexDigit n) = true := by
  decide

lemma hexText_hex (s : String) : ∀ c ∈ hexText s, isHexDigit c = true := by
  intro c hc
  obtain ⟨d, -, hcd⟩ := List.mem_flatMap.mp hc
  simp only [hexCode, List.mem_cons, List.not_mem_nil, or_false] at hcd
  rcases hcd with rfl | rfl | rfl | rfl | rfl | rfl <;>
    exact isHexDigit_hexDigit _ (Nat.mod_lt _ (by decide))

lemma hexCode_append_inj {c d : Char} {r s : List Char}
    (h : hexCode c ++ r = hexCode d ++ s) : c = d ∧ r = s := by
  simp only [hexCode, List.cons_append, List.nil_append, List.cons.injEq] at h
  obtain ⟨h1, h2, h3, h4, h5, h6, hrest⟩ := h
  have hdigit {m n : ℕ} (hmn : Js.Json.hexDigit (m % 16) = Js.Json.hexDigit (n % 16)) :
      m % 16 = n % 16 :=
    Js.Json.hexDigit_injective _ (Nat.mod_lt _ (by decide)) _ (Nat.mod_lt _ (by decide)) hmn
  have h1 := hdigit h1
  have h2 := hdigit h2
  have h3 := hdigit h3
  have h4 := hdigit h4
  have h5 := hdigit h5
  have h6 := hdigit h6
  have hrange (e : Char) : e.toNat < 1114112 := by
    have hvalid : e.toNat < 0xD800 ∨ 0xDFFF < e.toNat ∧ e.toNat < 0x110000 := e.valid
    omega
  have hc := hrange c
  have hd := hrange d
  exact ⟨Char.toNat_inj.mp (by omega), hrest⟩

lemma hexText_injective {s t : String} (h : hexText s = hexText t) : s = t := by
  have hlist : ∀ cs ds : List Char, cs.flatMap hexCode = ds.flatMap hexCode → cs = ds := by
    intro cs
    induction cs with
    | nil => intro ds hds; cases ds with
      | nil => rfl
      | cons d ds => simp [hexCode] at hds
    | cons c cs ih => intro ds hds; cases ds with
      | nil => simp [hexCode] at hds
      | cons d ds =>
          obtain ⟨rfl, hrest⟩ := hexCode_append_inj hds
          rw [ih ds hrest]
  exact String.toList_inj.mp (hlist _ _ h)

/-- The tables whose digests are hexadecimal, 64 characters long and all different. -/
def ValidTable (table : List (String × String)) : Prop :=
  (∀ m ∈ table, m.2.toList.length = 64 ∧ ∀ c ∈ m.2.toList, isHexDigit c = true) ∧
    (table.map Prod.snd).Nodup

/-- Decided character by character of the text, not over all characters. -/
instance (s : String) : Decidable (∀ c ∈ s.toList, isHexDigit c = true) :=
  List.decidableBAll _ _

instance (table : List (String × String)) : Decidable (ValidTable table) :=
  inferInstanceAs (Decidable (_ ∧ _))

lemma validTable_nil : ValidTable [] :=
  ⟨fun _ hm => absurd hm List.not_mem_nil, List.nodup_nil⟩

/-- One more digest, checked on the characters that its literal stands for. -/
lemma ValidTable.cons {table : List (String × String)} {text : String} {digits : List Char}
    (h : ValidTable table) (hdigits : digits.length = 64 ∧ digits.all isHexDigit = true)
    (hnew : String.ofList digits ∉ table.map Prod.snd) :
    ValidTable ((text, String.ofList digits) :: table) := by
  refine ⟨fun m hm => ?_, List.nodup_cons.mpr ⟨hnew, h.2⟩⟩
  rcases List.mem_cons.mp hm with rfl | hm
  · rw [String.toList_ofList]
    exact ⟨hdigits.1, List.all_eq_true.mp hdigits.2⟩
  · exact h.1 m hm

theorem tabledDigest_injective {table : List (String × String)} (htable : ValidTable table) :
    Function.Injective (tabledDigest table) := by
  intro s t h
  unfold tabledDigest at h
  cases hs : table.lookup s with
  | some d =>
      cases ht : table.lookup t with
      | some e =>
          simp only [hs, ht] at h
          have hsame := List.inj_on_of_nodup_map htable.2 (Js.mem_of_lookup hs) (Js.mem_of_lookup ht) h
          exact (Prod.mk.inj hsame).1
      | none =>
          have hlen := (htable.1 _ (Js.mem_of_lookup hs)).1
          simp only [hs, ht] at h
          simp [h] at hlen
  | none =>
      cases ht : table.lookup t with
      | some e =>
          have hlen := (htable.1 _ (Js.mem_of_lookup ht)).1
          simp only [hs, ht] at h
          simp [← h] at hlen
      | none =>
          simp only [hs, ht] at h
          exact hexText_injective (List.append_cancel_left (String.ofList_inj.mp h))

/-- A digest function with the given values. -/
def Sha256.ofTable (table : List (String × String)) (htable : ValidTable table) : Sha256 where
  digest := tabledDigest table
  nonempty s := by
    unfold tabledDigest
    cases hs : table.lookup s with
    | some d =>
        have hlen := (htable.1 _ (Js.mem_of_lookup hs)).1
        rintro rfl
        simp at hlen
    | none => simp
  hex s c hc := by
    unfold tabledDigest at hc
    cases hs : table.lookup s with
    | some d =>
        simp only [hs] at hc
        exact (htable.1 _ (Js.mem_of_lookup hs)).2 c hc
    | none =>
        simp only [hs, String.toList_ofList, List.mem_append, List.mem_replicate] at hc
        rcases hc with ⟨-, rfl⟩ | hc
        · decide
        · exact hexText_hex s c hc

end AgentBigBrain.Core
