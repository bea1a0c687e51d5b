import Mathlib.Data.List.Nodup
import Mathlib.Data.List.Infix
import Mathlib.Tactic

/-!
# Hash-linked logs

A record carries the digest stored by the record before it and a digest of its own
content. A log is linked from a genesis value when every record names the digest
stored just before it and stores the digest of its own content. Nothing is assumed
about digests except, for tamper evidence, that a digest determines the prior digest
it was computed with and that no digest is the genesis value.
-/
namespace AgentBigBrain.HashChain

/-- How the records of a log are read: the digest they extend, the digest they store,
and the digest recomputed from their content. -/
structure ChainView (R D : Type*) where
  prior : R → D
  stored : R → D
  sealOf : R → D

variable {R D : Type*} (v : ChainView R D)

/-- The digest the next record has to extend. -/
def lastHash (genesis : D) : List R → D
  | [] => genesis
  | r :: rs => lastHash (v.stored r) rs

def Linked (genesis : D) : List R → Prop
  | [] => True
  | r :: rs => v.prior r = genesis ∧ v.stored r = v.sealOf r ∧ Linked (v.stored r) rs

/-- The verification loop: the indices of the records that do not fit. -/
def mismatchesFrom [DecidableEq D] (index : ℕ) (expected : D) : List R → List ℕ
  | [] => []
  | r :: rs =>
      if v.prior r ≠ expected ∨ v.stored r ≠ v.sealOf r then
        index :: mismatchesFrom (index + 1) (v.stored r) rs
      else
        mismatchesFrom (index + 1) (v.stored r) rs

theorem mismatchesFrom_eq_nil_iff [DecidableEq D] (index : ℕ) (expected : D) (rs : List R) :
    mismatchesFrom v index expected rs = [] ↔ Linked v expected rs := by
  induction rs generalizing index expected with
  | nil => simp [mismatchesFrom, Linked]
  | cons r rs ih =>
      by_cases h : v.prior r ≠ expected ∨ v.stored r ≠ v.sealOf r
      · simp only [mismatchesFrom, if_pos h, reduceCtorEq, Linked, false_iff, not_and]
        rcases h with h | h
        · exact fun hp => absurd hp h
        · exact fun _ hs => absurd hs h
      · simp only [mismatchesFrom, if_neg h, ih, Linked]
        push Not at h
        exact ⟨fun hl => ⟨h.1, h.2, hl⟩, fun hl => hl.2.2⟩

/-- Read the records of another type through `f`. -/
def ChainView.comap {S : Type*} (f : S → R) : ChainView S D where
  prior s := v.prior (f s)
  stored s := v.stored (f s)
  sealOf s := v.sealOf (f s)

lemma linked_comap {S : Type*} (f : S → R) (genesis : D) (ss : List S) :
    Linked (v.comap f) genesis ss ↔ Linked v genesis (ss.map f) := by
  induction ss generalizing genesis with
  | nil => rfl
  | cons s ss ih =>
      simp only [Linked, List.map_cons, ih]
      rfl

/-! ## Concatenation -/

@[simp] lemma lastHash_append (genesis : D) (a b : List R) :
    lastHash v genesis (a ++ b) = lastHash v (lastHash v genesis a) b := by
  induction a generalizing genesis with
  | nil => rfl
  | cons r a ih => exact ih (v.stored r)

lemma lastHash_mem (genesis : D) (rs : List R) :
    lastHash v genesis rs ∈ genesis :: rs.map v.stored := by
  induction rs generalizing genesis with
  | nil => simp [lastHash]
  | cons r rs ih => exact List.mem_cons_of_mem _ (ih (v.stored r))

lemma linked_append (genesis : D) (a b : List R) :
    Linked v genesis (a ++ b) ↔ Linked v genesis a ∧ Linked v (lastHash v genesis a) b := by
  induction a generalizing genesis with
  | nil => simp [Linked, lastHash]
  | cons r a ih => simp only [List.cons_append, Linked, lastHash, ih, and_assoc]

/-- A record sealed over the last digest extends a linked log. -/
theorem linked_concat {genesis : D} {rs : List R} {r : R} (hrs : Linked v genesis rs)
    (hprior : v.prior r = lastHash v genesis rs) (hseal : v.stored r = v.sealOf r) :
    Linked v genesis (rs ++ [r]) :=
  (linked_append v genesis rs [r]).mpr ⟨hrs, hprior, hseal, trivial⟩

lemma stored_eq_seal {genesis : D} {rs : List R} (h : Linked v genesis rs) :
    ∀ r ∈ rs, v.stored r = v.sealOf r := by
  induction rs generalizing genesis with
  | nil => simp
  | cons r rs ih =>
      intro s hs
      rcases List.mem_cons.mp hs with rfl | hs
      · exact h.2.1
      · exact ih h.2.2 s hs

/-- The digest a record of a linked log extends. -/
lemma prior_of_linked {genesis : D} {a b : List R} {r : R} (h : Linked v genesis (a ++ r :: b)) :
    v.prior r = lastHash v genesis a :=
  ((linked_append v genesis a (r :: b)).mp h).2.1

/-! ## Retention -/

/-- A log from which older records were dropped is linked from genesis only if nothing
was dropped, or nothing is left. -/
theorem linked_drop_iff {genesis : D} {rs : List R} (hne : ∀ r, v.sealOf r ≠ genesis)
    (h : Linked v genesis rs) (k : ℕ) :
    Linked v genesis (rs.drop k) ↔ k = 0 ∨ rs.length ≤ k := by
  constructor
  · intro hdrop
    by_contra hk
    push Not at hk
    obtain ⟨hk0, hlt⟩ := hk
    have hsplit : rs = rs.take k ++ rs.drop k := (List.take_append_drop k rs).symm
    have hkept : ∃ r rest, rs.drop k = r :: rest := by
      cases hd : rs.drop k with
      | nil => exact absurd (List.drop_eq_nil_iff.mp hd) (by omega)
      | cons r rest => exact ⟨r, rest, rfl⟩
    obtain ⟨r, rest, hr⟩ := hkept
    rw [hr] at hdrop hsplit
    have hprior : genesis = lastHash v genesis (rs.take k) := by
      rw [← prior_of_linked v (hsplit ▸ h)]
      exact hdrop.1.symm
    have hdropped : ∃ front last, rs.take k = front ++ [last] := by
      refine ⟨(rs.take k).dropLast, (rs.take k).getLast ?_, ?_⟩
      · intro hnil
        have := congrArg List.length hnil
        simp only [List.length_take, List.length_nil] at this
        omega
      · exact (List.dropLast_append_getLast _).symm
    obtain ⟨front, last, hlast⟩ := hdropped
    have hmem : last ∈ rs := List.mem_of_mem_take (i := k) (by rw [hlast]; simp)
    rw [hlast, lastHash_append] at hprior
    exact hne last ((stored_eq_seal v h last hmem) ▸ hprior.symm)
  · rintro (rfl | hk)
    · simpa using h
    · rw [List.drop_eq_nil_of_le hk]
      trivial

/-! ## Tamper evidence -/

/-- A digest is never the genesis value and determines the digest it extends. -/
structure Committing (genesis : D) : Prop where
  seal_ne_genesis : ∀ r, v.sealOf r ≠ genesis
  prior_of_seal : ∀ r s, v.sealOf r = v.sealOf s → v.prior r = v.prior s

variable {v}

/-- No digest occurs twice along a linked log. -/
theorem links_nodup {genesis : D} (hv : Committing v genesis) (rs : List R)
    (h : Linked v genesis rs) : (genesis :: rs.map v.stored).Nodup := by
  induction rs using List.reverseRecOn with
  | nil => simp
  | append_singleton rs r ih =>
      obtain ⟨hrs, hprior, hstored, -⟩ := (linked_append v genesis rs [r]).mp h
      have hnodup := ih hrs
      have hfresh : v.stored r ∉ genesis :: rs.map v.stored := by
        intro hmem
        rcases List.mem_cons.mp hmem with hgen | hmem
        · exact hv.seal_ne_genesis r (hstored ▸ hgen)
        · obtain ⟨s, hs, hsr⟩ := List.mem_map.mp hmem
          obtain ⟨a, b, rfl⟩ := List.append_of_mem hs
          have hseal : v.sealOf r = v.sealOf s := by
            rw [← hstored, ← hsr, stored_eq_seal v hrs s hs]
          -- the two records extend one digest, which would occur before and after `s`
          have hsame := hv.prior_of_seal r s hseal
          rw [hprior, prior_of_linked v hrs, lastHash_append] at hsame
          have hlater := lastHash_mem v (v.stored s) b
          have hearlier := lastHash_mem v genesis a
          change lastHash v (v.stored s) b = _ at hsame
          rw [hsame] at hlater
          rw [List.map_append, ← List.cons_append, List.nodup_append] at hnodup
          exact hnodup.2.2 _ hearlier _ hlater rfl
      rw [List.map_append, ← List.cons_append, List.nodup_append]
      refine ⟨hnodup, by simp, ?_⟩
      intro d hd e he hde
      rw [List.map_singleton, List.mem_singleton] at he
      exact hfresh (he ▸ hde ▸ hd)

/-- Replacing one record and keeping the log linked keeps the digest it extends, and,
when a record follows or the stored digest is kept, its recomputed digest. -/
theorem seal_eq_of_replace {genesis : D} {a b : List R} {r r' : R}
    (h : Linked v genesis (a ++ r :: b)) (h' : Linked v genesis (a ++ r' :: b))
    (hpin : v.stored r = v.stored r' ∨ b ≠ []) :
    v.stored r = v.stored r' ∧ v.sealOf r = v.sealOf r' := by
  obtain ⟨-, -, hr, hb⟩ := (linked_append v genesis a (r :: b)).mp h
  obtain ⟨-, -, hr', hb'⟩ := (linked_append v genesis a (r' :: b)).mp h'
  have hstored : v.stored r = v.stored r' := by
    rcases hpin with hpin | hpin
    · exact hpin
    · cases b with
      | nil => exact absurd rfl hpin
      | cons s b => exact hb.1.symm.trans hb'.1
  exact ⟨hstored, by rw [← hr, ← hr', hstored]⟩

/-- A record that is not the last one cannot be removed from a linked log. -/
theorem not_linked_remove {genesis : D} (hv : Committing v genesis) {a b : List R} {r : R}
    (hb : b ≠ []) (h : Linked v genesis (a ++ r :: b)) : ¬ Linked v genesis (a ++ b) := by
  intro h'
  cases b with
  | nil => exact hb rfl
  | cons s b =>
      have hnodup := links_nodup hv _ h
      have hs := prior_of_linked v h'
      obtain ⟨-, -, -, hs', -⟩ := (linked_append v genesis a (r :: s :: b)).mp h
      have hmem := lastHash_mem v genesis a
      rw [← hs, hs'] at hmem
      rw [List.map_append, ← List.cons_append, List.nodup_append] at hnodup
      exact hnodup.2.2 _ hmem _ (by simp) rfl

lemma perm_eq_of_nodup {genesis : D} (rs : List R) : ∀ (rs' : List R),
    (genesis :: rs.map v.stored).Nodup → Linked v genesis rs → Linked v genesis rs' →
      rs.Perm rs' → rs = rs' := by
  induction rs generalizing genesis with
  | nil => intro rs' _ _ _ hperm; exact (List.nil_perm.mp hperm).symm
  | cons r rs ih =>
      intro rs' hnodup h h' hperm
      cases rs' with
      | nil => exact absurd hperm (by simp)
      | cons r' rs' =>
          have hmem : r' ∈ r :: rs := hperm.mem_iff.mpr (by simp)
          rcases List.mem_cons.mp hmem with rfl | hmem
          · rw [ih rs' (by simpa using hnodup.of_cons) h.2.2 h'.2.2 hperm.cons_inv]
          · obtain ⟨a, b, rfl⟩ := List.append_of_mem hmem
            have hprior := prior_of_linked v (a := r :: a) h
            rw [h'.1] at hprior
            have hlast := lastHash_mem v (v.stored r) a
            change genesis = lastHash v (v.stored r) a at hprior
            rw [← hprior] at hlast
            refine absurd ?_ (List.nodup_cons.mp hnodup).1
            rw [List.map_cons, List.map_append]
            exact List.mem_append_left _ hlast

/-- The records of a linked log are linked in one order only. -/
theorem perm_eq_of_linked {genesis : D} (hv : Committing v genesis) {rs rs' : List R}
    (h : Linked v genesis rs) (h' : Linked v genesis rs') (hperm : rs.Perm rs') : rs = rs' :=
  perm_eq_of_nodup rs rs' (links_nodup hv rs h) h h' hperm

end AgentBigBrain.HashChain
