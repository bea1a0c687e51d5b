import AgentBigBrain.Core.ProfileFactLedger
import AgentBigBrain.Lib.Runs

/-!
# Displacement policies in runs

A family that preserves prior values keeps its confirmed fact beside a challenger, and a family
of several values keeps them all. An upsert does so while the value it brings is new; one whose
value is already active supersedes every other fact of the key, whatever the policy.
-/
namespace AgentBigBrain.Core

open AgentBigBrain.Js AgentBigBrain.Lib

variable (platform : BridgePlatform)

def upsertStep (state : ProfileFactState) (call : UpsertCall) : Option ProfileFactState :=
  some (applyUpsertCall platform state call)

/-- The fact is still active. -/
def StaysActive (fact : ProfileFactRecord) (next : List ProfileFactRecord) : Prop :=
  ∃ kept ∈ next, isActiveFact kept = true ∧ SameFact fact kept

def StaysConfirmed (fact : ProfileFactRecord) (next : List ProfileFactRecord) : Prop :=
  ∃ kept ∈ next, isActiveFact kept = true ∧ SameFact fact kept ∧ kept.status = .confirmed

/-- A call that is no review correction keeps the facts that the policy of its family
protects from the value it brings. -/
def PolicyRespected (state : ProfileFactState) (call : UpsertCall) : Prop :=
  ∀ terms ∈ call.terms platform, isReviewCorrection platform call.input.source = false →
    ∀ fact ∈ conflictingActiveFacts state.facts terms,
      (terms.displacementPolicy = .preservePriorOnConflict → fact.status = .confirmed →
        StaysConfirmed fact (applyUpsertCall platform state call).facts) ∧
      (terms.displacementPolicy = .appendMultiValue →
        StaysActive fact (applyUpsertCall platform state call).facts)

/-- The policy protects this fact of another value. -/
def IsProtected (terms : UpsertTerms) (fact : ProfileFactRecord) : Prop :=
  terms.displacementPolicy = .preservePriorOnConflict ∧ fact.status = .confirmed ∨
    terms.displacementPolicy = .appendMultiValue

/-- The value is already active, and beside it another value that the policy protects. -/
def RestatesBesideProtected (state : ProfileFactState) (call : UpsertCall) : Prop :=
  ∃ terms ∈ call.terms platform, isReviewCorrection platform call.input.source = false ∧
    matchingActiveFacts state.facts terms ≠ [] ∧
      ∃ fact ∈ conflictingActiveFacts state.facts terms, IsProtected terms fact

instance (fact : ProfileFactRecord) (next : List ProfileFactRecord) :
    Decidable (StaysActive fact next) :=
  inferInstanceAs (Decidable (∃ kept ∈ next, _ ∧ _ ∧ _ ∧ _))

instance (fact : ProfileFactRecord) (next : List ProfileFactRecord) :
    Decidable (StaysConfirmed fact next) :=
  inferInstanceAs (Decidable (∃ kept ∈ next, _ ∧ (_ ∧ _ ∧ _) ∧ _))

instance (state : ProfileFactState) (call : UpsertCall) :
    Decidable (PolicyRespected platform state call) :=
  inferInstanceAs (Decidable (∀ terms ∈ call.terms platform, _ → ∀ fact ∈ _, _ ∧ _))

variable {platform} {state : ProfileFactState} {call : UpsertCall} {terms : UpsertTerms}
  {fact : ProfileFactRecord}

lemma resolveConflictDisposition_ne_replace
    (hsource : isReviewCorrection platform call.input.source = false)
    (hprotected : IsProtected terms fact) :
    resolveConflictDisposition platform terms.displacementPolicy call.input.source ≠ .replace := by
  unfold resolveConflictDisposition
  rw [hsource]
  rcases hprotected with ⟨hpolicy, -⟩ | hpolicy <;> simp [hpolicy]

/-- Beside a new value the protected facts stay as they are. -/
lemma mem_of_new_value (hterms : call.terms platform = some terms)
    (hsource : isReviewCorrection platform call.input.source = false)
    (hprotected : IsProtected terms fact)
    (hfact : fact ∈ conflictingActiveFacts state.facts terms)
    (hnone : matchingActiveFacts state.facts terms = []) :
    fact ∈ (applyUpsertCall platform state call).facts := by
  have hkept := resolveConflictDisposition_ne_replace hsource hprotected
  rw [facts_of_terms hterms]
  unfold upsertFacts
  rw [hnone]
  dsimp only
  rw [if_neg hkept]
  exact List.mem_append_left _ (List.mem_append_right _ hfact)

/-- A value that is already active supersedes every fact of another value. -/
lemma not_staysActive_of_restated (hterms : call.terms platform = some terms)
    (hmatching : matchingActiveFacts state.facts terms ≠ [])
    (hfact : fact ∈ conflictingActiveFacts state.facts terms) :
    ¬ StaysActive fact (applyUpsertCall platform state call).facts := by
  rintro ⟨kept, hkept, hactive, -, hkey, hvalue⟩
  have hconflict := mem_conflictingActiveFacts.mp hfact
  have hmem : kept ∈ activeFactsOf terms.key (applyUpsertCall platform state call).facts :=
    mem_activeFactsOf.mpr ⟨hkept, hactive, hkey ▸ (mem_activeFactsOf.mp hconflict.1).2.2⟩
  have houtcome : UpsertOutcome platform state.facts call terms
      (activeFactsOf terms.key (applyUpsertCall platform state call).facts) :=
    upsert_outcome hterms
  generalize activeFactsOf terms.key (applyUpsertCall platform state call).facts = next
    at hmem houtcome
  cases houtcome with
  | refreshed winner hwinner =>
      rw [List.mem_singleton.mp hmem] at hvalue
      refine hconflict.2 ?_
      rw [hvalue]
      exact (mem_matchingActiveFacts.mp hwinner).2
  | replaced hnone hdisposition => exact hmatching hnone
  | joined hnone hdisposition => exact hmatching hnone

/-- A call respects the policy unless it states an active value again beside a protected one. -/
theorem policyRespected_iff (state : ProfileFactState) (call : UpsertCall) :
    PolicyRespected platform state call ↔ ¬ RestatesBesideProtected platform state call := by
  constructor
  · rintro hrespected ⟨terms, hterms, hsource, hmatching, fact, hfact, hprotected⟩
    obtain ⟨hpreserve, happend⟩ := hrespected terms hterms hsource fact hfact
    refine not_staysActive_of_restated hterms hmatching hfact ?_
    rcases hprotected with ⟨hpolicy, hstatus⟩ | hpolicy
    · obtain ⟨kept, hkept, hactive, hsame, -⟩ := hpreserve hpolicy hstatus
      exact ⟨kept, hkept, hactive, hsame⟩
    · exact happend hpolicy
  · intro hnot terms hterms hsource fact hfact
    have hactive := (mem_activeFactsOf.mp (mem_conflictingActiveFacts.mp hfact).1).2.1
    have hstays : IsProtected terms fact →
        fact ∈ (applyUpsertCall platform state call).facts := by
      intro hprotected
      by_cases hnone : matchingActiveFacts state.facts terms = []
      · exact mem_of_new_value hterms hsource hprotected hfact hnone
      · exact absurd ⟨terms, hterms, hsource, hnone, fact, hfact, hprotected⟩ hnot
    exact ⟨fun hpolicy hstatus => ⟨fact, hstays (.inl ⟨hpolicy, hstatus⟩), hactive,
        ⟨rfl, rfl, rfl⟩, hstatus⟩,
      fun hpolicy => ⟨fact, hstays (.inr hpolicy), hactive, rfl, rfl, rfl⟩⟩

/-- Every call of a run respects the policy if and only if none of them states an active value
again beside a protected one. -/
theorem policyRespected_of_run (startedAt : String) (calls : List UpsertCall) :
    Along (upsertStep platform) (PolicyRespected platform) (.empty startedAt) calls ↔
      Along (upsertStep platform)
        (fun state call => ¬ RestatesBesideProtected platform state call) (.empty startedAt)
        calls :=
  along_congr policyRespected_iff

/-! ## The challenger stated twice -/

def profileDates : List (String × ℤ) :=
  [("2026-03-01T10:00:00.000Z", 1772359200000)]

def profilePlatform : BridgePlatform :=
  .ofDates profileDates (by decide)

def employmentCall (value newId : String) : UpsertCall where
  input := {
    key := "employment.current"
    value := value
    sensitive := false
    sourceTaskId := "task_1"
    source := "user_input_pattern.work_at"
    observedAt := some "2026-03-01T10:00:00.000Z"
    confidence := some (95 / 100)
    mutationAudit := none }
  readings := ⟨"2026-03-01T10:00:00.000Z", "2026-03-01T10:00:00.000Z", newId⟩

/-- The incumbent, a challenger, and the challenger again. -/
def challengedTwice : List UpsertCall :=
  [employmentCall "Acme" "profile_fact_1", employmentCall "Globex" "profile_fact_2",
    employmentCall "Globex" "profile_fact_3"]

/-- The second statement of the challenger supersedes the confirmed incumbent. -/
theorem incumbent_superseded : ¬ ∀ (platform : BridgePlatform) (startedAt : String)
    (calls : List UpsertCall),
    Along (upsertStep platform) (PolicyRespected platform) (.empty startedAt) calls := by
  intro hclaim
  have hrun := hclaim profilePlatform "2026-03-01T10:00:00.000Z" challengedTwice
  revert hrun
  decide +kernel

end AgentBigBrain.Core
