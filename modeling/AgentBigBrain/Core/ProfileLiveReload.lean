import AgentBigBrain.Core.ProfileStoreRuns
import AgentBigBrain.Lib.Runs

/-!
# Stored facts on reload

The facts that a store saves are settled as long as each new fact is canonical and admitted as
it is stored, and no fact that closes a follow-up is left beside a later value without an earlier
time. The load then gives them back as they are. Without the last condition it does not: the
load replays the two values in the order of their times, and where these are equal in the order
of their ids.
-/
namespace AgentBigBrain.Core

open AgentBigBrain.Js AgentBigBrain.Lib

variable (platform : BridgePlatform)

/-! ## Conditions -/

/-- One upsert; `none` where it throws. -/
def factUpsertStep (state : ProfileFactState) (call : UpsertCall) : Option ProfileFactState :=
  (upsertTemporalProfileFact platform state call.input call.readings).map (·.nextState)

/-- The upserts of a batch, each with its readings. -/
def callsOf (readings : ℕ → UpsertReadings) : List ProfileFactUpsertInput → List UpsertCall
  | [] => []
  | candidate :: candidates =>
      ⟨candidate, readings 0⟩ :: callsOf (fun index => readings (index + 1)) candidates

def batchCalls (candidates : List ProfileFactUpsertInput) (readings : ℕ → UpsertReadings) :
    List UpsertCall :=
  callsOf readings (dedupeProfileFactCandidates platform candidates)

/-- What a new fact of an upsert has to meet: it is admitted as it is stored, and it comes after
a fact of its key that closes a follow-up and that it does not replace. -/
@[mk_iff] structure CreatesSettled (state : ProfileFactState) (call : UpsertCall) (terms : UpsertTerms) :
    Prop where
  admitted : Admitted platform terms.key terms.value call.input.sourceTaskId call.input.source
    call.input.sensitive
  after_resolution : resolveConflictDisposition platform terms.displacementPolicy
      call.input.source ≠ .replace →
    ∀ fact ∈ activeFactsOf terms.key state.facts, factFamily platform fact = .followupResolution →
      timeOf platform fact.lastUpdatedAt < timeOf platform call.readings.nowIso

@[mk_iff] structure UpsertMeets (state : ProfileFactState) (call : UpsertCall) : Prop where
  nowIso : IsoText platform call.readings.nowIso
  observedNow : IsoText platform call.readings.observedNow
  newId_trimmed : trim call.readings.newId = call.readings.newId
  newId_ne : call.readings.newId ≠ ""
  newId_fresh : call.readings.newId ∉ factIds state.facts
  audit : ∀ audit ∈ call.input.mutationAudit, CanonicalAudit audit
  creates : ∀ terms ∈ call.terms platform, matchingActiveFacts state.facts terms = [] →
    CreatesSettled platform state call terms

/-- No fact is marked stale that closes a follow-up beside another active fact, or beside which
another does. -/
def NoStaleResolution (maxAgeDays : ℚ) (nowIso : String) (facts : List ProfileFactRecord) :
    Prop :=
  ∀ fact ∈ facts, isMarkedStale platform maxAgeDays nowIso fact = true →
    ∀ other ∈ activeFactsOf fact.key facts, other ≠ fact →
      factFamily platform fact ≠ .followupResolution ∧
        factFamily platform other ≠ .followupResolution

@[mk_iff] structure LoadMeets (maxAgeDays : ℚ) (stored : ProfileFactState) (readings : LoadReadings) :
    Prop where
  staleNow : IsoText platform readings.staleNow
  stale : NoStaleResolution platform maxAgeDays readings.staleNow stored.facts
  upserts : Along (factUpsertStep platform) (UpsertMeets platform)
    (markStaleFactsAsUncertain platform stored maxAgeDays readings.staleNow)
    (batchCalls platform (buildStateReconciliationResolutionCandidates platform
      readings.resolved readings.reconcileNow) readings.upserts)

/-- The facts that an ingest applies, of its governed candidates. -/
def appliedFactCandidates (factDecisions : List GovernedProfileFactCandidate) :
    List ProfileFactUpsertInput :=
  allowedCurrentStateFactCandidates factDecisions ++
    selectCompatibilitySafeSupportOnlyFactCandidates platform
      (allowedSupportOnlyFactCandidates factDecisions)

@[mk_iff] structure IngestMeets (maxAgeDays : ℚ) (stored : ProfileFactState)
    (candidates : List ProfileFactUpsertInput) (readings : IngestReadings) : Prop where
  load : LoadMeets platform maxAgeDays stored readings.load
  transitionNow : IsoText platform readings.transitionNow
  upserts : ∀ state ∈ reconcileLoadedState platform maxAgeDays stored readings.load,
    ∀ factDecisions ∈ governProfileMemoryCandidates platform candidates,
      ∀ transitioned ∈ applySupportOnlyTransitionFactCandidates platform state
        (allowedSupportOnlyFactCandidates factDecisions) readings.transitionNow,
        Along (factUpsertStep platform) (UpsertMeets platform) transitioned
          (batchCalls platform (appliedFactCandidates platform factDecisions) readings.upserts)

@[mk_iff] structure CorrectionMeets (maxAgeDays : ℚ) (stored : ProfileFactState)
    (request : ProfileFactCorrectionRequest) (readings : CorrectionReadings) : Prop where
  load : LoadMeets platform maxAgeDays stored readings.load
  upsert : ∀ state ∈ reconcileLoadedState platform maxAgeDays stored readings.load,
    ∀ targetFact ∈ state.facts, ∀ input ∈ correctionInput platform request readings targetFact,
      UpsertMeets platform state ⟨input, readings.upsert⟩

def StoreMeets (maxAgeDays : ℚ) (stored : ProfileFactState) : ProfileStoreCall → Prop
  | .ingest candidates readings => IngestMeets platform maxAgeDays stored candidates readings
  | .correct request readings => CorrectionMeets platform maxAgeDays stored request readings

instance (text : String) : Decidable (IsoText platform text) :=
  decidable_of_iff (trim text = text ∧
      ((platform.dateParse text).bind platform.isoString) = some text) (by
    constructor
    · rintro ⟨htrim, hcanonical⟩
      exact ⟨htrim, Option.bind_eq_some_iff.mp hcanonical⟩
    · rintro ⟨htrim, hcanonical⟩
      exact ⟨htrim, Option.bind_eq_some_iff.mpr hcanonical⟩)

instance (audit : ProfileMutationAuditMetadataV1) : Decidable (CanonicalAudit audit) :=
  decidable_of_iff _ (canonicalAudit_iff audit).symm

instance (key value sourceTaskId source : String) (sensitive : Bool) :
    Decidable (Admitted platform key value sourceTaskId source sensitive) :=
  decidable_of_iff _ (admitted_iff platform key value sourceTaskId source sensitive).symm

instance (state : ProfileFactState) (call : UpsertCall) (terms : UpsertTerms) :
    Decidable (CreatesSettled platform state call terms) :=
  decidable_of_iff _ (createsSettled_iff platform state call terms).symm

instance (state : ProfileFactState) (call : UpsertCall) :
    Decidable (UpsertMeets platform state call) :=
  decidable_of_iff _ (upsertMeets_iff platform state call).symm

instance (maxAgeDays : ℚ) (nowIso : String) (facts : List ProfileFactRecord) :
    Decidable (NoStaleResolution platform maxAgeDays nowIso facts) :=
  inferInstanceAs (Decidable (∀ fact ∈ facts, _ → ∀ other ∈ _, _ → _))

instance (maxAgeDays : ℚ) (stored : ProfileFactState) (readings : LoadReadings) :
    Decidable (LoadMeets platform maxAgeDays stored readings) :=
  decidable_of_iff _ (loadMeets_iff platform maxAgeDays stored readings).symm

instance (maxAgeDays : ℚ) (stored : ProfileFactState) (candidates : List ProfileFactUpsertInput)
    (readings : IngestReadings) :
    Decidable (IngestMeets platform maxAgeDays stored candidates readings) :=
  decidable_of_iff _ (ingestMeets_iff platform maxAgeDays stored candidates readings).symm

instance (maxAgeDays : ℚ) (stored : ProfileFactState) (request : ProfileFactCorrectionRequest)
    (readings : CorrectionReadings) :
    Decidable (CorrectionMeets platform maxAgeDays stored request readings) :=
  decidable_of_iff _ (correctionMeets_iff platform maxAgeDays stored request readings).symm

instance (maxAgeDays : ℚ) (stored : ProfileFactState) :
    (call : ProfileStoreCall) → Decidable (StoreMeets platform maxAgeDays stored call)
  | .ingest candidates readings =>
      inferInstanceAs (Decidable (IngestMeets platform maxAgeDays stored candidates readings))
  | .correct request readings =>
      inferInstanceAs (Decidable (CorrectionMeets platform maxAgeDays stored request readings))

/-! ## Facts that stay settled -/

variable {platform}

lemma SettledFact.toSuperseded {fact : ProfileFactRecord} (h : SettledFact platform fact)
    {nowIso : String} (hnow : IsoText platform nowIso) :
    SettledFact platform (toSupersededFact fact nowIso) :=
  { h with
    lastUpdatedAt := hnow
    supersededAt := by
      intro text htext
      rw [← Option.some.inj htext]
      exact hnow
    confirmed := fun hstatus => absurd hstatus (by simp [toSupersededFact])
    superseded := by simp [toSupersededFact] }

lemma SettledFact.markStale {fact : ProfileFactRecord} (h : SettledFact platform fact)
    (hactive : isActiveFact fact = true) {nowIso : String} (hnow : IsoText platform nowIso) :
    SettledFact platform (markStaleFact nowIso fact) :=
  { h with
    lastUpdatedAt := hnow
    confidence_range := by
      refine ⟨le_min h.confidence_range.1 (by norm_num), ?_⟩
      exact (min_le_left _ _).trans h.confidence_range.2
    confirmed := fun hstatus => absurd hstatus (by simp [markStaleFact])
    superseded := by simp [markStaleFact, (isActiveFact_iff.mp hactive).2] }

lemma SettledFact.refresh {fact : ProfileFactRecord} (h : SettledFact platform fact)
    (hactive : isActiveFact fact = true) {status : ProfileFactStatus}
    (hstatus : status ≠ .superseded) {confidence : ℚ} (hconfidence : 0 ≤ confidence ∧
      confidence ≤ 1) {nowIso : String} (hnow : IsoText platform nowIso)
    {input : ProfileFactUpsertInput} (haudit : ∀ audit ∈ input.mutationAudit, CanonicalAudit audit) :
    SettledFact platform (refreshProfileFact fact status confidence nowIso input) :=
  { h with
    lastUpdatedAt := hnow
    confidence_range := ⟨h.confidence_range.1.trans (le_max_left _ _),
      max_le h.confidence_range.2 hconfidence.2⟩
    confirmedAt := by
      intro text htext
      dsimp only [refreshProfileFact] at htext
      split_ifs at htext
      · cases hprior : fact.confirmedAt with
        | none =>
            rw [hprior] at htext
            rw [← Option.some.inj htext]
            exact hnow
        | some prior =>
            rw [hprior] at htext
            rw [← Option.some.inj htext]
            exact h.confirmedAt prior hprior
      · exact h.confirmedAt text htext
    confirmed := by
      intro hnext
      dsimp only [refreshProfileFact] at hnext ⊢
      by_cases hgiven : status = .confirmed
      · simp [hgiven]
      · rw [if_neg hgiven]
        by_cases hkept : fact.status = .confirmed ∧ status = .uncertain
        · exact h.confirmed hkept.1
        · rw [if_neg hkept] at hnext
          exact absurd hnext hgiven
    superseded := by
      have hnext := isActiveFact_refresh hactive hstatus confidence nowIso input
      have hnext := isActiveFact_iff.mp hnext
      simp [hnext.1, hnext.2]
    audit := by
      intro audit hmem
      dsimp only [refreshProfileFact] at hmem
      cases hinput : input.mutationAudit with
      | none =>
          rw [hinput] at hmem
          exact h.audit audit hmem
      | some given =>
          rw [hinput] at hmem
          rw [← Option.some.inj hmem]
          exact haudit given hinput }

/-! ## One upsert -/

variable (platform) in
/-- What the terms of a call say of its input. -/
structure TermsOf (call : UpsertCall) (terms : UpsertTerms) : Prop where
  displacementPolicy : terms.displacementPolicy =
    (inferGovernanceFamilyForNormalizedKey platform terms.key terms.value).displacementPolicy
  confidence : terms.confidence = normalizeConfidence call.input.confidence
  observedAt : safeIsoOrNow platform call.input.observedAt call.readings.observedNow =
    some terms.observedAt

lemma termsOf_call {call : UpsertCall} {terms : UpsertTerms}
    (hterms : call.terms platform = some terms) : TermsOf platform call terms := by
  unfold UpsertCall.terms upsertTerms at hterms
  split_ifs at hterms
  · cases hterms
  · simp only [Option.bind_eq_bind, Option.bind_eq_some_iff] at hterms
    obtain ⟨key, hkey, observedAt, hobserved, hsome⟩ := hterms
    rw [← Option.some.inj hsome]
    exact ⟨rfl, rfl, hobserved⟩

lemma normalizeConfidence_range (value : Option ℚ) :
    0 ≤ normalizeConfidence value ∧ normalizeConfidence value ≤ 1 := by
  unfold normalizeConfidence
  split
  · norm_num
  · split_ifs with hzero hone
    · norm_num
    · norm_num
    · exact ⟨(not_le.mp hzero).le, (not_le.mp hone).le⟩

/-- `toISOString` writes no white space around a time. -/
def TrimmedIso (platform : BridgePlatform) : Prop :=
  ∀ ms text, platform.isoString ms = some text → trim text = text

lemma isoText_of_safeIsoOrNow (hiso : TrimmedIso platform) {value : Option String}
    {now text : String} (hnow : IsoText platform now)
    (h : safeIsoOrNow platform value now = some text) : IsoText platform text := by
  unfold safeIsoOrNow at h
  split at h
  · rename_i ms _
    exact ⟨hiso ms text h, ms, platform.dateParse_isoString ms text h, h⟩
  · rwa [← Option.some.inj h]

lemma createdFact_settled (hiso : TrimmedIso platform) {state : ProfileFactState}
    {call : UpsertCall} {terms : UpsertTerms} (hmeets : UpsertMeets platform state call)
    (hterms : call.terms platform = some terms)
    (hcreates : CreatesSettled platform state call terms) {status : ProfileFactStatus}
    (hstatus : status ≠ .superseded) :
    SettledFact platform (createProfileFactRecord call.input call.readings terms status) := by
  have hof := termsOf_call hterms
  exact
    { id_trimmed := hmeets.newId_trimmed
      id_ne := hmeets.newId_ne
      admitted := hcreates.admitted
      confidence_range := by
        dsimp only [createProfileFactRecord]
        rw [hof.confidence]
        exact normalizeConfidence_range _
      observedAt := isoText_of_safeIsoOrNow hiso hmeets.observedNow hof.observedAt
      lastUpdatedAt := hmeets.nowIso
      confirmedAt := by
        intro text htext
        dsimp only [createProfileFactRecord] at htext
        split_ifs at htext
        · rw [← Option.some.inj htext]
          exact hmeets.nowIso
        · cases htext
      supersededAt := fun text htext => by cases htext
      confirmed := by
        intro hconfirmed
        dsimp only [createProfileFactRecord] at hconfirmed ⊢
        simp [hconfirmed]
      superseded := by simp [createProfileFactRecord, hstatus]
      audit := hmeets.audit }

/-- The facts an upsert leaves are those of before, closed or refreshed, and a new one. -/
lemma records_of_upsert (hiso : TrimmedIso platform) {state : ProfileFactState}
    {call : UpsertCall} {terms : UpsertTerms} (hrecords : ∀ fact ∈ state.facts,
      SettledFact platform fact) (hmeets : UpsertMeets platform state call)
    (hterms : call.terms platform = some terms) :
    ∀ fact ∈ (upsertFacts platform state.facts call.input call.readings terms).1,
      SettledFact platform fact := by
  have hconflicting : ∀ fact ∈ conflictingActiveFacts state.facts terms,
      SettledFact platform fact := fun fact hfact =>
    hrecords fact (mem_activeFactsOf.mp (mem_conflictingActiveFacts.mp hfact).1).1
  have hclosed : ∀ facts : List ProfileFactRecord,
      (∀ fact ∈ facts, SettledFact platform fact) →
        ∀ fact ∈ facts.map (toSupersededFact · call.readings.nowIso),
          SettledFact platform fact := by
    intro facts hfacts fact hfact
    obtain ⟨prior, hprior, rfl⟩ := List.mem_map.mp hfact
    exact (hfacts prior hprior).toSuperseded hmeets.nowIso
  have huntouched : ∀ fact ∈ state.facts.filter (!isActiveOf terms.key ·),
      SettledFact platform fact := fun fact hfact => hrecords fact (List.mem_of_mem_filter hfact)
  unfold upsertFacts
  dsimp only
  split
  · rename_i first duplicates hmatching
    have hmatchingActive : ∀ fact ∈ first :: duplicates,
        fact ∈ activeFactsOf terms.key state.facts := by
      intro fact hfact
      rw [← hmatching] at hfact
      exact (mem_matchingActiveFacts.mp hfact).1
    have hfirst := mem_activeFactsOf.mp (hmatchingActive first List.mem_cons_self)
    have hdisplaced : ∀ fact ∈ duplicates ++ conflictingActiveFacts state.facts terms,
        SettledFact platform fact := by
      intro fact hfact
      rcases List.mem_append.mp hfact with hfact | hfact
      · exact hrecords fact
          (mem_activeFactsOf.mp (hmatchingActive fact (List.mem_cons_of_mem first hfact))).1
      · exact hconflicting fact hfact
    intro fact hfact
    rcases List.mem_append.mp hfact with hfact | hfact
    · exact huntouched fact hfact
    · rcases List.mem_cons.mp hfact with rfl | hfact
      · refine (hrecords first hfirst.1).refresh hfirst.2.1 terms.status_active ?_ hmeets.nowIso
          hmeets.audit
        rw [(termsOf_call hterms).confidence]
        exact normalizeConfidence_range _
      · exact hclosed _ hdisplaced fact hfact
  · rename_i hnone
    have hcreated := createdFact_settled hiso hmeets hterms (hmeets.creates terms hterms hnone)
      (challengerStatus_ne_superseded platform (conflictingActiveFacts state.facts terms)
        call.input terms)
    split_ifs
    · intro fact hfact
      rcases List.mem_append.mp hfact with hfact | hfact
      · rcases List.mem_append.mp hfact with hfact | hfact
        · exact huntouched fact hfact
        · exact hclosed _ hconflicting fact hfact
      · rwa [List.mem_singleton.mp hfact]
    · intro fact hfact
      rcases List.mem_append.mp hfact with hfact | hfact
      · rcases List.mem_append.mp hfact with hfact | hfact
        · exact huntouched fact hfact
        · exact hconflicting fact hfact
      · rwa [List.mem_singleton.mp hfact]

/-- A fact that an upsert leaves beside those of its key stands behind each of them. -/
lemma standsBehind_created {state : ProfileFactState} {call : UpsertCall} {terms : UpsertTerms}
    (hsettled : SettledFacts platform state.facts) (hterms : call.terms platform = some terms)
    (hcreates : CreatesSettled platform state call terms)
    (hnone : matchingActiveFacts state.facts terms = [])
    (hdisposition : resolveConflictDisposition platform terms.displacementPolicy
      call.input.source ≠ .replace) {fact : ProfileFactRecord}
    (hfact : fact ∈ activeFactsOf terms.key state.facts) :
    StandsBehind platform fact (createProfileFactRecord call.input call.readings terms
      (challengerStatus platform (activeFactsOf terms.key state.facts) call.input terms)) := by
  have hsame : factDisposition platform (createProfileFactRecord call.input call.readings terms
      (challengerStatus platform (activeFactsOf terms.key state.facts) call.input terms)) =
      resolveConflictDisposition platform terms.displacementPolicy call.input.source := by
    rw [(termsOf_call hterms).displacementPolicy]
    rfl
  refine ⟨?_, by rwa [hsame], ?_, hcreates.after_resolution hdisposition fact hfact⟩
  · intro hvalue
    have hcanonical := (hsettled.records fact (mem_activeFactsOf.mp hfact).1).admitted.value_canonical
    have hmatch : fact ∈ matchingActiveFacts state.facts terms :=
      mem_matchingActiveFacts.mpr ⟨hfact, hcanonical.trans hvalue⟩
    rw [hnone] at hmatch
    exact List.not_mem_nil hmatch
  · intro hpreserve
    rw [hsame] at hpreserve
    have hstatus : challengerStatus platform (activeFactsOf terms.key state.facts) call.input
        terms = .uncertain := if_pos ⟨List.ne_nil_of_mem hfact, hpreserve⟩
    simp [createProfileFactRecord, hstatus]

lemma SettledFacts.upsert (hiso : TrimmedIso platform) {state : ProfileFactState}
    {call : UpsertCall} (hsettled : SettledFacts platform state.facts)
    (hmeets : UpsertMeets platform state call) :
    SettledFacts platform (applyUpsertCall platform state call).facts := by
  cases hterms : call.terms platform with
  | none => rwa [applyUpsertCall_of_none hterms]
  | some terms =>
      refine ⟨?_, ?_, fun key => ?_⟩
      · rw [facts_of_terms hterms]
        exact records_of_upsert hiso hsettled.records hmeets hterms
      · rcases factIds_applyUpsertCall platform state call with hids | hids
        · exact hids.nodup_iff.mpr hsettled.ids
        · exact hids.nodup_iff.mpr (List.nodup_cons.mpr ⟨hmeets.newId_fresh, hsettled.ids⟩)
      · by_cases hkey : key = terms.key
        · subst hkey
          generalize hnext : activeFactsOf terms.key (applyUpsertCall platform state call).facts =
            next
          have houtcome : UpsertOutcome platform state.facts call terms
              (activeFactsOf terms.key (applyUpsertCall platform state call).facts) :=
            upsert_outcome hterms
          rw [hnext] at houtcome
          cases houtcome with
          | refreshed fact hmem => exact List.pairwise_singleton _ _
          | replaced hnone hdisposition => exact List.pairwise_singleton _ _
          | joined hnone hdisposition =>
              refine List.pairwise_append.mpr ⟨hsettled.active terms.key,
                List.pairwise_singleton _ _, ?_⟩
              intro fact hfact created hcreated
              rw [List.mem_singleton.mp hcreated]
              exact standsBehind_created hsettled hterms (hmeets.creates terms hterms hnone) hnone
                hdisposition hfact
        · rw [upsert_other_key hterms hkey]
          exact hsettled.active key

/-! ## Batches -/

lemma SettledFacts.upsertStep (hiso : TrimmedIso platform) {state next : ProfileFactState}
    {call : UpsertCall} (hsettled : SettledFacts platform state.facts)
    (hmeets : UpsertMeets platform state call)
    (hstep : factUpsertStep platform state call = some next) :
    SettledFacts platform next.facts := by
  obtain ⟨result, hresult, rfl⟩ := Option.map_eq_some_iff.mp hstep
  have happlied : applyUpsertCall platform state call = result.nextState := by
    rw [applyUpsertCall, hresult]
    rfl
  rw [← happlied]
  exact hsettled.upsert hiso hmeets

lemma run_of_applyFrom {candidates : List ProfileFactUpsertInput}
    {start result : ProfileFactCandidateApplyResult} {readings : ℕ → UpsertReadings}
    (happly : applyFrom platform start readings candidates = some result) :
    run (factUpsertStep platform) start.nextState (callsOf readings candidates) =
      some result.nextState := by
  induction candidates generalizing start readings with
  | nil =>
      cases happly
      rfl
  | cons candidate candidates ih =>
      obtain ⟨upserted, hupsert, hrest⟩ := Option.bind_eq_some_iff.mp happly
      have hstep : factUpsertStep platform start.nextState ⟨candidate, readings 0⟩ =
          some upserted.nextState := by
        rw [factUpsertStep, hupsert]
        rfl
      rw [callsOf, run_cons, hstep]
      exact ih hrest

/-- A batch whose upserts meet their conditions leaves settled facts. -/
lemma SettledFacts.batch (hiso : TrimmedIso platform) {state : ProfileFactState}
    (hsettled : SettledFacts platform state.facts) {candidates : List ProfileFactUpsertInput}
    {readings : ℕ → UpsertReadings} {result : ProfileFactCandidateApplyResult}
    (hmeets : Along (factUpsertStep platform) (UpsertMeets platform) state
      (batchCalls platform candidates readings))
    (happly : applyProfileFactCandidates platform state candidates readings = some result) :
    SettledFacts platform result.nextState.facts := by
  have hstep : ∀ (state : ProfileFactState) (call : UpsertCall) (next : ProfileFactState),
      SettledFacts platform state.facts → UpsertMeets platform state call →
        factUpsertStep platform state call = some next → SettledFacts platform next.facts :=
    fun _ _ _ h hcall hnext => h.upsertStep hiso hcall hnext
  exact invariant_of_along hstep hsettled hmeets (run_of_applyFrom happly)

/-- An upsert reads of a state its facts only. -/
lemma factUpsertStep_congr {state other : ProfileFactState} (h : state.facts = other.facts)
    (call : UpsertCall) : factUpsertStep platform state call = factUpsertStep platform other call := by
  rw [factUpsertStep, factUpsertStep, upsertTemporalProfileFact, upsertTemporalProfileFact, h]

lemma UpsertMeets.congr {state other : ProfileFactState} (h : state.facts = other.facts)
    {call : UpsertCall} (hmeets : UpsertMeets platform state call) :
    UpsertMeets platform other call where
  nowIso := hmeets.nowIso
  observedNow := hmeets.observedNow
  newId_trimmed := hmeets.newId_trimmed
  newId_ne := hmeets.newId_ne
  newId_fresh := h ▸ hmeets.newId_fresh
  audit := hmeets.audit
  creates terms hterms hnone := by
    rw [← h] at hnone
    have hcreates := hmeets.creates terms hterms hnone
    exact ⟨hcreates.admitted, h ▸ hcreates.after_resolution⟩

lemma along_upserts_congr {state other : ProfileFactState} (h : state.facts = other.facts)
    {calls : List UpsertCall}
    (halong : Along (factUpsertStep platform) (UpsertMeets platform) state calls) :
    Along (factUpsertStep platform) (UpsertMeets platform) other calls := by
  cases calls with
  | nil => trivial
  | cons call calls =>
      refine ⟨halong.1.congr h, fun next hnext => halong.2 next ?_⟩
      rwa [factUpsertStep_congr h]

/-! ## Stale facts and transitions -/

/-- A fact under a change of some active facts of a list that leaves their keys. -/
lemma activeFactsOf_map {change : ProfileFactRecord → ProfileFactRecord}
    (hactive : ∀ fact, isActiveFact (change fact) = isActiveFact fact)
    (hkey : ∀ fact, (change fact).key = fact.key) (key : String)
    (facts : List ProfileFactRecord) :
    activeFactsOf key (facts.map change) = (activeFactsOf key facts).map change := by
  rw [activeFactsOf, activeFactsOf, List.filter_map]
  refine congrArg _ (List.filter_congr fun fact _ => ?_)
  simp [isActiveOf, hactive, hkey]

lemma markStale_active {maxAgeDays : ℚ} {nowIso : String} {fact : ProfileFactRecord}
    (h : isMarkedStale platform maxAgeDays nowIso fact = true) : isActiveFact fact = true := by
  simp only [isMarkedStale, Bool.and_eq_true] at h
  exact h.1.1

lemma markStale_confirmed {maxAgeDays : ℚ} {nowIso : String} {fact : ProfileFactRecord}
    (h : isMarkedStale platform maxAgeDays nowIso fact = true) : fact.status = .confirmed := by
  simp only [isMarkedStale, Bool.and_eq_true, decide_eq_true_eq] at h
  exact h.1.2

variable (platform) in
/-- A fact as the marking leaves it. -/
def afterMarking (maxAgeDays : ℚ) (nowIso : String) (fact : ProfileFactRecord) :
    ProfileFactRecord :=
  if isMarkedStale platform maxAgeDays nowIso fact then markStaleFact nowIso fact else fact

lemma facts_of_marking (state : ProfileFactState) (maxAgeDays : ℚ) (nowIso : String) :
    (markStaleFactsAsUncertain platform state maxAgeDays nowIso).facts =
      state.facts.map (afterMarking platform maxAgeDays nowIso) := by
  unfold markStaleFactsAsUncertain
  split_ifs with hmarked
  · rfl
  · conv_lhs => rw [← List.map_id state.facts]
    refine List.map_congr_left fun fact hfact => ?_
    have hno : ¬ isMarkedStale platform maxAgeDays nowIso fact = true :=
      fun h => hmarked (List.any_eq_true.mpr ⟨fact, hfact, h⟩)
    rw [afterMarking, if_neg hno]
    rfl

section Marking

variable {maxAgeDays : ℚ} {nowIso : String}

lemma afterMarking_of_not {fact : ProfileFactRecord}
    (h : ¬ isMarkedStale platform maxAgeDays nowIso fact = true) :
    afterMarking platform maxAgeDays nowIso fact = fact :=
  if_neg h

@[simp] lemma afterMarking_id (fact : ProfileFactRecord) :
    (afterMarking platform maxAgeDays nowIso fact).id = fact.id := by
  unfold afterMarking
  split_ifs <;> rfl

@[simp] lemma afterMarking_key (fact : ProfileFactRecord) :
    (afterMarking platform maxAgeDays nowIso fact).key = fact.key := by
  unfold afterMarking
  split_ifs <;> rfl

@[simp] lemma afterMarking_value (fact : ProfileFactRecord) :
    (afterMarking platform maxAgeDays nowIso fact).value = fact.value := by
  unfold afterMarking
  split_ifs <;> rfl

@[simp] lemma afterMarking_source (fact : ProfileFactRecord) :
    (afterMarking platform maxAgeDays nowIso fact).source = fact.source := by
  unfold afterMarking
  split_ifs <;> rfl

@[simp] lemma isActiveFact_afterMarking (fact : ProfileFactRecord) :
    isActiveFact (afterMarking platform maxAgeDays nowIso fact) = isActiveFact fact := by
  unfold afterMarking
  split_ifs with hmarked
  · have hactive := markStale_active hmarked
    rw [hactive]
    exact isActiveFact_iff.mpr ⟨by simp [markStaleFact], (isActiveFact_iff.mp hactive).2⟩
  · rfl

@[simp] lemma factFamily_afterMarking (fact : ProfileFactRecord) :
    factFamily platform (afterMarking platform maxAgeDays nowIso fact) =
      factFamily platform fact := by
  simp [factFamily]

@[simp] lemma factDisposition_afterMarking (fact : ProfileFactRecord) :
    factDisposition platform (afterMarking platform maxAgeDays nowIso fact) =
      factDisposition platform fact := by
  simp [factDisposition]

lemma standsBehind_afterMarking {facts : List ProfileFactRecord}
    (hstale : NoStaleResolution platform maxAgeDays nowIso facts) {key : String}
    {earlier later : ProfileFactRecord} (hearlier : earlier ∈ activeFactsOf key facts)
    (hlater : later ∈ activeFactsOf key facts) (h : StandsBehind platform earlier later) :
    StandsBehind platform (afterMarking platform maxAgeDays nowIso earlier)
      (afterMarking platform maxAgeDays nowIso later) := by
  have hne : earlier ≠ later := fun heq => h.value_ne (heq ▸ rfl)
  have hearlierMem := mem_activeFactsOf.mp hearlier
  have hlaterMem := mem_activeFactsOf.mp hlater
  refine ⟨by simpa using h.value_ne, by simpa using h.joins, ?_, ?_⟩
  · intro hpreserve
    rw [factDisposition_afterMarking] at hpreserve
    obtain ⟨hstatus, hconfirmedAt⟩ := h.uncertain hpreserve
    have hno : ¬ isMarkedStale platform maxAgeDays nowIso later = true := by
      intro hmarked
      rw [markStale_confirmed hmarked] at hstatus
      cases hstatus
    rw [afterMarking_of_not hno]
    exact ⟨hstatus, hconfirmedAt⟩
  · intro hfollowup
    rw [factFamily_afterMarking] at hfollowup
    have hnoEarlier : ¬ isMarkedStale platform maxAgeDays nowIso earlier = true := by
      intro hmarked
      have hother : later ∈ activeFactsOf earlier.key facts := hearlierMem.2.2 ▸ hlater
      exact (hstale earlier hearlierMem.1 hmarked later hother hne.symm).1 hfollowup
    have hnoLater : ¬ isMarkedStale platform maxAgeDays nowIso later = true := by
      intro hmarked
      have hother : earlier ∈ activeFactsOf later.key facts := hlaterMem.2.2 ▸ hearlier
      exact (hstale later hlaterMem.1 hmarked earlier hother hne).2 hfollowup
    rw [afterMarking_of_not hnoEarlier, afterMarking_of_not hnoLater]
    exact h.after_resolution hfollowup

/-- The marking of stale facts leaves settled facts. -/
lemma SettledFacts.marking {state : ProfileFactState}
    (hsettled : SettledFacts platform state.facts) (hnow : IsoText platform nowIso)
    (hstale : NoStaleResolution platform maxAgeDays nowIso state.facts) :
    SettledFacts platform (markStaleFactsAsUncertain platform state maxAgeDays nowIso).facts := by
  rw [facts_of_marking]
  refine ⟨?_, ?_, fun key => ?_⟩
  · intro fact hfact
    obtain ⟨prior, hprior, rfl⟩ := List.mem_map.mp hfact
    unfold afterMarking
    split_ifs with hmarked
    · exact (hsettled.records prior hprior).markStale (markStale_active hmarked) hnow
    · exact hsettled.records prior hprior
  · have hids : factIds (state.facts.map (afterMarking platform maxAgeDays nowIso)) =
        factIds state.facts := by
      simp [factIds, Function.comp_def]
    rw [hids]
    exact hsettled.ids
  · rw [activeFactsOf_map isActiveFact_afterMarking afterMarking_key, List.pairwise_map]
    exact (hsettled.active key).imp_of_mem fun hearlier hlater h =>
      standsBehind_afterMarking hstale hearlier hlater h

end Marking

variable (platform) in
/-- A fact as the transitions leave it. -/
def afterTransition (targets : List SupportOnlyTransitionTarget) (nowIso : String)
    (fact : ProfileFactRecord) : ProfileFactRecord :=
  if isSupportOnlyTransitionCandidateTarget platform targets fact then
    toSupersededFact fact nowIso
  else
    fact

lemma facts_of_transition {state next : ProfileFactState}
    {candidates : List ProfileFactUpsertInput} {nowIso : String}
    (h : applySupportOnlyTransitionFactCandidates platform state candidates nowIso = some next) :
    ∃ targets, next.facts = state.facts.map (afterTransition platform targets nowIso) := by
  obtain ⟨targets, -, hnext⟩ := Option.bind_eq_some_iff.mp h
  refine ⟨targets, ?_⟩
  split_ifs at hnext with htarget
  · rw [← Option.some.inj hnext]
    rfl
  · rw [← Option.some.inj hnext]
    conv_lhs => rw [← List.map_id state.facts]
    refine List.map_congr_left fun fact hfact => ?_
    have hno : ¬ isSupportOnlyTransitionCandidateTarget platform targets fact = true :=
      fun hmem => htarget (List.any_eq_true.mpr ⟨fact, hfact, hmem⟩)
    rw [afterTransition, if_neg hno]
    rfl

lemma activeFactsOf_transition (targets : List SupportOnlyTransitionTarget) (nowIso key : String)
    (facts : List ProfileFactRecord) :
    (activeFactsOf key (facts.map (afterTransition platform targets nowIso))).Sublist
      (activeFactsOf key facts) := by
  induction facts with
  | nil => exact List.Sublist.refl _
  | cons fact facts ih =>
      change (activeFactsOf key ([afterTransition platform targets nowIso fact] ++
        facts.map (afterTransition platform targets nowIso))).Sublist
          (activeFactsOf key ([fact] ++ facts))
      rw [activeFactsOf_append, activeFactsOf_append]
      refine List.Sublist.append ?_ ih
      unfold afterTransition
      split_ifs
      · simp [activeFactsOf, isActiveOf]
      · exact List.Sublist.refl _

/-- What the transitions leave of settled facts is settled. -/
lemma SettledFacts.transition {state next : ProfileFactState}
    (hsettled : SettledFacts platform state.facts) {candidates : List ProfileFactUpsertInput}
    {nowIso : String} (hnow : IsoText platform nowIso)
    (h : applySupportOnlyTransitionFactCandidates platform state candidates nowIso = some next) :
    SettledFacts platform next.facts := by
  obtain ⟨targets, hfacts⟩ := facts_of_transition h
  rw [hfacts]
  refine ⟨?_, ?_, fun key => (hsettled.active key).sublist (activeFactsOf_transition _ _ _ _)⟩
  · intro fact hfact
    obtain ⟨prior, hprior, rfl⟩ := List.mem_map.mp hfact
    unfold afterTransition
    split_ifs
    · exact (hsettled.records prior hprior).toSuperseded hnow
    · exact hsettled.records prior hprior
  · have hids : factIds (state.facts.map (afterTransition platform targets nowIso)) =
        factIds state.facts := by
      rw [factIds, factIds, List.map_map]
      refine List.map_congr_left fun fact _ => ?_
      simp only [Function.comp_apply, afterTransition]
      split_ifs <;> rfl
    rw [hids]
    exact hsettled.ids

/-! ## Calls of the store -/

lemma loaded_of_settled {stored loaded : ProfileFactState} {now : String}
    (hsettled : SettledFacts platform stored.facts)
    (hload : normalizeProfileMemoryState platform stored now = some loaded) :
    loaded.facts = stored.facts := by
  obtain ⟨updatedAt, hupdatedAt, -⟩ := Option.bind_eq_some_iff.mp hload
  rw [normalizeProfileMemoryState_of_settled hsettled hupdatedAt] at hload
  rw [← Option.some.inj hload]

lemma markStale_congr {state other : ProfileFactState} (h : state.facts = other.facts)
    (maxAgeDays : ℚ) (nowIso : String) :
    (markStaleFactsAsUncertain platform state maxAgeDays nowIso).facts =
      (markStaleFactsAsUncertain platform other maxAgeDays nowIso).facts := by
  rw [facts_of_marking, facts_of_marking, h]

/-- A batch reads of a state its facts only. -/
lemma applyFrom_congr {candidates : List ProfileFactUpsertInput}
    {start result : ProfileFactCandidateApplyResult} {readings : ℕ → UpsertReadings}
    (happly : applyFrom platform start readings candidates = some result)
    (other : ProfileFactCandidateApplyResult)
    (hfacts : start.nextState.facts = other.nextState.facts)
    (happlied : start.appliedFacts = other.appliedFacts) :
    ∃ next, applyFrom platform other readings candidates = some next ∧
      result.nextState.facts = next.nextState.facts ∧ result.appliedFacts = next.appliedFacts := by
  induction candidates generalizing start other readings with
  | nil =>
      cases happly
      exact ⟨other, rfl, hfacts, happlied⟩
  | cons candidate candidates ih =>
      obtain ⟨upserted, hupsert, hrest⟩ := Option.bind_eq_some_iff.mp happly
      have hsame : upsertTemporalProfileFact platform other.nextState candidate (readings 0) =
          some upserted := by
        rw [← hupsert, upsertTemporalProfileFact, upsertTemporalProfileFact, hfacts]
      obtain ⟨next, hnext, hresult⟩ := ih hrest
        { nextState := upserted.nextState
          appliedFacts := other.appliedFacts + if upserted.applied then 1 else 0
          supersededFacts := other.supersededFacts + upserted.supersededFactIds.length }
        rfl (by rw [happlied])
      refine ⟨next, ?_, hresult⟩
      rw [applyFrom, hsame]
      exact hnext

lemma reconcile_congr {state other : ProfileFactState} (h : state.facts = other.facts)
    {maxAgeDays : ℚ} {readings : LoadReadings} {next : ProfileFactState}
    (hnext : reconcileLoadedState platform maxAgeDays state readings = some next) :
    ∃ reconciled, reconcileLoadedState platform maxAgeDays other readings = some reconciled ∧
      reconciled.facts = next.facts := by
  obtain ⟨result, hresult, hsome⟩ := Option.bind_eq_some_iff.mp hnext
  have hmarked : (markStaleFactsAsUncertain platform state maxAgeDays readings.staleNow).facts =
      (markStaleFactsAsUncertain platform other maxAgeDays readings.staleNow).facts :=
    markStale_congr h maxAgeDays readings.staleNow
  obtain ⟨otherResult, hother, hfacts, happlied⟩ := applyFrom_congr hresult
    ⟨markStaleFactsAsUncertain platform other maxAgeDays readings.staleNow, 0, 0⟩ hmarked rfl
  refine ⟨_, Option.bind_eq_some_iff.mpr ⟨otherResult, hother, rfl⟩, ?_⟩
  rw [← Option.some.inj hsome, happlied]
  split_ifs
  · exact hfacts.symm
  · exact hmarked.symm

/-- What a load makes of stored facts that are settled. -/
lemma SettledFacts.reconcile (hiso : TrimmedIso platform) {maxAgeDays : ℚ}
    {stored : ProfileFactState} {readings : LoadReadings}
    (hsettled : SettledFacts platform stored.facts)
    (hmeets : LoadMeets platform maxAgeDays stored readings) {next : ProfileFactState}
    (hnext : reconcileLoadedState platform maxAgeDays stored readings = some next) :
    SettledFacts platform next.facts := by
  have hmarked := hsettled.marking hmeets.staleNow hmeets.stale
  obtain ⟨result, hresult, hsome⟩ := Option.bind_eq_some_iff.mp hnext
  rw [← Option.some.inj hsome]
  split_ifs
  · exact hmarked.batch hiso hmeets.upserts hresult
  · exact hmarked

/-- A load of settled facts reconciles the stored state itself. -/
lemma reconcile_of_load {maxAgeDays : ℚ} {stored next : ProfileFactState}
    {readings : LoadReadings} (hsettled : SettledFacts platform stored.facts)
    (hload : loadProfileState platform maxAgeDays stored readings = some next) :
    ∃ reconciled, reconcileLoadedState platform maxAgeDays stored readings = some reconciled ∧
      reconciled.facts = next.facts := by
  obtain ⟨loaded, hloaded, hreconcile⟩ := Option.bind_eq_some_iff.mp hload
  exact reconcile_congr (loaded_of_settled hsettled hloaded) hreconcile

/-- A transition reads of a state its facts only. -/
lemma transition_congr {state other next : ProfileFactState} (h : state.facts = other.facts)
    {candidates : List ProfileFactUpsertInput} {nowIso : String}
    (hnext : applySupportOnlyTransitionFactCandidates platform state candidates nowIso =
      some next) :
    ∃ transitioned, applySupportOnlyTransitionFactCandidates platform other candidates nowIso =
      some transitioned ∧ transitioned.facts = next.facts := by
  obtain ⟨targets, htargets, hsome⟩ := Option.bind_eq_some_iff.mp hnext
  rw [h] at hsome
  simp only [applySupportOnlyTransitionFactCandidates, htargets, Option.bind_eq_bind,
    Option.bind_some]
  split_ifs at hsome ⊢
  · rw [← Option.some.inj hsome]
    exact ⟨_, rfl, rfl⟩
  · rw [← Option.some.inj hsome]
    exact ⟨other, rfl, h.symm⟩

lemma SettledFacts.ingest (hiso : TrimmedIso platform) {maxAgeDays : ℚ}
    {stored next : ProfileFactState} {candidates : List ProfileFactUpsertInput}
    {readings : IngestReadings} (hsettled : SettledFacts platform stored.facts)
    (hmeets : IngestMeets platform maxAgeDays stored candidates readings)
    (hnext : ingestFromTaskInput platform maxAgeDays stored candidates readings = some next) :
    SettledFacts platform next.facts := by
  simp only [ingestFromTaskInput, Option.bind_eq_bind, Option.bind_eq_some_iff] at hnext
  obtain ⟨state, hload, factDecisions, hgoverned, transitioned, htransition, result, hresult,
    hsome⟩ := hnext
  obtain ⟨reconciled, hreconcile, hfacts⟩ := reconcile_of_load hsettled hload
  obtain ⟨other, hother, hotherFacts⟩ := transition_congr hfacts.symm htransition
  have hreconciled := hsettled.reconcile hiso hmeets.load hreconcile
  have htransitioned := hreconciled.transition hmeets.transitionNow hother
  have halong := hmeets.upserts reconciled hreconcile factDecisions hgoverned other hother
  rw [hotherFacts] at htransitioned
  have happlied := htransitioned.batch hiso (along_upserts_congr hotherFacts halong) hresult
  split_ifs at hsome
  · rwa [← Option.some.inj hsome]
  · rw [← Option.some.inj hsome]
    exact happlied

lemma SettledFacts.correct (hiso : TrimmedIso platform) {maxAgeDays : ℚ}
    {stored next : ProfileFactState} {request : ProfileFactCorrectionRequest}
    {readings : CorrectionReadings} (hsettled : SettledFacts platform stored.facts)
    (hmeets : CorrectionMeets platform maxAgeDays stored request readings)
    (hnext : correctFactFromUser platform maxAgeDays stored request readings = some next) :
    SettledFacts platform next.facts := by
  obtain ⟨state, hload, hbody⟩ := Option.bind_eq_some_iff.mp hnext
  obtain ⟨reconciled, hreconcile, hfacts⟩ := reconcile_of_load hsettled hload
  have hreconciled := hsettled.reconcile hiso hmeets.load hreconcile
  split at hbody
  · rwa [← Option.some.inj hbody]
  · rename_i targetFact htarget
    simp only [Option.bind_eq_bind, Option.bind_eq_some_iff] at hbody
    obtain ⟨input, hinput, result, hresult, hsome⟩ := hbody
    have hmem : targetFact ∈ reconciled.facts := hfacts ▸ List.mem_of_find?_eq_some htarget
    have hcall := (hmeets.upsert reconciled hreconcile targetFact hmem input hinput).congr hfacts
    have hstep : factUpsertStep platform state ⟨input, readings.upsert⟩ =
        some result.nextState := by
      rw [factUpsertStep, hresult]
      rfl
    have hupserted : SettledFacts platform result.nextState.facts :=
      (hfacts ▸ hreconciled : SettledFacts platform state.facts).upsertStep hiso hcall hstep
    rw [← Option.some.inj hsome]
    exact hupserted

lemma settled_of_step (hiso : TrimmedIso platform) {maxAgeDays : ℚ}
    {stored next : ProfileFactState} {call : ProfileStoreCall}
    (hsettled : SettledFacts platform stored.facts)
    (hmeets : StoreMeets platform maxAgeDays stored call)
    (hstep : storeStep platform maxAgeDays stored call = some next) :
    SettledFacts platform next.facts := by
  cases call with
  | ingest candidates readings =>
      rw [← Option.some.inj hstep]
      cases hingest : ingestFromTaskInput platform maxAgeDays stored candidates readings with
      | none => exact hsettled
      | some left => exact hsettled.ingest hiso hmeets hingest
  | correct request readings =>
      rw [← Option.some.inj hstep]
      cases hcorrect : correctFactFromUser platform maxAgeDays stored request readings with
      | none => exact hsettled
      | some left => exact hsettled.correct hiso hmeets hcorrect

lemma settled_empty (startedAt : String) :
    SettledFacts platform (ProfileFactState.empty startedAt).facts where
  records _ hfact := absurd hfact List.not_mem_nil
  ids := List.nodup_nil
  active _ := List.Pairwise.nil

/-- After every run of ingests and corrections that meet the conditions, the load of the stored
state gives back exactly its facts. -/
theorem reload_of_run (hiso : TrimmedIso platform) {maxAgeDays : ℚ} {startedAt : String}
    {calls : List ProfileStoreCall}
    (hmeets : Along (storeStep platform maxAgeDays) (StoreMeets platform maxAgeDays)
      (.empty startedAt) calls)
    {stored : ProfileFactState}
    (hrun : run (storeStep platform maxAgeDays) (.empty startedAt) calls = some stored)
    {now updatedAt : String}
    (hupdatedAt : safeIsoOrNow platform (some stored.updatedAt) now = some updatedAt) :
    normalizeProfileMemoryState platform stored now =
      some ⟨PROFILE_MEMORY_SCHEMA_VERSION, updatedAt, stored.facts⟩ := by
  have hstep : ∀ (state : ProfileFactState) (call : ProfileStoreCall) (next : ProfileFactState),
      SettledFacts platform state.facts → StoreMeets platform maxAgeDays state call →
        storeStep platform maxAgeDays state call = some next → SettledFacts platform next.facts :=
    fun _ _ _ hsettled hcall hnext => settled_of_step hiso hsettled hcall hnext
  exact normalizeProfileMemoryState_of_settled
    (invariant_of_along hstep (settled_empty startedAt) hmeets hrun) hupdatedAt

/-! ## A correction, saved and read back -/

def reloadDates : List (String × ℤ) :=
  [("2026-03-01T10:00:00.000Z", 1772359200000), ("2026-03-02T10:00:00.000Z", 1772445600000)]

def reloadPlatform : BridgePlatform :=
  .ofDates reloadDates (by decide)

lemma reloadPlatform_trimmedIso : TrimmedIso reloadPlatform := by
  intro ms text h
  have hdates : ∀ date ∈ reloadDates, trim date.1 = date.1 := by decide
  have hmem : (text, ms) ∈ reloadDates := mem_of_textOfTime h
  exact hdates (text, ms) hmem

def readingsAt (iso newId : String) : UpsertReadings :=
  ⟨iso, iso, newId⟩

/-- A load at a time that finds no commitment resolved. -/
def loadAt (iso : String) : LoadReadings where
  updatedNow := iso
  staleNow := iso
  reconcileNow := iso
  resolved := []
  upserts _ := readingsAt iso "profile_fact_0"

def saidAt (iso key value source : String) : ProfileFactUpsertInput where
  key := key
  value := value
  sensitive := false
  sourceTaskId := "task_1"
  source := source
  observedAt := some iso
  confidence := some (95 / 100)
  mutationAudit := none

def ingestAt (iso : String) (newIds : List String) : IngestReadings where
  load := loadAt iso
  transitionNow := iso
  upserts index := readingsAt iso (newIds.getD index "profile_fact")
  appliedEpisodes := 0
  graphChanged := true
  savedAt := iso

/-- An employer is stated and, a day later, corrected under review. -/
def correctedEmployer : List ProfileStoreCall :=
  [.ingest [saidAt "2026-03-01T10:00:00.000Z" "employment.current" "Acme"
      "user_input_pattern.work_at"]
      (ingestAt "2026-03-01T10:00:00.000Z" ["profile_fact_1"]),
    .correct ⟨"profile_fact_1", "Globex", "task_2", "2026-03-02T10:00:00.000Z"⟩
      { load := loadAt "2026-03-02T10:00:00.000Z"
        upsert := readingsAt "2026-03-02T10:00:00.000Z" "profile_fact_2"
        validatePreferredNameCandidateValue := some }]

theorem correctedEmployer_reloads : ∃ stored,
    run (storeStep reloadPlatform 90) (.empty "2026-03-01T10:00:00.000Z") correctedEmployer =
      some stored ∧ stored.facts.map (·.value) = ["Acme", "Globex"] ∧
      normalizeProfileMemoryState reloadPlatform stored "2026-03-02T10:00:00.000Z" =
        some ⟨PROFILE_MEMORY_SCHEMA_VERSION, "2026-03-02T10:00:00.000Z", stored.facts⟩ := by
  have hcalls : Along (storeStep reloadPlatform 90) (StoreMeets reloadPlatform 90)
        (.empty "2026-03-01T10:00:00.000Z") correctedEmployer ∧
      (run (storeStep reloadPlatform 90) (.empty "2026-03-01T10:00:00.000Z")
        correctedEmployer).map (fun state => (state.updatedAt, state.facts.map (·.value))) =
          some ("2026-03-02T10:00:00.000Z", ["Acme", "Globex"]) := by
    decide +kernel
  obtain ⟨hmeets, hvalues⟩ := hcalls
  obtain ⟨stored, hrun, hstored⟩ := Option.map_eq_some_iff.mp hvalues
  obtain ⟨hstamp, hfacts⟩ := Prod.mk.inj hstored
  refine ⟨stored, hrun, hfacts, reload_of_run reloadPlatform_trimmedIso hmeets hrun ?_⟩
  rw [hstamp]
  decide

/-! ## A follow-up that is open again -/

/-- In one turn a follow-up is closed and then said to be pending; the id drawn for the second
value sorts before that of the first. -/
def reopenedFollowup : List ProfileStoreCall :=
  [.ingest [saidAt "2026-03-01T10:00:00.000Z" "followup.tax" "resolved"
        "user_input_pattern.followup_resolved",
      saidAt "2026-03-01T10:00:00.000Z" "followup.tax" "pending" "user_input_pattern.my_is"]
    (ingestAt "2026-03-01T10:00:00.000Z" ["profile_fact_2", "profile_fact_1"])]

/-- The load supersedes the later value, which the store had kept beside the other. -/
theorem reopened_followup_superseded : ¬ ∀ (platform : BridgePlatform),
    TrimmedIso platform → ∀ (maxAgeDays : ℚ) (startedAt : String) (calls : List ProfileStoreCall)
      (stored : ProfileFactState) (now updatedAt : String),
      run (storeStep platform maxAgeDays) (.empty startedAt) calls = some stored →
      safeIsoOrNow platform (some stored.updatedAt) now = some updatedAt →
      normalizeProfileMemoryState platform stored now =
        some ⟨PROFILE_MEMORY_SCHEMA_VERSION, updatedAt, stored.facts⟩ := by
  intro hclaim
  have hstatuses : (run (storeStep reloadPlatform 90) (.empty "2026-03-01T10:00:00.000Z")
      reopenedFollowup).map (fun state => (state.updatedAt, state.facts.map (·.status),
        (normalizeProfileMemoryState reloadPlatform state "2026-03-01T10:00:00.000Z").map
          fun loaded => loaded.facts.map (·.status))) =
        some ("2026-03-01T10:00:00.000Z", [.confirmed, .uncertain],
          some [.confirmed, .superseded]) := by
    decide +kernel
  obtain ⟨stored, hrun, hstored⟩ := Option.map_eq_some_iff.mp hstatuses
  obtain ⟨hstamp, hrest⟩ := Prod.mk.inj hstored
  obtain ⟨hsaved, hloaded⟩ := Prod.mk.inj hrest
  have hstampParses : safeIsoOrNow reloadPlatform (some stored.updatedAt)
      "2026-03-01T10:00:00.000Z" = some "2026-03-01T10:00:00.000Z" := by
    rw [hstamp]
    decide
  rw [hclaim reloadPlatform reloadPlatform_trimmedIso 90 _ _ stored _ _ hrun hstampParses,
    Option.map_some, hsaved] at hloaded
  exact absurd hloaded (by decide)

end AgentBigBrain.Core
