import AgentBigBrain.Core.ProfileFactNormalization

/-!
# The profile store

An operation of the store reads the stored facts back, marks stale ones, closes the follow-ups
that other facts resolve, and then ingests governed candidates or corrects a fact under review.
What the graph, the episodes and the receipts do beside is seen only where it decides whether
the state is saved.
-/
namespace AgentBigBrain.Core

open AgentBigBrain.Js AgentBigBrain.Lib

variable (platform : BridgePlatform)

/-! ## Loading -/

/-- `assessProfileFactFreshness(fact, maxAgeDays, nowIso).stale`; a time that does not parse
compares with no bound. -/
def isStaleFact (maxAgeDays : ℚ) (nowIso : String) (fact : ProfileFactRecord) : Bool :=
  match platform.dateParse fact.observedAt, platform.dateParse nowIso with
  | some observed, some now =>
      let ageDays : ℤ := max 0 ((now - observed) / 86400000)
      decide (max 0 maxAgeDays < ageDays)
  | _, _ => false

/-- The facts that become uncertain. -/
def isMarkedStale (maxAgeDays : ℚ) (nowIso : String) (fact : ProfileFactRecord) : Bool :=
  isActiveFact fact && decide (fact.status = .confirmed) &&
    isStaleFact platform maxAgeDays nowIso fact

def markStaleFact (nowIso : String) (fact : ProfileFactRecord) : ProfileFactRecord :=
  { fact with
    status := .uncertain
    confidence := min fact.confidence (1 / 2)
    lastUpdatedAt := nowIso }

def markStaleFactsAsUncertain (state : ProfileFactState) (maxAgeDays : ℚ) (nowIso : String) :
    ProfileFactState :=
  if state.facts.any (isMarkedStale platform maxAgeDays nowIso) then
    { schemaVersion := PROFILE_MEMORY_SCHEMA_VERSION
      updatedAt := nowIso
      facts := state.facts.map fun fact =>
        if isMarkedStale platform maxAgeDays nowIso fact then markStaleFact nowIso fact else fact }
  else
    state

def SYSTEM_COMMITMENT_RECONCILIATION_TASK_ID : String := "profile_memory_reconciliation"

/-- An unresolved fact that another fact resolves, and the audit record of that one. -/
structure ResolvedCommitment where
  unresolvedFact : ProfileFactRecord
  mutationAudit : ProfileMutationAuditMetadataV1
  deriving DecidableEq

/-- Which commitments are resolved is a matter of the rules on signals and topics; here they are
given. -/
def buildStateReconciliationResolutionCandidates (resolved : List ResolvedCommitment)
    (observedAt : String) : List ProfileFactUpsertInput :=
  resolved.map fun commitment =>
    { key := normalizeProfileKey platform commitment.unresolvedFact.key
      value := "resolved"
      sensitive := commitment.unresolvedFact.sensitive
      sourceTaskId := SYSTEM_COMMITMENT_RECONCILIATION_TASK_ID
      source := "profile_state_reconciliation.followup_resolved"
      observedAt := some observedAt
      confidence := some (9 / 10)
      mutationAudit := some commitment.mutationAudit }

/-- What a load reads from the clock, the id generator and the rules on commitments. -/
structure LoadReadings where
  updatedNow : String
  staleNow : String
  reconcileNow : String
  resolved : List ResolvedCommitment
  upserts : ℕ → UpsertReadings

def reconcileLoadedState (maxAgeDays : ℚ) (state : ProfileFactState) (readings : LoadReadings) :
    Option ProfileFactState := do
  let marked := markStaleFactsAsUncertain platform state maxAgeDays readings.staleNow
  let reconciliationResult ← applyProfileFactCandidates platform marked
    (buildStateReconciliationResolutionCandidates platform readings.resolved
      readings.reconcileNow) readings.upserts
  some (if 0 < reconciliationResult.appliedFacts then reconciliationResult.nextState else marked)

/-- `ProfileMemoryStore.load`; `none` where it throws. -/
def loadProfileState (maxAgeDays : ℚ) (stored : ProfileFactState) (readings : LoadReadings) :
    Option ProfileFactState := do
  let state ← normalizeProfileMemoryState platform stored readings.updatedNow
  reconcileLoadedState platform maxAgeDays state readings

/-! ## Support-only transitions -/

def WORK_LINKAGE_TRANSITION_SOURCES : List String :=
  ["user_input_pattern.work_with_contact_severed",
    "user_input_pattern.work_with_contact_historical",
    "user_input_pattern.work_association_historical",
    "conversation.relationship_interpretation_historical",
    "conversation.relationship_interpretation_severed"]

structure SupportOnlyTransitionTarget where
  key : String
  matchAnyValue : Bool
  normalizedValue : Option String
  deriving DecidableEq

def buildWorkLinkageTransitionTargets (normalizedKey : String) :
    List SupportOnlyTransitionTarget :=
  match normalizedKey.toList.splitOn '.' with
  | [contact, token, field] =>
      if contact = "contact".toList ∧ token ≠ [] ∧
          (field = "relationship".toList ∨ field = "work_association".toList) then
        let contactPrefix := "contact." ++ String.ofList token
        [⟨contactPrefix ++ ".relationship", false, some "work_peer"⟩,
          ⟨contactPrefix ++ ".work_association", true, none⟩]
      else
        [⟨normalizedKey, false, none⟩]
  | _ => [⟨normalizedKey, false, none⟩]

/-- The targets of one candidate; `none` where its key is not a text. -/
def supportOnlyTransitionTargetsOf (candidate : ProfileFactUpsertInput) :
    Option (List SupportOnlyTransitionTarget) := do
  let normalizedKey ← canonicalizeProfileKey platform candidate.key
  let normalizedValue := normalizeProfileValue candidate.value
  let family := inferGovernanceFamilyForNormalizedKey platform normalizedKey normalizedValue
  if (getProfileMemoryFamilyRegistryEntry family).endStatePolicy ≠ .supportOnlyTransition then
    some []
  else if normalizedText platform candidate.source ∈ WORK_LINKAGE_TRANSITION_SOURCES then
    some (buildWorkLinkageTransitionTargets normalizedKey)
  else
    some [⟨normalizedKey, false, some normalizedValue⟩]

/-- The targets; that each stands once does not change what they match. -/
def buildSupportOnlyTransitionTargets (candidates : List ProfileFactUpsertInput) :
    Option (List SupportOnlyTransitionTarget) := do
  let targets ← candidates.mapM (supportOnlyTransitionTargetsOf platform)
  some (uniqueValues targets.flatten)

/-- A key that is not a text matches no target. -/
def isSupportOnlyTransitionCandidateTarget (targets : List SupportOnlyTransitionTarget)
    (fact : ProfileFactRecord) : Bool :=
  isActiveFact fact && targets.any fun target =>
    decide (canonicalizeProfileKey platform fact.key = some target.key) &&
      (target.matchAnyValue ||
        decide (target.normalizedValue = some (normalizeProfileValue fact.value)))

def applySupportOnlyTransitionFactCandidates (state : ProfileFactState)
    (candidates : List ProfileFactUpsertInput) (nowIso : String) : Option ProfileFactState := do
  let targets ← buildSupportOnlyTransitionTargets platform candidates
  if state.facts.any (isSupportOnlyTransitionCandidateTarget platform targets) then
    some { state with
      updatedAt := nowIso
      facts := state.facts.map fun fact =>
        if isSupportOnlyTransitionCandidateTarget platform targets fact then
          toSupersededFact fact nowIso
        else
          fact }
  else
    some state

/-! ## Ingests -/

/-- What an ingest reads from the clock and the id generator, and what else it applies: the
episodes it touches, whether the graph changed, and the stamp the state is saved under. -/
structure IngestReadings where
  load : LoadReadings
  transitionNow : String
  upserts : ℕ → UpsertReadings
  appliedEpisodes : ℕ
  graphChanged : Bool
  savedAt : String

/-- `ingestFromTaskInput` with the candidates of the input, as the stored state it leaves. -/
def ingestFromTaskInput (maxAgeDays : ℚ) (stored : ProfileFactState)
    (candidates : List ProfileFactUpsertInput) (readings : IngestReadings) :
    Option ProfileFactState := do
  let state ← loadProfileState platform maxAgeDays stored readings.load
  let factDecisions ← governProfileMemoryCandidates platform candidates
  let supportOnly := allowedSupportOnlyFactCandidates factDecisions
  let transitioned ← applySupportOnlyTransitionFactCandidates platform state supportOnly
    readings.transitionNow
  let applyResult ← applyProfileFactCandidates platform transitioned
    (allowedCurrentStateFactCandidates factDecisions ++
      selectCompatibilitySafeSupportOnlyFactCandidates platform supportOnly) readings.upserts
  if applyResult.appliedFacts + readings.appliedEpisodes = 0 ∧ readings.graphChanged = false then
    some stored
  else
    some { applyResult.nextState with updatedAt := readings.savedAt }

/-! ## Corrections -/

/-- An address has a slash, so the first test refuses it. -/
def isSafeReviewReplacementValue (value : String) : Bool :=
  decide (utf16Length value ≤ 160) &&
    value.toList.all fun c => !("\\/`$=<>\x7b\x7d[]()".toList.contains c)

def valueTokens (value : String) : List (List Char) :=
  (value.toList.splitOnP isWhitespace).filter (· ≠ [])

def looksLikeCompactReviewLabel (value : String) : Bool :=
  decide (valueTokens value ≠ []) && decide ((valueTokens value).length ≤ 8) &&
    !(["and", "but", "because", "while", "although", "though", "then"].any
      (hasWord (asciiLower value)))

def looksLikeCompactRelationshipValue (value : String) : Bool :=
  decide (valueTokens value ≠ []) && decide ((valueTokens value).length ≤ 4)

def isApprovedGenericReviewCorrectionKey (key : String) : Bool :=
  decide (key ∈ ["preference.accessibility", "preference.communication", "relationship.role"])

/-- `none` where the correction throws; the names that a person may be called by are given. -/
def validateProfileFactReviewReplacementValue
    (validatePreferredNameCandidateValue : String → Option String)
    (family : ProfileMemoryGovernanceFamily) (key replacementValue : String) : Option String :=
  let normalizedValue := normalizeProfileValue replacementValue
  if normalizedValue = "" ∨ isSafeReviewReplacementValue normalizedValue = false then
    none
  else
    match family with
    | .identityPreferredName => validatePreferredNameCandidateValue normalizedValue
    | .employmentCurrent | .residenceCurrent | .contactWorkAssociation
    | .contactOrganizationAssociation | .contactLocationAssociation =>
        if looksLikeCompactReviewLabel normalizedValue then some normalizedValue else none
    | .contactRelationship =>
        if looksLikeCompactRelationshipValue normalizedValue then some normalizedValue else none
    | .genericProfileFact =>
        if isApprovedGenericReviewCorrectionKey key then some normalizedValue else none
    | _ => some normalizedValue

structure ProfileFactCorrectionRequest where
  factId : String
  replacementValue : String
  sourceTaskId : String
  nowIso : String

structure CorrectionReadings where
  load : LoadReadings
  upsert : UpsertReadings
  validatePreferredNameCandidateValue : String → Option String

/-- The upsert that a correction of a fact makes; `none` where it throws. -/
def correctionInput (request : ProfileFactCorrectionRequest) (readings : CorrectionReadings)
    (targetFact : ProfileFactRecord) : Option ProfileFactUpsertInput := do
  let family := inferGovernanceFamilyForNormalizedKey platform
    (normalizedText platform targetFact.key) targetFact.value
  if !(getProfileMemoryFamilyRegistryEntry family).currentStateEligible then none
  let value ← validateProfileFactReviewReplacementValue
    readings.validatePreferredNameCandidateValue family targetFact.key request.replacementValue
  let sensitive ← applyProfileMemoryMinimumSensitivityFloor platform family targetFact.sensitive
    targetFact.key
  some {
    key := targetFact.key
    value, sensitive
    sourceTaskId := request.sourceTaskId
    source := MEMORY_REVIEW_FACT_CORRECTION_SOURCE
    observedAt := some request.nowIso
    confidence := some 1
    mutationAudit := none }

/-- `mutateFactFromUser` with the action `correct`, as the stored state it leaves. -/
def correctFactFromUser (maxAgeDays : ℚ) (stored : ProfileFactState)
    (request : ProfileFactCorrectionRequest) (readings : CorrectionReadings) :
    Option ProfileFactState := do
  let state ← loadProfileState platform maxAgeDays stored readings.load
  match state.facts.find? fun fact => decide (fact.id = request.factId) && isActiveFact fact with
  | none => some stored
  | some targetFact =>
      let input ← correctionInput platform request readings targetFact
      let applyResult ← upsertTemporalProfileFact platform state input readings.upsert
      some { applyResult.nextState with updatedAt := request.nowIso }

/-! ## Runs -/

inductive ProfileStoreCall where
  | ingest (candidates : List ProfileFactUpsertInput) (readings : IngestReadings)
  | correct (request : ProfileFactCorrectionRequest) (readings : CorrectionReadings)

/-- The stored state after a call; a call that throws leaves it. -/
def storeStep (maxAgeDays : ℚ) (stored : ProfileFactState) :
    ProfileStoreCall → Option ProfileFactState
  | .ingest candidates readings =>
      some ((ingestFromTaskInput platform maxAgeDays stored candidates readings).getD stored)
  | .correct request readings =>
      some ((correctFactFromUser platform maxAgeDays stored request readings).getD stored)

end AgentBigBrain.Core
