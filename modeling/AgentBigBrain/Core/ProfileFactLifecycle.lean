import AgentBigBrain.Core.BridgeQuestions

/-!
# Upserts of profile facts

What is known about the user is a list of facts, each a value for a dotted key. A new value is
written under the displacement policy of its family: it replaces the active values of the key,
joins them, or is kept beside them as uncertain. No fact leaves the list; what is displaced is
superseded.
-/
namespace AgentBigBrain.Core

open AgentBigBrain.Js AgentBigBrain.Lib

variable (platform : BridgePlatform)

/-! ## Normalization -/

/-- The characters that `/[^a-z0-9_.\s-]+/` leaves. -/
def isProfileKeyChar (c : Char) : Bool :=
  ('a' ≤ c && c ≤ 'z') || ('0' ≤ c && c ≤ '9') || c == '_' || c == '.' || isWhitespace c ||
    c == '-'

/-- `text.replace(/[…]+/g, ".")` on characters; `inRun` says that the dot of the current run is
already written. -/
def dotRuns (inSet : Char → Bool) (inRun : Bool) : List Char → List Char
  | [] => []
  | c :: cs =>
      if inSet c then
        if inRun then dotRuns inSet true cs else '.' :: dotRuns inSet true cs
      else
        c :: dotRuns inSet false cs

/-- `text.replace(/^\./, "")` on characters. -/
def dropDot : List Char → List Char
  | '.' :: cs => cs
  | cs => cs

def normalizeProfileKey (input : String) : String :=
  let kept := (platform.toLowerCase (trim input)).toList.filter isProfileKeyChar
  let dotted := dotRuns (· == '.') false
    (dotRuns (fun c => isWhitespace c || c == '-') false kept)
  String.ofList (dropDot (dropDot dotted).reverse).reverse

def PROFILE_KEY_ALIASES : List (String × String) :=
  [("name", "identity.preferred_name"), ("full.name", "identity.preferred_name"),
    ("nickname", "identity.preferred_name"), ("preferred.name", "identity.preferred_name")]

/-- The members of `Object.prototype` among the keys. -/
def inheritedKeys : List String :=
  ["constructor", "__proto__"]

/-- `none` where the table answers with an inherited member, which no text operation takes. -/
def canonicalizeProfileKey (input : String) : Option String :=
  let normalized := normalizeProfileKey platform input
  match PROFILE_KEY_ALIASES.lookup normalized with
  | some canonical => some canonical
  | none => if normalized ∈ inheritedKeys then none else some normalized

def normalizeProfileValue (input : String) : String :=
  normalizeWhitespace input

@[simp] lemma normalizeProfileValue_idem (input : String) :
    normalizeProfileValue (normalizeProfileValue input) = normalizeProfileValue input :=
  normalizeWhitespace_idem input

/-! ## Families -/

inductive ProfileMemoryGovernanceFamily where
  | identityPreferredName
  | employmentCurrent
  | residenceCurrent
  | followupResolution
  | contactName
  | contactRelationship
  | contactWorkAssociation
  | contactOrganizationAssociation
  | contactLocationAssociation
  | contactSchoolAssociation
  | contactContext
  | contactEntityHint
  | genericProfileFact
  | episodeCandidate
  | episodeResolution
  deriving DecidableEq

inductive ProfileMemoryDisplacementPolicy where
  | notApplicable
  | preservePriorOnConflict
  | replaceAuthoritativeSuccessor
  | appendMultiValue
  | resolutionOnly
  deriving DecidableEq

/-- `PROFILE_MEMORY_FAMILY_REGISTRY[family].displacementPolicy`. -/
def ProfileMemoryGovernanceFamily.displacementPolicy :
    ProfileMemoryGovernanceFamily → ProfileMemoryDisplacementPolicy
  | .identityPreferredName => .replaceAuthoritativeSuccessor
  | .employmentCurrent => .preservePriorOnConflict
  | .residenceCurrent => .preservePriorOnConflict
  | .followupResolution => .resolutionOnly
  | .contactName => .preservePriorOnConflict
  | .contactRelationship => .preservePriorOnConflict
  | .contactWorkAssociation => .preservePriorOnConflict
  | .contactOrganizationAssociation => .preservePriorOnConflict
  | .contactLocationAssociation => .appendMultiValue
  | .contactSchoolAssociation => .preservePriorOnConflict
  | .contactContext => .appendMultiValue
  | .contactEntityHint => .notApplicable
  | .genericProfileFact => .preservePriorOnConflict
  | .episodeCandidate => .appendMultiValue
  | .episodeResolution => .resolutionOnly

/-- The family that `/^contact\.[^.]+\.…$/` gives to the last part of a key. -/
def contactFamilyOfField : String → Option ProfileMemoryGovernanceFamily
  | "name" => some .contactName
  | "relationship" => some .contactRelationship
  | "work_association" => some .contactWorkAssociation
  | "organization_association" => some .contactOrganizationAssociation
  | "location_association" => some .contactLocationAssociation
  | "primary_location_association" => some .contactLocationAssociation
  | "secondary_location_association" => some .contactLocationAssociation
  | "school_association" => some .contactSchoolAssociation
  | _ => none

/-- The contact family of a key, by its parts between dots. -/
def contactFamily (parts : List (List Char)) : Option ProfileMemoryGovernanceFamily :=
  match parts with
  | [contact, token, field] =>
      if contact = "contact".toList ∧ token ≠ [] then
        contactFamilyOfField (String.ofList field)
      else
        none
  | contact :: token :: context :: _ :: _ =>
      if contact = "contact".toList ∧ token ≠ [] ∧ context = "context".toList then
        some .contactContext
      else
        none
  | _ => none

def inferGovernanceFamilyForNormalizedKey (normalizedKey rawValue : String) :
    ProfileMemoryGovernanceFamily :=
  if normalizedKey = "identity.preferred_name" then
    .identityPreferredName
  else if normalizedKey = "employment.current" then
    .employmentCurrent
  else if normalizedKey = "residence.current" then
    .residenceCurrent
  else if startsWith normalizedKey "followup." = true ∧
      platform.toLowerCase (trim rawValue) = "resolved" then
    .followupResolution
  else
    (contactFamily (normalizedKey.toList.splitOn '.')).getD .genericProfileFact

/-! ## Facts -/

inductive ProfileFactStatus where
  | confirmed
  | uncertain
  | superseded
  deriving DecidableEq

inductive ProfileMutationAuditCategory where
  | topicResolutionCandidate
  | genericResolution
  | resolvedMarker
  | noSignal
  | unclear
  deriving DecidableEq

inductive ProfileMutationAuditConfidenceTier where
  | high
  | med
  | low
  deriving DecidableEq

/-- The classifier of every audit record is `commitment_signal`. -/
structure ProfileMutationAuditMetadataV1 where
  category : ProfileMutationAuditCategory
  confidenceTier : ProfileMutationAuditConfidenceTier
  matchedRuleId : String
  rulepackVersion : String
  conflict : Bool
  deriving DecidableEq

structure ProfileFactRecord where
  id : String
  key : String
  value : String
  sensitive : Bool
  status : ProfileFactStatus
  confidence : ℚ
  sourceTaskId : String
  source : String
  observedAt : String
  confirmedAt : Option String
  supersededAt : Option String
  lastUpdatedAt : String
  mutationAudit : Option ProfileMutationAuditMetadataV1
  deriving DecidableEq

/-- A confidence that is missing or not finite is `none`. -/
structure ProfileFactUpsertInput where
  key : String
  value : String
  sensitive : Bool
  sourceTaskId : String
  source : String
  observedAt : Option String
  confidence : Option ℚ
  mutationAudit : Option ProfileMutationAuditMetadataV1
  deriving DecidableEq

def PROFILE_MEMORY_SCHEMA_VERSION : ℕ := 3

/-- The part of a profile state that an upsert reads and writes; episodes, receipts and the
graph are handed on. -/
structure ProfileFactState where
  schemaVersion : ℕ
  updatedAt : String
  facts : List ProfileFactRecord
  deriving DecidableEq

def ProfileFactState.empty (updatedAt : String) : ProfileFactState where
  schemaVersion := PROFILE_MEMORY_SCHEMA_VERSION
  updatedAt := updatedAt
  facts := []

/-- What one upsert reads from the clock and the id generator. -/
structure UpsertReadings where
  observedNow : String
  nowIso : String
  newId : String
  deriving DecidableEq

structure ProfileUpsertResult where
  nextState : ProfileFactState
  upsertedFact : ProfileFactRecord
  supersededFactIds : List String
  applied : Bool
  deriving DecidableEq

def isActiveFact (fact : ProfileFactRecord) : Bool :=
  decide (fact.status ≠ .superseded ∧ fact.supersededAt = none)

def keyAndValueMatch (fact : ProfileFactRecord) (key value : String) : Bool :=
  decide (fact.key = key ∧ normalizeProfileValue fact.value = value)

/-- `none` is the throw of `toISOString`. -/
def safeIsoOrNow (value : Option String) (now : String) : Option String :=
  match value.bind fun text => platform.dateParse (trim text) with
  | some parsed => platform.isoString parsed
  | none => some now

def normalizeConfidence : Option ℚ → ℚ
  | none => 9 / 10
  | some value => if value ≤ 0 then 0 else if 1 ≤ value then 1 else value

def toProfileFactStatus (confidence : ℚ) : ProfileFactStatus :=
  if 3 / 4 ≤ confidence then .confirmed else .uncertain

lemma toProfileFactStatus_ne_superseded (confidence : ℚ) :
    toProfileFactStatus confidence ≠ .superseded := by
  unfold toProfileFactStatus
  split_ifs <;> simp

def MEMORY_REVIEW_FACT_CORRECTION_SOURCE : String := "memory_review.fact_correction"

inductive ProfileFactConflictDisposition where
  | replace
  | preserve
  | append
  deriving DecidableEq

def isReviewCorrection (source : String) : Bool :=
  decide (platform.toLowerCase (trim source) = MEMORY_REVIEW_FACT_CORRECTION_SOURCE)

def resolveConflictDisposition (displacementPolicy : ProfileMemoryDisplacementPolicy)
    (source : String) : ProfileFactConflictDisposition :=
  if isReviewCorrection platform source then
    .replace
  else
    match displacementPolicy with
    | .replaceAuthoritativeSuccessor | .resolutionOnly => .replace
    | .preservePriorOnConflict | .notApplicable => .preserve
    | .appendMultiValue => .append

def refreshProfileFact (fact : ProfileFactRecord) (status : ProfileFactStatus) (confidence : ℚ)
    (nowIso : String) (input : ProfileFactUpsertInput) : ProfileFactRecord :=
  { fact with
    status :=
      if fact.status = .confirmed ∧ status = .uncertain then .confirmed else status
    confidence := max fact.confidence confidence
    confirmedAt :=
      if status = .confirmed then some (fact.confirmedAt.getD nowIso) else fact.confirmedAt
    lastUpdatedAt := nowIso
    mutationAudit := input.mutationAudit.orElse fun _ => fact.mutationAudit }

def toSupersededFact (fact : ProfileFactRecord) (nowIso : String) : ProfileFactRecord :=
  { fact with
    status := .superseded
    supersededAt := some nowIso
    lastUpdatedAt := nowIso }

/-- The canonical fields of an upsert; there are none where its input is refused. -/
structure UpsertTerms where
  key : String
  value : String
  displacementPolicy : ProfileMemoryDisplacementPolicy
  confidence : ℚ
  observedAt : String
  status : ProfileFactStatus
  value_normal : normalizeProfileValue value = value
  status_active : status ≠ .superseded
  deriving DecidableEq

def createProfileFactRecord (input : ProfileFactUpsertInput) (readings : UpsertReadings)
    (terms : UpsertTerms) (status : ProfileFactStatus) : ProfileFactRecord where
  id := readings.newId
  key := terms.key
  value := terms.value
  sensitive := input.sensitive
  status := status
  confidence := terms.confidence
  sourceTaskId := input.sourceTaskId
  source := input.source
  observedAt := terms.observedAt
  confirmedAt := if status = .confirmed then some readings.nowIso else none
  supersededAt := none
  lastUpdatedAt := readings.nowIso
  mutationAudit := input.mutationAudit

/-! ## Upserts -/

def assertUpsertInput (input : ProfileFactUpsertInput) : Bool :=
  decide (normalizeProfileKey platform input.key ≠ "") &&
    decide (normalizeProfileValue input.value ≠ "") &&
    isPresent input.sourceTaskId && isPresent input.source

/-- `none` where the upsert throws before it reads the facts. -/
def upsertTerms (input : ProfileFactUpsertInput) (readings : UpsertReadings) :
    Option UpsertTerms := do
  if !assertUpsertInput platform input then none
  let key ← canonicalizeProfileKey platform input.key
  let value := normalizeProfileValue input.value
  let family := inferGovernanceFamilyForNormalizedKey platform key value
  let confidence := normalizeConfidence input.confidence
  let observedAt ← safeIsoOrNow platform input.observedAt readings.observedNow
  some {
    key, value, confidence, observedAt
    displacementPolicy := family.displacementPolicy
    status := toProfileFactStatus confidence
    value_normal := normalizeProfileValue_idem input.value
    status_active := toProfileFactStatus_ne_superseded confidence }

def isActiveOf (key : String) (fact : ProfileFactRecord) : Bool :=
  isActiveFact fact && decide (fact.key = key)

/-- `activeSameKeyFacts`, for a key. -/
def activeFactsOf (key : String) (facts : List ProfileFactRecord) : List ProfileFactRecord :=
  facts.filter (isActiveOf key)

def matchingActiveFacts (facts : List ProfileFactRecord) (terms : UpsertTerms) :
    List ProfileFactRecord :=
  (activeFactsOf terms.key facts).filter (keyAndValueMatch · terms.key terms.value)

def conflictingActiveFacts (facts : List ProfileFactRecord) (terms : UpsertTerms) :
    List ProfileFactRecord :=
  (activeFactsOf terms.key facts).filter (!keyAndValueMatch · terms.key terms.value)

def challengerStatus (conflicting : List ProfileFactRecord) (input : ProfileFactUpsertInput)
    (terms : UpsertTerms) : ProfileFactStatus :=
  if conflicting ≠ [] ∧
      resolveConflictDisposition platform terms.displacementPolicy input.source = .preserve then
    .uncertain
  else
    terms.status

/-- The facts an upsert leaves, the fact it wrote and the ids of those it superseded. -/
def upsertFacts (facts : List ProfileFactRecord) (input : ProfileFactUpsertInput)
    (readings : UpsertReadings) (terms : UpsertTerms) :
    List ProfileFactRecord × ProfileFactRecord × List String :=
  let untouched := facts.filter (!isActiveOf terms.key ·)
  let conflicting := conflictingActiveFacts facts terms
  let disposition := resolveConflictDisposition platform terms.displacementPolicy input.source
  match matchingActiveFacts facts terms with
  | first :: duplicates =>
      let winner := refreshProfileFact first terms.status terms.confidence readings.nowIso input
      let displaced := duplicates ++ conflicting
      (untouched ++ winner :: displaced.map (toSupersededFact · readings.nowIso), winner,
        displaced.map (·.id))
  | [] =>
      let winner := createProfileFactRecord input readings terms
        (challengerStatus platform conflicting input terms)
      if disposition = .replace then
        (untouched ++ conflicting.map (toSupersededFact · readings.nowIso) ++ [winner], winner,
          conflicting.map (·.id))
      else
        (untouched ++ conflicting ++ [winner], winner, [])

def upsertTemporalProfileFact (state : ProfileFactState) (input : ProfileFactUpsertInput)
    (readings : UpsertReadings) : Option ProfileUpsertResult := do
  let terms ← upsertTerms platform input readings
  let (nextFacts, winnerFact, supersededFactIds) :=
    upsertFacts platform state.facts input readings terms
  some {
    nextState := {
      schemaVersion := PROFILE_MEMORY_SCHEMA_VERSION
      updatedAt := readings.nowIso
      facts := nextFacts }
    upsertedFact := winnerFact
    supersededFactIds
    applied := true }

/-! ## Batches of candidates -/

def candidateSignature (candidate : ProfileFactUpsertInput) : String :=
  normalizeProfileKey platform candidate.key ++ "=" ++
    platform.toLowerCase (normalizeProfileValue candidate.value)

/-- `seen` holds the signatures of the candidates kept so far. -/
def dedupeFrom (seen : List String) :
    List ProfileFactUpsertInput → List ProfileFactUpsertInput
  | [] => []
  | candidate :: candidates =>
      let normalizedKey := normalizeProfileKey platform candidate.key
      let normalizedValue := normalizeProfileValue candidate.value
      let signature := candidateSignature platform candidate
      if normalizedKey = "" ∨ normalizedValue = "" ∨ signature ∈ seen then
        dedupeFrom seen candidates
      else
        { candidate with key := normalizedKey, value := normalizedValue } ::
          dedupeFrom (signature :: seen) candidates

def dedupeProfileFactCandidates (candidates : List ProfileFactUpsertInput) :
    List ProfileFactUpsertInput :=
  dedupeFrom platform [] candidates

structure ProfileFactCandidateApplyResult where
  nextState : ProfileFactState
  appliedFacts : ℕ
  supersededFacts : ℕ
  deriving DecidableEq

/-- `readings` are those of the upserts in turn; `none` where one of them throws. -/
def applyFrom (result : ProfileFactCandidateApplyResult) (readings : ℕ → UpsertReadings) :
    List ProfileFactUpsertInput → Option ProfileFactCandidateApplyResult
  | [] => some result
  | candidate :: candidates => do
      let upserted ← upsertTemporalProfileFact platform result.nextState candidate (readings 0)
      applyFrom
        { nextState := upserted.nextState
          appliedFacts := result.appliedFacts + if upserted.applied then 1 else 0
          supersededFacts := result.supersededFacts + upserted.supersededFactIds.length }
        (fun index => readings (index + 1)) candidates

def applyProfileFactCandidates (state : ProfileFactState)
    (candidates : List ProfileFactUpsertInput) (readings : ℕ → UpsertReadings) :
    Option ProfileFactCandidateApplyResult :=
  applyFrom platform ⟨state, 0, 0⟩ readings (dedupeProfileFactCandidates platform candidates)

end AgentBigBrain.Core
