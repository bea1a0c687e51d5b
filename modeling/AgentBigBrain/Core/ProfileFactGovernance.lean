import AgentBigBrain.Core.ProfileFactLedger

/-!
# Truth governance of profile facts

Which candidates become facts is decided by the family of the key and the exact source of the
candidate. The family registry says what a family can be used for; each decision is checked
against it, and no decision fails the check.
-/
namespace AgentBigBrain.Core

open AgentBigBrain.Js

variable (platform : BridgePlatform)

/-! ## Decisions -/

inductive ProfileMemoryEvidenceClass where
  | userExplicitFact
  | validatedStructuredCandidate
  | userExplicitEpisode
  | userHintOrContext
  | assistantInference
  | reconciliationOrProjection
  deriving DecidableEq

inductive ProfileMemoryGovernanceAction where
  | allowCurrentState
  | allowEpisodeSupport
  | supportOnlyLegacy
  | allowEndState
  | quarantine
  deriving DecidableEq

inductive ProfileMemoryGovernanceReason where
  | explicitUserFact
  | validatedSemanticCandidate
  | explicitUserEpisode
  | assistantInferenceEpisode
  | contactContextIsSupportOnly
  | semanticRelationshipContextSupportOnly
  | contactEntityHintRequiresCorroboration
  | historicalWorkLinkageSupportOnly
  | severedWorkLinkageSupportOnly
  | historicalContactRelationshipSupportOnly
  | severedContactRelationshipSupportOnly
  | historicalSchoolAssociationSupportOnly
  | historicalEmploymentSupportOnly
  | historicalResidenceSupportOnly
  | followupResolutionEndState
  | episodeResolutionEndState
  | memoryReviewResolution
  | memoryReviewCorrectionOverride
  | memoryReviewForgetOrDelete
  | legacyFactFamilyDefault
  | unsupportedSource
  deriving DecidableEq

structure ProfileMemoryGovernanceDecision where
  family : ProfileMemoryGovernanceFamily
  evidenceClass : ProfileMemoryEvidenceClass
  action : ProfileMemoryGovernanceAction
  reason : ProfileMemoryGovernanceReason
  deriving DecidableEq

/-! ## The family registry -/

inductive ProfileMemoryCurrentStateAdmissionPolicy where
  | notAllowed
  | explicitLiveSourceOnly
  | validatedOrExplicitLiveSourceOnly
  deriving DecidableEq

inductive ProfileMemoryEndStatePolicy where
  | none
  | supportOnlyTransition
  | canonicalEndState
  deriving DecidableEq

inductive ProfileMemorySupportOnlyLegacyBehavior where
  | disallowed
  | supportOnlyHiddenOnCompatibilitySurfaces
  | supportOnlyVisibleOnCompatibilitySurfaces
  | supportOnlyNameOnlyOnCompatibilitySurfaces
  deriving DecidableEq

inductive ProfileMemoryMinimumSensitivityFloor where
  | inherit
  | forceSensitive
  | forceSensitiveForSensitiveKeys
  deriving DecidableEq

inductive ProfileMemoryCompatibilityProjectionPolicy where
  | ordinaryCurrentTruth
  | supportOnlyHidden
  | supportOnlyVisible
  | supportOnlyNameOnly
  | corroborationHidden
  | episodeOnly
  | endStateOnly
  deriving DecidableEq

inductive ProfileMemoryAdjacentDomain where
  | structuredConversation
  | reconciliationProjection
  | assistantInference
  | semanticMemory
  | governanceHistory
  | auditTrail
  | sessionContinuity
  | stage686
  deriving DecidableEq

inductive ProfileMemoryAdjacentDomainAccess where
  | truthAuthoritative
  | supportOnly
  | auxiliaryOnly
  | disallowed
  deriving DecidableEq

/-- The entry of a family, without its displacement policy. -/
structure ProfileMemoryFamilyRegistryEntry where
  currentStateAdmissionPolicy : ProfileMemoryCurrentStateAdmissionPolicy
  currentStateEligible : Bool
  episodeSupportEligible : Bool
  endStatePolicy : ProfileMemoryEndStatePolicy
  supportOnlyLegacyBehavior : ProfileMemorySupportOnlyLegacyBehavior
  minimumSensitivityFloor : ProfileMemoryMinimumSensitivityFloor
  compatibilityProjection : ProfileMemoryCompatibilityProjectionPolicy
  adjacentDomainOverrides :
    List (ProfileMemoryAdjacentDomain × ProfileMemoryAdjacentDomainAccess)

def DEFAULT_ADJACENT_DOMAIN_POLICY :
    ProfileMemoryAdjacentDomain → ProfileMemoryAdjacentDomainAccess
  | .structuredConversation | .reconciliationProjection | .assistantInference => .disallowed
  | .semanticMemory | .governanceHistory | .auditTrail | .sessionContinuity | .stage686 =>
      .auxiliaryOnly

def ProfileMemoryFamilyRegistryEntry.adjacentDomainPolicy
    (entry : ProfileMemoryFamilyRegistryEntry) (domain : ProfileMemoryAdjacentDomain) :
    ProfileMemoryAdjacentDomainAccess :=
  (entry.adjacentDomainOverrides.lookup domain).getD (DEFAULT_ADJACENT_DOMAIN_POLICY domain)

/-- `PROFILE_MEMORY_FAMILY_REGISTRY[family]`. -/
def getProfileMemoryFamilyRegistryEntry :
    ProfileMemoryGovernanceFamily → ProfileMemoryFamilyRegistryEntry
  | .identityPreferredName =>
      ⟨.validatedOrExplicitLiveSourceOnly, true, false, .none, .disallowed, .inherit,
        .ordinaryCurrentTruth, [(.structuredConversation, .truthAuthoritative)]⟩
  | .employmentCurrent =>
      ⟨.explicitLiveSourceOnly, true, false, .supportOnlyTransition,
        .supportOnlyHiddenOnCompatibilitySurfaces, .inherit, .ordinaryCurrentTruth, []⟩
  | .residenceCurrent =>
      ⟨.explicitLiveSourceOnly, true, false, .supportOnlyTransition,
        .supportOnlyHiddenOnCompatibilitySurfaces, .forceSensitive, .ordinaryCurrentTruth, []⟩
  | .followupResolution =>
      ⟨.notAllowed, false, false, .canonicalEndState, .disallowed, .inherit, .endStateOnly,
        [(.reconciliationProjection, .truthAuthoritative),
          (.assistantInference, .truthAuthoritative)]⟩
  | .contactName =>
      ⟨.validatedOrExplicitLiveSourceOnly, true, false, .none,
        .supportOnlyNameOnlyOnCompatibilitySurfaces, .inherit, .corroborationHidden,
        [(.structuredConversation, .truthAuthoritative)]⟩
  | .contactRelationship =>
      ⟨.validatedOrExplicitLiveSourceOnly, true, false, .supportOnlyTransition,
        .supportOnlyHiddenOnCompatibilitySurfaces, .inherit, .ordinaryCurrentTruth,
        [(.structuredConversation, .truthAuthoritative)]⟩
  | .contactWorkAssociation =>
      ⟨.validatedOrExplicitLiveSourceOnly, true, false, .supportOnlyTransition,
        .supportOnlyHiddenOnCompatibilitySurfaces, .inherit, .ordinaryCurrentTruth,
        [(.structuredConversation, .truthAuthoritative)]⟩
  | .contactOrganizationAssociation =>
      ⟨.explicitLiveSourceOnly, true, false, .none, .disallowed, .inherit,
        .ordinaryCurrentTruth, []⟩
  | .contactLocationAssociation =>
      ⟨.explicitLiveSourceOnly, true, false, .none, .disallowed, .forceSensitive,
        .ordinaryCurrentTruth, []⟩
  | .contactSchoolAssociation =>
      ⟨.notAllowed, false, false, .supportOnlyTransition,
        .supportOnlyHiddenOnCompatibilitySurfaces, .inherit, .supportOnlyHidden, []⟩
  | .contactContext =>
      ⟨.notAllowed, false, false, .none, .supportOnlyVisibleOnCompatibilitySurfaces, .inherit,
        .supportOnlyVisible, [(.structuredConversation, .supportOnly)]⟩
  | .contactEntityHint =>
      ⟨.notAllowed, false, false, .none, .supportOnlyHiddenOnCompatibilitySurfaces, .inherit,
        .corroborationHidden, []⟩
  | .genericProfileFact =>
      ⟨.validatedOrExplicitLiveSourceOnly, true, false, .none, .disallowed,
        .forceSensitiveForSensitiveKeys, .ordinaryCurrentTruth, []⟩
  | .episodeCandidate =>
      ⟨.notAllowed, false, true, .none, .disallowed, .inherit, .episodeOnly,
        [(.assistantInference, .truthAuthoritative),
          (.structuredConversation, .truthAuthoritative)]⟩
  | .episodeResolution =>
      ⟨.notAllowed, false, false, .canonicalEndState, .disallowed, .inherit, .endStateOnly,
        [(.assistantInference, .truthAuthoritative)]⟩

/-! ## Sources -/

def SEMANTIC_RELATIONSHIP_CURRENT_SOURCE : String := "conversation.relationship_interpretation"

def SEMANTIC_RELATIONSHIP_HISTORICAL_SOURCE : String :=
  "conversation.relationship_interpretation_historical"

def SEMANTIC_RELATIONSHIP_SEVERED_SOURCE : String :=
  "conversation.relationship_interpretation_severed"

def SEMANTIC_RELATIONSHIP_UNCERTAIN_SOURCE : String :=
  "conversation.relationship_interpretation_uncertain"

def STRUCTURED_RELATIONSHIP_NAME_SOURCES : List String :=
  [SEMANTIC_RELATIONSHIP_CURRENT_SOURCE, SEMANTIC_RELATIONSHIP_HISTORICAL_SOURCE,
    SEMANTIC_RELATIONSHIP_SEVERED_SOURCE, SEMANTIC_RELATIONSHIP_UNCERTAIN_SOURCE]

def ALLOWED_EXPLICIT_CONTACT_NAME_SOURCES : List String :=
  ["user_input_pattern.named_contact",
    "user_input_pattern.direct_contact_relationship_historical",
    "user_input_pattern.direct_contact_relationship_severed",
    "user_input_pattern.work_with_contact_historical",
    "user_input_pattern.work_with_contact_severed"]

def ALLOWED_EXPLICIT_CURRENT_CONTACT_RELATIONSHIP_SOURCES : List String :=
  ["user_input_pattern.named_contact"]

def ALLOWED_EXPLICIT_CURRENT_CONTACT_WORK_ASSOCIATION_SOURCES : List String := []

def ALLOWED_EXPLICIT_CURRENT_CONTACT_GENERIC_ASSOCIATION_SOURCES : List String :=
  ["user_input_pattern.organization_association", "user_input_pattern.location_association"]

def ALLOWED_EXPLICIT_CONTACT_CONTEXT_SOURCES : List String :=
  ["user_input_pattern.contact_context"]

def isValidatedStructuredSource (source : String) : Bool :=
  startsWith source "conversation."

def isExplicitUserSource (source : String) : Bool :=
  startsWith source "user_input_pattern."

def isProjectionSource (source : String) : Bool :=
  startsWith source "profile_state_reconciliation."

/-! ## Decisions by source -/

def unsupportedSource (family : ProfileMemoryGovernanceFamily)
    (evidenceClass : ProfileMemoryEvidenceClass) : ProfileMemoryGovernanceDecision :=
  ⟨family, evidenceClass, .quarantine, .unsupportedSource⟩

def governPreferredName (source : String) : ProfileMemoryGovernanceDecision :=
  if source = "conversation.identity_interpretation" then
    ⟨.identityPreferredName, .validatedStructuredCandidate, .allowCurrentState,
      .validatedSemanticCandidate⟩
  else if source = "user_input_pattern.name_phrase" then
    ⟨.identityPreferredName, .userExplicitFact, .allowCurrentState, .explicitUserFact⟩
  else if isProjectionSource source then
    unsupportedSource .identityPreferredName .reconciliationOrProjection
  else if isExplicitUserSource source then
    unsupportedSource .identityPreferredName .userExplicitFact
  else if isValidatedStructuredSource source then
    unsupportedSource .identityPreferredName .validatedStructuredCandidate
  else
    unsupportedSource .identityPreferredName .assistantInference

/-- The branch of `employment.current` and of `residence.current`. -/
def governCurrentPlace (family : ProfileMemoryGovernanceFamily) (historicalSource : String)
    (historicalReason : ProfileMemoryGovernanceReason) (allowedSources : List String)
    (source : String) : ProfileMemoryGovernanceDecision :=
  if source = historicalSource then
    ⟨family, .userExplicitFact, .supportOnlyLegacy, historicalReason⟩
  else if isValidatedStructuredSource source then
    unsupportedSource family .validatedStructuredCandidate
  else if isProjectionSource source then
    unsupportedSource family .reconciliationOrProjection
  else if source ∈ allowedSources then
    ⟨family, .userExplicitFact, .allowCurrentState, .explicitUserFact⟩
  else if isExplicitUserSource source then
    unsupportedSource family .userExplicitFact
  else
    unsupportedSource family .assistantInference

def governEmployment : String → ProfileMemoryGovernanceDecision :=
  governCurrentPlace .employmentCurrent "user_input_pattern.work_at_historical"
    .historicalEmploymentSupportOnly ["user_input_pattern.work_at", "user_input_pattern.job_is"]

def governResidence : String → ProfileMemoryGovernanceDecision :=
  governCurrentPlace .residenceCurrent "user_input_pattern.residence_historical"
    .historicalResidenceSupportOnly ["user_input_pattern.residence"]

def governFollowupResolution (source : String) : ProfileMemoryGovernanceDecision :=
  if source = "profile_state_reconciliation.followup_resolved" then
    ⟨.followupResolution, .reconciliationOrProjection, .allowEndState,
      .followupResolutionEndState⟩
  else if source = "user_input_pattern.followup_resolved_inferred" then
    ⟨.followupResolution, .assistantInference, .allowEndState, .followupResolutionEndState⟩
  else if source = "user_input_pattern.followup_resolved" then
    ⟨.followupResolution, .userExplicitFact, .allowEndState, .followupResolutionEndState⟩
  else if isValidatedStructuredSource source then
    unsupportedSource .followupResolution .validatedStructuredCandidate
  else if isProjectionSource source then
    unsupportedSource .followupResolution .reconciliationOrProjection
  else if isExplicitUserSource source then
    unsupportedSource .followupResolution .userExplicitFact
  else
    unsupportedSource .followupResolution .assistantInference

def governContactName (source : String) : ProfileMemoryGovernanceDecision :=
  if source ∈ STRUCTURED_RELATIONSHIP_NAME_SOURCES then
    ⟨.contactName, .validatedStructuredCandidate, .allowCurrentState,
      .validatedSemanticCandidate⟩
  else if isValidatedStructuredSource source then
    unsupportedSource .contactName .validatedStructuredCandidate
  else if isProjectionSource source then
    unsupportedSource .contactName .reconciliationOrProjection
  else if source ∈ ALLOWED_EXPLICIT_CONTACT_NAME_SOURCES then
    ⟨.contactName, .userExplicitFact, .allowCurrentState, .explicitUserFact⟩
  else if isExplicitUserSource source then
    unsupportedSource .contactName .userExplicitFact
  else
    unsupportedSource .contactName .assistantInference

/-- The sources outside the conversation, in the branches of `governContactLink`. -/
def governLexicalContactLink (family : ProfileMemoryGovernanceFamily)
    (allowedSources : List String) (source : String) : ProfileMemoryGovernanceDecision :=
  if source = "user_input_pattern.direct_contact_relationship_severed" then
    ⟨family, .userExplicitFact, .supportOnlyLegacy, .severedContactRelationshipSupportOnly⟩
  else if source = "user_input_pattern.direct_contact_relationship_historical" then
    ⟨family, .userExplicitFact, .supportOnlyLegacy, .historicalContactRelationshipSupportOnly⟩
  else if source = "user_input_pattern.work_with_contact_severed" then
    ⟨family, .userExplicitFact, .supportOnlyLegacy, .severedWorkLinkageSupportOnly⟩
  else if source = "user_input_pattern.work_with_contact_historical" ∨
      source = "user_input_pattern.work_association_historical" then
    ⟨family, .userExplicitFact, .supportOnlyLegacy, .historicalWorkLinkageSupportOnly⟩
  else if isValidatedStructuredSource source then
    unsupportedSource family .validatedStructuredCandidate
  else if isProjectionSource source then
    unsupportedSource family .reconciliationOrProjection
  else if source ∈ allowedSources then
    ⟨family, .userExplicitFact, .allowCurrentState, .explicitUserFact⟩
  else if isExplicitUserSource source then
    unsupportedSource family .userExplicitFact
  else
    unsupportedSource family .assistantInference

/-- The branch of `contact.*.relationship` and of `contact.*.work_association`. -/
def governContactLink (family : ProfileMemoryGovernanceFamily)
    (structuredHistorical structuredSevered : ProfileMemoryGovernanceReason)
    (allowedSources : List String) (source : String) : ProfileMemoryGovernanceDecision :=
  if source = SEMANTIC_RELATIONSHIP_CURRENT_SOURCE then
    ⟨family, .validatedStructuredCandidate, .allowCurrentState, .validatedSemanticCandidate⟩
  else if source = SEMANTIC_RELATIONSHIP_HISTORICAL_SOURCE then
    ⟨family, .validatedStructuredCandidate, .supportOnlyLegacy, structuredHistorical⟩
  else if source = SEMANTIC_RELATIONSHIP_SEVERED_SOURCE then
    ⟨family, .validatedStructuredCandidate, .supportOnlyLegacy, structuredSevered⟩
  else if source = SEMANTIC_RELATIONSHIP_UNCERTAIN_SOURCE then
    unsupportedSource family .validatedStructuredCandidate
  else
    governLexicalContactLink family allowedSources source

def governContactRelationship : String → ProfileMemoryGovernanceDecision :=
  governContactLink .contactRelationship .historicalContactRelationshipSupportOnly
    .severedContactRelationshipSupportOnly ALLOWED_EXPLICIT_CURRENT_CONTACT_RELATIONSHIP_SOURCES

def governContactWorkAssociation : String → ProfileMemoryGovernanceDecision :=
  governContactLink .contactWorkAssociation .historicalWorkLinkageSupportOnly
    .severedWorkLinkageSupportOnly ALLOWED_EXPLICIT_CURRENT_CONTACT_WORK_ASSOCIATION_SOURCES

/-- The branches of the other associations of a contact, which name no structured source. -/
def governContactAssociation (allowedDecision : ProfileMemoryGovernanceDecision)
    (allowedSources : List String) (source : String) : ProfileMemoryGovernanceDecision :=
  if isValidatedStructuredSource source then
    unsupportedSource allowedDecision.family .validatedStructuredCandidate
  else if isProjectionSource source then
    unsupportedSource allowedDecision.family .reconciliationOrProjection
  else if source ∈ allowedSources then
    allowedDecision
  else if isExplicitUserSource source then
    unsupportedSource allowedDecision.family .userExplicitFact
  else
    unsupportedSource allowedDecision.family .assistantInference

def governContactOrganization : String → ProfileMemoryGovernanceDecision :=
  governContactAssociation
    ⟨.contactOrganizationAssociation, .userExplicitFact, .allowCurrentState, .explicitUserFact⟩
    ALLOWED_EXPLICIT_CURRENT_CONTACT_GENERIC_ASSOCIATION_SOURCES

def governContactLocation : String → ProfileMemoryGovernanceDecision :=
  governContactAssociation
    ⟨.contactLocationAssociation, .userExplicitFact, .allowCurrentState, .explicitUserFact⟩
    ALLOWED_EXPLICIT_CURRENT_CONTACT_GENERIC_ASSOCIATION_SOURCES

def governContactSchool : String → ProfileMemoryGovernanceDecision :=
  governContactAssociation
    ⟨.contactSchoolAssociation, .userExplicitFact, .supportOnlyLegacy,
      .historicalSchoolAssociationSupportOnly⟩
    ["user_input_pattern.school_association"]

def governContactContext (source : String) : ProfileMemoryGovernanceDecision :=
  if source = SEMANTIC_RELATIONSHIP_CURRENT_SOURCE ∨
      source = SEMANTIC_RELATIONSHIP_HISTORICAL_SOURCE ∨
      source = SEMANTIC_RELATIONSHIP_SEVERED_SOURCE then
    ⟨.contactContext, .validatedStructuredCandidate, .supportOnlyLegacy,
      .semanticRelationshipContextSupportOnly⟩
  else if isValidatedStructuredSource source then
    unsupportedSource .contactContext .validatedStructuredCandidate
  else if source ∈ ALLOWED_EXPLICIT_CONTACT_CONTEXT_SOURCES then
    ⟨.contactContext, .userHintOrContext, .supportOnlyLegacy, .contactContextIsSupportOnly⟩
  else if isExplicitUserSource source then
    unsupportedSource .contactContext .userHintOrContext
  else if isProjectionSource source then
    unsupportedSource .contactContext .reconciliationOrProjection
  else
    unsupportedSource .contactContext .assistantInference

def governGenericProfileFact (source : String) : ProfileMemoryGovernanceDecision :=
  if source = "user_input_pattern.my_is" ∨
      source ∈ ALLOWED_EXPLICIT_CURRENT_CONTACT_GENERIC_ASSOCIATION_SOURCES then
    ⟨.genericProfileFact, .userExplicitFact, .allowCurrentState, .legacyFactFamilyDefault⟩
  else if isExplicitUserSource source then
    unsupportedSource .genericProfileFact .userExplicitFact
  else if isValidatedStructuredSource source then
    unsupportedSource .genericProfileFact .validatedStructuredCandidate
  else if isProjectionSource source then
    unsupportedSource .genericProfileFact .reconciliationOrProjection
  else
    unsupportedSource .genericProfileFact .assistantInference

/-- The decision on a contact key, by its family. -/
def governContactFamily (source : String) :
    Option ProfileMemoryGovernanceFamily → ProfileMemoryGovernanceDecision
  | some .contactName => governContactName source
  | some .contactRelationship => governContactRelationship source
  | some .contactWorkAssociation => governContactWorkAssociation source
  | some .contactOrganizationAssociation => governContactOrganization source
  | some .contactLocationAssociation => governContactLocation source
  | some .contactSchoolAssociation => governContactSchool source
  | some .contactContext => governContactContext source
  | _ => governGenericProfileFact source

def governReviewCorrection (inferredFamily : ProfileMemoryGovernanceFamily) :
    ProfileMemoryGovernanceDecision :=
  if (getProfileMemoryFamilyRegistryEntry inferredFamily).currentStateEligible then
    ⟨inferredFamily, .userExplicitFact, .allowCurrentState, .memoryReviewCorrectionOverride⟩
  else
    unsupportedSource inferredFamily .userExplicitFact

def governContactEntityHint (inferredFamily : ProfileMemoryGovernanceFamily)
    (contact : Option ProfileMemoryGovernanceFamily) : ProfileMemoryGovernanceDecision :=
  if contact = some .contactName then
    ⟨.contactEntityHint, .userHintOrContext, .supportOnlyLegacy,
      .contactEntityHintRequiresCorroboration⟩
  else
    unsupportedSource inferredFamily .userHintOrContext

def normalizedText (text : String) : String :=
  platform.toLowerCase (trim text)

def buildFactGovernanceDecision (key value source : String) : ProfileMemoryGovernanceDecision :=
  let normalizedKey := normalizedText platform key
  let normalizedSource := normalizedText platform source
  let inferredFamily := inferGovernanceFamilyForNormalizedKey platform normalizedKey value
  let contact := contactFamily (normalizedKey.toList.splitOn '.')
  if normalizedSource = MEMORY_REVIEW_FACT_CORRECTION_SOURCE then
    governReviewCorrection inferredFamily
  else if normalizedSource = "user_input_pattern.contact_entity_hint" then
    governContactEntityHint inferredFamily contact
  else if normalizedKey = "identity.preferred_name" then
    governPreferredName normalizedSource
  else if normalizedKey = "employment.current" then
    governEmployment normalizedSource
  else if normalizedKey = "residence.current" then
    governResidence normalizedSource
  else if startsWith normalizedKey "followup." = true ∧
      normalizedText platform value = "resolved" then
    governFollowupResolution normalizedSource
  else
    governContactFamily normalizedSource contact

/-! ## The registry's checks -/

def isLiveExplicitCurrentStateDecision (decision : ProfileMemoryGovernanceDecision) : Bool :=
  decide (decision.evidenceClass = .userExplicitFact ∧
    (decision.reason = .explicitUserFact ∨ decision.reason = .legacyFactFamilyDefault))

/-- `assertProfileMemoryGovernanceDecisionAllowed`; `false` is a throw. -/
def governanceDecisionAllowed (decision : ProfileMemoryGovernanceDecision) : Bool :=
  let familyEntry := getProfileMemoryFamilyRegistryEntry decision.family
  let isValidated := decide (decision.evidenceClass = .validatedStructuredCandidate ∧
    decision.reason = .validatedSemanticCandidate)
  match decision.action with
  | .allowCurrentState =>
      familyEntry.currentStateEligible &&
        (decide (decision.reason = .memoryReviewCorrectionOverride) ||
          match familyEntry.currentStateAdmissionPolicy with
          | .notAllowed => true
          | .explicitLiveSourceOnly => isLiveExplicitCurrentStateDecision decision
          | .validatedOrExplicitLiveSourceOnly =>
              isLiveExplicitCurrentStateDecision decision || isValidated)
  | .allowEpisodeSupport => familyEntry.episodeSupportEligible
  | .supportOnlyLegacy => decide (familyEntry.supportOnlyLegacyBehavior ≠ .disallowed)
  | .allowEndState => decide (familyEntry.endStatePolicy ≠ .none)
  | .quarantine => true

/-- The domain of a normalized source. -/
def adjacentDomainOf (normalizedSource : String) (evidenceClass : ProfileMemoryEvidenceClass) :
    Option ProfileMemoryAdjacentDomain :=
  if startsWith normalizedSource "conversation." then
    some .structuredConversation
  else if startsWith normalizedSource "profile_state_reconciliation." then
    some .reconciliationProjection
  else if startsWith normalizedSource "semantic_memory." then
    some .semanticMemory
  else if startsWith normalizedSource "governance_memory." then
    some .governanceHistory
  else if startsWith normalizedSource "audit." ||
      startsWith normalizedSource "memory_access_audit." then
    some .auditTrail
  else if startsWith normalizedSource "session." ||
      startsWith normalizedSource "conversation_session." then
    some .sessionContinuity
  else if startsWith normalizedSource "stage6_86." then
    some .stage686
  else if evidenceClass = .assistantInference then
    some .assistantInference
  else
    none

def inferProfileMemoryAdjacentDomain (source : String)
    (evidenceClass : ProfileMemoryEvidenceClass) : Option ProfileMemoryAdjacentDomain :=
  adjacentDomainOf (normalizedText platform source) evidenceClass

/-- `assertProfileMemoryAdjacentDomainAccessAllowed` in a domain; `false` is a throw. -/
def adjacentDomainAccessAllowed (decision : ProfileMemoryGovernanceDecision)
    (adjacentDomain : Option ProfileMemoryAdjacentDomain) : Bool :=
  decide (decision.action = .quarantine) ||
    match adjacentDomain with
    | none => true
    | some domain =>
        let access :=
          (getProfileMemoryFamilyRegistryEntry decision.family).adjacentDomainPolicy domain
        decide (access = .truthAuthoritative) ||
          decide (decision.action = .supportOnlyLegacy ∧ access = .supportOnly)

/-- Neither check of `buildCanonicalGovernanceDecision` throws. -/
def DecisionAllowed (normalizedSource : String) (decision : ProfileMemoryGovernanceDecision) :
    Prop :=
  governanceDecisionAllowed decision = true ∧
    adjacentDomainAccessAllowed decision
      (adjacentDomainOf normalizedSource decision.evidenceClass) = true

instance (normalizedSource : String) (decision : ProfileMemoryGovernanceDecision) :
    Decidable (DecisionAllowed normalizedSource decision) :=
  inferInstanceAs (Decidable (_ ∧ _))

lemma allowed_unsupported (source : String) (family : ProfileMemoryGovernanceFamily)
    (evidenceClass : ProfileMemoryEvidenceClass) :
    DecisionAllowed source (unsupportedSource family evidenceClass) :=
  ⟨rfl, rfl⟩

lemma allowed_of_mem {sources : List String} {decision : ProfileMemoryGovernanceDecision}
    (hsources : ∀ source ∈ sources, DecisionAllowed source decision) {source : String}
    (hsource : source ∈ sources) : DecisionAllowed source decision :=
  hsources source hsource

lemma allowed_preferredName (source : String) :
    DecisionAllowed source (governPreferredName source) := by
  unfold governPreferredName
  split_ifs with hstructured hexplicit
  · subst hstructured
    decide
  · subst hexplicit
    decide
  all_goals exact allowed_unsupported _ _ _

lemma allowed_employment (source : String) : DecisionAllowed source (governEmployment source) := by
  unfold governEmployment governCurrentPlace
  split_ifs with hhistorical hstructured hprojection hallowed
  · subst hhistorical
    decide
  · exact allowed_unsupported _ _ _
  · exact allowed_unsupported _ _ _
  · exact allowed_of_mem (by decide) hallowed
  all_goals exact allowed_unsupported _ _ _

lemma allowed_residence (source : String) : DecisionAllowed source (governResidence source) := by
  unfold governResidence governCurrentPlace
  split_ifs with hhistorical hstructured hprojection hallowed
  · subst hhistorical
    decide
  · exact allowed_unsupported _ _ _
  · exact allowed_unsupported _ _ _
  · exact allowed_of_mem (by decide) hallowed
  all_goals exact allowed_unsupported _ _ _

lemma allowed_followupResolution (source : String) :
    DecisionAllowed source (governFollowupResolution source) := by
  unfold governFollowupResolution
  split_ifs with hprojected hinferred hexplicit
  · subst hprojected
    decide
  · subst hinferred
    decide
  · subst hexplicit
    decide
  all_goals exact allowed_unsupported _ _ _

lemma allowed_contactName (source : String) :
    DecisionAllowed source (governContactName source) := by
  unfold governContactName
  split_ifs with hstructured hconversation hprojection hexplicit
  · exact allowed_of_mem (by decide) hstructured
  · exact allowed_unsupported _ _ _
  · exact allowed_unsupported _ _ _
  · exact allowed_of_mem (by decide) hexplicit
  all_goals exact allowed_unsupported _ _ _

/-- Support of a link of a contact, from a source that no domain but the conversation owns. -/
lemma allowed_linkSupport {family : ProfileMemoryGovernanceFamily}
    (hfamily : family = .contactRelationship ∨ family = .contactWorkAssociation)
    (evidenceClass : ProfileMemoryEvidenceClass) (reason : ProfileMemoryGovernanceReason)
    {source : String} (hdomain : adjacentDomainOf source evidenceClass = none ∨
      adjacentDomainOf source evidenceClass = some .structuredConversation) :
    DecisionAllowed source ⟨family, evidenceClass, .supportOnlyLegacy, reason⟩ := by
  refine ⟨?_, ?_⟩
  · rcases hfamily with rfl | rfl <;> rfl
  · rcases hdomain with hnone | hsome
    · rw [hnone]
      rfl
    · rw [hsome]
      rcases hfamily with rfl | rfl <;> rfl

lemma allowed_lexicalContactLink {family : ProfileMemoryGovernanceFamily}
    (hfamily : family = .contactRelationship ∨ family = .contactWorkAssociation)
    {allowedSources : List String}
    (hsources : ∀ source ∈ allowedSources, source = "user_input_pattern.named_contact")
    (source : String) :
    DecisionAllowed source (governLexicalContactLink family allowedSources source) := by
  unfold governLexicalContactLink
  split_ifs with hdirectSevered hdirectHistorical hworkSevered hworkHistorical hconversation
    hprojection hallowed
  · rw [hdirectSevered]
    exact allowed_linkSupport hfamily _ _ (.inl (by decide))
  · rw [hdirectHistorical]
    exact allowed_linkSupport hfamily _ _ (.inl (by decide))
  · rw [hworkSevered]
    exact allowed_linkSupport hfamily _ _ (.inl (by decide))
  · rcases hworkHistorical with h | h
    · rw [h]
      exact allowed_linkSupport hfamily _ _ (.inl (by decide))
    · rw [h]
      exact allowed_linkSupport hfamily _ _ (.inl (by decide))
  · exact allowed_unsupported _ _ _
  · exact allowed_unsupported _ _ _
  · rw [hsources source hallowed]
    rcases hfamily with rfl | rfl <;> decide
  all_goals exact allowed_unsupported _ _ _

/-- A link of a contact may be said outright, or supported by what is past. -/
lemma allowed_contactLink {family : ProfileMemoryGovernanceFamily}
    (hfamily : family = .contactRelationship ∨ family = .contactWorkAssociation)
    (structuredHistorical structuredSevered : ProfileMemoryGovernanceReason)
    {allowedSources : List String}
    (hsources : ∀ source ∈ allowedSources, source = "user_input_pattern.named_contact")
    (source : String) :
    DecisionAllowed source
      (governContactLink family structuredHistorical structuredSevered allowedSources source) := by
  unfold governContactLink
  split_ifs with hcurrent hhistorical hsevered huncertain
  · rw [hcurrent]
    rcases hfamily with rfl | rfl <;> decide
  · rw [hhistorical]
    exact allowed_linkSupport hfamily _ _ (.inr (by decide))
  · rw [hsevered]
    exact allowed_linkSupport hfamily _ _ (.inr (by decide))
  · exact allowed_unsupported _ _ _
  · exact allowed_lexicalContactLink hfamily hsources source

lemma allowed_contactAssociation {allowedDecision : ProfileMemoryGovernanceDecision}
    {allowedSources : List String}
    (hsources : ∀ source ∈ allowedSources, DecisionAllowed source allowedDecision)
    (source : String) :
    DecisionAllowed source
      (governContactAssociation allowedDecision allowedSources source) := by
  unfold governContactAssociation
  split_ifs with hconversation hprojection hallowed
  · exact allowed_unsupported _ _ _
  · exact allowed_unsupported _ _ _
  · exact hsources source hallowed
  all_goals exact allowed_unsupported _ _ _

lemma allowed_contactContext (source : String) :
    DecisionAllowed source (governContactContext source) := by
  unfold governContactContext
  split_ifs with hstructured hconversation hexplicit
  · rcases hstructured with rfl | rfl | rfl <;> decide
  · exact allowed_unsupported _ _ _
  · exact allowed_of_mem (by decide) hexplicit
  all_goals exact allowed_unsupported _ _ _

lemma allowed_genericProfileFact (source : String) :
    DecisionAllowed source (governGenericProfileFact source) := by
  unfold governGenericProfileFact
  split_ifs with hallowed
  · rcases hallowed with rfl | hallowed
    · decide
    · exact allowed_of_mem (by decide) hallowed
  all_goals exact allowed_unsupported _ _ _

lemma allowed_contactFamily (source : String) (contact : Option ProfileMemoryGovernanceFamily) :
    DecisionAllowed source (governContactFamily source contact) := by
  unfold governContactFamily
  split
  · exact allowed_contactName source
  · exact allowed_contactLink (.inl rfl) _ _ (by decide) source
  · exact allowed_contactLink (.inr rfl) _ _ (by decide) source
  · exact allowed_contactAssociation (by decide) source
  · exact allowed_contactAssociation (by decide) source
  · exact allowed_contactAssociation (by decide) source
  · exact allowed_contactContext source
  · exact allowed_genericProfileFact source

lemma allowed_reviewCorrection (inferredFamily : ProfileMemoryGovernanceFamily) :
    DecisionAllowed MEMORY_REVIEW_FACT_CORRECTION_SOURCE
      (governReviewCorrection inferredFamily) := by
  unfold governReviewCorrection
  split_ifs with heligible
  · refine ⟨?_, ?_⟩
    · simp [governanceDecisionAllowed, heligible]
    · exact (by decide : adjacentDomainOf MEMORY_REVIEW_FACT_CORRECTION_SOURCE
        .userExplicitFact = none) ▸ rfl
  · exact allowed_unsupported _ _ _

/-- No decision on a fact fails the checks that `buildCanonicalGovernanceDecision` makes. -/
theorem decisionAllowed (key value source : String) :
    DecisionAllowed (normalizedText platform source)
      (buildFactGovernanceDecision platform key value source) := by
  rw [buildFactGovernanceDecision]
  split_ifs with hreview hhint hname hemployment hresidence hfollowup
  · rw [hreview]
    exact allowed_reviewCorrection _
  · rw [hhint, governContactEntityHint]
    split_ifs
    · decide
    · exact allowed_unsupported _ _ _
  · exact allowed_preferredName _
  · exact allowed_employment _
  · exact allowed_residence _
  · exact allowed_followupResolution _
  · exact allowed_contactFamily _ _

/-! ## Sensitivity -/

def SENSITIVE_KEYWORDS : List String :=
  ["address", "phone", "email", "ssn", "social_security", "dob", "birth", "location",
    "residence"]

/-- `none` where the key has no canonical text. -/
def isSensitiveKey (key : String) : Option Bool :=
  (canonicalizeProfileKey platform key).map fun normalized =>
    SENSITIVE_KEYWORDS.any (includes normalized ·)

def applyProfileMemoryMinimumSensitivityFloor (family : ProfileMemoryGovernanceFamily)
    (sensitive : Bool) (key : String) : Option Bool :=
  match (getProfileMemoryFamilyRegistryEntry family).minimumSensitivityFloor with
  | .forceSensitive => some true
  | .forceSensitiveForSensitiveKeys =>
      (isSensitiveKey platform key).map fun sensitiveKey => sensitiveKey || sensitive
  | .inherit => some sensitive

def isStoredProfileFactEffectivelySensitive (key value : String) (sensitive : Bool) :
    Option Bool :=
  applyProfileMemoryMinimumSensitivityFloor platform
    (inferGovernanceFamilyForNormalizedKey platform (normalizedText platform key) value)
    sensitive key

/-! ## Governed candidates -/

structure GovernedProfileFactCandidate where
  candidate : ProfileFactUpsertInput
  decision : ProfileMemoryGovernanceDecision
  deriving DecidableEq

def governFactCandidate (candidate : ProfileFactUpsertInput) :
    Option GovernedProfileFactCandidate := do
  let decision :=
    buildFactGovernanceDecision platform candidate.key candidate.value candidate.source
  let sensitive ← applyProfileMemoryMinimumSensitivityFloor platform decision.family
    candidate.sensitive candidate.key
  some ⟨{ candidate with sensitive }, decision⟩

/-- `governProfileMemoryCandidates` on facts; `none` where it throws. -/
def governProfileMemoryCandidates (factCandidates : List ProfileFactUpsertInput) :
    Option (List GovernedProfileFactCandidate) :=
  factCandidates.mapM (governFactCandidate platform)

def allowedCurrentStateFactCandidates (factDecisions : List GovernedProfileFactCandidate) :
    List ProfileFactUpsertInput :=
  (factDecisions.filter fun entry =>
    decide (entry.decision.action = .allowCurrentState ∨
      entry.decision.action = .allowEndState)).map (·.candidate)

def allowedSupportOnlyFactCandidates (factDecisions : List GovernedProfileFactCandidate) :
    List ProfileFactUpsertInput :=
  (factDecisions.filter fun entry =>
    decide (entry.decision.action = .supportOnlyLegacy)).map (·.candidate)

/-! ## Visibility of support-only candidates -/

def HISTORICAL_OR_SEVERED_CONTACT_SUPPORT_SOURCES : List String :=
  ["user_input_pattern.work_with_contact_historical",
    "user_input_pattern.work_association_historical",
    "user_input_pattern.work_with_contact_severed",
    "user_input_pattern.direct_contact_relationship_historical",
    "user_input_pattern.direct_contact_relationship_severed",
    SEMANTIC_RELATIONSHIP_HISTORICAL_SOURCE, SEMANTIC_RELATIONSHIP_SEVERED_SOURCE]

def SEMANTIC_RELATIONSHIP_CONTEXT_SUPPORT_SOURCES : List String :=
  [SEMANTIC_RELATIONSHIP_CURRENT_SOURCE, SEMANTIC_RELATIONSHIP_HISTORICAL_SOURCE,
    SEMANTIC_RELATIONSHIP_SEVERED_SOURCE]

/-- `/^contact\.[^.]+\.name$/`. -/
def isContactNameKey (normalizedKey : String) : Bool :=
  decide (contactFamily (normalizedKey.toList.splitOn '.') = some .contactName)

/-- `/^contact\.[^.]+\.context\.[^.]+$/`. -/
def isContactContextKey (normalizedKey : String) : Bool :=
  match normalizedKey.toList.splitOn '.' with
  | [contact, token, context, topic] =>
      decide (contact = "contact".toList ∧ token ≠ [] ∧ context = "context".toList ∧ topic ≠ [])
  | _ => false

def inferCompatibilityPolicyFamily (normalizedKey normalizedSource rawValue : String) :
    ProfileMemoryGovernanceFamily :=
  if normalizedSource = "user_input_pattern.contact_entity_hint" then
    .contactEntityHint
  else if normalizedSource = "user_input_pattern.contact_context" then
    .contactContext
  else
    inferGovernanceFamilyForNormalizedKey platform normalizedKey rawValue

def isSupportOnlyCompatibilityVisible (family : ProfileMemoryGovernanceFamily)
    (normalizedKey : String) : Bool :=
  let familyEntry := getProfileMemoryFamilyRegistryEntry family
  if familyEntry.supportOnlyLegacyBehavior = .supportOnlyNameOnlyOnCompatibilitySurfaces then
    isContactNameKey normalizedKey
  else
    match familyEntry.compatibilityProjection with
    | .supportOnlyVisible => isContactContextKey normalizedKey
    | .endStateOnly => startsWith normalizedKey "followup."
    | .supportOnlyHidden | .corroborationHidden | .ordinaryCurrentTruth | .supportOnlyNameOnly
    | .episodeOnly => false

def isOrdinaryCompatibilityVisible (family : ProfileMemoryGovernanceFamily) : Bool :=
  match (getProfileMemoryFamilyRegistryEntry family).compatibilityProjection with
  | .ordinaryCurrentTruth | .endStateOnly => true
  | .corroborationHidden => decide (family = .contactName)
  | .supportOnlyHidden | .supportOnlyVisible | .supportOnlyNameOnly | .episodeOnly => false

def isCompatibilityVisibleFactLike (fact : ProfileFactUpsertInput) : Bool :=
  let normalizedKey := normalizedText platform fact.key
  let normalizedSource := normalizedText platform fact.source
  let policyFamily :=
    inferCompatibilityPolicyFamily platform normalizedKey normalizedSource fact.value
  if normalizedSource = "user_input_pattern.work_at_historical" ∨
      normalizedSource = "user_input_pattern.residence_historical" then
    isSupportOnlyCompatibilityVisible policyFamily normalizedKey
  else if normalizedSource ∈ SEMANTIC_RELATIONSHIP_CONTEXT_SUPPORT_SOURCES ∧
      isContactContextKey normalizedKey = true then
    isSupportOnlyCompatibilityVisible .contactContext normalizedKey
  else if normalizedSource ∈ HISTORICAL_OR_SEVERED_CONTACT_SUPPORT_SOURCES then
    isSupportOnlyCompatibilityVisible .contactName normalizedKey
  else if normalizedSource = "user_input_pattern.school_association" then
    isSupportOnlyCompatibilityVisible policyFamily normalizedKey
  else if normalizedSource = "user_input_pattern.contact_context" ∨
      normalizedSource = "user_input_pattern.contact_entity_hint" then
    isSupportOnlyCompatibilityVisible policyFamily normalizedKey
  else
    isOrdinaryCompatibilityVisible policyFamily

def selectCompatibilitySafeSupportOnlyFactCandidates
    (candidates : List ProfileFactUpsertInput) : List ProfileFactUpsertInput :=
  candidates.filter (isCompatibilityVisibleFactLike platform)

end AgentBigBrain.Core
