import AgentBigBrain.Core.EntityGraphExtraction

/-!
# Bridge questions

A bridge question asks how two entities that come up together are related. This module has the
gate a question must pass, what an answer does to the graph, and the record either leaves in
the bridge history.
-/
namespace AgentBigBrain.Core

open AgentBigBrain.Js AgentBigBrain.Lib

/-- The first moment whose year has five digits. -/
def YEAR_10000_MS : ℤ := 253402300800000

structure BridgePlatform extends GraphPlatform where
  /-- `new Date(ms).toISOString()`; `none` where it throws. -/
  isoString : ℤ → Option String
  dateParse_isoString : ∀ ms text, isoString ms = some text → dateParse text = some ms
  /-- Texts of four-digit years compare like the times they stand for. -/
  le_isoString : ∀ a b left right, 0 ≤ a → a < YEAR_10000_MS → 0 ≤ b → b < YEAR_10000_MS →
    isoString a = some left → isoString b = some right →
    (locale.le left right = true ↔ a ≤ b)

/-- Each text once, and the texts in the order of their times. -/
def ValidDates (dates : List (String × ℤ)) : Prop :=
  (dates.map Prod.fst).Nodup ∧ ∀ date ∈ dates, ∀ other ∈ dates,
    (codeUnitOrder.le date.1 other.1 = true ↔ date.2 ≤ other.2)

instance (dates : List (String × ℤ)) : Decidable (ValidDates dates) :=
  inferInstanceAs (Decidable (_ ∧ _))

lemma lookup_of_nodup {dates : List (String × ℤ)} (h : (dates.map Prod.fst).Nodup)
    {date : String × ℤ} (hdate : date ∈ dates) : dates.lookup date.1 = some date.2 := by
  induction dates with
  | nil => cases hdate
  | cons first rest ih =>
      have hnodup := List.nodup_cons.mp h
      rcases List.mem_cons.mp hdate with rfl | hrest
      · exact List.lookup_cons_self
      · have hne : (date.1 == first.1) = false := by
          apply beq_eq_false_iff_ne.mpr
          rintro heq
          exact hnodup.1 (heq ▸ List.mem_map_of_mem hrest)
        rw [List.lookup_cons, hne]
        exact ih hnodup.2 hrest

def textOfTime (dates : List (String × ℤ)) (ms : ℤ) : Option String :=
  (dates.find? fun date => date.2 = ms).map Prod.fst

lemma mem_of_textOfTime {dates : List (String × ℤ)} {ms : ℤ} {text : String}
    (h : textOfTime dates ms = some text) : (text, ms) ∈ dates := by
  obtain ⟨date, hfind, rfl⟩ := Option.map_eq_some_iff.mp h
  have hms : date.2 = ms := by simpa using List.find?_some hfind
  exact hms ▸ List.mem_of_find?_eq_some hfind

/-- A platform for ASCII texts, given the dates it reads and writes. -/
def BridgePlatform.ofDates (dates : List (String × ℤ)) (hdates : ValidDates dates) :
    BridgePlatform where
  toGraphPlatform := GraphPlatform.ofDates dates
  isoString := textOfTime dates
  dateParse_isoString _ _ h := lookup_of_nodup hdates.1 (mem_of_textOfTime h)
  le_isoString _ _ _ _ _ _ _ _ hleft hright :=
    hdates.2 _ (mem_of_textOfTime hleft) _ (mem_of_textOfTime hright)

variable (platform : BridgePlatform) (sha : Sha256)

/-! ## Vocabulary -/

inductive BridgeRelationTypeV1 where
  | friend
  | family
  | coworker
  | projectRelated
  | other
  deriving DecidableEq

def BridgeRelationTypeV1.relationType : BridgeRelationTypeV1 → RelationTypeV1
  | .friend => .friend
  | .family => .family
  | .coworker => .coworker
  | .projectRelated => .projectRelated
  | .other => .other

inductive BridgeConflictCodeV1 where
  | insufficientEvidence
  | cooldownActive
  | derailsActiveMission
  | privacySensitive
  | capReached
  deriving DecidableEq

inductive BridgeBlockReason where
  | bridgeInsufficientEvidence
  | bridgeCooldownActive
  | bridgePrivacySensitive
  | bridgeCapReached
  | derailsActiveMission
  deriving DecidableEq

inductive BridgeStatus where
  | asked
  | confirmed
  | deferred
  deriving DecidableEq

inductive PulseReasonCodeV1 where
  | openLoopResume
  | relationshipClarification
  | topicDriftResume
  | staleFactRevalidation
  | userRequestedFollowup
  | safetyHold
  deriving DecidableEq

inductive PulseProvenanceTierV1 where
  | trusted
  | supporting
  | weak
  deriving DecidableEq

inductive SourceAuthority where
  | exactCommand
  | explicitUserStatement
  | activeClarification
  | semanticModel
  | lexicalFallback
  | documentText
  | documentModelSummary
  | mediaTranscript
  | mediaModelSummary
  | staleRuntimeContext
  | workflowLearning
  | reviewMutation
  | compatibilityRepair
  | strictSchema
  | legacyCompatibility
  | unknown
  deriving DecidableEq

structure BridgeInteractionRecordV1 where
  questionId : String
  conversationKey : String
  sourceEntityKey : String
  targetEntityKey : String
  askedAt : String
  status : BridgeStatus
  cooldownUntil : String
  deferralCount : ℕ
  deriving DecidableEq

structure BridgeQuestionV1 where
  questionId : String
  sourceEntityKey : String
  targetEntityKey : String
  prompt : String
  createdAt : String
  cooldownUntil : String
  threadKey : Option String
  evidenceRefs : List String
  sourceAuthority : SourceAuthority
  provenanceTier : PulseProvenanceTierV1
  sensitive : Bool
  activeMissionSuppressed : Bool
  deriving DecidableEq

/-! ## Helpers -/

def DEFAULT_CO_MENTION_THRESHOLD : ℤ := 5

def DEFAULT_CO_MENTION_WINDOW_DAYS : ℤ := 90

def DEFAULT_BRIDGE_COOLDOWN_DAYS : ℤ := 14

def DEFAULT_BRIDGE_MAX_PER_CONVERSATION : ℤ := 1

def MAX_REASONABLE_COUNT : ℤ := 32

def MAX_REASONABLE_DAYS : ℤ := 365

def GLOBAL_CONVERSATION_KEY : String := "__global__"

/-- `clampCount` and `clampDays`: a whole number from 1 to `most`. -/
def clampWhole (most : ℤ) (value : Option ℚ) (fallback : ℤ) : ℤ :=
  match value with
  | none => fallback
  | some value => max 1 (min most ⌊value⌋)

def clampCount (value : Option ℚ) (fallback : ℤ) : ℤ :=
  clampWhole MAX_REASONABLE_COUNT value fallback

def clampDays (value : Option ℚ) (fallback : ℤ) : ℤ :=
  clampWhole MAX_REASONABLE_DAYS value fallback

def normalizeEntityPair (sourceEntityKey targetEntityKey : String) : String × String :=
  orderedPair platform.toGraphPlatform sourceEntityKey targetEntityKey

def buildPairKey (sourceEntityKey targetEntityKey : String) : String :=
  let pair := normalizeEntityPair platform sourceEntityKey targetEntityKey
  pair.1 ++ "|" ++ pair.2

def DAY_MS : ℤ := 24 * 60 * 60 * 1000

def addDays (observedAt : String) (days : ℤ) : Option String := do
  let observedAtMs ← platform.dateParse observedAt
  platform.isoString (observedAtMs + days * DAY_MS)

def toConversationKey (threadKey : Option String) : String :=
  let normalized := normalizeWhitespace (threadKey.getD "")
  if normalized = "" then GLOBAL_CONVERSATION_KEY else normalized

def PRIVACY_SENSITIVE_KEYWORDS : List String :=
  ["health", "medical", "diagnosis", "therapy", "salary", "bank", "debt", "court", "legal",
    "immigration", "address", "phone", "password", "secret"]

def containsPrivacyKeyword (value : String) : Bool :=
  let normalized := platform.toLowerCase (normalizeWhitespace value)
  decide (normalized ≠ "") && PRIVACY_SENSITIVE_KEYWORDS.any (includes normalized)

/-- The uncertain co-mention of a pair. -/
def findBridgeEdgeSnapshot (graph : EntityGraphV1) (sourceEntityKey targetEntityKey : String) :
    Option RelationEdgeV1 :=
  graph.edges.find? fun edge =>
    decide (edge.relationType = .coMentioned) && decide (edge.status = .uncertain) &&
      decide (buildPairKey platform edge.sourceEntityKey edge.targetEntityKey =
        buildPairKey platform sourceEntityKey targetEntityKey)

def storedEntity (graph : EntityGraphV1) (entityKey : String) : Option EntityNodeV1 :=
  entitiesByKey.find entityKey (entitiesByKey.collect [] graph.entities)

def isEntityPrivacySensitive (graph : EntityGraphV1) (privacyOptOutEntityKeys : List String)
    (entityKey : String) : Bool :=
  decide (entityKey ∈ privacyOptOutEntityKeys) ||
    match storedEntity graph entityKey with
    | none => true
    | some entity =>
        decide (entity.entityType = .person) || decide (entity.entityType = .event) ||
          containsPrivacyKeyword platform entity.canonicalName ||
          entity.aliases.any (containsPrivacyKeyword platform)

def isPairPrivacySensitive (graph : EntityGraphV1) (sourceEntityKey targetEntityKey : String)
    (privacyOptOutEntityKeys : List String) : Bool :=
  isEntityPrivacySensitive platform graph privacyOptOutEntityKeys sourceEntityKey ||
    isEntityPrivacySensitive platform graph privacyOptOutEntityKeys targetEntityKey

/-! ## The bridge history -/

def isDatedRecord (record : BridgeInteractionRecordV1) : Bool :=
  (platform.dateParse record.askedAt).isSome && (platform.dateParse record.cooldownUntil).isSome

def askedOrder : Comparator BridgeInteractionRecordV1 :=
  platform.locale.byKey BridgeInteractionRecordV1.askedAt

/-- The part of the history that a decision reads. -/
def readHistory (recentBridgeHistory : List BridgeInteractionRecordV1) :
    List BridgeInteractionRecordV1 :=
  (askedOrder platform).sort (recentBridgeHistory.filter (isDatedRecord platform))

/-- Every status counts. -/
def countConversationBridgeEvents (history : List BridgeInteractionRecordV1)
    (conversationKey : String) : ℕ :=
  (history.filter fun record => record.conversationKey = conversationKey).length

def isRecordOfPair (sourceEntityKey targetEntityKey : String)
    (record : BridgeInteractionRecordV1) : Bool :=
  decide (buildPairKey platform record.sourceEntityKey record.targetEntityKey =
    buildPairKey platform sourceEntityKey targetEntityKey)

def getPairDeferralCount (history : List BridgeInteractionRecordV1)
    (sourceEntityKey targetEntityKey : String) : ℕ :=
  match (askedOrder platform).reverse.sort
      (history.filter (isRecordOfPair platform sourceEntityKey targetEntityKey)) with
  | [] => 0
  | latest :: _ => latest.deferralCount

/-- `Date.parse(cooldownUntil) >= Date.parse(observedAt)`. -/
def isCoolingAt (observedAt : String) (record : BridgeInteractionRecordV1) : Bool :=
  match platform.dateParse record.cooldownUntil, platform.dateParse observedAt with
  | some untilMs, some observedMs => decide (observedMs ≤ untilMs)
  | _, _ => false

def isBridgeCooldownActive (history : List BridgeInteractionRecordV1)
    (sourceEntityKey targetEntityKey observedAt : String) : Bool :=
  history.any fun record =>
    isRecordOfPair platform sourceEntityKey targetEntityKey record &&
      isCoolingAt platform observedAt record

/-! ## The gate -/

structure PulseCandidateV1 where
  candidateId : String
  reasonCode : PulseReasonCodeV1
  threadKey : Option String
  entityRefs : List String
  evidenceRefs : List String
  sourceAuthority : SourceAuthority
  provenanceTier : PulseProvenanceTierV1
  sensitive : Bool

structure EvaluateBridgeQuestionInputV1 where
  graph : EntityGraphV1
  candidate : PulseCandidateV1
  observedAt : String
  activeMissionWorkExists : Bool
  privacyOptOutEntityKeys : List String
  recentBridgeHistory : List BridgeInteractionRecordV1

structure EvaluateBridgeQuestionOptionsV1 where
  coMentionThreshold : Option ℚ
  coMentionWindowDays : Option ℚ
  bridgeCooldownDays : Option ℚ
  bridgeMaxPerConversation : Option ℚ

structure DeniedBridge where
  reason : BridgeBlockReason
  conflictCode : BridgeConflictCodeV1
  detail : String
  evidenceRefs : List String

inductive EvaluateBridgeQuestionResultV1 where
  | denied (denial : DeniedBridge)
  | approved (question : BridgeQuestionV1)

def buildQuestionId (sourceEntityKey targetEntityKey candidateId observedAt : String) : String :=
  "bridge_q_" ++ sliceUnits 20 (sha.digest (canonicalJson platform.locale
    (.obj [("sourceEntityKey", .str sourceEntityKey), ("targetEntityKey", .str targetEntityKey),
      ("candidateId", .str candidateId), ("observedAt", .str observedAt)])))

def buildBridgePrompt (sourceLabel targetLabel : String) : String :=
  "I noticed " ++ sourceLabel ++ " and " ++ targetLabel ++ " come up together. " ++
    "How would you describe their relationship: coworker, friend, family, project_related, " ++
    "other, or not related?"

def isOutsideWindow (edge : RelationEdgeV1) (observedAt : String) (windowDays : ℤ) : Bool :=
  match platform.dateParse edge.lastObservedAt, platform.dateParse observedAt with
  | some lastMs, some observedMs => decide ((windowDays : ℚ) < elapsedDays lastMs observedMs)
  | _, _ => false

/-- The refusals in the order in which they are checked, up to the pair's relation. -/
def deniedBeforeGate (options : EvaluateBridgeQuestionOptionsV1)
    (input : EvaluateBridgeQuestionInputV1) (edge : RelationEdgeV1) (source target : String) :
    Option DeniedBridge :=
  let history := readHistory platform input.recentBridgeHistory
  let optOutKeys := (input.privacyOptOutEntityKeys.map normalizeWhitespace).filter (· ≠ "")
  if edge.coMentionCount < clampCount options.coMentionThreshold DEFAULT_CO_MENTION_THRESHOLD then
    some ⟨.bridgeInsufficientEvidence, .insufficientEvidence,
      "Bridge threshold not met for co-mention count.", platform.locale.sort edge.evidenceRefs⟩
  else if isOutsideWindow platform edge input.observedAt
      (clampDays options.coMentionWindowDays DEFAULT_CO_MENTION_WINDOW_DAYS) then
    some ⟨.bridgeInsufficientEvidence, .insufficientEvidence,
      "Bridge co-mention signal is outside allowed recency window.",
      platform.locale.sort edge.evidenceRefs⟩
  else if input.activeMissionWorkExists then
    some ⟨.derailsActiveMission, .derailsActiveMission,
      "Bridge prompt suppressed because active mission work exists.",
      input.candidate.evidenceRefs⟩
  else if isPairPrivacySensitive platform input.graph source target optOutKeys then
    some ⟨.bridgePrivacySensitive, .privacySensitive,
      "Bridge prompt suppressed due privacy-sensitive entities.", input.candidate.evidenceRefs⟩
  else if isBridgeCooldownActive platform history source target input.observedAt then
    some ⟨.bridgeCooldownActive, .cooldownActive,
      "Bridge prompt suppressed because bridge cooldown is active for this pair.",
      input.candidate.evidenceRefs⟩
  else if clampCount options.bridgeMaxPerConversation DEFAULT_BRIDGE_MAX_PER_CONVERSATION ≤
      countConversationBridgeEvents history (toConversationKey input.candidate.threadKey) then
    some ⟨.bridgeCapReached, .capReached,
      "Bridge prompt suppressed because per-conversation bridge cap is reached.",
      input.candidate.evidenceRefs⟩
  else none

def entityLabel (graph : EntityGraphV1) (entityKey : String) : String :=
  ((storedEntity graph entityKey).map EntityNodeV1.canonicalName).getD entityKey

def bridgeQuestion (input : EvaluateBridgeQuestionInputV1) (edge : RelationEdgeV1)
    (source target cooldownUntil : String) : BridgeQuestionV1 where
  questionId :=
    buildQuestionId platform sha source target input.candidate.candidateId input.observedAt
  sourceEntityKey := source
  targetEntityKey := target
  prompt := buildBridgePrompt (entityLabel input.graph source) (entityLabel input.graph target)
  createdAt := input.observedAt
  cooldownUntil := cooldownUntil
  threadKey := input.candidate.threadKey
  evidenceRefs := platform.locale.sort (uniqueValues
    (platform.locale.sort edge.evidenceRefs ++ input.candidate.evidenceRefs))
  sourceAuthority := input.candidate.sourceAuthority
  provenanceTier := input.candidate.provenanceTier
  sensitive := input.candidate.sensitive
  activeMissionSuppressed := false

/-- `none` where a time does not parse or lies out of range. -/
def evaluateBridgeQuestionEmissionV1 (options : EvaluateBridgeQuestionOptionsV1)
    (input : EvaluateBridgeQuestionInputV1) : Option EvaluateBridgeQuestionResultV1 :=
  let insufficient (detail : String) : EvaluateBridgeQuestionResultV1 :=
    .denied ⟨.bridgeInsufficientEvidence, .insufficientEvidence, detail,
      input.candidate.evidenceRefs⟩
  if !isValidIsoTimestamp platform.toGraphPlatform input.observedAt then none
  else if input.candidate.reasonCode ≠ .relationshipClarification then
    some (insufficient "Bridge emission requires a RELATIONSHIP_CLARIFICATION pulse candidate.")
  else
    match input.candidate.entityRefs with
    | first :: second :: _ =>
        let pair := normalizeEntityPair platform first second
        match findBridgeEdgeSnapshot platform input.graph pair.1 pair.2 with
        | none =>
            some (insufficient "No uncertain co-mention edge exists for bridge pair.")
        | some edge =>
            match deniedBeforeGate platform options input edge pair.1 pair.2 with
            | some denial => some (.denied denial)
            | none => do
                let cooldownUntil ← addDays platform input.observedAt
                  (clampDays options.bridgeCooldownDays DEFAULT_BRIDGE_COOLDOWN_DAYS)
                some (.approved
                  (bridgeQuestion platform sha input edge pair.1 pair.2 cooldownUntil))
    | _ => some (insufficient "Bridge emission requires exactly two entity refs.")

/-! ## Confirmed relations -/

structure Stage686RelationPromotionInput where
  sourceEntityKey : String
  targetEntityKey : String
  relationType : BridgeRelationTypeV1
  explicitUserConfirmation : Bool
  observedAt : String
  evidenceRef : String

structure Stage686RelationPromotionResult where
  graph : EntityGraphV1
  promoted : Bool
  deniedConflictCode : Option BridgeConflictCodeV1
  edgeKey : Option String

def promotionDenied (graph : EntityGraphV1) : Stage686RelationPromotionResult where
  graph := graph
  promoted := false
  deniedConflictCode := some .insufficientEvidence
  edgeKey := none

def promoteRelationEdgeWithConfirmation (graph : EntityGraphV1)
    (input : Stage686RelationPromotionInput) : Option Stage686RelationPromotionResult :=
  let graphPlatform := platform.toGraphPlatform
  if !isValidIsoTimestamp graphPlatform input.observedAt then none
  else if !input.explicitUserConfirmation then some (promotionDenied graph)
  else
    let edgeKey := buildEdgeKey graphPlatform sha input.sourceEntityKey input.targetEntityKey
    if !graph.edges.any (fun edge => edge.edgeKey = edgeKey) then some (promotionDenied graph)
    else
      let promotedEdges := graph.edges.map fun edge =>
        if edge.edgeKey ≠ edgeKey then edge
        else
          { edge with
            relationType := input.relationType.relationType
            status := .confirmed
            lastObservedAt := input.observedAt
            evidenceRefs := mergeStringList graphPlatform edge.evidenceRefs [input.evidenceRef] 64 }
      some
        { graph :=
            { graph with
              updatedAt := input.observedAt
              edges := sortRelationEdges graphPlatform promotedEdges }
          promoted := true
          deniedConflictCode := none
          edgeKey := some edgeKey }

def mergeEvidenceRefs (left right : List String) : List String :=
  platform.locale.sort (uniqueValues (((left ++ right).map normalizeWhitespace).filter (· ≠ "")))

/-- Confirms every relation of the pair, whatever its edge key is. -/
def promoteRelationEdgeByPairFallback (graph : EntityGraphV1)
    (sourceEntityKey targetEntityKey : String) (relationType : BridgeRelationTypeV1)
    (observedAt evidenceRef : String) : EntityGraphV1 × Bool :=
  let isOfPair (edge : RelationEdgeV1) : Bool :=
    decide (buildPairKey platform edge.sourceEntityKey edge.targetEntityKey =
      buildPairKey platform sourceEntityKey targetEntityKey)
  if !graph.edges.any isOfPair then (graph, false)
  else
    let nextEdges := graph.edges.map fun edge =>
      if !isOfPair edge then edge
      else
        { edge with
          relationType := relationType.relationType
          status := .confirmed
          lastObservedAt := observedAt
          evidenceRefs := mergeEvidenceRefs platform edge.evidenceRefs [evidenceRef] }
    ({ graph with
        updatedAt := observedAt
        edges := sortRelationEdges platform.toGraphPlatform nextEdges }, true)

/-! ## Answers -/

/-- A confirmation may name no relation; any other answer defers the question. -/
inductive BridgeAnswerV1 where
  | confirmed (relationType : Option BridgeRelationTypeV1)
  | deferred

structure ResolveBridgeAnswerInputV1 where
  graph : EntityGraphV1
  question : BridgeQuestionV1
  observedAt : String
  evidenceRef : String
  answer : BridgeAnswerV1
  recentBridgeHistory : List BridgeInteractionRecordV1
  bridgeCooldownDays : Option ℚ

structure ResolveBridgeAnswerResultV1 where
  graph : EntityGraphV1
  deniedConflictCode : Option BridgeConflictCodeV1
  historyRecord : BridgeInteractionRecordV1

/-- The record an answer leaves. -/
def answerRecord (input : ResolveBridgeAnswerInputV1) (status : BridgeStatus)
    (cooldownUntil : String) (deferralCount : ℕ) : BridgeInteractionRecordV1 :=
  let pair := normalizeEntityPair platform input.question.sourceEntityKey
    input.question.targetEntityKey
  { questionId := input.question.questionId
    conversationKey := toConversationKey input.question.threadKey
    sourceEntityKey := pair.1
    targetEntityKey := pair.2
    askedAt := input.observedAt
    status := status
    cooldownUntil := cooldownUntil
    deferralCount := deferralCount }

/-- The graph after a confirmation, with what denied it. -/
def confirmRelation (input : ResolveBridgeAnswerInputV1) (relationType : BridgeRelationTypeV1) :
    Option (EntityGraphV1 × Option BridgeConflictCodeV1) := do
  let pair := normalizeEntityPair platform input.question.sourceEntityKey
    input.question.targetEntityKey
  let promoted ← promoteRelationEdgeWithConfirmation platform sha input.graph
    ⟨pair.1, pair.2, relationType, true, input.observedAt, input.evidenceRef⟩
  if !promoted.promoted && decide (promoted.deniedConflictCode = some .insufficientEvidence) then
    let (graph, fallbackPromoted) := promoteRelationEdgeByPairFallback platform input.graph pair.1
      pair.2 relationType input.observedAt input.evidenceRef
    some (graph, if fallbackPromoted then none else promoted.deniedConflictCode)
  else
    some (promoted.graph, if promoted.promoted then none else promoted.deniedConflictCode)

def resolveBridgeQuestionAnswerV1 (input : ResolveBridgeAnswerInputV1) :
    Option ResolveBridgeAnswerResultV1 :=
  if !isValidIsoTimestamp platform.toGraphPlatform input.observedAt then none
  else
    let cooldownDays := clampDays input.bridgeCooldownDays DEFAULT_BRIDGE_COOLDOWN_DAYS
    let pair := normalizeEntityPair platform input.question.sourceEntityKey
      input.question.targetEntityKey
    let priorDeferrals := getPairDeferralCount platform
      (readHistory platform input.recentBridgeHistory) pair.1 pair.2
    match input.answer with
    | .confirmed none => do
        let cooldownUntil ← addDays platform input.observedAt (cooldownDays * 2)
        some ⟨input.graph, some .insufficientEvidence,
          answerRecord platform input .deferred cooldownUntil (priorDeferrals + 1)⟩
    | .confirmed (some relationType) => do
        let (graph, deniedConflictCode) ← confirmRelation platform sha input relationType
        let cooldownUntil ← addDays platform input.observedAt cooldownDays
        let status := if deniedConflictCode = none then .confirmed else .deferred
        some ⟨graph, deniedConflictCode,
          answerRecord platform input status cooldownUntil priorDeferrals⟩
    | .deferred => do
        let nextDeferralCount := priorDeferrals + 1
        let cooldownUntil ←
          addDays platform input.observedAt (cooldownDays * (1 + nextDeferralCount))
        some ⟨input.graph, none,
          answerRecord platform input .deferred cooldownUntil nextDeferralCount⟩

end AgentBigBrain.Core
