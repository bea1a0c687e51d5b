import AgentBigBrain.Core.BridgeQuestions

/-!
# Pulse candidates

What the assistant may bring up on its own is drafted from the graph and the conversation
stack, scored, and decided candidate by candidate. At most one candidate of an evaluation is
emitted; the emissions of earlier evaluations bound how often.
-/
namespace AgentBigBrain.Core.Pulse

open AgentBigBrain.Js AgentBigBrain.Lib

structure PulsePlatform extends BridgePlatform where
  /-- The shortest decimal text of a number. -/
  numberText : ℚ → NumberText

variable (platform : PulsePlatform) (sha : Sha256)

/-! ## Vocabulary -/

def reasonText : PulseReasonCodeV1 → String
  | .openLoopResume => "OPEN_LOOP_RESUME"
  | .relationshipClarification => "RELATIONSHIP_CLARIFICATION"
  | .topicDriftResume => "TOPIC_DRIFT_RESUME"
  | .staleFactRevalidation => "STALE_FACT_REVALIDATION"
  | .userRequestedFollowup => "USER_REQUESTED_FOLLOWUP"
  | .safetyHold => "SAFETY_HOLD"

/-- The place of a reason in `STAGE_6_86_PULSE_REASON_CODES`. -/
def REASON_ORDER : PulseReasonCodeV1 → ℕ
  | .openLoopResume => 0
  | .relationshipClarification => 1
  | .topicDriftResume => 2
  | .staleFactRevalidation => 3
  | .userRequestedFollowup => 4
  | .safetyHold => 5

def SOURCE_REASON_WEIGHT : PulseReasonCodeV1 → ℚ
  | .openLoopResume => 72 / 100
  | .relationshipClarification => 69 / 100
  | .topicDriftResume => 58 / 100
  | .staleFactRevalidation => 61 / 100
  | .userRequestedFollowup => 55 / 100
  | .safetyHold => 2 / 10

def tierText : PulseProvenanceTierV1 → String
  | .trusted => "trusted"
  | .supporting => "supporting"
  | .weak => "weak"

def staleRuntimeContextText : String := "stale_runtime_context"

structure PulseScoreBreakdownV1 where
  recency : ℚ
  frequency : ℚ
  unresolvedImportance : ℚ
  sensitivityPenalty : ℚ
  cooldownPenalty : ℚ
  deriving DecidableEq

/-- The source authority of every draft is `stale_runtime_context`. -/
structure PulseCandidateDraftV1 where
  reasonCode : PulseReasonCodeV1
  lastTouchedAt : String
  threadKey : Option String
  entityRefs : List String
  evidenceRefs : List String
  provenanceTier : PulseProvenanceTierV1
  sensitive : Bool
  scoreBreakdown : PulseScoreBreakdownV1
  deriving DecidableEq

/-- A draft with its score and its ids. -/
structure RankedCandidate extends PulseCandidateDraftV1 where
  candidateId : String
  score : ℚ
  stableHash : String
  deriving DecidableEq

inductive PulseBlockReason where
  | derailsActiveMission
  | privacySensitive
  | bridgePrivacySensitive
  | bridgeCooldownActive
  | pulseCapReached
  | bridgeCapReached
  | pulseCooldownActive
  deriving DecidableEq

/-- Emit, or suppress for a reason. -/
inductive PulseDecisionV1 where
  | emit
  | suppress (blockDetailReason : PulseBlockReason)
  deriving DecidableEq

structure PulseCandidateDecisionV1 where
  candidate : RankedCandidate
  decision : PulseDecisionV1
  deriving DecidableEq

structure PulseEmissionRecordV1 where
  emittedAt : String
  reasonCode : PulseReasonCodeV1
  candidateEntityRefs : List String
  deriving DecidableEq

structure EvaluatePulseCandidatesOptionsV1 where
  pulseMaxPerDay : Option ℚ
  pulseMinIntervalMinutes : Option ℚ
  pulseMaxOpenLoopsSurfaced : Option ℚ
  coMentionThreshold : Option ℚ
  coMentionWindowDays : Option ℚ
  bridgeCooldownDays : Option ℚ
  openLoopStaleDays : Option ℚ
  staleFactRevalidationDays : Option ℚ
  entitySalienceThreshold : Option ℚ

structure EvaluatePulseCandidatesInputV1 where
  graph : EntityGraphV1
  stack : ConversationStackV1
  observedAt : String
  recentPulseHistory : List PulseEmissionRecordV1
  activeMissionWorkExists : Bool
  privacyOptOutEntityKeys : List String

structure EvaluatePulseCandidatesResultV1 where
  orderedCandidates : List RankedCandidate
  decisions : List PulseCandidateDecisionV1
  emittedCandidate : Option RankedCandidate

/-! ## Helpers -/

def DEFAULT_PULSE_MAX_PER_DAY : ℤ := 2

def DEFAULT_PULSE_MIN_INTERVAL_MINUTES : ℤ := 240

def DEFAULT_PULSE_MAX_OPEN_LOOPS_SURFACED : ℤ := 1

def DEFAULT_OPEN_LOOP_STALE_DAYS : ℤ := 30

def DEFAULT_STALE_FACT_REVALIDATION_DAYS : ℤ := 90

def DEFAULT_ENTITY_SALIENCE_THRESHOLD : ℤ := 2

def MAX_REASONABLE_MINUTES : ℤ := 24 * 60 * 7

def clampMinutes (value : Option ℚ) (fallback : ℤ) : ℤ :=
  clampWhole MAX_REASONABLE_MINUTES value fallback

/-- Texts with their blanks collapsed, each once, in order. -/
def normalizeStringArray (values : List String) : List String :=
  platform.locale.sort (uniqueValues ((values.map normalizeWhitespace).filter (· ≠ "")))

def clampRatio (value : ℚ) : ℚ :=
  toFixed4 (min 1 (max 0 value))

/-- `none` where a time does not parse, which is no number. -/
def daysBetween (earlierIso laterIso : String) : Option ℚ := do
  let earlier ← platform.dateParse earlierIso
  let later ← platform.dateParse laterIso
  some (elapsedDays earlier later)

def computeRecencySignal (lastTouchedAt observedAt : String) : ℚ :=
  match daysBetween platform lastTouchedAt observedAt with
  | none => 0
  | some ageDays => clampRatio (platform.halfPower (ageDays / 30))

def computeStalenessSignal (lastTouchedAt observedAt : String) (staleDays : ℤ) : ℚ :=
  match daysBetween platform lastTouchedAt observedAt with
  | none => 0
  | some ageDays =>
      if ageDays ≤ staleDays then 0 else clampRatio ((ageDays - staleDays) / staleDays)

def isEntityPrivacySensitive (entity : EntityNodeV1) (optOutKeys : List String) : Bool :=
  decide (entity.entityKey ∈ optOutKeys) || decide (entity.entityType = .person) ||
    decide (entity.entityType = .event) ||
    containsPrivacyKeyword platform.toBridgePlatform entity.canonicalName ||
    entity.aliases.any (containsPrivacyKeyword platform.toBridgePlatform)

/-- Is an end of the relation an entity that the privacy rule protects? -/
def hasPrivateEnd (graph : EntityGraphV1) (optOutKeys : List String) (edge : RelationEdgeV1) :
    Bool :=
  [edge.sourceEntityKey, edge.targetEntityKey].any fun key =>
    (storedEntity graph key).any fun entity => isEntityPrivacySensitive platform entity optOutKeys

def tierOf (privacySensitive : Bool) : PulseProvenanceTierV1 :=
  if privacySensitive then .weak else .supporting

def penaltyOf (privacySensitive : Bool) (penalty : ℚ) : ℚ :=
  if privacySensitive then penalty else 0

/-! ## Order and ids -/

def draftOrder : Comparator PulseCandidateDraftV1 :=
  (platform.locale.byKey PulseCandidateDraftV1.lastTouchedAt).reverse.thenBy <|
    (platform.locale.byKey fun draft => reasonText draft.reasonCode).thenBy <|
      (platform.locale.byKey fun draft => ",".intercalate draft.entityRefs).thenBy <|
        platform.locale.byKey fun draft => draft.threadKey.getD ""

def sortDrafts (drafts : List PulseCandidateDraftV1) : List PulseCandidateDraftV1 :=
  (draftOrder platform).sort drafts

def threadJson (threadKey : Option String) : Json :=
  match threadKey with
  | none => .null
  | some key => .str key

def textsJson (texts : List String) : Json := .arr (texts.map .str)

def buildCandidateId (draft : PulseCandidateDraftV1) : String :=
  "pulse_candidate_" ++ sliceUnits 20 (sha.digest (canonicalJson platform.locale
    (.obj [("reasonCode", .str (reasonText draft.reasonCode)),
      ("lastTouchedAt", .str draft.lastTouchedAt), ("threadKey", threadJson draft.threadKey),
      ("entityRefs", textsJson (platform.locale.sort draft.entityRefs))])))

def numberJson (value : ℚ) : Json := .num (platform.numberText value)

def breakdownJson (breakdown : PulseScoreBreakdownV1) : Json :=
  .obj [("recency", numberJson platform breakdown.recency),
    ("frequency", numberJson platform breakdown.frequency),
    ("unresolvedImportance", numberJson platform breakdown.unresolvedImportance),
    ("sensitivityPenalty", numberJson platform breakdown.sensitivityPenalty),
    ("cooldownPenalty", numberJson platform breakdown.cooldownPenalty)]

/-- The fingerprint of a candidate without its hash. -/
def stableHash (draft : PulseCandidateDraftV1) (candidateId : String) (score : ℚ) : String :=
  sha.digest (canonicalJson platform.locale
    (.obj [("candidateId", .str candidateId), ("reasonCode", .str (reasonText draft.reasonCode)),
      ("score", numberJson platform score),
      ("scoreBreakdown", breakdownJson platform draft.scoreBreakdown),
      ("lastTouchedAt", .str draft.lastTouchedAt), ("threadKey", threadJson draft.threadKey),
      ("entityRefs", textsJson draft.entityRefs), ("evidenceRefs", textsJson draft.evidenceRefs),
      ("sourceAuthority", .str staleRuntimeContextText),
      ("provenanceTier", .str (tierText draft.provenanceTier)),
      ("sensitive", .bool draft.sensitive), ("activeMissionSuppressed", .bool false)]))

def toPulseCandidate (draft : PulseCandidateDraftV1) : RankedCandidate :=
  let unresolvedImportance :=
    draft.scoreBreakdown.unresolvedImportance + SOURCE_REASON_WEIGHT draft.reasonCode * (15 / 100)
  let score := clampRatio
    (draft.scoreBreakdown.recency * (35 / 100) + draft.scoreBreakdown.frequency * (25 / 100) +
      unresolvedImportance * (4 / 10) - draft.scoreBreakdown.sensitivityPenalty -
      draft.scoreBreakdown.cooldownPenalty)
  let candidateId := buildCandidateId platform sha draft
  let scored : PulseCandidateDraftV1 :=
    { draft with
      scoreBreakdown :=
        { draft.scoreBreakdown with unresolvedImportance := clampRatio unresolvedImportance } }
  { scored with
    candidateId := candidateId
    score := score
    stableHash := stableHash platform sha scored candidateId score }

def candidateOrder : Comparator RankedCandidate :=
  ((numberOrder ℚ).byKey RankedCandidate.score).reverse.thenBy <|
    ((numberOrder ℕ).byKey fun candidate => REASON_ORDER candidate.reasonCode).thenBy <|
      (platform.locale.byKey fun candidate => candidate.lastTouchedAt).reverse.thenBy <|
        platform.locale.byKey RankedCandidate.stableHash

def sortCandidates (candidates : List RankedCandidate) : List RankedCandidate :=
  (candidateOrder platform).sort candidates

/-! ## Drafts -/

def highSalienceEntityDraft (observedAt : String) (optOutKeys : List String)
    (entity : EntityNodeV1) : PulseCandidateDraftV1 :=
  let privacySensitive := isEntityPrivacySensitive platform entity optOutKeys
  { reasonCode := .userRequestedFollowup
    lastTouchedAt := entity.lastSeenAt
    threadKey := none
    entityRefs := [entity.entityKey]
    evidenceRefs := normalizeStringArray platform entity.evidenceRefs
    provenanceTier := tierOf privacySensitive
    sensitive := privacySensitive
    scoreBreakdown :=
      { recency := computeRecencySignal platform entity.lastSeenAt observedAt
        frequency := clampRatio (entity.salience / 10)
        unresolvedImportance := 55 / 100
        sensitivityPenalty := penaltyOf privacySensitive (35 / 100)
        cooldownPenalty := 0 } }

def buildHighSalienceEntityDrafts (graph : EntityGraphV1) (observedAt : String)
    (entitySalienceThreshold : ℤ) (optOutKeys : List String) : List PulseCandidateDraftV1 :=
  ((platform.locale.byKey EntityNodeV1.entityKey).sort
    (graph.entities.filter fun entity => decide ((entitySalienceThreshold : ℚ) ≤ entity.salience))).map
      (highSalienceEntityDraft platform observedAt optOutKeys)

def edgeKeyOrder : Comparator RelationEdgeV1 :=
  platform.locale.byKey RelationEdgeV1.edgeKey

def bridgeCandidateDraft (graph : EntityGraphV1) (observedAt : String) (coMentionThreshold : ℤ)
    (optOutKeys : List String) (edge : RelationEdgeV1) : PulseCandidateDraftV1 :=
  let privacySensitive := hasPrivateEnd platform graph optOutKeys edge
  { reasonCode := .relationshipClarification
    lastTouchedAt := edge.lastObservedAt
    threadKey := none
    entityRefs := normalizeStringArray platform [edge.sourceEntityKey, edge.targetEntityKey]
    evidenceRefs := normalizeStringArray platform edge.evidenceRefs
    provenanceTier := tierOf privacySensitive
    sensitive := privacySensitive
    scoreBreakdown :=
      { recency := computeRecencySignal platform edge.lastObservedAt observedAt
        frequency := clampRatio (edge.coMentionCount / (coMentionThreshold + 2))
        unresolvedImportance := 68 / 100
        sensitivityPenalty := penaltyOf privacySensitive (45 / 100)
        cooldownPenalty := 0 } }

def isBridgeable (observedAt : String) (coMentionThreshold coMentionWindowDays : ℤ)
    (edge : RelationEdgeV1) : Bool :=
  decide (edge.relationType = .coMentioned) && decide (edge.status = .uncertain) &&
    decide ((coMentionThreshold : ℚ) ≤ edge.coMentionCount) &&
    (daysBetween platform edge.lastObservedAt observedAt).any
      (· ≤ (coMentionWindowDays : ℚ))

def buildBridgeCandidateDrafts (graph : EntityGraphV1) (observedAt : String)
    (coMentionThreshold coMentionWindowDays : ℤ) (optOutKeys : List String) :
    List PulseCandidateDraftV1 :=
  ((edgeKeyOrder platform).sort
    (graph.edges.filter (isBridgeable platform observedAt coMentionThreshold
      coMentionWindowDays))).map
        (bridgeCandidateDraft platform graph observedAt coMentionThreshold optOutKeys)

def isPrivateOpenLoopActorEvidence (actorScope : Option ContinuityActorScopeV1) : Bool :=
  match actorScope with
  | none => false
  | some scope =>
      decide (scope.scopeSource ≠ .sharedPublic) && decide (scope.accessClass ≠ "shared_public") &&
        decide (scope.routeVisibility ≠ .isPublic)

def normalizeEvidenceSegment (value : String) : String :=
  let segment := String.ofList ((trim value).toList.map fun c =>
    if c.isAlphanum || c == '.' || c == '_' || c == '-' then c else '_')
  if segment = "" then "unknown" else segment

def scopeSourceText : ActorScopeSource → String
  | .transportPrincipal => "transport_principal"
  | .missionRuntime => "mission_runtime"
  | .operatorReview => "operator_review"
  | .sharedPublic => "shared_public"
  | .legacyUnknown => "legacy_unknown"

def visibilityText : RouteVisibility → String
  | .isPrivate => "private"
  | .isPublic => "public"
  | .unknown => "unknown"

def buildOpenLoopActorEvidenceRefs (actorScope : Option ContinuityActorScopeV1) : List String :=
  match actorScope with
  | none => []
  | some scope =>
      [":".intercalate ["open_loop_actor_scope",
        normalizeEvidenceSegment (scopeSourceText scope.scopeSource),
        normalizeEvidenceSegment scope.accessClass,
        normalizeEvidenceSegment (visibilityText scope.routeVisibility),
        normalizeEvidenceSegment scope.legacyIdentityState]]

/-- Is an open loop private, by an entity that opted out, its topic or its actor? -/
def isPrivateOpenLoop (optOutKeys : List String) (thread : ThreadFrameV1) (loop : OpenLoopV1) :
    Bool :=
  (normalizeStringArray platform loop.entityRefs).any (fun key => decide (key ∈ optOutKeys)) ||
    containsPrivacyKeyword platform.toBridgePlatform thread.topicLabel ||
    isPrivateOpenLoopActorEvidence loop.actorScope

def openLoopDraft (observedAt : String) (openLoopStaleDays : ℤ) (optOutKeys : List String)
    (thread : ThreadFrameV1) (loop : OpenLoopV1) : PulseCandidateDraftV1 :=
  let staleSignal := computeStalenessSignal platform loop.lastMentionedAt observedAt openLoopStaleDays
  let privacySensitive := isPrivateOpenLoop platform optOutKeys thread loop
  { reasonCode := .openLoopResume
    lastTouchedAt := loop.lastMentionedAt
    threadKey := some thread.threadKey
    entityRefs := normalizeStringArray platform loop.entityRefs
    evidenceRefs := normalizeStringArray platform
      (("thread:" ++ thread.threadKey ++ ":loop:" ++ loop.loopId) ::
        buildOpenLoopActorEvidenceRefs loop.actorScope)
    provenanceTier := tierOf privacySensitive
    sensitive := privacySensitive
    scoreBreakdown :=
      { recency := computeRecencySignal platform loop.lastMentionedAt observedAt
        frequency := clampRatio (1 / (1 + staleSignal))
        unresolvedImportance := clampRatio (loop.priority + staleSignal * (3 / 10))
        sensitivityPenalty := penaltyOf privacySensitive (3 / 10)
        cooldownPenalty := 0 } }

/-- Every open loop of every thread, before the limit. -/
def allOpenLoopDrafts (stack : ConversationStackV1) (observedAt : String) (openLoopStaleDays : ℤ)
    (optOutKeys : List String) : List PulseCandidateDraftV1 :=
  stack.threads.flatMap fun thread =>
    (thread.openLoops.filter fun loop => decide (loop.status = .unresolved)).map
      (openLoopDraft platform observedAt openLoopStaleDays optOutKeys thread)

/-- The surfaced loops keep the importance that ranking gave them. -/
def buildOpenLoopDrafts (stack : ConversationStackV1) (observedAt : String)
    (openLoopStaleDays pulseMaxOpenLoopsSurfaced : ℤ) (optOutKeys : List String) :
    List PulseCandidateDraftV1 :=
  let allDrafts := allOpenLoopDrafts platform stack observedAt openLoopStaleDays optOutKeys
  let ordered := (sortDrafts platform allDrafts).map (toPulseCandidate platform sha)
  ((sortCandidates platform ordered).take pulseMaxOpenLoopsSurfaced.toNat).map
    RankedCandidate.toPulseCandidateDraftV1

def topicDriftDraft (stack : ConversationStackV1) (observedAt : String) (thread : ThreadFrameV1) :
    PulseCandidateDraftV1 :=
  let topic := topicsByKey.find thread.topicKey (topicsByKey.collect [] stack.topics)
  let mentionCount := (topic.map TopicNodeV1.mentionCount).getD 1
  let privacySensitive := containsPrivacyKeyword platform.toBridgePlatform thread.topicLabel
  { reasonCode := .topicDriftResume
    lastTouchedAt := thread.lastTouchedAt
    threadKey := some thread.threadKey
    entityRefs := []
    evidenceRefs := normalizeStringArray platform
      ["thread:" ++ thread.threadKey ++ ":topic:" ++ thread.topicKey]
    provenanceTier := tierOf privacySensitive
    sensitive := privacySensitive
    scoreBreakdown :=
      { recency := computeRecencySignal platform thread.lastTouchedAt observedAt
        frequency := clampRatio (mentionCount / 8)
        unresolvedImportance := 48 / 100
        sensitivityPenalty := penaltyOf privacySensitive (25 / 100)
        cooldownPenalty := 0 } }

def buildTopicDriftDrafts (stack : ConversationStackV1) (observedAt : String) :
    List PulseCandidateDraftV1 :=
  ((platform.locale.byKey ThreadFrameV1.threadKey).sort
    (stack.threads.filter fun thread => decide (thread.state = .paused))).map
      (topicDriftDraft platform stack observedAt)

def staleFactDraft (graph : EntityGraphV1) (observedAt : String) (staleFactRevalidationDays : ℤ)
    (optOutKeys : List String) (edge : RelationEdgeV1) : PulseCandidateDraftV1 :=
  let privacySensitive := hasPrivateEnd platform graph optOutKeys edge
  { reasonCode := .staleFactRevalidation
    lastTouchedAt := edge.lastObservedAt
    threadKey := none
    entityRefs := normalizeStringArray platform [edge.sourceEntityKey, edge.targetEntityKey]
    evidenceRefs := normalizeStringArray platform edge.evidenceRefs
    provenanceTier := tierOf privacySensitive
    sensitive := privacySensitive
    scoreBreakdown :=
      { recency := computeStalenessSignal platform edge.lastObservedAt observedAt
          staleFactRevalidationDays
        frequency := clampRatio (edge.coMentionCount / 10)
        unresolvedImportance := 61 / 100
        sensitivityPenalty := penaltyOf privacySensitive (4 / 10)
        cooldownPenalty := 0 } }

def isStaleFact (observedAt : String) (staleFactRevalidationDays : ℤ) (edge : RelationEdgeV1) :
    Bool :=
  decide (edge.status = .confirmed) &&
    (daysBetween platform edge.lastObservedAt observedAt).any
      ((staleFactRevalidationDays : ℚ) ≤ ·)

def buildStaleFactDrafts (graph : EntityGraphV1) (observedAt : String)
    (staleFactRevalidationDays : ℤ) (optOutKeys : List String) : List PulseCandidateDraftV1 :=
  ((edgeKeyOrder platform).sort
    (graph.edges.filter (isStaleFact platform observedAt staleFactRevalidationDays))).map
      (staleFactDraft platform graph observedAt staleFactRevalidationDays optOutKeys)

/-! ## Gates -/

def latestFirst : Comparator PulseEmissionRecordV1 :=
  (platform.locale.byKey PulseEmissionRecordV1.emittedAt).reverse

def isDatedEmission (entry : PulseEmissionRecordV1) : Bool :=
  (platform.dateParse entry.emittedAt).isSome

def isGlobalCooldownActive (history : List PulseEmissionRecordV1) (observedAt : String)
    (pulseMinIntervalMinutes : ℤ) : Bool :=
  match (latestFirst platform).sort (history.filter (isDatedEmission platform)) with
  | [] => false
  | latest :: _ =>
      (daysBetween platform latest.emittedAt observedAt).any
        (· * 24 * 60 < (pulseMinIntervalMinutes : ℚ))

/-- The emissions that the daily cap counts. -/
def emittedLastDay (history : List PulseEmissionRecordV1) (observedAt : String) :
    List PulseEmissionRecordV1 :=
  history.filter fun entry => (daysBetween platform entry.emittedAt observedAt).any (· ≤ 1)

def isDailyCapReached (history : List PulseEmissionRecordV1) (observedAt : String)
    (pulseMaxPerDay : ℤ) : Bool :=
  decide (pulseMaxPerDay ≤ (emittedLastDay platform history observedAt).length)

def refsKey (entityRefs : List String) : String :=
  "|".intercalate (normalizeStringArray platform entityRefs)

def isBridgeCooldownActive (history : List PulseEmissionRecordV1) (candidate : RankedCandidate)
    (observedAt : String) (bridgeCooldownDays : ℤ) : Bool :=
  if candidate.reasonCode ≠ .relationshipClarification || candidate.entityRefs.length < 2 then false
  else
    history.any fun entry =>
      decide (entry.reasonCode = .relationshipClarification) &&
        decide (refsKey platform entry.candidateEntityRefs =
          refsKey platform candidate.entityRefs) &&
        (daysBetween platform entry.emittedAt observedAt).any (· ≤ (bridgeCooldownDays : ℚ))

/-- Does the candidate involve an entity that the privacy rule protects? -/
def involvesPrivateEntity (graph : EntityGraphV1) (optOutKeys : List String)
    (candidate : RankedCandidate) : Bool :=
  candidate.entityRefs.any fun key =>
    decide (key ∈ optOutKeys) ||
      (storedEntity graph key).any fun entity => isEntityPrivacySensitive platform entity optOutKeys

/-- Is the topic of the candidate's thread private? -/
def hasPrivateThread (stack : ConversationStackV1) (candidate : RankedCandidate) : Bool :=
  match candidate.threadKey with
  | none => false
  | some key =>
      if key = "" then false
      else
        (stack.threads.find? fun thread => thread.threadKey = key).any fun thread =>
          containsPrivacyKeyword platform.toBridgePlatform thread.topicLabel

def candidateHasPrivacyRisk (candidate : RankedCandidate) (graph : EntityGraphV1)
    (stack : ConversationStackV1) (optOutKeys : List String) : Bool :=
  involvesPrivateEntity platform graph optOutKeys candidate || hasPrivateThread platform stack candidate

/-! ## Decisions -/

/-- What the decision on a candidate reads besides the candidate and the emission before it. -/
structure PulseGate where
  activeMissionWorkExists : Bool
  hasPrivacyRisk : RankedCandidate → Bool
  isBridgeCooldownActive : RankedCandidate → Bool
  dailyCapReached : Bool
  globalCooldownActive : Bool

def PulseGate.decide (gate : PulseGate) (emitted : Bool) (candidate : RankedCandidate) :
    PulseDecisionV1 :=
  let isBridge := candidate.reasonCode == .relationshipClarification
  if gate.activeMissionWorkExists then .suppress .derailsActiveMission
  else if gate.hasPrivacyRisk candidate then
    .suppress (if isBridge then .bridgePrivacySensitive else .privacySensitive)
  else if gate.isBridgeCooldownActive candidate then .suppress .bridgeCooldownActive
  else if gate.dailyCapReached || emitted then
    .suppress (if isBridge then .bridgeCapReached else .pulseCapReached)
  else if gate.globalCooldownActive then .suppress .pulseCooldownActive
  else .emit

/-- The loop over the ordered candidates; `emitted` says whether one was emitted before. -/
def decideCandidates (gate : PulseGate) : Bool → List RankedCandidate → List PulseCandidateDecisionV1
  | _, [] => []
  | emitted, candidate :: rest =>
      let decision := gate.decide emitted candidate
      ⟨candidate, decision⟩ :: decideCandidates gate (emitted || decision == .emit) rest

def emittedOf (decisions : List PulseCandidateDecisionV1) : Option RankedCandidate :=
  (decisions.find? fun entry => entry.decision == .emit).map PulseCandidateDecisionV1.candidate

def readHistory (recentPulseHistory : List PulseEmissionRecordV1) : List PulseEmissionRecordV1 :=
  (platform.locale.byKey PulseEmissionRecordV1.emittedAt).sort
    ((recentPulseHistory.filter (isDatedEmission platform)).map fun entry =>
      { entry with candidateEntityRefs := normalizeStringArray platform entry.candidateEntityRefs })

def pulseGate (options : EvaluatePulseCandidatesOptionsV1) (input : EvaluatePulseCandidatesInputV1) :
    PulseGate :=
  let optOutKeys := normalizeStringArray platform input.privacyOptOutEntityKeys
  let history := readHistory platform input.recentPulseHistory
  { activeMissionWorkExists := input.activeMissionWorkExists
    hasPrivacyRisk candidate :=
      candidateHasPrivacyRisk platform candidate input.graph input.stack optOutKeys
    isBridgeCooldownActive candidate :=
      isBridgeCooldownActive platform history candidate input.observedAt
        (clampDays options.bridgeCooldownDays DEFAULT_BRIDGE_COOLDOWN_DAYS)
    dailyCapReached := isDailyCapReached platform history input.observedAt
      (clampCount options.pulseMaxPerDay DEFAULT_PULSE_MAX_PER_DAY)
    globalCooldownActive := isGlobalCooldownActive platform history input.observedAt
      (clampMinutes options.pulseMinIntervalMinutes DEFAULT_PULSE_MIN_INTERVAL_MINUTES) }

def pulseDrafts (options : EvaluatePulseCandidatesOptionsV1) (input : EvaluatePulseCandidatesInputV1) :
    List PulseCandidateDraftV1 :=
  let optOutKeys := normalizeStringArray platform input.privacyOptOutEntityKeys
  let staleFactDays :=
    clampDays options.staleFactRevalidationDays DEFAULT_STALE_FACT_REVALIDATION_DAYS
  sortDrafts platform
    (buildHighSalienceEntityDrafts platform input.graph input.observedAt
        (clampCount options.entitySalienceThreshold DEFAULT_ENTITY_SALIENCE_THRESHOLD) optOutKeys ++
      buildBridgeCandidateDrafts platform input.graph input.observedAt
        (clampCount options.coMentionThreshold DEFAULT_CO_MENTION_THRESHOLD)
        (clampDays options.coMentionWindowDays DEFAULT_CO_MENTION_WINDOW_DAYS) optOutKeys ++
      buildOpenLoopDrafts platform sha input.stack input.observedAt
        (clampDays options.openLoopStaleDays DEFAULT_OPEN_LOOP_STALE_DAYS)
        (clampCount options.pulseMaxOpenLoopsSurfaced DEFAULT_PULSE_MAX_OPEN_LOOPS_SURFACED)
        optOutKeys ++
      buildTopicDriftDrafts platform input.stack input.observedAt ++
      buildStaleFactDrafts platform input.graph input.observedAt staleFactDays optOutKeys)

/-- `none` where the time of the evaluation does not parse. -/
def evaluatePulseCandidatesV1 (options : EvaluatePulseCandidatesOptionsV1)
    (input : EvaluatePulseCandidatesInputV1) : Option EvaluatePulseCandidatesResultV1 :=
  if !isValidIsoTimestamp platform.toGraphPlatform input.observedAt then none
  else
    let orderedCandidates := sortCandidates platform
      ((pulseDrafts platform sha options input).map (toPulseCandidate platform sha))
    let decisions := decideCandidates (pulseGate platform options input) false orderedCandidates
    some
      { orderedCandidates := orderedCandidates
        decisions := decisions
        emittedCandidate := emittedOf decisions }

end AgentBigBrain.Core.Pulse
