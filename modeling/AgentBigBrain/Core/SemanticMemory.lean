import AgentBigBrain.Core.ExecutionReceipts
import AgentBigBrain.Core.LanguageRuntime
import AgentBigBrain.Core.SessionContext
import AgentBigBrain.Js.HostSort
import AgentBigBrain.Lib.InvertedIndex

/-!
# Semantic memory

Lessons are texts with the concepts found in them. An appended lesson is linked with the lessons
it shares concepts with and posted in an index of the concepts; the oldest lessons go when there
are too many. A query ranks the lessons that a principal may see by the index, by the similarity
of embeddings and by the domain of the session.
-/
namespace AgentBigBrain.Core

open AgentBigBrain.Js AgentBigBrain.Lib

/-! ## Records -/

inductive LessonMemoryType where
  | fact
  | experience
  | belief
  deriving DecidableEq

inductive LearningAccessClassification where
  | agentGlobalSafe
  | legacyUnclassified
  | ownerPrivate
  | principalPrivate
  | workspaceLocal
  | externalAgentLimited
  | testFixture
  deriving DecidableEq

def LearningAccessClassification.text : LearningAccessClassification → String
  | .agentGlobalSafe => "agent_global_safe"
  | .legacyUnclassified => "legacy_unclassified"
  | .ownerPrivate => "owner_private"
  | .principalPrivate => "principal_private"
  | .workspaceLocal => "workspace_local"
  | .externalAgentLimited => "external_agent_limited"
  | .testFixture => "test_fixture"

inductive LearningAccessSource where
  | principalAccess
  | legacyUnclassified
  | testFixture
  deriving DecidableEq

structure SemanticLessonAccessMetadata where
  classification : LearningAccessClassification
  principalRole : Option String
  principalIdHash : Option String
  accessClass : Option String
  accessAllowed : Option Bool
  routeVisibility : Option String
  legacyIdentityState : Option String
  source : LearningAccessSource
  deriving DecidableEq

structure SourceRecallSourceRef where
  sourceRecordId : String
  chunkId : Option String
  deriving DecidableEq

structure SemanticLesson where
  id : String
  text : String
  sourceTaskId : Option String
  committedByAgentId : String
  createdAt : String
  concepts : List String
  relatedLessonIds : List String
  memoryType : LessonMemoryType
  domainTag : Option ConversationDomainLane
  signalMetadata : Option Json
  sourceRecallRefs : List SourceRecallSourceRef
  accessMetadata : Option SemanticLessonAccessMetadata
  deriving DecidableEq

/-- The own properties of the index object. -/
abbrev ConceptIndex := String → Option (List String)

structure SemanticMemory where
  lessons : List SemanticLesson
  conceptIndex : ConceptIndex

def SemanticMemory.empty : SemanticMemory where
  lessons := []
  conceptIndex _ := none

def MAX_LESSONS : ℕ := 300

def MIN_LINK_OVERLAP : ℕ := 2

/-! ## Concepts -/

def semanticConceptStopWords : List String :=
  COMMON_EN_STOP_WORDS ++
    ["about", "action", "actions", "allow", "allows", "always", "been", "blocked", "could",
      "have", "has", "into", "never", "should", "task", "using", "will", "would", "were", "which"]

variable (platform : Platform)

def extractSemanticConceptTerms (text : String) : List String :=
  (tokenizeLanguageTerms platform semanticConceptStopWords 4 text).take 20

def normalizeConcept (token : String) : String :=
  platform.toLowerCase (trim token)

def extractConcepts (text : String) : List String :=
  (extractSemanticConceptTerms platform text).map (normalizeConcept platform)

/-! ## Access -/

def readOptionalString (record : List (String × Json)) (key : String) : Option String :=
  match record.lookup key with
  | some (.str value) => if isPresent value then some value else none
  | _ => none

def TaskPrincipalAccessEnvelope.principalRole (access : TaskPrincipalAccessEnvelope) :
    Option String :=
  readOptionalString (readRecord access.actor) "principalRole"

def TaskPrincipalAccessEnvelope.principalIdHash (access : TaskPrincipalAccessEnvelope) :
    Option String :=
  readOptionalString (readRecord access.actor) "principalIdHash" <|>
    readOptionalString (readRecord access.actor) "providerUserIdHash"

def classifyLearningAccess (accessAllowed : Bool) (accessClass : String)
    (principalRole routeVisibility : Option String) : LearningAccessClassification :=
  if principalRole = some "external_agent" then .externalAgentLimited
  else if accessAllowed = false then .externalAgentLimited
  else if accessClass = "owner_private" then .ownerPrivate
  else if accessClass = "speaker_private" ∨ accessClass = "session_only" then .principalPrivate
  else if accessClass = "shared_public" ∨ routeVisibility = some "public" then .agentGlobalSafe
  else if accessClass = "external_agent_limited" ∨ accessClass = "runtime_continuation_limited" then
    .externalAgentLimited
  else .workspaceLocal

def classifySemanticLessonAccess :
    Option TaskPrincipalAccessEnvelope → SemanticLessonAccessMetadata
  | none =>
      { classification := .legacyUnclassified
        principalRole := none
        principalIdHash := none
        accessClass := none
        accessAllowed := none
        routeVisibility := none
        legacyIdentityState := some "legacy_actor_unknown"
        source := .legacyUnclassified }
  | some access =>
      let routeVisibility := readOptionalString (readRecord access.route) "visibility"
      { classification := classifyLearningAccess access.accessDecision.allowed
          access.accessDecision.accessClass access.principalRole routeVisibility
        principalRole := access.principalRole
        principalIdHash := access.principalIdHash
        accessClass := some access.accessDecision.accessClass
        accessAllowed := some access.accessDecision.allowed
        routeVisibility := routeVisibility
        legacyIdentityState :=
          readOptionalString (readRecord access.actor) "legacyIdentityState"
        source := .principalAccess }

def semanticLessonAccessSignature : Option SemanticLessonAccessMetadata → String
  | none => "legacy_unclassified:legacy"
  | some metadata =>
      ":".intercalate [metadata.classification.text, metadata.principalRole.getD "none",
        metadata.principalIdHash.getD "none", metadata.accessClass.getD "none"]

def SemanticLesson.classification (lesson : SemanticLesson) : LearningAccessClassification :=
  match lesson.accessMetadata with
  | none => .legacyUnclassified
  | some metadata => metadata.classification

def canLinkSemanticLessons (left right : SemanticLesson) : Bool :=
  (left.classification = .agentGlobalSafe ∧ right.classification = .agentGlobalSafe) ∨
    semanticLessonAccessSignature left.accessMetadata =
      semanticLessonAccessSignature right.accessMetadata

/-! ## Loading -/

def MAIN_AGENT_ID : String := "main-agent"

def normalizeAgentId (candidate : String) : String :=
  let normalized := platform.toLowerCase (trim candidate)
  if normalized = "" then MAIN_AGENT_ID else normalized

def normalizeSemanticLessonDomainTag (value : Option ConversationDomainLane) :
    Option ConversationDomainLane :=
  value.filter (· ≠ .unknown)

/-- References with a record id; an empty chunk id is left out. -/
def normalizeSourceRecallSourceRefs (refs : List SourceRecallSourceRef) :
    List SourceRecallSourceRef :=
  (refs.filter fun ref => isPresent ref.sourceRecordId).map fun ref =>
    { ref with chunkId := ref.chunkId.filter (· ≠ "") }

/-- A lesson as it is read back from the file. -/
def coerceLesson (lesson : SemanticLesson) : SemanticLesson :=
  { lesson with
    committedByAgentId := normalizeAgentId platform lesson.committedByAgentId
    domainTag := normalizeSemanticLessonDomainTag lesson.domainTag
    sourceRecallRefs := normalizeSourceRecallSourceRefs lesson.sourceRecallRefs }

/-- `coerceLegacyMemory` of a document with lessons and an index, which is taken as it is. -/
def coerceLegacyMemory (memory : SemanticMemory) : SemanticMemory where
  lessons := (memory.lessons.map (coerceLesson platform)).filter fun lesson => isPresent lesson.text
  conceptIndex := memory.conceptIndex

/-! ## The index -/

/-- The members that every object inherits. -/
def objectPrototypeMembers : List String :=
  ["constructor", "__defineGetter__", "__defineSetter__", "hasOwnProperty", "__lookupGetter__",
    "__lookupSetter__", "isPrototypeOf", "propertyIsEnumerable", "toString", "valueOf",
    "__proto__", "toLocaleString"]

/-- What `index[concept]` reads. -/
inductive IndexEntry where
  | own (lessonIds : List String)
  /-- A member of the prototype, which is no list. -/
  | inherited
  | absent

def readIndex (index : ConceptIndex) (concept : String) : IndexEntry :=
  match index concept with
  | some lessonIds => .own lessonIds
  | none => if concept ∈ objectPrototypeMembers then .inherited else .absent

/-- One concept of `addToConceptIndex`; `none` where `includes` is called on no list. -/
def addConcept (lessonId : String) (index : ConceptIndex) (concept : String) :
    Option ConceptIndex :=
  match readIndex index concept with
  | .inherited => none
  | .own _ | .absent => some (InvertedIndex.post index lessonId concept)

def addToConceptIndex (index : ConceptIndex) (lesson : SemanticLesson) : Option ConceptIndex :=
  lesson.concepts.foldlM (addConcept lesson.id) index

def removeFromConceptIndex (index : ConceptIndex) (lessonId : String) : ConceptIndex :=
  InvertedIndex.remove index lessonId

/-! ## Appending -/

structure AppendLessonInput where
  lessonText : String
  sourceTaskId : Option String
  committedByAgentId : String
  memoryType : LessonMemoryType
  signalMetadata : Option Json
  domainTag : Option ConversationDomainLane
  sourceRecallRefs : List SourceRecallSourceRef
  principalAccess : Option TaskPrincipalAccessEnvelope

/-- The clock and the id of a new lesson. -/
structure LessonReadings where
  newId : String
  nowIso : String

def buildLesson (input : AppendLessonInput) (readings : LessonReadings) : SemanticLesson where
  id := readings.newId
  text := trim input.lessonText
  sourceTaskId := input.sourceTaskId
  committedByAgentId := normalizeAgentId platform input.committedByAgentId
  createdAt := readings.nowIso
  concepts := extractConcepts platform (trim input.lessonText)
  relatedLessonIds := []
  memoryType := input.memoryType
  domainTag := normalizeSemanticLessonDomainTag input.domainTag
  signalMetadata := input.signalMetadata
  sourceRecallRefs := normalizeSourceRecallSourceRefs input.sourceRecallRefs
  accessMetadata := some (classifySemanticLessonAccess input.principalAccess)

def linked (existing lesson : SemanticLesson) : Bool :=
  canLinkSemanticLessons existing lesson &&
    decide (MIN_LINK_OVERLAP ≤ countLanguageTermOverlap existing.concepts lesson.concepts)

def SemanticLesson.relate (lesson : SemanticLesson) (lessonId : String) : SemanticLesson :=
  { lesson with relatedLessonIds := InvertedIndex.addOnce lessonId lesson.relatedLessonIds }

/-- The existing lessons and the new one, linked with each other. -/
def connectLesson (existingLessons : List SemanticLesson) (lesson : SemanticLesson) :
    List SemanticLesson × SemanticLesson :=
  (existingLessons.map fun existing =>
      if linked existing lesson then existing.relate lesson.id else existing,
    (existingLessons.filter (linked · lesson)).foldl (fun lesson existing =>
      lesson.relate existing.id) lesson)

/-- The oldest lessons beyond the cap go, and with them their entries in the index. -/
def evictLessons (memory : SemanticMemory) : SemanticMemory :=
  let excess := memory.lessons.length - MAX_LESSONS
  { lessons := memory.lessons.drop excess
    conceptIndex := (memory.lessons.take excess).foldl
      (fun index evicted => removeFromConceptIndex index evicted.id) memory.conceptIndex }

/-- What a call leaves behind. -/
inductive AppendOutcome (δ : Type*) where
  /-- It throws before it writes. -/
  | threw
  /-- It returns and writes nothing. -/
  | skipped
  | saved (document : δ)

def hasLesson (memory : SemanticMemory) (input : AppendLessonInput) : Bool :=
  memory.lessons.any fun existing =>
    decide (existing.text = trim input.lessonText) &&
      decide (existing.committedByAgentId = normalizeAgentId platform input.committedByAgentId) &&
      decide (semanticLessonAccessSignature existing.accessMetadata =
        semanticLessonAccessSignature (some (classifySemanticLessonAccess input.principalAccess)))

/-- `appendLesson` on the memory that `load` gives. -/
def appendLesson (memory : SemanticMemory) (input : AppendLessonInput)
    (readings : LessonReadings) : AppendOutcome SemanticMemory :=
  if isPresent input.lessonText = false then .skipped
  else if hasLesson platform memory input then .skipped
  else
    let connected := connectLesson memory.lessons (buildLesson platform input readings)
    match addToConceptIndex memory.conceptIndex connected.2 with
    | none => .threw
    | some conceptIndex =>
        .saved (evictLessons
          { lessons := connected.1 ++ [connected.2]
            conceptIndex := conceptIndex })

/-! ## Retrieval -/

structure SemanticLessonRetrievalAccessOptions where
  principalAccess : Option TaskPrincipalAccessEnvelope
  includeTestFixtures : Bool

structure SemanticLessonRetrievalContext where
  includeTestFixtures : Bool
  ownerPrivateAllowed : Bool
  principalRole : Option String
  principalIdHash : Option String

def buildSemanticLessonRetrievalContext
    (options : Option SemanticLessonRetrievalAccessOptions) : SemanticLessonRetrievalContext :=
  match options.bind (·.principalAccess) with
  | none =>
      { includeTestFixtures := options.any (·.includeTestFixtures)
        ownerPrivateAllowed := false
        principalRole := none
        principalIdHash := none }
  | some access =>
      { includeTestFixtures := options.any (·.includeTestFixtures)
        ownerPrivateAllowed := access.accessDecision.allowed &&
          decide (access.accessDecision.accessClass = "owner_private") &&
          decide (access.principalRole = some "owner" ∨ access.principalRole = some "operator")
        principalRole := access.principalRole
        principalIdHash := access.principalIdHash }

/-- Both hashes are there and agree. -/
def sameHash (left right : Option String) : Bool :=
  match left, right with
  | some left, some right => left ≠ "" && right ≠ "" && left == right
  | _, _ => false

def isSemanticLessonVisibleForRetrieval (lesson : SemanticLesson)
    (options : Option SemanticLessonRetrievalAccessOptions) : Bool :=
  let context := buildSemanticLessonRetrievalContext options
  match lesson.accessMetadata with
  | none => (options.bind (·.principalAccess)).isNone
  | some metadata =>
      match metadata.classification with
      | .legacyUnclassified => (options.bind (·.principalAccess)).isNone
      | .agentGlobalSafe => true
      | .testFixture => context.includeTestFixtures
      | .ownerPrivate => context.ownerPrivateAllowed
      | .principalPrivate => sameHash context.principalIdHash metadata.principalIdHash
      | .externalAgentLimited =>
          decide (context.principalRole = some "external_agent") &&
            sameHash context.principalIdHash metadata.principalIdHash
      | .workspaceLocal => false

def computeSemanticLessonDomainScore (lesson : SemanticLesson)
    (sessionDomainLane : Option ConversationDomainLane) : ℚ :=
  match normalizeSemanticLessonDomainTag sessionDomainLane with
  | none => 0
  | some lane =>
      if lesson.domainTag = some lane then 1 / 5
      else if lesson.domainTag = none then 1 / 20
      else -1 / 20

/-- `xs.slice(0, stop)`. -/
def sliceTo {α : Type*} (stop : ℤ) (xs : List α) : List α :=
  xs.take (if 0 ≤ stop then stop.toNat else (xs.length + stop).toNat)

/-- `xs.slice(start)`. -/
def sliceFrom {α : Type*} (start : ℤ) (xs : List α) : List α :=
  xs.drop (if 0 ≤ start then start.toNat else (xs.length + start).toNat)

structure VectorSearchResult where
  lessonId : String
  similarity : ℚ

/-- The stored embeddings nearest to that of the query, given their similarities to it. -/
def searchVectors (rows : List VectorSearchResult) (topK : ℤ) : List VectorSearchResult :=
  sliceTo topK (((numberOrder ℚ).byKey VectorSearchResult.similarity).reverse.sort rows)

structure LessonQuery where
  query : String
  limit : ℤ
  memoryType : Option LessonMemoryType
  sessionDomainLane : Option ConversationDomainLane
  accessOptions : Option SemanticLessonRetrievalAccessOptions

/-- The lessons that the principal may see, of the asked type. -/
def LessonQuery.candidates (query : LessonQuery) (memory : SemanticMemory) : List SemanticLesson :=
  memory.lessons.filter fun lesson =>
    isSemanticLessonVisibleForRetrieval lesson query.accessOptions &&
      query.memoryType.all (lesson.memoryType == ·)

/-- The comparison of lessons for a query without concepts, as a test for `<= 0`. -/
def recencyOrder (lane : Option ConversationDomainLane) (left right : SemanticLesson) : Bool :=
  let leftScore := computeSemanticLessonDomainScore left lane
  let rightScore := computeSemanticLessonDomainScore right lane
  if rightScore ≠ leftScore then decide (rightScore ≤ leftScore)
  else if left.createdAt ≠ right.createdAt then platform.locale.le right.createdAt left.createdAt
  else platform.locale.le left.id right.id

/-- `lessonMap.get(id)`: of lessons with one id the last is in the map. -/
def lessonById (lessons : List SemanticLesson) (id : String) : Option SemanticLesson :=
  lessons.reverse.find? (·.id = id)

/-- The comparison of scored lessons, as a test for `<= 0`. -/
def scoreOrder (lessons : List SemanticLesson) (left right : String × ℚ) : Bool :=
  if left.2 ≠ right.2 then decide (right.2 ≤ left.2)
  else
    match lessonById lessons left.1, lessonById lessons right.1 with
    | some leftLesson, some rightLesson =>
        if leftLesson.createdAt ≠ rightLesson.createdAt then
          platform.locale.le rightLesson.createdAt leftLesson.createdAt
        else platform.locale.le left.1 right.1
    | _, _ => platform.locale.le left.1 right.1

/-- The ids under the query's concepts, one after another; `none` where a concept names an
inherited member, which cannot be iterated. -/
def keywordHits (index : ConceptIndex) : List String → Option (List String)
  | [] => some []
  | concept :: concepts =>
      match readIndex index concept with
      | .inherited => none
      | .absent => keywordHits index concepts
      | .own lessonIds => (keywordHits index concepts).map (lessonIds ++ ·)

def KEYWORD_WEIGHT : ℚ := 3 / 5

def VECTOR_WEIGHT : ℚ := 2 / 5

/-- What the two searches found, over all lessons. -/
structure LessonHits where
  keyword : List String
  vector : List VectorSearchResult

namespace LessonHits

def keywordScore (hits : LessonHits) (id : String) : ℕ :=
  hits.keyword.count id

def vectorScore (hits : LessonHits) (id : String) : ℚ :=
  ((hits.vector.reverse.find? (·.lessonId = id)).map (·.similarity)).getD 0

def allCandidateIds (hits : LessonHits) : List String :=
  uniqueValues (hits.keyword ++ hits.vector.map (·.lessonId))

def maxKeywordScore (hits : LessonHits) : ℕ :=
  (hits.keyword.map hits.keywordScore).foldl max 1

end LessonHits

/-- The score of a lesson that one of the searches found. -/
def blendedScore (hits : LessonHits) (lane : Option ConversationDomainLane)
    (lesson : SemanticLesson) (id : String) : ℚ :=
  KEYWORD_WEIGHT * (hits.keywordScore id / hits.maxKeywordScore) +
    VECTOR_WEIGHT * hits.vectorScore id + computeSemanticLessonDomainScore lesson lane

def hybridScored (memory : SemanticMemory) (query : LessonQuery) (hits : LessonHits) :
    List (String × ℚ) :=
  hits.allCandidateIds.filterMap fun id =>
    if id ∈ (query.candidates memory).map (·.id) then
      (lessonById memory.lessons id).map fun lesson =>
        (id, blendedScore hits query.sessionDomainLane lesson id)
    else none

variable (hostSort : HostSort)

/-- `getRelevantLessons` on the memory that `load` gives; `none` where it throws. Without
embeddings `vectorRows` is empty. -/
def getRelevantLessons (memory : SemanticMemory) (query : LessonQuery)
    (vectorRows : List VectorSearchResult) : Option (List SemanticLesson) :=
  let candidates := query.candidates memory
  match extractConcepts platform query.query with
  | [] =>
      some (sliceTo query.limit
        (hostSort.sort (recencyOrder platform query.sessionDomainLane) candidates))
  | queryConcepts =>
      (keywordHits memory.conceptIndex queryConcepts).map fun keyword =>
        let hits : LessonHits :=
          { keyword := keyword, vector := searchVectors vectorRows (query.limit * 3) }
        if hits.allCandidateIds = [] then sliceFrom (-query.limit) candidates
        else
          (sliceTo query.limit (hostSort.sort (scoreOrder platform memory.lessons)
            (hybridScored memory query hits))).filterMap fun scored =>
              lessonById memory.lessons scored.1

end AgentBigBrain.Core
