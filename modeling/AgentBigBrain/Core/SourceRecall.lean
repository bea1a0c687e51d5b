import AgentBigBrain.Core.ExecutionReceipts
import AgentBigBrain.Core.SemanticMemory

/-!
# Source Recall

A source record says where a text was heard or seen, and its chunks hold the text. Records and
chunks carry a lifecycle state. A retrieval answers a query with excerpts of active chunks, as far
as the principal may see their records and the budget allows.
-/
namespace AgentBigBrain.Core

open AgentBigBrain.Js

/-! ## Contracts -/

inductive SourceRecallSourceKind where
  | conversationTurn
  | assistantTurn
  | taskInput
  | taskSummary
  | documentText
  | documentModelSummary
  | mediaTranscript
  | ocrText
  | mediaModelSummary
  | reviewNote
  | executionReceiptExcerpt
  | unknown
  deriving DecidableEq

inductive SourceRecallSourceRole where
  | user
  | assistant
  | tool
  | externalAgent
  | runtime
  | operatorReview
  | testFixture
  | unknown
  deriving DecidableEq

inductive SourceRecallCaptureClass where
  | ordinarySource
  | assistantOutput
  | operationalOutput
  | externalOutput
  | policyMetadata
  | runtimeControlMetadata
  | projectionMetadata
  | testFixture
  | repositoryReference
  | excludedByDefault
  deriving DecidableEq

inductive SourceRecallLifecycleState where
  | active
  | redacted
  | forgotten
  | expired
  | quarantined
  | projectionOnlyRemoved
  deriving DecidableEq

inductive SourceRecallRetrievalMode where
  | sourceId
  | exactQuote
  | scopeThreadFilter
  | semanticVector
  | hybrid
  | keyword
  | recentFallback
  deriving DecidableEq

inductive SourceRecallRetrievalAuthority where
  | exactSourceRef
  | strongRecallEvidence
  | weakRecallEvidence
  | diagnosticOnly
  deriving DecidableEq

inductive SourceRecallFreshness where
  | currentTurn
  | recent
  | historical
  | stale
  | unknown
  deriving DecidableEq

inductive SourceRecallSourceTimeKind where
  | observedEvent
  | capturedRecord
  | generatedSummary
  | unknown
  deriving DecidableEq

structure SourceRecallOriginRef where
  surface : String
  refId : String
  parentRefId : Option String
  deriving DecidableEq

/-- The labels of the metadata, each a text or `null`. -/
inductive PrincipalLabel where
  | actorPrincipalRole
  | actorProvider
  | actorPrincipalIdHash
  | actorProviderUserIdHash
  | routeVisibility
  | identityAuthority
  | legacyIdentityState
  | ownerMatchSource
  | accessOperation
  | accessClass
  | accessReason
  | speakerSubjectKind
  | speakerSubjectId
  | requestedSubjectKind
  | requestedSubjectId
  | ownerSubjectKind
  | ownerSubjectId
  deriving DecidableEq

def PrincipalLabel.all : List PrincipalLabel :=
  [.actorPrincipalRole, .actorProvider, .actorPrincipalIdHash, .actorProviderUserIdHash,
    .routeVisibility, .identityAuthority, .legacyIdentityState, .ownerMatchSource,
    .accessOperation, .accessClass, .accessReason, .speakerSubjectKind, .speakerSubjectId,
    .requestedSubjectKind, .requestedSubjectId, .ownerSubjectKind, .ownerSubjectId]

structure SourceRecallPrincipalMetadata where
  label : PrincipalLabel → Option String
  accessAllowed : Option Bool

structure SourceRecallRecord where
  sourceRecordId : String
  scopeId : String
  threadId : String
  sourceKind : SourceRecallSourceKind
  sourceRole : SourceRecallSourceRole
  /-- One of the source authorities. -/
  sourceAuthority : String
  captureClass : SourceRecallCaptureClass
  lifecycleState : SourceRecallLifecycleState
  originRef : SourceRecallOriginRef
  sourceRecordHash : String
  observedAt : String
  capturedAt : String
  sourceTimeKind : SourceRecallSourceTimeKind
  freshness : SourceRecallFreshness
  sensitive : Bool
  principalMetadata : Option SourceRecallPrincipalMetadata

structure SourceRecallChunk where
  chunkId : String
  sourceRecordId : String
  chunkIndex : ℚ
  text : String
  chunkHash : String
  lifecycleState : SourceRecallLifecycleState

structure SourceRecallDocument where
  records : List SourceRecallRecord
  chunks : List SourceRecallChunk

def SourceRecallDocument.empty : SourceRecallDocument := ⟨[], []⟩

/-! ## Persistence -/

def normalizeNullableLabel (value : Option String) : Option String :=
  (value.map trim).filter fun normalized => normalized ≠ "" ∧ utf16Length normalized ≤ 128

def normalizeSourceRecallPrincipalMetadata (value : Option SourceRecallPrincipalMetadata) :
    Option SourceRecallPrincipalMetadata :=
  (value.map fun candidate =>
    { label := fun name => normalizeNullableLabel (candidate.label name)
      accessAllowed := candidate.accessAllowed : SourceRecallPrincipalMetadata }).filter
    fun metadata => PrincipalLabel.all.any (fun name => (metadata.label name).isSome) ||
      metadata.accessAllowed.isSome

/-- `value.trim() || fallback`. -/
def trimOr (fallback value : String) : String :=
  if trim value = "" then fallback else trim value

def normalizeSourceRecallOriginRef (input : SourceRecallOriginRef) : SourceRecallOriginRef where
  surface := trimOr "unknown" input.surface
  refId := trimOr "unknown" input.refId
  parentRefId := (input.parentRefId.map trim).filter (· ≠ "")

/-- The one authority that is not kept is that of compatibility with older records. -/
def normalizeSourceRecallSourceAuthority (value : String) : String :=
  if value = "legacy_compatibility" then "unknown" else value

def normalizeSourceRecallRecord (input : SourceRecallRecord) : SourceRecallRecord :=
  { input with
    sourceRecordId := trim input.sourceRecordId
    scopeId := trim input.scopeId
    threadId := trim input.threadId
    sourceAuthority := normalizeSourceRecallSourceAuthority input.sourceAuthority
    originRef := normalizeSourceRecallOriginRef input.originRef
    sourceRecordHash := trim input.sourceRecordHash
    principalMetadata := normalizeSourceRecallPrincipalMetadata input.principalMetadata }

def normalizeSourceRecallChunk (input : SourceRecallChunk) : SourceRecallChunk :=
  { input with
    chunkId := trim input.chunkId
    sourceRecordId := trim input.sourceRecordId
    chunkIndex := max 0 ⌊input.chunkIndex⌋
    chunkHash := trim input.chunkHash }

variable (platform : Platform) (hostSort : HostSort)

/-- `compareSourceRecallRecords(left, right) <= 0`. -/
def compareSourceRecallRecords (left right : SourceRecallRecord) : Bool :=
  if left.scopeId ≠ right.scopeId then platform.locale.le left.scopeId right.scopeId
  else if left.threadId ≠ right.threadId then platform.locale.le left.threadId right.threadId
  else platform.locale.le left.sourceRecordId right.sourceRecordId

/-- `compareSourceRecallChunks(left, right) <= 0`. -/
def compareSourceRecallChunks (left right : SourceRecallChunk) : Bool :=
  if left.sourceRecordId ≠ right.sourceRecordId then
    platform.locale.le left.sourceRecordId right.sourceRecordId
  else if left.chunkIndex ≠ right.chunkIndex then decide (left.chunkIndex ≤ right.chunkIndex)
  else platform.locale.le left.chunkId right.chunkId

def sortedDocument (records : List SourceRecallRecord) (chunks : List SourceRecallChunk) :
    SourceRecallDocument where
  records := hostSort.sort (compareSourceRecallRecords platform) records
  chunks := hostSort.sort (compareSourceRecallChunks platform) chunks

/-- `parseSourceRecallDocument` of a document whose records and chunks have all their fields. -/
def parseSourceRecallDocument (document : SourceRecallDocument) : SourceRecallDocument :=
  sortedDocument platform hostSort (document.records.map normalizeSourceRecallRecord)
    (document.chunks.map normalizeSourceRecallChunk)

def upsertSourceRecallRecordInDocument (document : SourceRecallDocument)
    (record : SourceRecallRecord) (chunks : List SourceRecallChunk) : SourceRecallDocument :=
  let normalizedRecord := normalizeSourceRecallRecord record
  let normalizedChunks := chunks.map fun chunk =>
    normalizeSourceRecallChunk { chunk with sourceRecordId := normalizedRecord.sourceRecordId }
  sortedDocument platform hostSort
    (document.records.filter (fun existing =>
      existing.sourceRecordId ≠ normalizedRecord.sourceRecordId) ++ [normalizedRecord])
    (document.chunks.filter (fun existing =>
      existing.sourceRecordId ≠ normalizedRecord.sourceRecordId) ++
        hostSort.sort (compareSourceRecallChunks platform) normalizedChunks)

/-- The ids of the records that a mark finds. -/
def matchedRecordIds (document : SourceRecallDocument) (finds : SourceRecallRecord → Bool) :
    List String :=
  (document.records.filter finds).map (·.sourceRecordId)

def markSourceRecallRecordsLifecycleInDocument (document : SourceRecallDocument)
    (finds : SourceRecallRecord → Bool) (lifecycleState : SourceRecallLifecycleState) :
    SourceRecallDocument :=
  let ids := matchedRecordIds document finds
  sortedDocument platform hostSort
    (document.records.map fun record =>
      if record.sourceRecordId ∈ ids then { record with lifecycleState := lifecycleState }
      else record)
    (document.chunks.map fun chunk =>
      if chunk.sourceRecordId ∈ ids then { chunk with lifecycleState := lifecycleState }
      else chunk)

def markSourceRecallRecordForgottenInDocument (document : SourceRecallDocument)
    (sourceRecordId : String) : SourceRecallDocument :=
  markSourceRecallRecordsLifecycleInDocument platform hostSort document
    (fun record => record.sourceRecordId = sourceRecordId) .forgotten

/-- The states that a mark by the parent of the origin gives. -/
inductive ParentMark where
  | redacted
  | forgotten
  | expired
  | quarantined
  deriving DecidableEq

def ParentMark.state : ParentMark → SourceRecallLifecycleState
  | .redacted => .redacted
  | .forgotten => .forgotten
  | .expired => .expired
  | .quarantined => .quarantined

def markSourceRecallRecordsByOriginParentRefInDocument (document : SourceRecallDocument)
    (parentRefId : String) (mark : ParentMark) : SourceRecallDocument :=
  if trim parentRefId = "" then document
  else
    markSourceRecallRecordsLifecycleInDocument platform hostSort document
      (fun record => record.originRef.parentRefId = some (trim parentRefId)) mark.state

def isSourceRecallLifecycleVisible (lifecycleState : SourceRecallLifecycleState) : Bool :=
  lifecycleState = .active

/-! ## Queries and budgets -/

inductive SensitivityRedactionPolicy where
  | redactSensitive
  | excludeSensitive
  deriving DecidableEq

structure SourceRecallOutputBudget where
  maxRecords : ℚ
  maxChunks : ℚ
  maxExcerptCharsPerChunk : ℚ
  maxTotalExcerptChars : ℚ
  sourceKindAllowlist : List SourceRecallSourceKind
  sourceRoleAllowlist : List SourceRecallSourceRole
  sensitivityRedactionPolicy : SensitivityRedactionPolicy

/-- A budget with whole numbers. -/
structure NormalizedOutputBudget where
  maxRecords : ℕ
  maxChunks : ℕ
  maxExcerptCharsPerChunk : ℕ
  maxTotalExcerptChars : ℕ
  sourceKindAllowlist : List SourceRecallSourceKind
  sourceRoleAllowlist : List SourceRecallSourceRole
  sensitivityRedactionPolicy : SensitivityRedactionPolicy

def normalizeSourceRecallOutputBudget (budget : SourceRecallOutputBudget) :
    NormalizedOutputBudget where
  maxRecords := ⌊budget.maxRecords⌋.toNat
  maxChunks := ⌊budget.maxChunks⌋.toNat
  maxExcerptCharsPerChunk := ⌊budget.maxExcerptCharsPerChunk⌋.toNat
  maxTotalExcerptChars := ⌊budget.maxTotalExcerptChars⌋.toNat
  sourceKindAllowlist := budget.sourceKindAllowlist.filter (· ≠ .unknown)
  sourceRoleAllowlist := budget.sourceRoleAllowlist.filter (· ≠ .unknown)
  sensitivityRedactionPolicy := budget.sensitivityRedactionPolicy

/-- An empty text in a query asks for nothing, as one that is left out. -/
structure SourceRecallRetrievalQuery where
  scopeId : Option String
  threadId : Option String
  sourceRecordId : Option String
  chunkId : Option String
  exactQuote : Option String
  sourceKinds : Option (List SourceRecallSourceKind)
  sourceRoles : Option (List SourceRecallSourceRole)
  keywords : Option (List String)
  semanticVectorChunkIds : Option (List String)
  principalAccess : Option TaskPrincipalAccessEnvelope

/-- The text that is asked for, where it is not empty. -/
def asked (value : Option String) : Option String :=
  value.filter (· ≠ "")

def askedAny (values : Option (List String)) : Bool :=
  values.any fun values => !values.isEmpty

def resolveRetrievalMode (query : SourceRecallRetrievalQuery) : SourceRecallRetrievalMode :=
  if (asked query.sourceRecordId).isSome ∨ (asked query.chunkId).isSome then .sourceId
  else if (asked query.exactQuote).isSome then .exactQuote
  else if askedAny query.keywords ∧ askedAny query.semanticVectorChunkIds then .hybrid
  else if askedAny query.semanticVectorChunkIds then .semanticVector
  else if askedAny query.keywords then .keyword
  else if (asked query.scopeId).isSome ∨ (asked query.threadId).isSome then .scopeThreadFilter
  else .recentFallback

def resolveRetrievalAuthority (query : SourceRecallRetrievalQuery) :
    SourceRecallRetrievalAuthority :=
  if (asked query.sourceRecordId).isSome ∨ (asked query.chunkId).isSome then .exactSourceRef
  else if (asked query.exactQuote).isSome then .strongRecallEvidence
  else if askedAny query.keywords ∨ askedAny query.semanticVectorChunkIds then
    .weakRecallEvidence
  else .diagnosticOnly

/-! ## Access -/

/-- A trimmed text of an object of the envelope, `null` where it is blank or missing. -/
def readEnvelopeString (value : Option Json) (key : String) : Option String :=
  normalizeOptionalString ((readRecord value).lookup key)

def TaskPrincipalAccessEnvelope.actorRole (access : TaskPrincipalAccessEnvelope) : Option String :=
  readEnvelopeString access.actor "principalRole"

def TaskPrincipalAccessEnvelope.actorHash (access : TaskPrincipalAccessEnvelope) : Option String :=
  readEnvelopeString access.actor "providerUserIdHash"

def TaskPrincipalAccessEnvelope.onPublicRoute (access : TaskPrincipalAccessEnvelope) : Bool :=
  readEnvelopeString access.route "visibility" = some "public"

def TaskPrincipalAccessEnvelope.isOwnerOrOperator (access : TaskPrincipalAccessEnvelope) : Bool :=
  access.actorRole = some "owner" ∨ access.actorRole = some "operator"

def TaskPrincipalAccessEnvelope.allowsSourceRecall (access : TaskPrincipalAccessEnvelope) : Bool :=
  access.accessDecision.allowed &&
    decide (access.accessDecision.operation = "source_recall_retrieve")

/-- The record carries the provider-user hash of the principal. -/
def carriesHash (access : TaskPrincipalAccessEnvelope) (metadata : SourceRecallPrincipalMetadata) :
    Bool :=
  match access.actorHash, metadata.label .actorProviderUserIdHash with
  | some actorHash, some recordHash =>
      actorHash ≠ "" && recordHash ≠ "" && actorHash == recordHash
  | _, _ => false

def matchesPrincipalAccess (record : SourceRecallRecord) :
    Option TaskPrincipalAccessEnvelope → Bool
  | none => false
  | some access =>
      if access.allowsSourceRecall = false then false
      else
        match record.principalMetadata with
        | none => access.isOwnerOrOperator && !access.onPublicRoute
        | some metadata =>
            if access.onPublicRoute then
              decide (metadata.label .routeVisibility = some "public" ∨
                metadata.label .accessClass = some "shared_public")
            else carriesHash access metadata || access.isOwnerOrOperator

def matchesRecordQuery (record : SourceRecallRecord) (query : SourceRecallRetrievalQuery)
    (budget : NormalizedOutputBudget) : Bool :=
  (asked query.scopeId).all (record.scopeId = ·) &&
    (asked query.threadId).all (record.threadId = ·) &&
    (asked query.sourceRecordId).all (record.sourceRecordId = ·) &&
    query.sourceKinds.all (record.sourceKind ∈ ·) &&
    decide (record.sourceKind ∈ budget.sourceKindAllowlist) &&
    query.sourceRoles.all (record.sourceRole ∈ ·) &&
    decide (record.sourceRole ∈ budget.sourceRoleAllowlist) &&
    matchesPrincipalAccess record query.principalAccess

/-! ## Ranking -/

structure SourceRecallRankingEvidence where
  retrievalMode : SourceRecallRetrievalMode
  retrievalAuthority : SourceRecallRetrievalAuthority
  score : ℕ
  freshness : SourceRecallFreshness
  sourceTimeKind : SourceRecallSourceTimeKind
  keywordScore : ℕ
  vectorScore : ℕ
  deriving DecidableEq

def freshnessScore (record : SourceRecallRecord) : ℕ :=
  match record.freshness with
  | .currentTurn => 4
  | .recent => 3
  | .historical => 2
  | .stale => 1
  | .unknown => 0

def normalizeRetrievalKeywords (keywords : List String) : List String :=
  (keywords.map fun keyword => platform.toLowerCase (trim keyword)).filter (· ≠ "")

def countKeywordMatches (text : String) (keywords : List String) : ℕ :=
  keywords.countP fun keyword => includes (platform.toLowerCase text) keyword

def scoreCandidate (record : SourceRecallRecord) (chunk : SourceRecallChunk)
    (query : SourceRecallRetrievalQuery) : Option SourceRecallRankingEvidence :=
  let retrievalMode := resolveRetrievalMode query
  let keywordScore := countKeywordMatches platform chunk.text
    (normalizeRetrievalKeywords platform (query.keywords.getD []))
  let vectorScore :=
    if chunk.chunkId ∈ query.semanticVectorChunkIds.getD [] then 1 else 0
  let exactScore :=
    if (asked query.sourceRecordId).isSome ∨ (asked query.chunkId).isSome then 100
    else if (asked query.exactQuote).isSome then 75 else 0
  if (retrievalMode = .keyword ∨ retrievalMode = .hybrid) ∧ keywordScore = 0 then none
  else if (retrievalMode = .semanticVector ∨ retrievalMode = .hybrid) ∧ vectorScore = 0 then none
  else
    some
      { retrievalMode := retrievalMode
        retrievalAuthority := resolveRetrievalAuthority query
        score := exactScore + keywordScore * 10 + vectorScore * 25 + freshnessScore record
        freshness := record.freshness
        sourceTimeKind := record.sourceTimeKind
        keywordScore := keywordScore
        vectorScore := vectorScore }

structure CandidateChunk where
  record : SourceRecallRecord
  chunk : SourceRecallChunk
  ranking : SourceRecallRankingEvidence

/-- `compareCandidates(left, right) <= 0`. -/
def compareCandidates (left right : CandidateChunk) : Bool :=
  if right.ranking.score ≠ left.ranking.score then
    decide (right.ranking.score ≤ left.ranking.score)
  else if right.record.capturedAt ≠ left.record.capturedAt then
    platform.locale.le right.record.capturedAt left.record.capturedAt
  else platform.locale.le left.chunk.chunkId right.chunk.chunkId

/-! ## Excerpts -/

/-- `text.indexOf(quote)` on code units. -/
def indexOfUnits (quote : List ℕ) : List ℕ → Option ℕ
  | [] => if quote = [] then some 0 else none
  | unit :: units =>
      if quote <+: unit :: units then some 0 else (indexOfUnits quote units).map (· + 1)

/-- `[redacted sensitive source chunk]`. -/
def redactedExcerpt : List ℕ :=
  codeUnits "[redacted sensitive source chunk]"

structure SourceRecallExcerpt where
  sourceRecordId : String
  chunkId : String
  sourceKind : SourceRecallSourceKind
  sourceRole : SourceRecallSourceRole
  sourceAuthority : String
  lifecycleState : SourceRecallLifecycleState
  sourceTimeKind : SourceRecallSourceTimeKind
  freshness : SourceRecallFreshness
  principalMetadata : Option SourceRecallPrincipalMetadata
  /-- The text of the excerpt, as its code units. -/
  excerpt : List ℕ
  redacted : Bool
  ranking : SourceRecallRankingEvidence

def buildExcerpt (candidate : CandidateChunk) (excerpt : List ℕ) (redacted : Bool) :
    SourceRecallExcerpt where
  sourceRecordId := candidate.record.sourceRecordId
  chunkId := candidate.chunk.chunkId
  sourceKind := candidate.record.sourceKind
  sourceRole := candidate.record.sourceRole
  sourceAuthority := candidate.record.sourceAuthority
  lifecycleState := candidate.record.lifecycleState
  sourceTimeKind := candidate.record.sourceTimeKind
  freshness := candidate.record.freshness
  principalMetadata := candidate.record.principalMetadata
  excerpt := excerpt
  redacted := redacted
  ranking := candidate.ranking

/-- Where the excerpt begins: the quote stands in the middle of it, as far as it can. -/
def excerptStart (units : List ℕ) (exactQuote : Option String) (maxChars : ℕ) : ℕ :=
  match asked exactQuote with
  | none => 0
  | some quote =>
      match indexOfUnits (codeUnits quote) units with
      | none => 0
      | some index => index - (maxChars - utf16Length quote) / 2

def buildBudgetedExcerpt (candidate : CandidateChunk) (exactQuote : Option String)
    (budget : NormalizedOutputBudget) : SourceRecallExcerpt :=
  let maxChars := budget.maxExcerptCharsPerChunk
  if candidate.record.sensitive then
    buildExcerpt candidate (redactedExcerpt.take maxChars) true
  else
    let units := codeUnits candidate.chunk.text
    buildExcerpt candidate ((units.drop (excerptStart units exactQuote maxChars)).take maxChars)
      false

/-! ## Retrieval -/

/-- `recordsById.get(id)`: of records with one id the last is in the map. -/
def recordById (records : List SourceRecallRecord) (id : String) : Option SourceRecallRecord :=
  records.reverse.find? (·.sourceRecordId = id)

def isRecordAndChunkVisible (record : SourceRecallRecord) (chunk : SourceRecallChunk) : Bool :=
  isSourceRecallLifecycleVisible record.lifecycleState &&
    isSourceRecallLifecycleVisible chunk.lifecycleState

/-- What the loop over the chunks makes of one of them. -/
inductive ChunkVerdict where
  /-- Counted as blocked: without a record, or not active. -/
  | blocked
  | skipped
  | candidate (candidate : CandidateChunk)

def judgeChunk (records : List SourceRecallRecord) (query : SourceRecallRetrievalQuery)
    (budget : NormalizedOutputBudget) (chunk : SourceRecallChunk) : ChunkVerdict :=
  match recordById records chunk.sourceRecordId with
  | none => .blocked
  | some record =>
      if isRecordAndChunkVisible record chunk = false then .blocked
      else if matchesRecordQuery record query budget = false then .skipped
      else if (asked query.chunkId).all (chunk.chunkId = ·) = false then .skipped
      else if (asked query.exactQuote).all (fun quote =>
          (indexOfUnits (codeUnits quote) (codeUnits chunk.text)).isSome) = false then .skipped
      else
        match scoreCandidate platform record chunk query with
        | none => .skipped
        | some ranking => .candidate { record := record, chunk := chunk, ranking := ranking }

def ChunkVerdict.toCandidate : ChunkVerdict → Option CandidateChunk
  | .candidate found => some found
  | .blocked | .skipped => none

def ChunkVerdict.isBlocked : ChunkVerdict → Bool
  | .blocked => true
  | .skipped | .candidate _ => false

def candidateChunks (document : SourceRecallDocument) (query : SourceRecallRetrievalQuery)
    (budget : NormalizedOutputBudget) : List CandidateChunk :=
  document.chunks.filterMap fun chunk =>
    (judgeChunk platform document.records query budget chunk).toCandidate

/-- How far the loop over the candidates has come. -/
structure RecallProgress where
  includedRecordIds : List String
  excerpts : List SourceRecallExcerpt
  totalCharsReturned : ℕ
  blockedRedactedCount : ℕ

def RecallProgress.block (progress : RecallProgress) : RecallProgress :=
  { progress with blockedRedactedCount := progress.blockedRedactedCount + 1 }

/-- A candidate whose record counts already. -/
def takeExcerpt (query : SourceRecallRetrievalQuery) (budget : NormalizedOutputBudget)
    (progress : RecallProgress) (candidate : CandidateChunk) : RecallProgress :=
  if budget.maxChunks ≤ progress.excerpts.length then progress.block
  else if candidate.record.sensitive ∧
      budget.sensitivityRedactionPolicy = .excludeSensitive then progress.block
  else
    let excerpt := buildBudgetedExcerpt candidate query.exactQuote budget
    let remainingTotalBudget := budget.maxTotalExcerptChars - progress.totalCharsReturned
    if remainingTotalBudget = 0 then progress.block
    else
      let bounded := { excerpt with excerpt := excerpt.excerpt.take remainingTotalBudget }
      { progress with
        excerpts := progress.excerpts ++ [bounded]
        totalCharsReturned := progress.totalCharsReturned + bounded.excerpt.length }

def takeCandidate (query : SourceRecallRetrievalQuery) (budget : NormalizedOutputBudget)
    (progress : RecallProgress) (candidate : CandidateChunk) : RecallProgress :=
  if candidate.record.sourceRecordId ∈ progress.includedRecordIds then
    takeExcerpt query budget progress candidate
  else if budget.maxRecords ≤ progress.includedRecordIds.length then progress.block
  else
    takeExcerpt query budget
      { progress with
        includedRecordIds := progress.includedRecordIds ++ [candidate.record.sourceRecordId] }
      candidate

structure SourceRecallRetrievalResult where
  retrievalMode : SourceRecallRetrievalMode
  retrievalAuthority : SourceRecallRetrievalAuthority
  budget : NormalizedOutputBudget
  excerpts : List SourceRecallExcerpt
  totalCharsReturned : ℕ
  blockedRedactedCount : ℕ

/-- `retrieveSourceRecall` on the document that the store loads. -/
def retrieveSourceRecall (document : SourceRecallDocument) (query : SourceRecallRetrievalQuery)
    (budget : SourceRecallOutputBudget) : SourceRecallRetrievalResult :=
  let normalizedBudget := normalizeSourceRecallOutputBudget budget
  let candidates := hostSort.sort (compareCandidates platform)
    (candidateChunks platform document query normalizedBudget)
  let blocked := document.chunks.countP fun chunk =>
    (judgeChunk platform document.records query normalizedBudget chunk).isBlocked
  let progress := candidates.foldl (takeCandidate query normalizedBudget)
    { includedRecordIds := [], excerpts := [], totalCharsReturned := 0,
      blockedRedactedCount := blocked }
  { retrievalMode := resolveRetrievalMode query
    retrievalAuthority := resolveRetrievalAuthority query
    budget := normalizedBudget
    excerpts := progress.excerpts
    totalCharsReturned := progress.totalCharsReturned
    blockedRedactedCount := progress.blockedRedactedCount }

end AgentBigBrain.Core
