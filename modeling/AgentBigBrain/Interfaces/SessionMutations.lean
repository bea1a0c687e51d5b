import AgentBigBrain.Interfaces.RecordMerging
import AgentBigBrain.Interfaces.SessionNormalization
import AgentBigBrain.Core.Sha256

/-!
# Session mutations

The session a conversation starts with, and the writes of ingress and worker to its bounded
ledgers.
-/
namespace AgentBigBrain.Interfaces

open AgentBigBrain.Js AgentBigBrain.Core

/-! ## The seed -/

def ConversationTransportProvider.text : ConversationTransportProvider → String
  | .telegram => "telegram"
  | .discord => "discord"

structure ConversationKeySeedInput where
  provider : ConversationTransportProvider
  conversationId : String
  userId : String
  username : String
  transportIdentity : Option ConversationTransportIdentityRecord
  conversationVisibility : RouteVisibility
  receivedAt : String

def buildConversationKey (message : ConversationKeySeedInput) : String :=
  message.provider.text ++ ":" ++ message.conversationId ++ ":" ++ message.userId

def createDefaultAgentPulseState : AgentPulseSessionState where
  optIn := false
  mode := .isPrivate
  routeStrategy := .lastPrivateUsed
  lastPulseSentAt := none
  lastPulseReason := none
  lastPulseTargetConversationId := none
  lastDecisionCode := .notEvaluated
  lastEvaluatedAt := none
  lastContextualLexicalEvidence := none
  recentEmissions := []
  lastDecisionRecord := none
  decisionRecords := []
  userStyleFingerprint := none
  userTimezone := none
  controlUpdatedAt := none
  controlSource := none

def buildSessionSeed (message : ConversationKeySeedInput) : ConversationSession where
  conversationId := buildConversationKey message
  userId := message.userId
  username := message.username
  transportIdentity := normalizeConversationTransportIdentity message.transportIdentity
  conversationVisibility := message.conversationVisibility
  principalContext := none
  sessionSchemaVersion := some .v2
  conversationStack := some (createEmptyConversationStackV1 message.receivedAt)
  updatedAt := message.receivedAt
  modelBackendOverride := none
  codexAuthProfileId := none
  modelOverrideAccess := none
  activeProposal := none
  activeClarification := none
  domainContext := createEmptyConversationDomainContext (buildConversationKey message)
  modeContinuity := none
  progressState := none
  returnHandoff := none
  runningJobId := none
  queuedJobs := []
  recentJobs := []
  recentActions := []
  browserSessions := []
  pathDestinations := []
  activeWorkspace := none
  conversationTurns := []
  classifierEvents := []
  agentPulse := createDefaultAgentPulseState

/-! A seed and records for it. -/

def samplePlatform : Platform :=
  .ofDates
    [("2026-01-01T00:00:00.000Z", 1767225600000), ("2026-01-01T00:01:00.000Z", 1767225660000),
      ("2026-01-01T00:02:00.000Z", 1767225720000)]

def sampleSha : Sha256 :=
  Sha256.ofTable [] validTable_nil

def sampleSession : ConversationSession :=
  buildSessionSeed
    { provider := .telegram
      conversationId := "chat-1"
      userId := "user-1"
      username := "user"
      transportIdentity := none
      conversationVisibility := .isPrivate
      receivedAt := "2026-01-01T00:00:00.000Z" }

def sampleJob : ConversationJob where
  id := "job-1"
  input := "build it"
  executionInput := none
  createdAt := "2026-01-01T00:00:00.000Z"
  startedAt := none
  completedAt := none
  status := .queued
  resultSummary := none
  errorMessage := none
  recoveryTrace := none
  isSystemJob := false
  ackTimerGeneration := 0
  ackEligibleAt := none
  ackLifecycleState := .notSent
  ackMessageId := none
  ackSentAt := none
  ackEditAttemptCount := 0
  ackLastErrorCode := none
  finalDeliveryOutcome := .notAttempted
  finalDeliveryAttemptCount := 0
  finalDeliveryLastErrorCode := none
  finalDeliveryLastAttemptAt := none
  pauseRequestedAt := none
  pulseMetadata := none
  principalSnapshot := none

def sampleVerifiedSnapshot : ConversationJobPrincipalSnapshot where
  snapshotState := .verified
  principalRole := .owner
  routeVisibility := .isPrivate
  accessOperation := .queuedJobOwnership
  accessClass := .ownerPrivate
  accessAllowed := true
  accessReason := .ownerPrincipalMatched
  identityAuthority := .configuredOwnerProviderUserId
  ownerMatchSource := .providerUserId
  legacyIdentityState := .principalVerified
  principalIdHash := some "principal-1"
  providerUserIdHash := some "principal-1"
  decisionId := some "decision-1"

/-! ## Turn texts -/

def MAX_STORED_TURN_CHARS : ℕ := 600

/-- A text that is too long ends in dots. -/
def capTurnText (normalized : String) : String :=
  if utf16Length normalized ≤ MAX_STORED_TURN_CHARS then normalized
  else sliceUnits (MAX_STORED_TURN_CHARS - 3) normalized ++ "..."

def normalizeTurnText (value : String) : String :=
  capTurnText (normalizeWhitespace value)

/-- Every maximal run of the characters becomes one blank. -/
def blankRuns (p : Char → Bool) (inRun : Bool) : List Char → List Char
  | [] => []
  | c :: cs =>
      if p c then (if inRun then blankRuns p true cs else ' ' :: blankRuns p true cs)
      else c :: blankRuns p false cs

/-- `text.replace(/\r\n/g, "\n")`. -/
def unixLines : List Char → List Char
  | '\r' :: '\n' :: cs => '\n' :: unixLines cs
  | c :: cs => c :: unixLines cs
  | [] => []

def lineParagraph (lines : List (List Char)) : String :=
  let text := List.intercalate ['\n'] lines
  trim (String.ofList (blankRuns (· = '\n') false
    (blankRuns (fun c => isWhitespace c && decide (c ≠ '\n')) false text)))

/-- The paragraphs between blank lines; those of white space alone are dropped, so a blank line
at either end may count as a boundary as well. -/
def paragraphsOf (text : List Char) : List String :=
  (((text.splitOn '\n').splitBy fun l m => l.all isWhitespace == m.all isWhitespace).map
    lineParagraph).filter (· ≠ "")

/-- `stripLabelStyleOpening` removes a robotic label from the start of an answer. -/
def normalizeAssistantTurnText (stripLabelStyleOpening : String → String) (value : String) :
    String :=
  let stripped := unixLines (stripLabelStyleOpening value).toList
  let paragraphs := paragraphsOf stripped
  capTurnText (if paragraphs.isEmpty then normalizeWhitespace (String.ofList stripped)
    else String.intercalate "\n\n" paragraphs)

/-! ## Bounded ledgers -/

/-- `items.slice(-max)`, which for 0 is the whole list. -/
def lastItems {α : Type*} (max : ℕ) (items : List α) : List α :=
  if max = 0 then items else items.drop (items.length - max)

/-- The record in front of the records of other ids. -/
def replaceById {α : Type*} (id : α → String) (record : α) (records : List α) : List α :=
  record :: records.filter fun candidate => decide (id candidate ≠ id record)

structure PushConversationTurnOptions where
  assistantTurnKind : Option ConversationAssistantTurnKind
  actor : Option ConversationTurnActorMetadata

/-- The turn a push records, or `null` when its text is blank. -/
def recordedTurn (stripLabelStyleOpening : String → String) (role : TurnRole)
    (text time : String) (options : PushConversationTurnOptions) : Option ConversationTurn :=
  let normalized := match role with
    | .assistant => normalizeAssistantTurnText stripLabelStyleOpening text
    | .user => normalizeTurnText text
  let kind := match role with
    | .assistant => options.assistantTurnKind
    | .user => none
  if normalized = "" then none
  else
    some
      { id := none
        role := role
        text := normalized
        «at» := time
        metadata :=
          if kind.isSome || options.actor.isSome then
            some
              { assistantTurnKind := kind
                assistantTurnKindSource := kind.map fun _ => .runtimeMetadata
                actor := options.actor
                sourceRecall := none }
          else
            none }

def pushConversationTurn (stripLabelStyleOpening : String → String)
    (session : ConversationSession) (role : TurnRole) (text time : String)
    (maxConversationTurns : ℕ) (options : PushConversationTurnOptions) : ConversationSession :=
  match recordedTurn stripLabelStyleOpening role text time options with
  | none => session
  | some turn =>
      { session with
        conversationTurns := lastItems maxConversationTurns (session.conversationTurns ++ [turn]) }

def upsertRecentJob (session : ConversationSession) (job : ConversationJob)
    (maxRecentJobs : ℕ) : ConversationSession :=
  { session with
    recentJobs := (replaceById ConversationJob.id job session.recentJobs).take maxRecentJobs }

variable (platform : Platform)

/-- `records.sort((left, right) => right.time.localeCompare(left.time))`. -/
def newestFirst {α : Type*} (time : α → String) : Comparator α :=
  (platform.locale.byKey time).reverse

def upsertRecentAction (session : ConversationSession) (action : ConversationRecentActionRecord)
    (maxRecentActions : ℕ) : ConversationSession :=
  { session with
    recentActions := ((newestFirst platform ConversationRecentActionRecord.at).sort
      (replaceById ConversationRecentActionRecord.id action session.recentActions)).take
        maxRecentActions }

/-- Workspace and process links that the new record lacks come from the record it replaces. -/
def mergedBrowserSession (session : ConversationSession)
    (browserSession : ConversationBrowserSessionRecord) : ConversationBrowserSessionRecord :=
  let existing := session.browserSessions.find? fun candidate => candidate.id = browserSession.id
  { browserSession with
    workspaceRootPath := browserSession.workspaceRootPath.or
      (existing.bind ConversationBrowserSessionRecord.workspaceRootPath)
    linkedProcessLeaseId := browserSession.linkedProcessLeaseId.or
      (existing.bind ConversationBrowserSessionRecord.linkedProcessLeaseId)
    linkedProcessCwd := browserSession.linkedProcessCwd.or
      (existing.bind ConversationBrowserSessionRecord.linkedProcessCwd) }

def upsertBrowserSession (session : ConversationSession)
    (browserSession : ConversationBrowserSessionRecord) (maxBrowserSessions : ℕ) :
    ConversationSession :=
  { session with
    browserSessions := ((newestFirst platform ConversationBrowserSessionRecord.openedAt).sort
      (replaceById ConversationBrowserSessionRecord.id
        (mergedBrowserSession session browserSession) session.browserSessions)).take
        maxBrowserSessions }

def upsertPathDestination (session : ConversationSession)
    (destination : ConversationPathDestinationRecord) (maxDestinations : ℕ) :
    ConversationSession :=
  { session with
    pathDestinations := ((newestFirst platform ConversationPathDestinationRecord.updatedAt).sort
      (replaceById ConversationPathDestinationRecord.id destination
        session.pathDestinations)).take maxDestinations }

/-! ## Clearing -/

/-- An answered clarification no longer makes the session wait for the user. -/
def clearActiveClarification (session : ConversationSession) : ConversationSession :=
  { session with
    activeClarification := none
    progressState := session.progressState.filter fun state => state.status ≠ .waitingForUser }

end AgentBigBrain.Interfaces
