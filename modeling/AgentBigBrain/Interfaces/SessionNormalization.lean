import AgentBigBrain.Interfaces.SessionState

/-!
# Normalizing a session

What a session becomes when it is written or read back. A record of the declared shape is
never rejected, so most normalizers are total here; they trim texts, drop blank ones and
rewrite numbers. The one failure left is a session whose time is no date, on which the
source throws while it migrates the conversation stack.
-/
namespace AgentBigBrain.Interfaces

open AgentBigBrain.Js AgentBigBrain.Core

/-! ## Fields -/

/-- A trimmed text, or `null` when nothing is left of it. -/
def trimmedOrNull (value : Option String) : Option String :=
  (value.filter isPresent).map trim

/-- A text as it stands, or `null` when it is blank. -/
def unlessBlank (value : Option String) : Option String :=
  value.filter isPresent

@[simp] lemma trimmedOrNull_idem (value : Option String) :
    trimmedOrNull (trimmedOrNull value) = trimmedOrNull value := by
  cases value with
  | none => rfl
  | some s => by_cases h : isPresent s = true <;> simp [trimmedOrNull, Option.filter_some, h]

@[simp] lemma unlessBlank_idem (value : Option String) :
    unlessBlank (unlessBlank value) = unlessBlank value := by
  simp [unlessBlank, Option.filter_filter]

/-- A counter: rounded down, and 0 when it is negative. -/
def normalizeCount (value : ℚ) : ℚ :=
  if 0 ≤ value then ⌊value⌋ else 0

@[simp] lemma normalizeCount_idem (value : ℚ) :
    normalizeCount (normalizeCount value) = normalizeCount value := by
  unfold normalizeCount
  by_cases h : 0 ≤ value
  · have hfloor : (0 : ℚ) ≤ ⌊value⌋ := by exact_mod_cast Int.floor_nonneg.mpr h
    simp [h, hfloor]
  · simp [h]

/-- A process id, or `null` when it is no whole number. -/
def normalizeInteger (value : Option ℚ) : Option ℚ :=
  value.filter fun pid => decide ((⌊pid⌋ : ℚ) = pid)

@[simp] lemma normalizeInteger_idem (value : Option ℚ) :
    normalizeInteger (normalizeInteger value) = normalizeInteger value := by
  simp [normalizeInteger, Option.filter_filter]

def normalizeDomainSnapshotLane (lane : Option ConversationDomainLane) :
    Option ConversationDomainLane :=
  lane.filter (· ≠ .unknown)

@[simp] lemma normalizeDomainSnapshotLane_idem (lane : Option ConversationDomainLane) :
    normalizeDomainSnapshotLane (normalizeDomainSnapshotLane lane) =
      normalizeDomainSnapshotLane lane := by
  simp [normalizeDomainSnapshotLane, Option.filter_filter]

/-! ## Transport identity -/

def normalizeTransportIdentityField (value : Option String) : Option String :=
  (value.map normalizeWhitespace).filter (· ≠ "")

def normalizeConversationTransportIdentity
    (identity : Option ConversationTransportIdentityRecord) :
    Option ConversationTransportIdentityRecord :=
  identity.bind fun raw =>
    let username := normalizeTransportIdentityField raw.username
    let displayName := normalizeTransportIdentityField raw.displayName
    let givenName := normalizeTransportIdentityField raw.givenName
    let familyName := normalizeTransportIdentityField raw.familyName
    if isPresent raw.observedAt &&
        (username.isSome || displayName.isSome || givenName.isSome || familyName.isSome) then
      some
        { provider := raw.provider
          username := username
          displayName := displayName
          givenName := givenName
          familyName := familyName
          observedAt := trim raw.observedAt }
    else
      none

/-! ## Jobs -/

def normalizeRecoveryTrace (trace : Option ConversationRecoveryTrace) :
    Option ConversationRecoveryTrace :=
  trace.map fun candidate => { candidate with fingerprint := unlessBlank candidate.fingerprint }

/-- The snapshot of a job without a usable one: nothing is known and nothing allowed. -/
def buildLegacyConversationJobPrincipalSnapshot (state : ConversationJobPrincipalSnapshotState) :
    ConversationJobPrincipalSnapshot where
  snapshotState := state
  principalRole := .legacyUnknown
  routeVisibility := .unknown
  accessOperation := .queuedJobOwnership
  accessClass := .blocked
  accessAllowed := false
  accessReason := .missingPrincipalScope
  identityAuthority := .legacyUnknown
  ownerMatchSource := .legacyUnknown
  legacyIdentityState := .legacyActorUnknown
  principalIdHash := none
  providerUserIdHash := none
  decisionId := none

def normalizeConversationJobPrincipalSnapshot
    (snapshot : Option ConversationJobPrincipalSnapshot) : ConversationJobPrincipalSnapshot :=
  match snapshot with
  | none => buildLegacyConversationJobPrincipalSnapshot .legacyActorUnknown
  | some value =>
      if value.snapshotState ≠ .verified ∧ (value.accessAllowed ∨ value.accessClass ≠ .blocked) then
        buildLegacyConversationJobPrincipalSnapshot .malformedBlocked
      else
        { value with
          principalIdHash := trimmedOrNull value.principalIdHash
          providerUserIdHash := trimmedOrNull value.providerUserIdHash
          decisionId := trimmedOrNull value.decisionId }

def normalizeConversationJob (job : ConversationJob) : ConversationJob :=
  { job with
    recoveryTrace := normalizeRecoveryTrace job.recoveryTrace
    ackTimerGeneration := normalizeCount job.ackTimerGeneration
    ackEditAttemptCount := normalizeCount job.ackEditAttemptCount
    finalDeliveryAttemptCount := normalizeCount job.finalDeliveryAttemptCount
    principalSnapshot := some (normalizeConversationJobPrincipalSnapshot job.principalSnapshot) }

/-! ## Turns -/

def normalizeConversationTurnSourceRecallMetadata
    (candidate : ConversationTurnSourceRecallMetadata) : ConversationTurnSourceRecallMetadata :=
  { candidate with
    sourceRecordId := trimmedOrNull candidate.sourceRecordId
    capturedAt := unlessBlank candidate.capturedAt
    diagnosticErrorCode := unlessBlank candidate.diagnosticErrorCode }

/-- The kind of an assistant turn is kept only together with its source. -/
def normalizeConversationTurnMetadata (metadata : ConversationTurnMetadata) :
    Option ConversationTurnMetadata :=
  let sourceRecall := metadata.sourceRecall.map normalizeConversationTurnSourceRecallMetadata
  let kindKnown := metadata.assistantTurnKind.isSome && metadata.assistantTurnKindSource.isSome
  if sourceRecall.isNone && metadata.actor.isNone && !kindKnown then
    none
  else
    some
      { assistantTurnKind := if kindKnown then metadata.assistantTurnKind else none
        assistantTurnKindSource := if kindKnown then metadata.assistantTurnKindSource else none
        actor := metadata.actor
        sourceRecall := sourceRecall }

def normalizeConversationTurn (turn : ConversationTurn) : ConversationTurn :=
  { turn with
    id := none
    metadata := turn.metadata.bind normalizeConversationTurnMetadata }

/-! ## Clarification, mode, progress and handoff -/

def normalizeClarificationOption (option : ActiveClarificationOption) :
    Option ActiveClarificationOption :=
  if isPresent option.label then some { option with label := trim option.label } else none

/-- The risk class and the prompt fingerprint are not carried over. -/
def normalizeActiveClarification (clarification : Option ActiveClarificationState) :
    Option ActiveClarificationState :=
  clarification.map fun candidate =>
    { candidate with
      riskClass := none
      promptFingerprint := none
      options := candidate.options.filterMap normalizeClarificationOption }

/-- The build modes of the routing signals are no session modes. -/
def isSessionMode : ConversationDomainRoutingMode → Bool
  | .staticHtmlBuild | .frameworkAppBuild | .clarifyBuildFormat => false
  | _ => true

def normalizeModeContinuityState (state : Option ConversationModeContinuityState) :
    Option ConversationModeContinuityState :=
  state.filter fun candidate => isSessionMode candidate.activeMode

def normalizeProgressStateRecord (state : Option ConversationProgressState) :
    Option ConversationProgressState :=
  state.map fun candidate =>
    { candidate with recoveryTrace := normalizeRecoveryTrace candidate.recoveryTrace }

def normalizeReturnHandoffRecord (record : Option ConversationReturnHandoffRecord) :
    Option ConversationReturnHandoffRecord :=
  record.map fun candidate =>
    { candidate with domainSnapshotLane := normalizeDomainSnapshotLane candidate.domainSnapshotLane }

/-! ## Owned records -/

def normalizeConversationResourceOwnerMetadata
    (owner : Option ConversationResourceOwnerMetadata) :
    Option ConversationResourceOwnerMetadata :=
  owner.map fun value =>
    { value with
      providerUserIdHash := trimmedOrNull value.providerUserIdHash
      sourceJobId := trimmedOrNull value.sourceJobId }

def normalizeRecentActionRecord (action : ConversationRecentActionRecord) :
    ConversationRecentActionRecord :=
  { action with
    resourceOwner := normalizeConversationResourceOwnerMetadata action.resourceOwner }

def normalizeBrowserSessionRecord (record : ConversationBrowserSessionRecord) :
    ConversationBrowserSessionRecord :=
  { record with
    browserProcessPid := normalizeInteger record.browserProcessPid
    linkedProcessPid := normalizeInteger record.linkedProcessPid
    resourceOwner := normalizeConversationResourceOwnerMetadata record.resourceOwner }

def normalizePathDestinationRecord (record : ConversationPathDestinationRecord) :
    ConversationPathDestinationRecord :=
  { record with
    «at» := none
    resourceOwner := normalizeConversationResourceOwnerMetadata record.resourceOwner }

def normalizeActiveWorkspaceRecord (workspace : Option ConversationActiveWorkspaceRecord) :
    Option ConversationActiveWorkspaceRecord :=
  workspace.map fun candidate =>
    { candidate with
      browserSessionIds := candidate.browserSessionIds.filter isPresent
      browserProcessPid := normalizeInteger candidate.browserProcessPid
      previewProcessLeaseIds := candidate.previewProcessLeaseIds.filter isPresent
      lastKnownPreviewProcessPid := normalizeInteger candidate.lastKnownPreviewProcessPid
      lastChangedPaths := candidate.lastChangedPaths.filter isPresent
      domainSnapshotLane := normalizeDomainSnapshotLane candidate.domainSnapshotLane
      resourceOwner := normalizeConversationResourceOwnerMetadata candidate.resourceOwner }

/-! ## Pulse state -/

def MAX_RECENT_EMISSIONS : ℕ := 10
def MAX_RECENT_DECISION_RECORDS : ℕ := 20
def MAX_CANDIDATE_TOKENS : ℕ := 10

/-- `Math.max(0, Math.min(1, Number(value.toFixed(4))))`. -/
def normalizeConfidence (value : ℚ) : ℚ :=
  max 0 (min 1 (roundTo 4 value))

def normalizeAgentPulseContextualLexicalEvidence (platform : Platform)
    (candidate : AgentPulseContextualLexicalEvidence) : AgentPulseContextualLexicalEvidence :=
  { candidate with
    confidence := normalizeConfidence candidate.confidence
    candidateTokens := uniqueValues
      (((candidate.candidateTokens.map fun token => platform.toLowerCase (trim token)).filter
        (· ≠ "")).take MAX_CANDIDATE_TOKENS) }

def normalizeAgentPulseSessionState (platform : Platform) (state : AgentPulseSessionState) :
    AgentPulseSessionState :=
  { state with
    lastContextualLexicalEvidence := state.lastContextualLexicalEvidence.map
      (normalizeAgentPulseContextualLexicalEvidence platform)
    recentEmissions := trimBoundedWindow MAX_RECENT_EMISSIONS state.recentEmissions
    decisionRecords := trimBoundedWindow MAX_RECENT_DECISION_RECORDS state.decisionRecords }

/-! ## The session -/

variable (platform : Platform) (sha : Sha256)

def isDate (text : String) : Bool :=
  (platform.dateParse text).isSome

/-- The normalized session when its time is a date. -/
def normalizedSession (raw : ConversationSession) : ConversationSession :=
  { raw with
    transportIdentity := normalizeConversationTransportIdentity raw.transportIdentity
    sessionSchemaVersion := some .v2
    conversationStack := some (migrateSessionConversationStackToV2 platform sha
      raw.sessionSchemaVersion raw.updatedAt
      ((raw.conversationTurns.map normalizeConversationTurn).map ConversationTurn.stackTurn)
      raw.conversationStack)
    codexAuthProfileId := trimmedOrNull raw.codexAuthProfileId
    activeClarification := normalizeActiveClarification raw.activeClarification
    domainContext :=
      normalizeConversationDomainContext platform raw.domainContext raw.conversationId
    modeContinuity := normalizeModeContinuityState raw.modeContinuity
    progressState := normalizeProgressStateRecord raw.progressState
    returnHandoff := normalizeReturnHandoffRecord raw.returnHandoff
    queuedJobs := raw.queuedJobs.map normalizeConversationJob
    recentJobs := raw.recentJobs.map normalizeConversationJob
    recentActions := raw.recentActions.map normalizeRecentActionRecord
    browserSessions := raw.browserSessions.map normalizeBrowserSessionRecord
    pathDestinations := raw.pathDestinations.map normalizePathDestinationRecord
    activeWorkspace := normalizeActiveWorkspaceRecord raw.activeWorkspace
    conversationTurns := raw.conversationTurns.map normalizeConversationTurn
    agentPulse := normalizeAgentPulseSessionState platform raw.agentPulse }

/-- `none` when the source throws, because the session's time is no date. -/
def normalizeSession (raw : ConversationSession) : Option ConversationSession :=
  if isDate platform raw.updatedAt then some (normalizedSession platform sha raw) else none

variable {platform sha}

lemma normalizeSession_eq_some {raw session : ConversationSession}
    (h : normalizeSession platform sha raw = some session) :
    isDate platform raw.updatedAt = true ∧ normalizedSession platform sha raw = session := by
  unfold normalizeSession at h
  split at h
  · rename_i hdate
    exact ⟨hdate, Option.some.inj h⟩
  · cases h

end AgentBigBrain.Interfaces
