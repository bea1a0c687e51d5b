import AgentBigBrain.Core.LessonIndex
import AgentBigBrain.Core.ReceiptChain
import AgentBigBrain.Core.WorkflowObservations

/-!
# Ledgers that are appended to

Four stores keep their records in a JSON file and append to it by reading the file, adding the
record and writing everything back. Each of them reads a file that cannot be read, or whose text
does not parse, as a ledger without records.
-/
namespace AgentBigBrain.Core

open AgentBigBrain.Js AgentBigBrain.Lib

/-! ## Reading a ledger -/

/-- What comes of reading the file and parsing its text. -/
inductive FileReading (δ : Type*) where
  | notFound
  /-- The file is there and cannot be read. -/
  | ioError
  /-- `JSON.parse` throws on the text. -/
  | unparsable
  | document (document : δ)

def FileReading.Failed {δ : Type*} (reading : FileReading δ) : Prop :=
  match reading with
  | .ioError | .unparsable => True
  | .notFound | .document _ => False

lemma failed_ioError {δ : Type*} : (FileReading.ioError : FileReading δ).Failed := trivial

lemma failed_unparsable {δ : Type*} : (FileReading.unparsable : FileReading δ).Failed := trivial

/-- A loader that catches every failure: `normalize` is applied to a document that was read. -/
def loadOr {δ : Type*} (initial : δ) (normalize : δ → δ) : FileReading δ → δ
  | .document document => normalize document
  | .notFound | .ioError | .unparsable => initial

lemma loadOr_of_failed {δ : Type*} {initial : δ} {normalize : δ → δ} {reading : FileReading δ}
    (h : reading.Failed) : loadOr initial normalize reading = initial := by
  cases reading with
  | document document => exact h.elim
  | notFound => rfl
  | ioError => rfl
  | unparsable => rfl

/-- The call writes nothing, or what it writes holds all records that were stored. -/
def AppendOutcome.KeepsAll {δ : Type*} (recordIds : δ → List String) (stored : List String) :
    AppendOutcome δ → Prop
  | .threw | .skipped => True
  | .saved document => ∀ id ∈ stored, id ∈ recordIds document

lemma keepsAll_of_singleton {δ : Type*} {recordIds : δ → List String} {stored : List String}
    {document : δ} {newId : String} (h : recordIds document = [newId]) :
    (AppendOutcome.saved document).KeepsAll recordIds stored ↔ ∀ id ∈ stored, id = newId := by
  simp [AppendOutcome.KeepsAll, h]

/-! ## Governance events -/

inductive GovernanceOutcome where
  | approved
  | blocked
  deriving DecidableEq

inductive GovernanceBlockCategory where
  | none
  | constraints
  | governance
  | runtime
  deriving DecidableEq

structure GovernanceMemoryEvent where
  id : String
  recordedAt : String
  taskId : String
  proposalId : Option String
  actionId : String
  actionType : ActionType
  mode : ExecutionMode
  outcome : GovernanceOutcome
  blockCategory : GovernanceBlockCategory
  blockedBy : List ActionBlockReason
  violationCodes : List ConstraintViolationCode
  yesVotes : ℚ
  noVotes : ℚ
  threshold : Option ℚ
  dissentGovernorIds : List GovernorId
  principalAccess : Option PrincipalAccessAuditMetadata

/-- The numbers of an input are `none` where they are not finite. -/
structure AppendGovernanceMemoryEventInput where
  id : Option String
  recordedAt : Option String
  taskId : String
  proposalId : Option String
  actionId : String
  actionType : ActionType
  mode : ExecutionMode
  outcome : GovernanceOutcome
  blockCategory : GovernanceBlockCategory
  blockedBy : List ActionBlockReason
  violationCodes : List ConstraintViolationCode
  yesVotes : Option ℚ
  noVotes : Option ℚ
  threshold : Option (Option ℚ)
  dissentGovernorIds : List GovernorId
  principalAccess : Option PrincipalAccessAuditMetadata

structure GovernanceMemoryState where
  createdAt : String
  lastAppendedAt : Option String
  events : List GovernanceMemoryEvent

/-- The id and the time that a call makes up where the input has none. -/
structure LedgerReadings where
  newId : String
  nowIso : String

def AppendGovernanceMemoryEventInput.eventId (input : AppendGovernanceMemoryEventInput)
    (readings : LedgerReadings) : String :=
  input.id.getD readings.newId

/-- `normalizeEvent` of an input whose texts are of the types that it asks for; a threshold may be
`null`. -/
def normalizeEvent (input : AppendGovernanceMemoryEventInput) (readings : LedgerReadings) :
    Option GovernanceMemoryEvent :=
  match input.yesVotes, input.noVotes, input.threshold with
  | some yesVotes, some noVotes, none => some (event yesVotes noVotes none)
  | some yesVotes, some noVotes, some (some threshold) =>
      some (event yesVotes noVotes (some threshold))
  | _, _, _ => none
where
  event (yesVotes noVotes : ℚ) (threshold : Option ℚ) : GovernanceMemoryEvent :=
    { id := input.eventId readings
      recordedAt := input.recordedAt.getD readings.nowIso
      taskId := input.taskId
      proposalId := input.proposalId
      actionId := input.actionId
      actionType := input.actionType
      mode := input.mode
      outcome := input.outcome
      blockCategory := input.blockCategory
      blockedBy := input.blockedBy
      violationCodes := input.violationCodes
      yesVotes := yesVotes
      noVotes := noVotes
      threshold := threshold
      dissentGovernorIds := input.dissentGovernorIds
      principalAccess := input.principalAccess }

def createInitialState (nowIso : String) : GovernanceMemoryState where
  createdAt := nowIso
  lastAppendedAt := none
  events := []

/-- `ensureLoaded(true)`; stored events are of the type they are read as. -/
def GovernanceMemoryStore.ensureLoaded (nowIso : String) :
    FileReading GovernanceMemoryState → GovernanceMemoryState :=
  loadOr (createInitialState nowIso) id

def GovernanceMemoryStore.appendEvent (reading : FileReading GovernanceMemoryState)
    (input : AppendGovernanceMemoryEventInput) (readings : LedgerReadings) :
    AppendOutcome GovernanceMemoryState :=
  let state := GovernanceMemoryStore.ensureLoaded readings.nowIso reading
  match normalizeEvent input readings with
  | none => .threw
  | some normalized =>
      .saved
        { state with
          events := state.events ++ [normalized]
          lastAppendedAt := some normalized.recordedAt }

def GovernanceMemoryState.recordIds (state : GovernanceMemoryState) : List String :=
  state.events.map (·.id)

lemma id_of_normalizeEvent {input : AppendGovernanceMemoryEventInput} {readings : LedgerReadings}
    {event : GovernanceMemoryEvent} (h : normalizeEvent input readings = some event) :
    event.id = input.eventId readings := by
  unfold normalizeEvent at h
  split at h
  · cases h
    rfl
  · cases h
    rfl
  · cases h

/-- An event whose numbers are not all finite is refused; any other stands alone in the file. -/
theorem governance_keepsAll_iff {reading : FileReading GovernanceMemoryState}
    (hfailed : reading.Failed) (stored : List String) (input : AppendGovernanceMemoryEventInput)
    (readings : LedgerReadings) :
    (GovernanceMemoryStore.appendEvent reading input readings).KeepsAll
        GovernanceMemoryState.recordIds stored ↔
      normalizeEvent input readings = none ∨ ∀ id ∈ stored, id = input.eventId readings := by
  unfold GovernanceMemoryStore.appendEvent GovernanceMemoryStore.ensureLoaded
  dsimp only
  rw [loadOr_of_failed hfailed]
  cases hevent : normalizeEvent input readings with
  | none => simp [AppendOutcome.KeepsAll]
  | some event =>
      rw [@keepsAll_of_singleton _ _ stored _ (input.eventId readings)]
      · simp
      · simp [GovernanceMemoryState.recordIds, createInitialState, id_of_normalizeEvent hevent]

/-! ## Lessons -/

section Lessons

variable (platform : Platform)

def SemanticMemoryStore.load : FileReading SemanticMemory → SemanticMemory :=
  loadOr .empty (coerceLegacyMemory platform)

def SemanticMemoryStore.appendLesson (reading : FileReading SemanticMemory)
    (input : AppendLessonInput) (readings : LessonReadings) : AppendOutcome SemanticMemory :=
  AgentBigBrain.Core.appendLesson platform (SemanticMemoryStore.load platform reading) input
    readings

def SemanticMemory.recordIds (memory : SemanticMemory) : List String :=
  memory.lessons.map (·.id)

/-- The first lesson of a store. -/
lemma appendLesson_empty (input : AppendLessonInput) (readings : LessonReadings) :
    AgentBigBrain.Core.appendLesson platform .empty input readings =
      if isPresent input.lessonText = false then .skipped
      else if OwnNames (extractConcepts platform (trim input.lessonText)) then
        .saved (evictLessons (withLesson .empty (buildLesson platform input readings)))
      else .threw := by
  have hconcepts := buildLesson_concepts platform input readings
  obtain ⟨hskipped, happend⟩ | ⟨hpresent, -, happend⟩ :=
    appendLesson_cases platform .empty input readings
  · have hblank : isPresent input.lessonText = false := by
      simpa [hasLesson, SemanticMemory.empty] using hskipped
    rw [happend, if_pos hblank]
  · rw [happend, if_neg (by simp [hpresent]), ← hconcepts]
    split_ifs with hown
    · rw [addToConceptIndex_connected hown]
      rfl
    · obtain ⟨hsame, -⟩ := connect_new SemanticMemory.empty.lessons
        (buildLesson platform input readings)
      rw [addToConceptIndex, hsame.concepts,
        foldlM_addConcept_eq_none hown lessonsKept_empty.no_inherited]

/-- A blank lesson is skipped, one that names an inherited member makes the call throw, and any
other stands alone in the file. -/
theorem lessons_keepsAll_iff {reading : FileReading SemanticMemory} (hfailed : reading.Failed)
    (stored : List String) (input : AppendLessonInput) (readings : LessonReadings) :
    (SemanticMemoryStore.appendLesson platform reading input readings).KeepsAll
        SemanticMemory.recordIds stored ↔
      isPresent input.lessonText = false ∨
        ¬ OwnNames (extractConcepts platform (trim input.lessonText)) ∨
          ∀ id ∈ stored, id = readings.newId := by
  unfold SemanticMemoryStore.appendLesson SemanticMemoryStore.load
  rw [loadOr_of_failed hfailed, appendLesson_empty]
  split_ifs with hblank hown
  · simp [AppendOutcome.KeepsAll, hblank]
  · have hid : (buildLesson platform input readings).id = readings.newId := by
      simp only [buildLesson]
    have hroom : SemanticMemory.empty.lessons.length < MAX_LESSONS := by
      simp [SemanticMemory.empty, MAX_LESSONS]
    rw [@keepsAll_of_singleton _ _ stored _ readings.newId]
    · simp [hblank, hown]
    · rw [evict_of_room hroom]
      exact congrArg (fun id => [id]) hid
  · simp [AppendOutcome.KeepsAll, hown]

end Lessons

/-! ## Workflow patterns -/

section Workflows

variable (platform : BridgePlatform) (hostSort : HostSort)

/-- `readJsonDocumentFromFile`; the stored patterns are parsed where they are adapted. -/
def WorkflowLearningStore.readJsonDocumentFromFile :
    FileReading (List WorkflowPattern) → List WorkflowPattern :=
  loadOr [] id

def WorkflowLearningStore.recordObservation (reading : FileReading (List WorkflowPattern))
    (call : RecordedObservation) : AppendOutcome (List WorkflowPattern) :=
  .saved (AgentBigBrain.Core.recordObservation platform hostSort
    (WorkflowLearningStore.readJsonDocumentFromFile reading) call)

/-- The first observation makes the only pattern. -/
lemma recordObservation_empty (call : RecordedObservation) :
    (AgentBigBrain.Core.recordObservation platform hostSort [] call).map (·.id) =
      [call.readings.newId] := by
  have hperm := hostSort.perm (sortPatternsForRetention platform)
    (applyObservationMetadataToAdaptation
      (adaptWorkflowPatterns platform [] call.observation call.readings)
      call.observation).patterns
  have hids : (applyObservationMetadataToAdaptation
      (adaptWorkflowPatterns platform [] call.observation call.readings)
      call.observation).patterns.map (·.id) = [call.readings.newId] := by
    simp [applyObservationMetadataToAdaptation, adaptWorkflowPatterns, updateFirst, firstPattern,
      applyWorkflowObservationMetadata]
  have hlength := congrArg List.length hids
  rw [List.length_map, List.length_singleton] at hlength
  have hcap := @cap_perm platform hostSort _
    (hlength.trans_le (by simp [MAX_WORKFLOW_PATTERNS]))
  have hkept := hcap.map (·.id)
  rw [hids] at hkept
  exact List.perm_singleton.mp hkept

/-- An observation always writes, and its pattern stands alone in the file. -/
theorem observations_keepsAll_iff {reading : FileReading (List WorkflowPattern)}
    (hfailed : reading.Failed) (stored : List String) (call : RecordedObservation) :
    (WorkflowLearningStore.recordObservation platform hostSort reading call).KeepsAll
        (List.map (·.id)) stored ↔
      ∀ id ∈ stored, id = call.readings.newId := by
  unfold WorkflowLearningStore.recordObservation WorkflowLearningStore.readJsonDocumentFromFile
  rw [loadOr_of_failed hfailed]
  exact keepsAll_of_singleton (recordObservation_empty platform hostSort call)

end Workflows

/-! ## Judgment patterns -/

inductive JudgmentRiskPosture where
  | conservative
  | balanced
  | aggressive
  deriving DecidableEq

inductive JudgmentSignalType where
  | objective
  | humanFeedback
  | delayed
  deriving DecidableEq

structure JudgmentOutcomeSignal where
  id : String
  signalType : JudgmentSignalType
  score : ℚ
  recordedAt : String

inductive JudgmentPatternStatus where
  | active
  | superseded
  deriving DecidableEq

structure JudgmentPattern where
  id : String
  sourceTaskId : String
  contextFingerprint : String
  optionsFingerprint : String
  choiceFingerprint : String
  rationaleFingerprint : String
  riskPosture : JudgmentRiskPosture
  confidence : ℚ
  status : JudgmentPatternStatus
  createdAt : String
  lastUpdatedAt : String
  supersededAt : Option String
  outcomeHistory : List JudgmentOutcomeSignal
  accessMetadata : Option SemanticLessonAccessMetadata

structure RecordJudgmentPatternInput where
  sourceTaskId : String
  context : String
  options : String
  choice : String
  rationale : String
  riskPosture : JudgmentRiskPosture
  principalAccess : Option TaskPrincipalAccessEnvelope
  accessMetadata : Option SemanticLessonAccessMetadata

def MAX_JUDGMENT_PATTERNS : ℕ := 2000

/-- The same classes as those of lessons. -/
def classifyAgentLearningAccess (principalAccess : Option TaskPrincipalAccessEnvelope) :
    SemanticLessonAccessMetadata :=
  classifySemanticLessonAccess principalAccess

/-- The texts of a stored pattern, where they are not blank; a blank text is replaced. Patterns and
signals are stored with their ids. -/
def coerceJudgmentPattern (sha : Sha256) (readings : LedgerReadings) (raw : JudgmentPattern) :
    JudgmentPattern :=
  { raw with
    sourceTaskId := orElse raw.sourceTaskId "unknown_task"
    contextFingerprint := orElse raw.contextFingerprint (sha.digest "")
    optionsFingerprint := orElse raw.optionsFingerprint (sha.digest "")
    choiceFingerprint := orElse raw.choiceFingerprint (sha.digest "")
    rationaleFingerprint := orElse raw.rationaleFingerprint (sha.digest "")
    confidence := clampConfidence raw.confidence
    createdAt := orElse raw.createdAt readings.nowIso
    lastUpdatedAt := orElse raw.lastUpdatedAt readings.nowIso
    supersededAt := toNullableString raw.supersededAt
    outcomeHistory := raw.outcomeHistory.map fun signal =>
      { signal with
        score := toFixed4 (max (-1) (min 1 signal.score))
        recordedAt := orElse signal.recordedAt readings.nowIso } }
where
  orElse (text fallback : String) : String :=
    if isPresent text then text else fallback

def JudgmentPatternStore.readJsonDocumentFromFile (sha : Sha256) (readings : LedgerReadings) :
    FileReading (List JudgmentPattern) → List JudgmentPattern :=
  loadOr [] (List.map (coerceJudgmentPattern sha readings))

def newJudgmentPattern (sha : Sha256) (input : RecordJudgmentPatternInput)
    (readings : LedgerReadings) : JudgmentPattern where
  id := readings.newId
  sourceTaskId := input.sourceTaskId
  contextFingerprint := sha.digest (trim input.context)
  optionsFingerprint := sha.digest (trim input.options)
  choiceFingerprint := sha.digest (trim input.choice)
  rationaleFingerprint := sha.digest (trim input.rationale)
  riskPosture := input.riskPosture
  confidence := 1 / 2
  status := .active
  createdAt := readings.nowIso
  lastUpdatedAt := readings.nowIso
  supersededAt := none
  outcomeHistory := []
  accessMetadata :=
    some (input.accessMetadata.getD (classifyAgentLearningAccess input.principalAccess))

def JudgmentPatternStore.recordPattern (sha : Sha256) (reading : FileReading (List JudgmentPattern))
    (input : RecordJudgmentPatternInput) (readings : LedgerReadings) :
    AppendOutcome (List JudgmentPattern) :=
  let patterns := JudgmentPatternStore.readJsonDocumentFromFile sha readings reading ++
    [newJudgmentPattern sha input readings]
  .saved (patterns.drop (patterns.length - MAX_JUDGMENT_PATTERNS))

/-- A pattern is always written, and stands alone in the file. -/
theorem judgments_keepsAll_iff (sha : Sha256) {reading : FileReading (List JudgmentPattern)}
    (hfailed : reading.Failed) (stored : List String) (input : RecordJudgmentPatternInput)
    (readings : LedgerReadings) :
    (JudgmentPatternStore.recordPattern sha reading input readings).KeepsAll
        (List.map (·.id)) stored ↔
      ∀ id ∈ stored, id = readings.newId := by
  unfold JudgmentPatternStore.recordPattern JudgmentPatternStore.readJsonDocumentFromFile
  dsimp only
  rw [loadOr_of_failed hfailed]
  refine keepsAll_of_singleton ?_
  simp [MAX_JUDGMENT_PATTERNS, newJudgmentPattern]

/-! ## The four stores -/

/-- Where the read fails or yields no document, the four appends keep what was stored exactly if
they write nothing or nothing was stored but under the id they write. -/
theorem failed_read_keeps_iff (platform : BridgePlatform) (hostSort : HostSort) (sha : Sha256)
    (stored : List String) :
    (∀ reading : FileReading GovernanceMemoryState, reading.Failed → ∀ input readings,
      ((GovernanceMemoryStore.appendEvent reading input readings).KeepsAll
          GovernanceMemoryState.recordIds stored ↔
        normalizeEvent input readings = none ∨ ∀ id ∈ stored, id = input.eventId readings)) ∧
    (∀ reading : FileReading SemanticMemory, reading.Failed → ∀ input readings,
      ((SemanticMemoryStore.appendLesson platform.toPlatform reading input readings).KeepsAll
          SemanticMemory.recordIds stored ↔
        isPresent input.lessonText = false ∨
          ¬ OwnNames (extractConcepts platform.toPlatform (trim input.lessonText)) ∨
            ∀ id ∈ stored, id = readings.newId)) ∧
    (∀ reading : FileReading (List WorkflowPattern), reading.Failed → ∀ call,
      ((WorkflowLearningStore.recordObservation platform hostSort reading call).KeepsAll
          (List.map (·.id)) stored ↔ ∀ id ∈ stored, id = call.readings.newId)) ∧
    (∀ reading : FileReading (List JudgmentPattern), reading.Failed → ∀ input readings,
      ((JudgmentPatternStore.recordPattern sha reading input readings).KeepsAll
          (List.map (·.id)) stored ↔ ∀ id ∈ stored, id = readings.newId)) :=
  ⟨fun _ hfailed => governance_keepsAll_iff hfailed stored,
    fun _ hfailed => lessons_keepsAll_iff platform.toPlatform hfailed stored,
    fun _ hfailed => observations_keepsAll_iff platform hostSort hfailed stored,
    fun _ hfailed => judgments_keepsAll_iff sha hfailed stored⟩

/-! ## Reads that fail -/

def ledgerReadings : LedgerReadings where
  newId := "record_2"
  nowIso := "2026-01-02T00:00:00.000Z"

def blockedEvent (yesVotes : Option ℚ) : AppendGovernanceMemoryEventInput where
  id := none
  recordedAt := none
  taskId := "task-1"
  proposalId := none
  actionId := "action-1"
  actionType := .respond
  mode := .fastPath
  outcome := .blocked
  blockCategory := .governance
  blockedBy := []
  violationCodes := []
  yesVotes := yesVotes
  noVotes := some 1
  threshold := none
  dissentGovernorIds := []
  principalAccess := none

def sampleJudgment : RecordJudgmentPatternInput where
  sourceTaskId := "task-1"
  context := "release"
  options := "now or later"
  choice := "later"
  rationale := "tests fail"
  riskPosture := .balanced
  principalAccess := none
  accessMetadata := none

/-- An event that is refused leaves the file as it is, and a first pattern loses nothing. -/
theorem refused_event_keeps_file :
    (GovernanceMemoryStore.appendEvent .ioError (blockedEvent none) ledgerReadings).KeepsAll
        GovernanceMemoryState.recordIds ["record_1"] ∧
      (WorkflowLearningStore.recordObservation workflowPlatform .insertion .unparsable
        deployCall).KeepsAll (List.map (·.id)) [] :=
  ⟨((failed_read_keeps_iff workflowPlatform .insertion sampleSha ["record_1"]).1 .ioError failed_ioError
      (blockedEvent none) ledgerReadings).mpr (.inl rfl),
    ((failed_read_keeps_iff workflowPlatform .insertion sampleSha []).2.2.1 .unparsable
      failed_unparsable deployCall).mpr (by simp)⟩

/-- In each of the four stores a record that was stored is gone after an append whose read failed. -/
theorem failed_read_loses_record :
    ¬ (GovernanceMemoryStore.appendEvent .ioError (blockedEvent (some 0)) ledgerReadings).KeepsAll
        GovernanceMemoryState.recordIds ["record_1"] ∧
      ¬ (SemanticMemoryStore.appendLesson workflowPlatform.toPlatform .ioError
        (lessonOf "deploy scripts need retries") { newId := "record_2", nowIso := "" }).KeepsAll
        SemanticMemory.recordIds ["record_1"] ∧
      ¬ (WorkflowLearningStore.recordObservation workflowPlatform .insertion .unparsable
        deployCall).KeepsAll (List.map (·.id)) ["record_1"] ∧
      ¬ (JudgmentPatternStore.recordPattern sampleSha .ioError sampleJudgment
        ledgerReadings).KeepsAll (List.map (·.id)) ["record_1"] := by
  rw [governance_keepsAll_iff failed_ioError, lessons_keepsAll_iff _ failed_ioError,
    observations_keepsAll_iff _ _ failed_unparsable, judgments_keepsAll_iff _ failed_ioError]
  refine ⟨by decide, by decide, by decide, by decide⟩

end AgentBigBrain.Core
