import AgentBigBrain.Core.BridgeEmission
import AgentBigBrain.Core.ExecutionReceipts

/-!
# The runtime state and its bridge questions

The runtime state is one document: the conversation stack, the pulse state with the bridge
history, and the pending bridge questions. Every save and every load normalizes it. A runtime
action loads it, asks or answers a bridge question, and saves it again.
-/
namespace AgentBigBrain.Core

open AgentBigBrain.Js AgentBigBrain.Lib

variable (platform : BridgePlatform) (sha : Sha256)

/-! ## The document -/

structure Stage686PulseStateV1 where
  updatedAt : String
  lastPulseAt : Option String
  emittedTodayCount : ℕ
  bridgeHistory : List BridgeInteractionRecordV1
  deriving DecidableEq

structure Stage686RuntimeStateSnapshot where
  updatedAt : String
  conversationStack : ConversationStackV1
  pulseState : Stage686PulseStateV1
  pendingBridgeQuestions : List BridgeQuestionV1
  lastMemoryMutationReceiptHash : Option String
  deriving DecidableEq

def MAX_PENDING_BRIDGE_QUESTIONS : ℕ := 64

def MAX_BRIDGE_HISTORY : ℕ := 200

def isIsoTimestamp (value : String) : Bool :=
  (platform.dateParse value).isSome

def createDefaultPulseState (observedAt : String) : Stage686PulseStateV1 where
  updatedAt := observedAt
  lastPulseAt := none
  emittedTodayCount := 0
  bridgeHistory := []

/-- `normalizeSourceAuthority(value, { fallbackAuthority: "unknown" })`. -/
def normalizeSourceAuthority : SourceAuthority → SourceAuthority
  | .legacyCompatibility => .unknown
  | authority => authority

def isDatedQuestion (question : BridgeQuestionV1) : Bool :=
  isIsoTimestamp platform question.createdAt && isIsoTimestamp platform question.cooldownUntil

def normalizePendingBridgeQuestion (question : BridgeQuestionV1) : BridgeQuestionV1 :=
  { question with
    evidenceRefs := platform.locale.sort
      (uniqueValues ((question.evidenceRefs.map trim).filter (· ≠ "")))
    sourceAuthority := normalizeSourceAuthority question.sourceAuthority }

def questionOrder : Comparator BridgeQuestionV1 :=
  platform.locale.byKey BridgeQuestionV1.questionId

def normalizePendingBridgeQuestions (questions : List BridgeQuestionV1) :
    List BridgeQuestionV1 :=
  retainLast MAX_PENDING_BRIDGE_QUESTIONS ((questionOrder platform).sort
    ((questions.filter (isDatedQuestion platform)).map (normalizePendingBridgeQuestion platform)))

/-- Records are sorted by the time they were asked, and the latest are kept. -/
def boundBridgeHistory (history : List BridgeInteractionRecordV1) :
    List BridgeInteractionRecordV1 :=
  retainLast MAX_BRIDGE_HISTORY ((askedOrder platform).sort history)

def normalizePulseState (pulseState : Stage686PulseStateV1) (fallbackIso : String) :
    Stage686PulseStateV1 where
  updatedAt :=
    if isIsoTimestamp platform pulseState.updatedAt then pulseState.updatedAt else fallbackIso
  lastPulseAt := pulseState.lastPulseAt.filter (isIsoTimestamp platform)
  emittedTodayCount := pulseState.emittedTodayCount
  bridgeHistory :=
    boundBridgeHistory platform (pulseState.bridgeHistory.filter (isDatedRecord platform))

/-- `normalizeDocument`, on documents whose fields have their types. -/
def normalizeRuntimeState (fallbackIso : String) (document : Stage686RuntimeStateSnapshot) :
    Stage686RuntimeStateSnapshot :=
  let updatedAt :=
    if isIsoTimestamp platform document.updatedAt then document.updatedAt else fallbackIso
  { updatedAt := updatedAt
    conversationStack := document.conversationStack
    pulseState := normalizePulseState platform document.pulseState updatedAt
    pendingBridgeQuestions :=
      normalizePendingBridgeQuestions platform document.pendingBridgeQuestions
    lastMemoryMutationReceiptHash := document.lastMemoryMutationReceiptHash }

/-! ## Bridge actions -/

/-- A reading of the clock between 1970 and the year 10000. -/
structure WallClock where
  iso : String
  ms : ℤ
  isoString : platform.isoString ms = some iso
  from_1970 : 0 ≤ ms
  before_10000 : ms < YEAR_10000_MS

/-- The parameters of a `pulse_emit` action that bridge questions read; what is no text is
`none`. -/
structure BridgeActionParams where
  answerKind : Option String
  questionId : Option String
  relationType : Option String
  entityRefs : List (Option String)
  evidenceRefs : List (Option String)
  threadKey : Option String

/-- What a bridge action reads and writes: the stored graph and the stored runtime state. -/
structure BridgeStores where
  graph : EntityGraphV1
  runtimeState : Stage686RuntimeStateSnapshot

inductive BridgeOutcome where
  | blocked
  | deferredForContext (question : BridgeQuestionV1)
  | emitted (question : BridgeQuestionV1)
  | resolved (question : BridgeQuestionV1) (historyRecord : BridgeInteractionRecordV1)
      (deniedConflictCode : Option BridgeConflictCodeV1)

structure BridgeActionResult where
  stores : BridgeStores
  outcome : BridgeOutcome

/-- `none` where the timestamp is out of range. -/
def utcDayKey (iso : String) : Option String := do
  let ms ← platform.dateParse iso
  let text ← platform.isoString ms
  some (sliceUnits 10 text)

def registerPulseEmission (pulseState : Stage686PulseStateV1) (observedAt : String) :
    Option Stage686PulseStateV1 := do
  let previousKey ← match pulseState.lastPulseAt with
    | none => some none
    | some lastPulseAt => (utcDayKey platform lastPulseAt).map some
  let nextKey ← utcDayKey platform observedAt
  some
    { pulseState with
      updatedAt := observedAt
      lastPulseAt := some observedAt
      emittedTodayCount :=
        if previousKey = some nextKey then pulseState.emittedTodayCount + 1 else 1 }

def BRIDGE_THREAD_KEY : String := "thread_runtime_bridge"

def bridgeRelationOfText : String → Option BridgeRelationTypeV1
  | "friend" => some .friend
  | "family" => some .family
  | "coworker" => some .coworker
  | "project_related" => some .projectRelated
  | "other" => some .other
  | _ => none

/-- The answer that `answerKind` and `relationType` give. -/
def bridgeAnswer (answerKind : String) (relationType : Option String) : BridgeAnswerV1 :=
  if answerKind = "confirmed" then
    .confirmed ((toText relationType).bind bridgeRelationOfText)
  else
    .deferred

/-- The record of a question with the records of other questions. -/
def replaceBridgeRecord (history : List BridgeInteractionRecordV1)
    (record : BridgeInteractionRecordV1) : List BridgeInteractionRecordV1 :=
  history.filter (fun entry => decide (entry.questionId ≠ record.questionId)) ++ [record]

def otherQuestions (questions : List BridgeQuestionV1) (questionId : String) :
    List BridgeQuestionV1 :=
  questions.filter fun entry => decide (entry.questionId ≠ questionId)

/-- The question an answer is taken for: the one it names, else the last one pending. -/
def answeredQuestion (pending : List BridgeQuestionV1) (questionId : Option String) :
    Option BridgeQuestionV1 :=
  (pending.find? fun entry => decide (some entry.questionId = questionId)).orElse
    fun _ => pending.getLast?

/-- Persist both stores; `none` where the graph is refused. -/
def persistBridgeStores (graph : EntityGraphV1) (observedAt : String)
    (loaded : Stage686RuntimeStateSnapshot) (pulseState : Stage686PulseStateV1)
    (pending : List BridgeQuestionV1) : Option BridgeStores := do
  let persisted ← normalizeEntityGraph platform.toGraphPlatform graph
  some
    { graph := persisted
      runtimeState := normalizeRuntimeState platform observedAt
        { updatedAt := observedAt
          conversationStack := loaded.conversationStack
          pulseState := pulseState
          pendingBridgeQuestions := pending
          lastMemoryMutationReceiptHash := loaded.lastMemoryMutationReceiptHash } }

def answerEvidenceRef (params : BridgeActionParams) (taskId : String) : String :=
  (toText (toStringRefs platform params.evidenceRefs).head?).getD
    ("trace:" ++ taskId ++ ":bridge_resolution")

/-- The branch of `executePulseEmit` for an answer; `none` where it throws. -/
def answerBridgeQuestion (stores : BridgeStores) (loaded : Stage686RuntimeStateSnapshot)
    (params : BridgeActionParams) (answerKind taskId observedAt : String) :
    Option BridgeActionResult :=
  match answeredQuestion loaded.pendingBridgeQuestions (toText params.questionId) with
  | none => some ⟨stores, .blocked⟩
  | some question => do
      let resolved ← resolveBridgeQuestionAnswerV1 platform sha
        { graph := stores.graph
          question := question
          observedAt := observedAt
          evidenceRef := answerEvidenceRef platform params taskId
          answer := bridgeAnswer answerKind params.relationType
          recentBridgeHistory := loaded.pulseState.bridgeHistory
          bridgeCooldownDays := none }
      let pulseState ← registerPulseEmission platform loaded.pulseState observedAt
      let bridgeHistory := boundBridgeHistory platform
        (replaceBridgeRecord loaded.pulseState.bridgeHistory resolved.historyRecord)
      let persisted ← persistBridgeStores platform resolved.graph observedAt loaded
        { pulseState with bridgeHistory := bridgeHistory }
        (otherQuestions loaded.pendingBridgeQuestions question.questionId)
      some ⟨persisted, .resolved question resolved.historyRecord resolved.deniedConflictCode⟩

/-- The record a question leaves when it is asked. -/
def askedRecord (question : BridgeQuestionV1) (observedAt conversationKey : String) :
    BridgeInteractionRecordV1 where
  questionId := question.questionId
  conversationKey := conversationKey
  sourceEntityKey := question.sourceEntityKey
  targetEntityKey := question.targetEntityKey
  askedAt := observedAt
  status := .asked
  cooldownUntil := question.cooldownUntil
  deferralCount := 0

def createdOrder : Comparator BridgeQuestionV1 :=
  platform.locale.byKey BridgeQuestionV1.createdAt

/-- The pending questions with a new one, of which the latest are kept. -/
def addPendingQuestion (pending : List BridgeQuestionV1) (question : BridgeQuestionV1) :
    List BridgeQuestionV1 :=
  retainLast MAX_PENDING_BRIDGE_QUESTIONS ((createdOrder platform).sort
    (otherQuestions pending question.questionId ++ [question]))

/-- The branch of `executePulseEmit` for a new question; `timingDefers` is the interpretation of
the turn. -/
def emitBridgeQuestion (stores : BridgeStores) (loaded : Stage686RuntimeStateSnapshot)
    (params : BridgeActionParams) (timingDefers : Bool) (observedAt : String) :
    Option BridgeActionResult :=
  match toStringRefs platform params.entityRefs with
  | first :: second :: _ => do
      let evidenceRefs := toStringRefs platform params.evidenceRefs
      let threadKey :=
        runtimeThreadKey loaded.conversationStack params.threadKey BRIDGE_THREAD_KEY
      let graph := bridgeGraph platform stores.graph first second observedAt evidenceRefs
      match ← decideBridgeQuestion platform sha stores.graph first second threadKey observedAt
          evidenceRefs loaded.pulseState.bridgeHistory with
      | .denied _ => some ⟨stores, .blocked⟩
      | .approved question =>
          if timingDefers then do
            let persisted ← persistBridgeStores platform graph observedAt loaded loaded.pulseState
              loaded.pendingBridgeQuestions
            some ⟨persisted, .deferredForContext question⟩
          else do
            let bridgeHistory := boundBridgeHistory platform
              (replaceBridgeRecord loaded.pulseState.bridgeHistory
                (askedRecord question observedAt threadKey))
            let pulseState ← registerPulseEmission platform
              { loaded.pulseState with bridgeHistory := bridgeHistory } observedAt
            let persisted ← persistBridgeStores platform graph observedAt loaded pulseState
              (addPendingQuestion platform loaded.pendingBridgeQuestions question)
            some ⟨persisted, .emitted question⟩
  | _ => some ⟨stores, .blocked⟩

/-- `executePulseEmit` of kind `bridge_question`; `none` where it throws. -/
def executeBridgeAction (stores : BridgeStores) (params : BridgeActionParams)
    (timingDefers : Bool) (taskId observedAt : String) : Option BridgeActionResult :=
  let loaded := normalizeRuntimeState platform observedAt stores.runtimeState
  match toText params.answerKind with
  | some answerKind =>
      answerBridgeQuestion platform sha stores loaded params answerKind taskId observedAt
  | none => emitBridgeQuestion platform sha stores loaded params timingDefers observedAt

end AgentBigBrain.Core
