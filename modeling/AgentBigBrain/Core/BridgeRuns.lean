import AgentBigBrain.Core.RuntimeState
import AgentBigBrain.Lib.Runs

/-!
# Runs of bridge actions

Bridge questions are asked and answered under a clock that does not go back, with the runtime
state saved after each action and loaded before the next. A run also records every question
that was asked and every answer that was taken, which the runtime state need not remember.
-/
namespace AgentBigBrain.Core

open AgentBigBrain.Js AgentBigBrain.Lib

variable (platform : BridgePlatform) (sha : Sha256)

/-- A question that was asked, or an answer to one. -/
structure BridgeInteraction where
  asked : Bool
  questionId : String
  sourceEntityKey : String
  targetEntityKey : String
  conversationKey : String
  ms : ℤ
  cooldownUntil : String
  deriving DecidableEq

def askedInteraction (question : BridgeQuestionV1) (ms : ℤ) : BridgeInteraction where
  asked := true
  questionId := question.questionId
  sourceEntityKey := question.sourceEntityKey
  targetEntityKey := question.targetEntityKey
  conversationKey := toConversationKey question.threadKey
  ms := ms
  cooldownUntil := question.cooldownUntil

def answerInteraction (record : BridgeInteractionRecordV1) (ms : ℤ) : BridgeInteraction where
  asked := false
  questionId := record.questionId
  sourceEntityKey := record.sourceEntityKey
  targetEntityKey := record.targetEntityKey
  conversationKey := record.conversationKey
  ms := ms
  cooldownUntil := record.cooldownUntil

def BridgeOutcome.interaction (ms : ℤ) : BridgeOutcome → Option BridgeInteraction
  | .emitted question => some (askedInteraction question ms)
  | .resolved _ record _ => some (answerInteraction record ms)
  | .blocked => none
  | .deferredForContext _ => none

structure BridgeRun where
  stores : BridgeStores
  clockMs : ℤ
  interactions : List BridgeInteraction

/-- The stores before any question: no history and nothing pending. -/
def BridgeRun.start (graph : EntityGraphV1) (stack : ConversationStackV1) (updatedAt : String)
    (clockMs : ℤ) : BridgeRun where
  stores :=
    { graph := graph
      runtimeState :=
        { updatedAt := updatedAt
          conversationStack := stack
          pulseState := createDefaultPulseState updatedAt
          pendingBridgeQuestions := []
          lastMemoryMutationReceiptHash := none } }
  clockMs := clockMs
  interactions := []

inductive BridgeEvent where
  /-- A bridge action at a reading of the clock. -/
  | action (params : BridgeActionParams) (timingDefers : Bool) (taskId : String)
      (clock : WallClock platform)
  /-- Something else writes the graph and the conversation stack. -/
  | elsewhere (graph : EntityGraphV1) (stack : ConversationStackV1)

/-- The runtime state that an action at this reading of the clock loads. -/
def BridgeRun.loaded (run : BridgeRun) (clock : WallClock platform) :
    Stage686RuntimeStateSnapshot :=
  normalizeRuntimeState platform clock.iso run.stores.runtimeState

def BridgeRun.execute (run : BridgeRun) (params : BridgeActionParams) (timingDefers : Bool)
    (taskId : String) (clock : WallClock platform) : Option BridgeActionResult :=
  executeBridgeAction platform sha run.stores params timingDefers taskId clock.iso

/-- An action that throws stores nothing; the clock does not go back. -/
def bridgeStep (run : BridgeRun) : BridgeEvent platform → Option BridgeRun
  | .action params timingDefers taskId clock =>
      if clock.ms < run.clockMs then
        none
      else
        match run.execute platform sha params timingDefers taskId clock with
        | none => some { run with clockMs := clock.ms }
        | some result => some
            { stores := result.stores
              clockMs := clock.ms
              interactions :=
                run.interactions ++ (result.outcome.interaction clock.ms).toList }
  | .elsewhere graph stack => some
      { run with
        stores :=
          { graph := graph
            runtimeState := { run.stores.runtimeState with conversationStack := stack } } }

variable {platform} {sha}

/-! ## Clock texts -/

lemma WallClock.parses (clock : WallClock platform) :
    platform.dateParse clock.iso = some clock.ms :=
  platform.dateParse_isoString clock.ms clock.iso clock.isoString

lemma parse_addDays {observedAt until_ : String} {ms days : ℤ}
    (hobserved : platform.dateParse observedAt = some ms)
    (hadd : addDays platform observedAt days = some until_) :
    platform.dateParse until_ = some (ms + days * DAY_MS) := by
  unfold addDays at hadd
  rw [hobserved] at hadd
  exact platform.dateParse_isoString _ _ hadd

/-! ## What the gate lets through -/

variable (platform sha) in
/-- An approved question is about the first two refs, is due for the pair and within the cap. -/
structure ApprovedBridge (first second threadKey observedAt : String)
    (history : List BridgeInteractionRecordV1) (question : BridgeQuestionV1) : Prop where
  questionId : question.questionId = buildQuestionId platform sha
    (normalizeEntityPair platform first second).1 (normalizeEntityPair platform first second).2
    ("bridge_" ++ first ++ "_" ++ second) observedAt
  source : question.sourceEntityKey = (normalizeEntityPair platform first second).1
  target : question.targetEntityKey = (normalizeEntityPair platform first second).2
  thread : question.threadKey = some threadKey
  created : question.createdAt = observedAt
  cooldown : addDays platform observedAt DEFAULT_BRIDGE_COOLDOWN_DAYS = some question.cooldownUntil
  due : isBridgeCooldownActive platform (readHistory platform history)
    (normalizeEntityPair platform first second).1 (normalizeEntityPair platform first second).2
    observedAt = false
  capped : (countConversationBridgeEvents (readHistory platform history)
    (toConversationKey (some threadKey)) : ℤ) < DEFAULT_BRIDGE_MAX_PER_CONVERSATION

lemma checked_of_deniedBeforeGate {options : EvaluateBridgeQuestionOptionsV1}
    {input : EvaluateBridgeQuestionInputV1} {edge : RelationEdgeV1} {source target : String}
    (hnone : deniedBeforeGate platform options input edge source target = none) :
    isBridgeCooldownActive platform (readHistory platform input.recentBridgeHistory) source target
        input.observedAt = false ∧
      (countConversationBridgeEvents (readHistory platform input.recentBridgeHistory)
        (toConversationKey input.candidate.threadKey) : ℤ) <
          clampCount options.bridgeMaxPerConversation DEFAULT_BRIDGE_MAX_PER_CONVERSATION := by
  unfold deniedBeforeGate at hnone
  dsimp only at hnone
  split_ifs at hnone with _ _ _ _ hcooldown hcap
  exact ⟨by simpa using hcooldown, by simpa using hcap⟩

lemma approved_of_evaluate {options : EvaluateBridgeQuestionOptionsV1}
    {input : EvaluateBridgeQuestionInputV1} {question : BridgeQuestionV1}
    (happroved : evaluateBridgeQuestionEmissionV1 platform sha options input =
      some (.approved question)) :
    ∃ first second rest edge cooldownUntil, input.candidate.entityRefs = first :: second :: rest ∧
      deniedBeforeGate platform options input edge (normalizeEntityPair platform first second).1
        (normalizeEntityPair platform first second).2 = none ∧
      addDays platform input.observedAt
        (clampDays options.bridgeCooldownDays DEFAULT_BRIDGE_COOLDOWN_DAYS) = some cooldownUntil ∧
      question = bridgeQuestion platform sha input edge (normalizeEntityPair platform first second).1
        (normalizeEntityPair platform first second).2 cooldownUntil := by
  unfold evaluateBridgeQuestionEmissionV1 at happroved
  dsimp only at happroved
  split at happroved
  · cases happroved
  · split at happroved
    · cases happroved
    · split at happroved
      · rename_i first second rest hrefs
        split at happroved
        · cases happroved
        · rename_i edge _
          split at happroved
          · cases happroved
          · rename_i hnone
            obtain ⟨cooldownUntil, hcooldown, hquestion⟩ := Option.bind_eq_some_iff.mp happroved
            cases hquestion
            exact ⟨first, second, rest, edge, cooldownUntil, hrefs, hnone, hcooldown, rfl⟩
      · cases happroved

lemma approvedBridge_of_decide {graph : EntityGraphV1}
    {first second threadKey observedAt : String} {evidenceRefs : List String}
    {history : List BridgeInteractionRecordV1} {question : BridgeQuestionV1}
    (hdecide : decideBridgeQuestion platform sha graph first second threadKey observedAt
      evidenceRefs history = some (.approved question)) :
    ApprovedBridge platform sha first second threadKey observedAt history question := by
  obtain ⟨left, right, rest, edge, cooldownUntil, hrefs, hnone, hcooldown, rfl⟩ :=
    approved_of_evaluate hdecide
  obtain ⟨rfl, rfl, rfl⟩ : first = left ∧ second = right ∧ [] = rest := by
    simpa [bridgeCandidate] using hrefs
  obtain ⟨hdue, hcap⟩ := checked_of_deniedBeforeGate hnone
  exact
    { questionId := rfl, source := rfl, target := rfl, thread := rfl, created := rfl
      cooldown := hcooldown
      due := hdue
      capped := hcap }

/-! ## What an action does -/

/-- The record an answer leaves for its question. -/
structure AnswerRecord (platform : BridgePlatform) (question : BridgeQuestionV1)
    (observedAt : String) (record : BridgeInteractionRecordV1) : Prop where
  questionId : record.questionId = question.questionId
  conversationKey : record.conversationKey = toConversationKey question.threadKey
  source : record.sourceEntityKey =
    (normalizeEntityPair platform question.sourceEntityKey question.targetEntityKey).1
  target : record.targetEntityKey =
    (normalizeEntityPair platform question.sourceEntityKey question.targetEntityKey).2
  askedAt : record.askedAt = observedAt
  cooldown : ∃ days, DEFAULT_BRIDGE_COOLDOWN_DAYS ≤ days ∧
    addDays platform observedAt days = some record.cooldownUntil

lemma answerRecord_of_days {input : ResolveBridgeAnswerInputV1} {status : BridgeStatus}
    {cooldownUntil : String} {deferralCount : ℕ} {days : ℤ}
    (hdays : DEFAULT_BRIDGE_COOLDOWN_DAYS ≤ days)
    (hadd : addDays platform input.observedAt days = some cooldownUntil) :
    AnswerRecord platform input.question input.observedAt
      (answerRecord platform input status cooldownUntil deferralCount) where
  questionId := by rw [answerRecord]
  conversationKey := by rw [answerRecord]
  source := by rw [answerRecord]
  target := by rw [answerRecord]
  askedAt := by rw [answerRecord]
  cooldown := ⟨days, hdays, by rw [answerRecord]; exact hadd⟩

lemma answerRecord_of_resolve {input : ResolveBridgeAnswerInputV1}
    {resolved : ResolveBridgeAnswerResultV1} (hdefault : input.bridgeCooldownDays = none)
    (hresolve : resolveBridgeQuestionAnswerV1 platform sha input = some resolved) :
    AnswerRecord platform input.question input.observedAt resolved.historyRecord := by
  have hcooldown : clampDays input.bridgeCooldownDays DEFAULT_BRIDGE_COOLDOWN_DAYS =
      DEFAULT_BRIDGE_COOLDOWN_DAYS := by rw [hdefault]; rfl
  unfold resolveBridgeQuestionAnswerV1 at hresolve
  split at hresolve
  · cases hresolve
  · dsimp only at hresolve
    rw [hcooldown] at hresolve
    split at hresolve
    · obtain ⟨cooldownUntil, hadd, hresult⟩ := Option.bind_eq_some_iff.mp hresolve
      cases hresult
      exact answerRecord_of_days (by decide) hadd
    · obtain ⟨confirmed, -, hrest⟩ := Option.bind_eq_some_iff.mp hresolve
      obtain ⟨cooldownUntil, hadd, hresult⟩ := Option.bind_eq_some_iff.mp hrest
      cases hresult
      exact answerRecord_of_days le_rfl hadd
    · obtain ⟨cooldownUntil, hadd, hresult⟩ := Option.bind_eq_some_iff.mp hresolve
      cases hresult
      refine answerRecord_of_days ?_ hadd
      have hpositive : (0 : ℤ) ≤ DEFAULT_BRIDGE_COOLDOWN_DAYS := by decide
      push_cast
      nlinarith

/-- The stored history and questions after a save. -/
structure SavedBridge (platform : BridgePlatform) (history : List BridgeInteractionRecordV1)
    (pending : List BridgeQuestionV1) (stores : BridgeStores) : Prop where
  history : stores.runtimeState.pulseState.bridgeHistory =
    boundBridgeHistory platform (history.filter (isDatedRecord platform))
  pending : stores.runtimeState.pendingBridgeQuestions =
    normalizePendingBridgeQuestions platform pending

lemma savedBridge_of_persist {graph : EntityGraphV1} {observedAt : String}
    {loaded : Stage686RuntimeStateSnapshot} {pulseState : Stage686PulseStateV1}
    {pending : List BridgeQuestionV1} {stores : BridgeStores}
    (hpersist : persistBridgeStores platform graph observedAt loaded pulseState pending =
      some stores) : SavedBridge platform pulseState.bridgeHistory pending stores := by
  rw [persistBridgeStores, Option.bind_eq_bind, Option.bind_eq_some_iff] at hpersist
  obtain ⟨persisted, -, hstores⟩ := hpersist
  rw [← Option.some.inj hstores]
  exact ⟨by rw [normalizeRuntimeState, normalizePulseState], by rw [normalizeRuntimeState]⟩

lemma bridgeHistory_registerPulseEmission {pulseState next : Stage686PulseStateV1}
    {observedAt : String} (hregister : registerPulseEmission platform pulseState observedAt =
      some next) : next.bridgeHistory = pulseState.bridgeHistory := by
  unfold registerPulseEmission at hregister
  simp only [Option.bind_eq_bind] at hregister
  split at hregister <;>
  · obtain ⟨previousKey, -, hrest⟩ := Option.bind_eq_some_iff.mp hregister
    obtain ⟨nextKey, -, hnext⟩ := Option.bind_eq_some_iff.mp hrest
    rw [← Option.some.inj hnext]

variable (platform sha) in
/-- What a bridge action that does not throw has done with the state it loaded. -/
inductive BridgeEffect (stores : BridgeStores) (loaded : Stage686RuntimeStateSnapshot)
    (params : BridgeActionParams) (observedAt : String) : BridgeActionResult → Prop where
  | blocked (hnone : toText params.answerKind ≠ none →
        answeredQuestion loaded.pendingBridgeQuestions (toText params.questionId) = none) :
      BridgeEffect stores loaded params observedAt ⟨stores, .blocked⟩
  | deferred (question : BridgeQuestionV1) (next : BridgeStores)
      (hkind : toText params.answerKind = none)
      (hsaved : SavedBridge platform loaded.pulseState.bridgeHistory
        loaded.pendingBridgeQuestions next) :
      BridgeEffect stores loaded params observedAt ⟨next, .deferredForContext question⟩
  | emitted (question : BridgeQuestionV1) (next : BridgeStores) (first second : String)
      (rest : List String) (hkind : toText params.answerKind = none)
      (hrefs : toStringRefs platform params.entityRefs = first :: second :: rest)
      (happroved : ApprovedBridge platform sha first second
        (runtimeThreadKey loaded.conversationStack params.threadKey BRIDGE_THREAD_KEY) observedAt
        loaded.pulseState.bridgeHistory question)
      (hsaved : SavedBridge platform
        (boundBridgeHistory platform (replaceBridgeRecord loaded.pulseState.bridgeHistory
          (askedRecord question observedAt
            (runtimeThreadKey loaded.conversationStack params.threadKey BRIDGE_THREAD_KEY))))
        (addPendingQuestion platform loaded.pendingBridgeQuestions question) next) :
      BridgeEffect stores loaded params observedAt ⟨next, .emitted question⟩
  | resolved (question : BridgeQuestionV1) (record : BridgeInteractionRecordV1)
      (denied : Option BridgeConflictCodeV1) (next : BridgeStores)
      (hkind : toText params.answerKind ≠ none)
      (hquestion : answeredQuestion loaded.pendingBridgeQuestions (toText params.questionId) =
        some question)
      (hrecord : AnswerRecord platform question observedAt record)
      (hsaved : SavedBridge platform
        (boundBridgeHistory platform (replaceBridgeRecord loaded.pulseState.bridgeHistory record))
        (otherQuestions loaded.pendingBridgeQuestions question.questionId) next) :
      BridgeEffect stores loaded params observedAt ⟨next, .resolved question record denied⟩

theorem bridgeEffect_of_execute {stores : BridgeStores} {params : BridgeActionParams}
    {timingDefers : Bool} {taskId observedAt : String} {result : BridgeActionResult}
    (hexecute : executeBridgeAction platform sha stores params timingDefers taskId observedAt =
      some result) :
    BridgeEffect platform sha stores
      (normalizeRuntimeState platform observedAt stores.runtimeState) params observedAt result := by
  unfold executeBridgeAction at hexecute
  dsimp only at hexecute
  split at hexecute
  · rename_i answerKind hkind
    unfold answerBridgeQuestion at hexecute
    split at hexecute
    · rename_i hnone
      cases hexecute
      exact .blocked fun _ => hnone
    · rename_i question hquestion
      simp only [Option.bind_eq_bind, Option.bind_eq_some_iff] at hexecute
      obtain ⟨resolved, hresolve, pulseState, -, next, hpersist, hresult⟩ := hexecute
      rw [← Option.some.inj hresult]
      have hsaved := savedBridge_of_persist hpersist
      dsimp only at hsaved
      exact .resolved question resolved.historyRecord resolved.deniedConflictCode next
        (by simp [hkind]) hquestion (answerRecord_of_resolve rfl hresolve) hsaved
  · rename_i hkind
    unfold emitBridgeQuestion at hexecute
    split at hexecute
    · rename_i first second rest hrefs
      dsimp only at hexecute
      obtain ⟨decision, hdecide, hrest⟩ := Option.bind_eq_some_iff.mp hexecute
      split at hrest
      · cases hrest
        exact .blocked fun hanswer => absurd hkind hanswer
      · rename_i question
        have happroved := approvedBridge_of_decide hdecide
        split at hrest
        · rw [Option.bind_eq_bind, Option.bind_eq_some_iff] at hrest
          obtain ⟨next, hpersist, hresult⟩ := hrest
          rw [← Option.some.inj hresult]
          exact .deferred question next hkind (savedBridge_of_persist hpersist)
        · simp only [Option.bind_eq_bind, Option.bind_eq_some_iff] at hrest
          obtain ⟨pulseState, hregister, next, hpersist, hresult⟩ := hrest
          rw [← Option.some.inj hresult]
          have hsaved := savedBridge_of_persist hpersist
          rw [bridgeHistory_registerPulseEmission hregister] at hsaved
          dsimp only at hsaved
          exact .emitted question next first second rest hkind hrefs happroved hsaved
    · cases hexecute
      exact .blocked fun hanswer => absurd hkind hanswer

end AgentBigBrain.Core
