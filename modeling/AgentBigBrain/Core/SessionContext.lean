import AgentBigBrain.Js.Platform

/-!
# Domain context of a conversation

The bounded windows of lane and routing signals, the lane that dominates them, and the
choice between the contexts of two session snapshots.
-/
namespace AgentBigBrain.Core

open AgentBigBrain.Js

inductive ConversationDomainLane where
  | profile
  | relationship
  | workflow
  | systemPolicy
  | unknown
  deriving DecidableEq

def ConversationDomainLane.text : ConversationDomainLane → String
  | .profile => "profile"
  | .relationship => "relationship"
  | .workflow => "workflow"
  | .systemPolicy => "system_policy"
  | .unknown => "unknown"

inductive ConversationDomainRoutingMode where
  | chat
  | explain
  | plan
  | build
  | staticHtmlBuild
  | frameworkAppBuild
  | clarifyBuildFormat
  | autonomous
  | review
  | discoverAvailableCapabilities
  | statusOrRecall
  | unclear
  deriving DecidableEq

inductive ConversationDomainLaneSignalSource where
  | keyword
  | semanticRoute
  | routingMode
  | continuityState
  | manual
  | unknown
  deriving DecidableEq

structure ConversationDomainLaneSignal where
  lane : ConversationDomainLane
  observedAt : String
  source : ConversationDomainLaneSignalSource
  weight : ℚ
  deriving DecidableEq

structure ConversationDomainRoutingSignal where
  mode : ConversationDomainRoutingMode
  observedAt : String
  deriving DecidableEq

structure ConversationDomainContinuitySignals where
  activeWorkspace : Bool
  returnHandoff : Bool
  modeContinuity : Bool
  deriving DecidableEq

structure ConversationDomainContext where
  conversationId : String
  dominantLane : ConversationDomainLane
  recentLaneHistory : List ConversationDomainLaneSignal
  recentRoutingSignals : List ConversationDomainRoutingSignal
  continuitySignals : ConversationDomainContinuitySignals
  activeSince : Option String
  lastUpdatedAt : Option String
  deriving DecidableEq

def createEmptyConversationDomainContext (conversationId : String) : ConversationDomainContext where
  conversationId := conversationId
  dominantLane := .unknown
  recentLaneHistory := []
  recentRoutingSignals := []
  continuitySignals := ⟨false, false, false⟩
  activeSince := none
  lastUpdatedAt := none

def MAX_CONVERSATION_DOMAIN_LANE_HISTORY : ℕ := 8
def MAX_CONVERSATION_DOMAIN_ROUTING_SIGNALS : ℕ := 6

variable (platform : Platform)

/-! ## The dominant lane -/

/-- The signals that count for a lane. -/
def relevantSignals (laneHistory : List ConversationDomainLaneSignal) :
    List ConversationDomainLaneSignal :=
  laneHistory.filter fun signal => decide (signal.lane ≠ .unknown) && decide (0 < signal.weight)

def laneScore (signals : List ConversationDomainLaneSignal) (lane : ConversationDomainLane) : ℚ :=
  ((signals.filter fun signal => signal.lane = lane).map ConversationDomainLaneSignal.weight).sum

/-- The position after the last signal of a lane. -/
def mostRecentIndex (signals : List ConversationDomainLaneSignal)
    (lane : ConversationDomainLane) : ℕ :=
  signals.length - signals.reverse.findIdx fun signal => signal.lane = lane

/-- Higher score first; then the current lane, the lane seen last, and the lane's name. -/
def laneRanking (signals : List ConversationDomainLaneSignal)
    (currentDominant : ConversationDomainLane) : Comparator ConversationDomainLane :=
  ((numberOrder ℚ).byKey (laneScore signals)).reverse.thenBy
    (((numberOrder ℕ).byKey fun lane => if lane = currentDominant then 1 else 0).reverse.thenBy
      (((numberOrder ℕ).byKey (mostRecentIndex signals)).reverse.thenBy
        (platform.locale.byKey ConversationDomainLane.text)))

def resolveSessionDomain (laneHistory : List ConversationDomainLaneSignal)
    (currentDominant : ConversationDomainLane) : ConversationDomainLane :=
  let signals := relevantSignals laneHistory
  let rankedLanes := (laneRanking platform signals currentDominant).sort
    (uniqueValues (signals.map ConversationDomainLaneSignal.lane))
  rankedLanes.head?.getD currentDominant

/-! ## Normalization -/

def normalizeOptionalTimestamp (value : String) : Option String :=
  if trim value ≠ "" then some (trim value) else none

/-- `Math.round(value * 1000) / 1000` of a positive weight. -/
def normalizeConversationDomainSignalWeight (value : ℚ) : ℚ :=
  if value ≤ 0 then 1 else roundTo 3 value

def normalizeConversationDomainLaneSignal (signal : ConversationDomainLaneSignal) :
    Option ConversationDomainLaneSignal :=
  (normalizeOptionalTimestamp signal.observedAt).map fun observedAt =>
    { signal with
      observedAt := observedAt
      weight := normalizeConversationDomainSignalWeight signal.weight }

def normalizeConversationDomainRoutingSignal (signal : ConversationDomainRoutingSignal) :
    Option ConversationDomainRoutingSignal :=
  (normalizeOptionalTimestamp signal.observedAt).map fun observedAt =>
    { signal with observedAt := observedAt }

/-- The newest entries of a window. -/
def trimBoundedWindow {α : Type*} (maxSize : ℕ) (values : List α) : List α :=
  values.drop (values.length - maxSize)

def normalizeBoundedWindow {α : Type*} (normalizer : α → Option α) (maxSize : ℕ)
    (candidate : List α) : List α :=
  trimBoundedWindow maxSize (candidate.filterMap normalizer)

def getLastLaneSignalTimestamp (laneHistory : List ConversationDomainLaneSignal) : Option String :=
  laneHistory.getLast?.map ConversationDomainLaneSignal.observedAt

def getLastRoutingSignalTimestamp (routingSignals : List ConversationDomainRoutingSignal) :
    Option String :=
  routingSignals.getLast?.map ConversationDomainRoutingSignal.observedAt

def normalizeConversationDomainContext (candidate : ConversationDomainContext)
    (conversationId : String) : ConversationDomainContext :=
  let recentLaneHistory := normalizeBoundedWindow normalizeConversationDomainLaneSignal
    MAX_CONVERSATION_DOMAIN_LANE_HISTORY candidate.recentLaneHistory
  let recentRoutingSignals := normalizeBoundedWindow normalizeConversationDomainRoutingSignal
    MAX_CONVERSATION_DOMAIN_ROUTING_SIGNALS candidate.recentRoutingSignals
  let dominantLane :=
    if recentLaneHistory.isEmpty then candidate.dominantLane
    else resolveSessionDomain platform recentLaneHistory candidate.dominantLane
  let lastUpdatedAt := ((candidate.lastUpdatedAt.bind normalizeOptionalTimestamp).or
    (getLastLaneSignalTimestamp recentLaneHistory)).or
    (getLastRoutingSignalTimestamp recentRoutingSignals)
  { conversationId := conversationId
    dominantLane := dominantLane
    recentLaneHistory := recentLaneHistory
    recentRoutingSignals := recentRoutingSignals
    continuitySignals := candidate.continuitySignals
    activeSince :=
      if dominantLane = .unknown then none
      else (candidate.activeSince.bind normalizeOptionalTimestamp).or lastUpdatedAt
    lastUpdatedAt := lastUpdatedAt }

/-! ## Selection -/

def hasActiveConversationDomainContinuity (signals : ConversationDomainContinuitySignals) : Bool :=
  signals.activeWorkspace || signals.returnHandoff || signals.modeContinuity

def isConversationDomainContextMeaningful (context : ConversationDomainContext) : Bool :=
  decide (context.dominantLane ≠ .unknown) || !context.recentLaneHistory.isEmpty ||
    !context.recentRoutingSignals.isEmpty ||
    hasActiveConversationDomainContinuity context.continuitySignals

def getConversationDomainContextFreshness (context : ConversationDomainContext) : Option String :=
  ((context.lastUpdatedAt.or (getLastLaneSignalTimestamp context.recentLaneHistory)).or
    (getLastRoutingSignalTimestamp context.recentRoutingSignals)).or context.activeSince

def getConversationDomainContextRichness (context : ConversationDomainContext) : ℕ :=
  context.recentLaneHistory.length + context.recentRoutingSignals.length +
    context.continuitySignals.activeWorkspace.toNat +
    context.continuitySignals.returnHandoff.toNat +
    context.continuitySignals.modeContinuity.toNat +
    (if context.dominantLane ≠ .unknown then 1 else 0)

/-- `compareOptionalTimestamps(left, right)`; an empty text counts as no timestamp. -/
def compareOptionalTimestamps (left right : Option String) : Ordering :=
  match left.filter (· ≠ ""), right.filter (· ≠ "") with
  | some l, some r =>
      if platform.locale.le l r then (if platform.locale.le r l then .eq else .lt) else .gt
  | some _, none => .gt
  | none, some _ => .lt
  | none, none => .eq

def selectConversationDomainContext (existing incoming : ConversationDomainContext)
    (conversationId : String) : ConversationDomainContext :=
  let normalizedExisting := normalizeConversationDomainContext platform existing conversationId
  let normalizedIncoming := normalizeConversationDomainContext platform incoming conversationId
  let existingMeaningful := isConversationDomainContextMeaningful normalizedExisting
  let incomingMeaningful := isConversationDomainContextMeaningful normalizedIncoming
  if existingMeaningful && !incomingMeaningful then normalizedExisting
  else if !existingMeaningful && incomingMeaningful then normalizedIncoming
  else
    match compareOptionalTimestamps platform
        (getConversationDomainContextFreshness normalizedExisting)
        (getConversationDomainContextFreshness normalizedIncoming) with
    | .gt => normalizedExisting
    | .lt => normalizedIncoming
    | .eq =>
        if getConversationDomainContextRichness normalizedIncoming <
            getConversationDomainContextRichness normalizedExisting then
          normalizedExisting
        else
          normalizedIncoming

/-- A context competing with itself is normalized. -/
@[simp] lemma selectConversationDomainContext_self (context : ConversationDomainContext)
    (conversationId : String) :
    selectConversationDomainContext platform context context conversationId =
      normalizeConversationDomainContext platform context conversationId := by
  unfold selectConversationDomainContext
  simp only [Bool.and_not_self, Bool.not_and_self, Bool.false_eq_true, if_false, lt_self_iff_false]
  split <;> rfl

end AgentBigBrain.Core
