import AgentBigBrain.Core.ConversationStack

/-!
# User turns with an interpreted topic

A turn may come with a precomputed interpretation of what it is about. It is consulted only
where the deterministic choice is weak: a contested or unconvincing topic, or a return
signal that names no single thread.
-/
namespace AgentBigBrain.Core

open AgentBigBrain.Js AgentBigBrain.Lib

variable (platform : Platform) (sha : Sha256)

inductive TopicKeyInterpretationKindV1 where
  | retainActiveThread
  | resumePausedThread
  | switchTopicCandidate
  | nonTopicTurn
  | uncertain
  deriving DecidableEq

inductive InterpretationConfidence where
  | low
  | medium
  | high
  deriving DecidableEq

structure TopicKeyInterpretationSignalV1 where
  kind : TopicKeyInterpretationKindV1
  selectedTopicKey : Option String
  selectedThreadKey : Option String
  confidence : InterpretationConfidence
  deriving DecidableEq

inductive TopicRoutingInterpretationOutcomeV1 where
  | retainActiveThread (thread : ThreadFrameV1)
  | resumePausedThread (thread : ThreadFrameV1)
  | switchTopicCandidate (topicKey : String)

def TOPIC_INTERPRETATION_AMBIGUITY_DELTA : ℚ := 8 / 100

def hasAmbiguousTopicSelection (primary secondary : Option TopicKeyCandidateV1)
    (topicSwitchThreshold : ℚ) : Bool :=
  match primary, secondary with
  | none, _ => true
  | some first, none => decide (first.confidence < topicSwitchThreshold)
  | some first, some second =>
      decide (first.confidence < topicSwitchThreshold) ||
        decide (first.confidence - second.confidence ≤ TOPIC_INTERPRETATION_AMBIGUITY_DELTA)

/-- What the text of a turn says before any interpretation. -/
structure TopicRoutingInput where
  currentActive : Option ThreadFrameV1
  /-- The text returns, but to no single thread. -/
  returnsNowhere : Bool
  pausedThreads : List ThreadFrameV1
  candidates : List TopicKeyCandidateV1
  topicSwitchThreshold : ℚ

def resolveTopicRoutingInterpretationV1 (input : TopicRoutingInput) :
    Option TopicKeyInterpretationSignalV1 → Option TopicRoutingInterpretationOutcomeV1
  | none => none
  | some interpretation =>
      if interpretation.confidence = .low then none
      else if !hasAmbiguousTopicSelection input.candidates.head? input.candidates.tail.head?
          input.topicSwitchThreshold && !input.returnsNowhere then none
      else
        match interpretation.kind with
        | .retainActiveThread => input.currentActive.map .retainActiveThread
        | .resumePausedThread =>
            (unlessEmpty interpretation.selectedThreadKey).bind fun key =>
              (input.pausedThreads.find? fun thread => thread.threadKey = key).map
                .resumePausedThread
        | .switchTopicCandidate =>
            (unlessEmpty interpretation.selectedTopicKey).map .switchTopicCandidate
        | .nonTopicTurn => none
        | .uncertain => none
where
  /-- A key that is not the empty text. -/
  unlessEmpty (key : Option String) : Option String :=
    key.filter fun text => text ≠ ""

def routingInput (options : ApplyConversationTurnOptionsV1) (stack : ConversationStackV1)
    (text at_ : String) : TopicRoutingInput where
  currentActive := currentActiveThread stack
  returnsNowhere := staysOnReturnSignal platform stack text
  pausedThreads := (copyThreadsByKey stack.threads).filter fun thread => thread.state = .paused
  candidates := deriveTopicKeyCandidatesV1 platform sha text at_
  topicSwitchThreshold := options.topicSwitchThreshold

/-- The frame a user turn touches, when its topic may come interpreted. The outer `none` is the
failure on a topic that the text does not have. -/
def interpretedFrame (options : ApplyConversationTurnOptionsV1)
    (interpretation : Option TopicKeyInterpretationSignalV1) (stack : ConversationStackV1)
    (turn : ConversationStackTurnV1) : Option (Option ThreadFrameV1) :=
  let text := normalizeWhitespace turn.text
  let turnHint := buildResumeHint text
  let kept := (currentActiveThread stack).map fun thread =>
    { thread with lastTouchedAt := turn.at, resumeHint := turnHint }
  if (missionThread options stack).isSome || (resumedThread platform stack text).isSome then
    some (userTurnFrame platform sha options stack turn)
  else
    match resolveTopicRoutingInterpretationV1 (routingInput platform sha options stack text turn.at)
        interpretation with
    | some (.retainActiveThread _) => some kept
    | some (.resumePausedThread thread) =>
        some (some { thread with
          state := .active, lastTouchedAt := turn.at, resumeHint := turnHint })
    | some (.switchTopicCandidate topicKey) =>
        if staysOnReturnSignal platform stack text && kept.isSome then some kept
        else
          ((deriveTopicKeyCandidatesV1 platform sha text turn.at).find? fun candidate =>
            candidate.topicKey = topicKey).map fun winner =>
              some (threadOfTopic platform sha stack winner turn.at turnHint)
    | none => some (userTurnFrame platform sha options stack turn)

/-- `applyUserTurnToConversationStackV1` with the interpretation option; `none` when it throws. -/
def applyInterpretedUserTurn (options : ApplyConversationTurnOptionsV1)
    (interpretation : Option TopicKeyInterpretationSignalV1) (stack : ConversationStackV1)
    (turn : ConversationStackTurnV1) : Option ConversationStackV1 :=
  if (platform.dateParse turn.at).isNone then none
  else
    (interpretedFrame platform sha options interpretation stack turn).map fun frame =>
      match frame with
      | some frame => touchThread platform options stack frame turn.at
      | none => { stack with updatedAt := turn.at }

end AgentBigBrain.Core
