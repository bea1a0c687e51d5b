import AgentBigBrain.Core.LanguageRuntime
import AgentBigBrain.Core.Sha256
import AgentBigBrain.Core.Canonicalization

/-!
# The conversation stack

Topic threads and topic counters of a conversation, and how user and assistant turns move
them. A turn whose time does not parse makes the source throw; the callers modelled here
replay dated turns only.
-/
namespace AgentBigBrain.Core

open AgentBigBrain.Js AgentBigBrain.Lib

/-! ## Data -/

inductive ThreadState where
  | active
  | paused
  | resolved
  deriving DecidableEq

inductive OpenLoopStatus where
  | unresolved
  | resolved
  | superseded
  deriving DecidableEq

inductive ActorScopeSource where
  | transportPrincipal
  | missionRuntime
  | operatorReview
  | sharedPublic
  | legacyUnknown
  deriving DecidableEq

inductive RouteVisibility where
  | isPrivate
  | isPublic
  | unknown
  deriving DecidableEq

structure ContinuityActorScopeV1 where
  scopeSource : ActorScopeSource
  principalIdHash : Option String
  principalRole : Option String
  accessClass : String
  routeVisibility : RouteVisibility
  legacyIdentityState : String
  scopeId : Option String
  deriving DecidableEq

structure OpenLoopV1 where
  loopId : String
  threadKey : String
  entityRefs : List String
  actorScope : Option ContinuityActorScopeV1
  createdAt : String
  lastMentionedAt : String
  priority : ℚ
  status : OpenLoopStatus
  deriving DecidableEq

structure ThreadFrameV1 where
  threadKey : String
  topicKey : String
  topicLabel : String
  state : ThreadState
  resumeHint : String
  openLoops : List OpenLoopV1
  lastTouchedAt : String
  deriving DecidableEq

structure TopicNodeV1 where
  topicKey : String
  label : String
  firstSeenAt : String
  lastSeenAt : String
  mentionCount : ℚ
  deriving DecidableEq

structure ConversationStackV1 where
  updatedAt : String
  activeThreadKey : Option String
  threads : List ThreadFrameV1
  topics : List TopicNodeV1
  deriving DecidableEq

inductive TurnRole where
  | user
  | assistant
  deriving DecidableEq

def TurnRole.text : TurnRole → String
  | .user => "user"
  | .assistant => "assistant"

structure ConversationStackTurnV1 where
  role : TurnRole
  text : String
  «at» : String
  deriving DecidableEq

inductive TopicSource where
  | heuristicTokens
  | heuristicPhrase
  deriving DecidableEq

structure TopicKeyCandidateV1 where
  topicKey : String
  label : String
  confidence : ℚ
  source : TopicSource
  observedAt : String
  deriving DecidableEq

/-- Tuning of a turn, without a precomputed interpretation of its topic. -/
structure ApplyConversationTurnOptionsV1 where
  activeMissionThreadKey : Option String := none
  maxThreads : ℚ := 12
  topicSwitchThreshold : ℚ := 56 / 100

def createEmptyConversationStackV1 (updatedAt : String) : ConversationStackV1 where
  updatedAt := updatedAt
  activeThreadKey := none
  threads := []
  topics := []

variable (platform : Platform) (sha : Sha256)

/-! ## Threads and topics -/

def THREAD_STATE_SORT_WEIGHT : ThreadState → ℕ
  | .active => 0
  | .paused => 1
  | .resolved => 2

def threadOrder : Comparator ThreadFrameV1 :=
  ((numberOrder ℕ).byKey fun t => THREAD_STATE_SORT_WEIGHT t.state).thenBy
    ((platform.locale.byKey ThreadFrameV1.lastTouchedAt).reverse.thenBy
      (platform.locale.byKey ThreadFrameV1.threadKey))

def sortThreads (threads : List ThreadFrameV1) : List ThreadFrameV1 :=
  (threadOrder platform).sort threads

def topicOrder : Comparator TopicNodeV1 :=
  platform.locale.byKey TopicNodeV1.topicKey

def sortTopicNodes (topics : List TopicNodeV1) : List TopicNodeV1 :=
  (topicOrder platform).sort topics

def threadsByKey : KeyedMerge ThreadFrameV1 String where
  key := ThreadFrameV1.threadKey
  choose _ thread := thread
  key_choose _ _ _ := rfl

def topicsByKey : KeyedMerge TopicNodeV1 String where
  key := TopicNodeV1.topicKey
  choose _ topic := topic
  key_choose _ _ _ := rfl

@[simp] lemma threadsByKey_key (thread : ThreadFrameV1) :
    threadsByKey.key thread = thread.threadKey := rfl

@[simp] lemma threadsByKey_choose (existing thread : ThreadFrameV1) :
    threadsByKey.choose existing thread = thread := rfl

@[simp] lemma topicsByKey_key (topic : TopicNodeV1) : topicsByKey.key topic = topic.topicKey := rfl

@[simp] lemma topicsByKey_choose (existing topic : TopicNodeV1) :
    topicsByKey.choose existing topic = topic := rfl

def copyThreadsByKey (threads : List ThreadFrameV1) : List ThreadFrameV1 :=
  threadsByKey.collect [] threads

/-- `stack.activeThreadKey ? threadMap.get(stack.activeThreadKey) ?? null : null`. -/
def currentActiveThread (stack : ConversationStackV1) : Option ThreadFrameV1 :=
  match stack.activeThreadKey with
  | some key => if key = "" then none else threadsByKey.find key (copyThreadsByKey stack.threads)
  | none => none

def MAX_RESUME_HINT_CHARS : ℕ := 180

def buildResumeHint (text : String) : String :=
  let normalized := normalizeWhitespace text
  if utf16Length normalized ≤ MAX_RESUME_HINT_CHARS then normalized
  else sliceUnits (MAX_RESUME_HINT_CHARS - 3) normalized ++ "..."

/-- One more mention of a topic. -/
def touchTopicNode (topics : List TopicNodeV1) (topicKey topicLabel observedAt : String) :
    List TopicNodeV1 :=
  match topicsByKey.find topicKey topics with
  | none =>
      topicsByKey.upsert
        { topicKey := topicKey, label := topicLabel, firstSeenAt := observedAt,
          lastSeenAt := observedAt, mentionCount := 1 } topics
  | some existing =>
      topicsByKey.upsert
        { existing with
          label := topicLabel, lastSeenAt := observedAt,
          mentionCount := existing.mentionCount + 1 } topics

def setActiveThread (threads : List ThreadFrameV1) (nextActiveThreadKey : String) :
    List ThreadFrameV1 :=
  sortThreads platform <| threads.map fun thread =>
    if thread.state = .resolved then thread
    else if thread.threadKey = nextActiveThreadKey then { thread with state := .active }
    else { thread with state := .paused }

/-- The order in which threads over the cap are given up. -/
def evictionOrder : Comparator ThreadFrameV1 :=
  (platform.locale.byKey ThreadFrameV1.lastTouchedAt).thenBy
    (platform.locale.byKey ThreadFrameV1.threadKey)

/-- The loop of `evictThreadsOverCap`; each round removes one thread or ends. -/
def evictLoop (activeThreadKey : Option String) (cap : ℕ) :
    ℕ → List ThreadFrameV1 → List ThreadFrameV1
  | 0, retained => retained
  | rounds + 1, retained =>
      if retained.length ≤ cap then retained
      else
        let evictable := (evictionOrder platform).sort <| retained.filter fun thread =>
          decide (some thread.threadKey ≠ activeThreadKey) && decide (thread.state ≠ .active)
        match evictable with
        | [] => retained
        | target :: _ =>
            evictLoop activeThreadKey cap rounds
              (retained.eraseP fun thread => decide (thread.threadKey = target.threadKey))

def evictThreadsOverCap (threads : List ThreadFrameV1) (activeThreadKey : Option String)
    (maxThreads : ℚ) : List ThreadFrameV1 :=
  let cap := max 1 ⌊maxThreads⌋.toNat
  sortThreads platform (evictLoop platform activeThreadKey cap threads.length threads)

/-! ## Topics of a text -/

def normalizeTopicToken (value : String) : String :=
  trim (platform.toLowerCase value)

def tokenizeTopicWords (value : String) : List String :=
  (extractConversationTopicTerms platform value).map (normalizeTopicToken platform)

/-- `token.charAt(0).toUpperCase() + token.slice(1)`; half of a pair has no upper case. -/
def capitalize (token : String) : String :=
  match token.toList with
  | [] => ""
  | c :: cs =>
      if (charUnits c).length = 1 then
        platform.toUpperCase (String.ofList [c]) ++ String.ofList cs
      else
        token

def toTopicLabel (tokens : List String) : String :=
  String.intercalate " " (tokens.map (capitalize platform))

def MAX_TOPIC_KEY_CHARS : ℕ := 48

def toTopicKey (tokens : List String) : String :=
  let joined := sliceUnits MAX_TOPIC_KEY_CHARS (String.intercalate "_" tokens)
  if joined ≠ "" then joined
  else
    let fallbackHash := sha.digest
      (canonicalJson platform.locale (.obj [("tokens", .arr (tokens.map .str))]))
    "topic_" ++ sliceUnits 12 fallbackHash

def buildThreadKey (topicKey : String) : String :=
  "thread_" ++ sliceUnits 20
    (sha.digest (canonicalJson platform.locale (.obj [("topicKey", .str topicKey)])))

def computeTopicConfidence (tokens : List String) (sourceText : String) : ℚ :=
  let tokenSignal := min (45 / 100) ((tokens.length : ℚ) * (17 / 100))
  let lengthSignal := min (2 / 10) ((utf16Length (normalizeWhitespace sourceText) : ℚ) / 240)
  roundTo 4 (min (99 / 100) (35 / 100 + tokenSignal + lengthSignal))

/-- Candidates under their topic keys; the more confident one is kept. -/
def candidatesByKey : KeyedMerge TopicKeyCandidateV1 String where
  key := TopicKeyCandidateV1.topicKey
  choose existing candidate :=
    if existing.confidence < candidate.confidence then candidate else existing
  key_choose existing candidate h := by
    split_ifs
    · rfl
    · exact h

def candidateOrder : Comparator TopicKeyCandidateV1 :=
  ((numberOrder ℚ).byKey TopicKeyCandidateV1.confidence).reverse.thenBy
    (platform.locale.byKey TopicKeyCandidateV1.topicKey)

def candidateOfTokens (text observedAt : String) (tokenSet : List String) :
    Option TopicKeyCandidateV1 :=
  let normalizedSet := (uniqueValues (tokenSet.map (normalizeTopicToken platform))).filter (· ≠ "")
  if normalizedSet.isEmpty then none
  else
    some
      { topicKey := toTopicKey platform sha normalizedSet
        label := toTopicLabel platform normalizedSet
        confidence := computeTopicConfidence normalizedSet text
        source := if 1 < normalizedSet.length then .heuristicPhrase else .heuristicTokens
        observedAt := observedAt }

def deriveTopicKeyCandidatesV1 (text observedAt : String) : List TopicKeyCandidateV1 :=
  let tokens := tokenizeTopicWords platform text
  if tokens.isEmpty then []
  else
    let candidateTokenSets :=
      [tokens.take 3] ++ (if 2 ≤ tokens.length then [tokens.take 2] else []) ++ [tokens.take 1]
    (candidateOrder platform).sort
      (candidatesByKey.collect []
        (candidateTokenSets.filterMap (candidateOfTokens platform sha text observedAt)))

def buildThreadFromTopicCandidate (candidate : TopicKeyCandidateV1) (observedAt resumeHint : String) :
    ThreadFrameV1 where
  threadKey := buildThreadKey platform sha candidate.topicKey
  topicKey := candidate.topicKey
  topicLabel := candidate.label
  state := .active
  resumeHint := resumeHint
  openLoops := []
  lastTouchedAt := observedAt

/-! ## Returning to a thread -/

/-- `/\b(?:back|return|resume|continue|pick up)\b/i`. -/
def hasReturnSignal (text : String) : Bool :=
  ["back", "return", "resume", "continue", "pick up"].any (hasWord (asciiLower text))

inductive ExplicitReturn where
  | thread (thread : ThreadFrameV1)
  | ambiguous
  | absent

def resolveExplicitReturnThread (stack : ConversationStackV1) (text : String) : ExplicitReturn :=
  if hasReturnSignal text then
    let normalized := platform.toLowerCase (normalizeWhitespace text)
    let candidates := stack.threads.filter fun thread => thread.state = .paused
    let isMatch := fun thread : ThreadFrameV1 =>
      let labelTokens := tokenizeTopicWords platform thread.topicLabel
      !labelTokens.isEmpty &&
        decide (0 < countLanguageTermOverlap labelTokens (tokenizeTopicWords platform normalized))
    match candidates.filter isMatch with
    | [] => .absent
    | [thread] => .thread thread
    | _ => .ambiguous
  else
    .absent

/-! ## Turns -/

/-- The stack in which a frame is written, made active and its topic touched. -/
def touchThread (options : ApplyConversationTurnOptionsV1) (stack : ConversationStackV1)
    (frame : ThreadFrameV1) (at_ : String) : ConversationStackV1 :=
  let threads := threadsByKey.upsert frame (copyThreadsByKey stack.threads)
  { updatedAt := at_
    activeThreadKey := some frame.threadKey
    threads := evictThreadsOverCap platform (setActiveThread platform threads frame.threadKey)
      (some frame.threadKey) options.maxThreads
    topics := sortTopicNodes platform
      (touchTopicNode (topicsByKey.collect [] stack.topics) frame.topicKey frame.topicLabel at_) }

def activeUnlessResolved : ThreadState → ThreadState
  | .resolved => .resolved
  | _ => .active

/-- The mission thread, when the options name one of the stack. -/
def missionThread (options : ApplyConversationTurnOptionsV1) (stack : ConversationStackV1) :
    Option ThreadFrameV1 :=
  match options.activeMissionThreadKey with
  | some key => if key = "" then none else threadsByKey.find key (copyThreadsByKey stack.threads)
  | none => none

/-- The thread the text returns to, as the stack holds it. -/
def resumedThread (stack : ConversationStackV1) (text : String) : Option ThreadFrameV1 :=
  match resolveExplicitReturnThread platform stack text with
  | .thread thread =>
      some ((threadsByKey.find thread.threadKey (copyThreadsByKey stack.threads)).getD thread)
  | _ => none

/-- The text returns to no thread in particular, and the conversation stays where it is. -/
def staysOnReturnSignal (stack : ConversationStackV1) (text : String) : Bool :=
  match resolveExplicitReturnThread platform stack text with
  | .ambiguous => true
  | .absent => hasReturnSignal text
  | .thread _ => false

/-- The topic the text is confident enough to switch to. -/
def topicCandidate (options : ApplyConversationTurnOptionsV1) (text at_ : String) :
    Option TopicKeyCandidateV1 :=
  (deriveTopicKeyCandidatesV1 platform sha text at_).head?.filter fun candidate =>
    decide (options.topicSwitchThreshold ≤ candidate.confidence)

/-- The thread of a topic: the first one the stack has, or a new one. -/
def threadOfTopic (stack : ConversationStackV1) (winner : TopicKeyCandidateV1)
    (at_ turnHint : String) : ThreadFrameV1 :=
  match (copyThreadsByKey stack.threads).find? fun thread => thread.topicKey = winner.topicKey with
  | some thread =>
      { thread with
        state := activeUnlessResolved thread.state, lastTouchedAt := at_, resumeHint := turnHint }
  | none => buildThreadFromTopicCandidate platform sha winner at_ turnHint

/-- The frame a user turn touches. -/
def userTurnFrame (options : ApplyConversationTurnOptionsV1) (stack : ConversationStackV1)
    (turn : ConversationStackTurnV1) : Option ThreadFrameV1 :=
  let text := normalizeWhitespace turn.text
  let turnHint := buildResumeHint text
  let kept := (currentActiveThread stack).map fun thread =>
    { thread with lastTouchedAt := turn.at, resumeHint := turnHint }
  match missionThread options stack with
  | some thread =>
      some { thread with
        state := activeUnlessResolved thread.state, lastTouchedAt := turn.at,
        resumeHint := turnHint }
  | none =>
      match resumedThread platform stack text with
      | some thread =>
          some { thread with
            state := .active, lastTouchedAt := turn.at, resumeHint := turnHint }
      | none =>
          if staysOnReturnSignal platform stack text && kept.isSome then kept
          else
            match topicCandidate platform sha options text turn.at with
            | some winner => some (threadOfTopic platform sha stack winner turn.at turnHint)
            | none => kept

def applyUserTurnToConversationStackV1 (options : ApplyConversationTurnOptionsV1)
    (stack : ConversationStackV1) (turn : ConversationStackTurnV1) : ConversationStackV1 :=
  match userTurnFrame platform sha options stack turn with
  | some frame => touchThread platform options stack frame turn.at
  | none => { stack with updatedAt := turn.at }

def applyAssistantTurnToConversationStackV1 (stack : ConversationStackV1)
    (turn : ConversationStackTurnV1) : ConversationStackV1 :=
  match currentActiveThread stack with
  | none => { stack with updatedAt := turn.at }
  | some activeThread =>
      { updatedAt := turn.at
        activeThreadKey := some activeThread.threadKey
        threads := sortThreads platform <|
          threadsByKey.upsert
            { activeThread with
              lastTouchedAt := turn.at, resumeHint := buildResumeHint turn.text }
            (copyThreadsByKey stack.threads)
        topics := stack.topics }

def applyTurn (options : ApplyConversationTurnOptionsV1) (stack : ConversationStackV1)
    (turn : ConversationStackTurnV1) : ConversationStackV1 :=
  match turn.role with
  | .user => applyUserTurnToConversationStackV1 platform sha options stack turn
  | .assistant => applyAssistantTurnToConversationStackV1 platform stack turn

/-! ## Replay -/

def replayOrder : Comparator ConversationStackTurnV1 :=
  (platform.locale.byKey ConversationStackTurnV1.at).thenBy
    (platform.locale.byKey fun turn => turn.role.text)

/-- The turns a replay applies, in its order. -/
def orderedTurns (turns : List ConversationStackTurnV1) : List ConversationStackTurnV1 :=
  (replayOrder platform).sort (turns.filter fun turn => (platform.dateParse turn.at).isSome)

def raiseUpdatedAt (stack : ConversationStackV1) (updatedAt : String) : ConversationStackV1 :=
  if textLt stack.updatedAt updatedAt then { stack with updatedAt := updatedAt } else stack

def buildConversationStackFromTurnsV1 (turns : List ConversationStackTurnV1) (updatedAt : String)
    (options : ApplyConversationTurnOptionsV1) (existingStack : Option ConversationStackV1) :
    ConversationStackV1 :=
  let start := match existingStack with
    | some stack =>
        { stack with
          threads := sortThreads platform stack.threads
          topics := sortTopicNodes platform stack.topics }
    | none => createEmptyConversationStackV1 updatedAt
  raiseUpdatedAt ((orderedTurns platform turns).foldl (applyTurn platform sha options) start)
    updatedAt

/-! ## Migration -/

inductive SessionSchemaVersion where
  | v1
  | v2
  deriving DecidableEq

/-- The time of the latest dated turn. -/
def latestTurnAt (turns : List ConversationStackTurnV1) : Option String :=
  (platform.locale.reverse.sort
    ((turns.map ConversationStackTurnV1.at).filter fun at_ => (platform.dateParse at_).isSome)).head?

/-- The stack of a session in the current schema: refreshed when a turn is newer than it, and
rebuilt when the session is of an older schema or has none. -/
def migrateSessionConversationStackToV2 (sessionSchemaVersion : Option SessionSchemaVersion)
    (updatedAt : String) (turns : List ConversationStackTurnV1)
    (conversationStack : Option ConversationStackV1) : ConversationStackV1 :=
  match sessionSchemaVersion, conversationStack with
  | some .v2, some stack =>
      match latestTurnAt platform turns with
      | some latest =>
          if latest ≠ "" ∧ textLt stack.updatedAt latest then
            buildConversationStackFromTurnsV1 platform sha turns latest {} (some stack)
          else
            stack
      | none => stack
  | _, _ =>
      let migrationUpdatedAt :=
        match latestTurnAt platform turns with
        | some latest => if latest ≠ "" ∧ textLt updatedAt latest then latest else updatedAt
        | none => updatedAt
      buildConversationStackFromTurnsV1 platform sha turns migrationUpdatedAt {} conversationStack

end AgentBigBrain.Core
