import AgentBigBrain.Core.ConversationStack

/-!
# Open loops of a thread

Deferred questions and undecided points that a text leaves open on a thread. Every operation
throws on a time that does not parse, which is `none` here.
-/
namespace AgentBigBrain.Core

open AgentBigBrain.Js AgentBigBrain.Lib

variable (platform : Platform) (sha : Sha256)

/-! ## Triggers -/

inductive OpenLoopTriggerCodeV1 where
  | deferredQuestion
  | unresolvedDecision
  deriving DecidableEq

def OPEN_LOOP_DEFER_SEQUENCES : List (List String) :=
  [["remind", "me"], ["circle", "back"], ["follow", "up"], ["not", "now"], ["park", "this"],
    ["park", "it"]]

def OPEN_LOOP_DEFER_TOKENS : List String := ["revisit", "later", "defer"]

def OPEN_LOOP_DECISION_SEQUENCES : List (List String) :=
  [["still", "need", "to", "decide"], ["need", "to", "choose"], ["decision", "pending"],
    ["to", "be", "decided"]]

def OPEN_LOOP_DECISION_TOKENS : List String := ["undecided", "tbd"]

def MAX_DESCRIPTOR_CHARS : ℕ := 180

/-- `replace(/[^a-z0-9\s]/g, " ")`. -/
def blankPunctuation (text : String) : String :=
  String.ofList (text.toList.map fun c =>
    if (97 ≤ c.toNat && c.toNat ≤ 122) || c.isDigit || isWhitespace c then c else ' ')

def tokenizeOpenLoopText (value : String) : List String :=
  ((blankPunctuation (platform.toLowerCase (normalizeWhitespace value))).toList.splitOnP
    isWhitespace).map String.ofList |>.filter (· ≠ "")

def hasTokenSequence (tokens sequence : List String) : Bool :=
  !sequence.isEmpty && decide (sequence <:+: tokens)

def hasAnyTokenSequence (tokens : List String) (sequences : List (List String)) : Bool :=
  sequences.any (hasTokenSequence tokens)

def hasAnyToken (tokens allowed : List String) : Bool :=
  tokens.any fun token => decide (token ∈ allowed)

def deriveTriggerCode (text : String) : Option OpenLoopTriggerCodeV1 :=
  let tokens := tokenizeOpenLoopText platform text
  if hasAnyTokenSequence tokens OPEN_LOOP_DEFER_SEQUENCES ||
      hasAnyToken tokens OPEN_LOOP_DEFER_TOKENS then
    some .deferredQuestion
  else if hasAnyTokenSequence tokens OPEN_LOOP_DECISION_SEQUENCES ||
      hasAnyToken tokens OPEN_LOOP_DECISION_TOKENS then
    some .unresolvedDecision
  else
    none

def toDescriptor (text : String) : String :=
  sliceUnits MAX_DESCRIPTOR_CHARS
    (normalizeWhitespace (blankPunctuation (platform.toLowerCase (normalizeWhitespace text))))

/-- The code and the descriptor of a text that leaves something open. -/
def detectOpenLoopTriggerV1 (text : String) : Option (OpenLoopTriggerCodeV1 × String) :=
  let normalizedText := normalizeWhitespace text
  if normalizedText = "" then none
  else (deriveTriggerCode platform normalizedText).map fun code =>
    (code, toDescriptor platform normalizedText)

/-! ## Loops -/

def normalizeEntityRefs (entityRefs : List String) : List String :=
  platform.locale.sort (uniqueValues ((entityRefs.map normalizeWhitespace).filter (· ≠ "")))

def clampPriority (value : ℚ) : ℚ :=
  roundTo 4 (min 1 (max 0 value))

def deriveBasePriority : OpenLoopTriggerCodeV1 → ℚ
  | .deferredQuestion => 78 / 100
  | .unresolvedDecision => 66 / 100

def buildOpenLoopIdV1 (threadKey descriptor : String) : String :=
  "loop_" ++ sliceUnits 20 (sha.digest (canonicalJson platform.locale
    (.obj [("threadKey", .str threadKey), ("descriptor", .str descriptor)])))

def OPEN_LOOP_STATUS_SORT_WEIGHT : OpenLoopStatus → ℕ
  | .unresolved => 0
  | .resolved => 1
  | .superseded => 2

def openLoopOrder : Comparator OpenLoopV1 :=
  ((numberOrder ℕ).byKey fun loop => OPEN_LOOP_STATUS_SORT_WEIGHT loop.status).thenBy <|
    ((numberOrder ℚ).byKey OpenLoopV1.priority).reverse.thenBy <|
      (platform.locale.byKey OpenLoopV1.lastMentionedAt).reverse.thenBy
        (platform.locale.byKey OpenLoopV1.loopId)

def sortOpenLoops (openLoops : List OpenLoopV1) : List OpenLoopV1 :=
  (openLoopOrder platform).sort openLoops

def buildSharedOpenLoopActorScope (scopeId : Option String) : ContinuityActorScopeV1 where
  scopeSource := .sharedPublic
  principalIdHash := none
  principalRole := none
  accessClass := "shared_public"
  routeVisibility := .isPublic
  legacyIdentityState := "legacy_actor_unknown"
  scopeId := scopeId

/-- Both scopes name a principal, and not the same one. -/
def hasOtherPrincipal (existing incoming : ContinuityActorScopeV1) : Bool :=
  match existing.principalIdHash, incoming.principalIdHash with
  | some left, some right => decide (left ≠ "" ∧ right ≠ "" ∧ left ≠ right)
  | _, _ => false

def mergeOpenLoopActorScope : Option ContinuityActorScopeV1 → Option ContinuityActorScopeV1 →
    Option ContinuityActorScopeV1
  | none, incoming => incoming
  | some existing, none => some existing
  | some existing, some incoming =>
      if hasOtherPrincipal existing incoming then
        some (buildSharedOpenLoopActorScope (existing.scopeId.or incoming.scopeId))
      else if existing.scopeSource = .legacyUnknown ∧ incoming.scopeSource ≠ .legacyUnknown then
        some incoming
      else
        some existing

/-! ## Operations on a stack -/

structure UpsertOpenLoopInputV1 where
  threadKey : String
  text : String
  observedAt : String
  entityRefs : List String := []
  actorScope : Option ContinuityActorScopeV1 := none
  priorityHint : Option ℚ := none

structure ResolveOpenLoopInputV1 where
  threadKey : String
  loopId : String
  observedAt : String
  status : OpenLoopStatus := .resolved

/-- The first thread under the key with its loops rewritten, and the list in order again. -/
def withLoopsOf (stack : ConversationStackV1) (thread : ThreadFrameV1)
    (openLoops : List OpenLoopV1) (observedAt : String) : ConversationStackV1 :=
  let index := stack.threads.findIdx fun entry => entry.threadKey = thread.threadKey
  { stack with
    updatedAt := observedAt
    threads := sortThreads platform <| stack.threads.set index
      { thread with
        openLoops := sortOpenLoops platform openLoops
        lastTouchedAt := observedAt } }

/-- The loop a trigger opens, or opens again. -/
def openedLoop (input : UpsertOpenLoopInputV1) (code : OpenLoopTriggerCodeV1) (loopId : String)
    (thread : ThreadFrameV1) : Option OpenLoopV1 → OpenLoopV1
  | some existing =>
      { existing with
        status := .unresolved
        lastMentionedAt := input.observedAt
        priority := clampPriority (max existing.priority
          (clampPriority (input.priorityHint.getD (deriveBasePriority code))))
        entityRefs := normalizeEntityRefs platform
          (existing.entityRefs ++ normalizeEntityRefs platform input.entityRefs)
        actorScope := mergeOpenLoopActorScope existing.actorScope input.actorScope }
  | none =>
      { loopId := loopId
        threadKey := thread.threadKey
        entityRefs := normalizeEntityRefs platform input.entityRefs
        actorScope := input.actorScope
        createdAt := input.observedAt
        lastMentionedAt := input.observedAt
        priority := clampPriority (input.priorityHint.getD (deriveBasePriority code))
        status := .unresolved }

def upsertOpenLoopOnConversationStackV1 (stack : ConversationStackV1)
    (input : UpsertOpenLoopInputV1) : Option ConversationStackV1 :=
  if (platform.dateParse input.observedAt).isNone then none
  else
    match detectOpenLoopTriggerV1 platform input.text with
    | none => some stack
    | some (code, descriptor) =>
        if descriptor = "" then some stack
        else
          match stack.threads.find? fun thread => thread.threadKey = input.threadKey with
          | none => some stack
          | some thread =>
              let loopId := buildOpenLoopIdV1 platform sha thread.threadKey descriptor
              let existing := thread.openLoops.find? fun loop => loop.loopId = loopId
              let nextLoop := openedLoop platform input code loopId thread existing
              some <| withLoopsOf platform stack thread
                (if existing.isSome then
                  thread.openLoops.map fun loop => if loop.loopId = loopId then nextLoop else loop
                else thread.openLoops ++ [nextLoop])
                input.observedAt

def resolveOpenLoopOnConversationStackV1 (stack : ConversationStackV1)
    (input : ResolveOpenLoopInputV1) : Option ConversationStackV1 :=
  if (platform.dateParse input.observedAt).isNone then none
  else
    match stack.threads.find? fun thread => thread.threadKey = input.threadKey with
    | none => some stack
    | some thread =>
        let index := thread.openLoops.findIdx fun loop => loop.loopId = input.loopId
        match thread.openLoops[index]? with
        | none => some stack
        | some existing =>
            some <| withLoopsOf platform stack thread
              (thread.openLoops.set index
                { existing with status := input.status, lastMentionedAt := input.observedAt })
              input.observedAt

end AgentBigBrain.Core
