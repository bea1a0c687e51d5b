import AgentBigBrain.Js.CaseMapping

/-!
# The current request of an execution input

An execution input wraps the text of the user behind a marker, below context and metadata that the
runtime wrote. The active request is read behind the last marker, the metadata in front of the
first one.
-/
namespace AgentBigBrain.Core

open AgentBigBrain.Js AgentBigBrain.Lib

def CURRENT_USER_REQUEST_MARKER : List Char := "Current user request:".toList
def USER_FOLLOW_UP_ANSWER_MARKER : List Char := "User follow-up answer:".toList
def USER_QUESTION_MARKER : List Char := "User question:".toList
def AGENT_PULSE_REQUEST_MARKER : List Char := "Agent Pulse request:".toList
def RECENT_CONVERSATION_CONTEXT_MARKER : List Char :=
  "Recent conversation context (oldest to newest):".toList
def RESOLVED_SEMANTIC_ROUTE_MARKER : List Char := "Resolved semantic route:".toList
def RESOLVED_BUILD_FORMAT_MARKER : List Char := "Resolved build format:".toList
def AUTONOMOUS_EXECUTION_PREFIX : List Char := "[AUTONOMOUS_LOOP_GOAL]".toList

/-- The markers that end what the runtime wrote. -/
def requestMarkers : List (List Char) :=
  [CURRENT_USER_REQUEST_MARKER, USER_FOLLOW_UP_ANSWER_MARKER, USER_QUESTION_MARKER,
    AGENT_PULSE_REQUEST_MARKER]

/-- What the extraction takes from the language. -/
structure RequestHost where
  caseMapping : CaseMapping
  /-- `JSON.parse(text)`; `none` when it throws. -/
  parseJson : List Char → Option Json
  /-- A colon behind an unquoted letter does not end a line of JSON. -/
  parseJson_label : ∀ front c rest, c.isAlpha = true → (∀ d ∈ rest.head?, d = '\n') →
    parseJson (front ++ c :: ':' :: rest) = none

variable (host : RequestHost)

/-! ## Sections -/

def extractSectionAfterMarker (value marker : List Char) : Option (List Char) :=
  match lastIndexOf (host.caseMapping.lower marker) (host.caseMapping.lower value) with
  | none => none
  | some markerIndex =>
      let extracted := trimChars (dropUnits (markerIndex + size unitCount marker) value)
      if extracted = [] then none else some extracted

def extractMachineAuthoredPrefixBeforeActiveRequest (value : List Char) : Option (List Char) :=
  let lower := host.caseMapping.lower value
  let markerIndexes := requestMarkers.filterMap fun marker =>
    indexOf (host.caseMapping.lower marker) lower
  markerIndexes.min?.map fun activeRequestIndex => trimChars (takeUnits activeRequestIndex value)

def extractAgentPulseRequestSegment (userInput : List Char) : Option (List Char) :=
  match extractSectionAfterMarker host userInput AGENT_PULSE_REQUEST_MARKER with
  | none => none
  | some pulseSection =>
      match indexOf (host.caseMapping.lower RECENT_CONVERSATION_CONTEXT_MARKER)
          (host.caseMapping.lower pulseSection) with
      | none => some pulseSection
      | some contextIndex =>
          let boundedSection := trimChars (takeUnits contextIndex pulseSection)
          if boundedSection = [] then none else some boundedSection

/-! ## Lines -/

/-- `text.split(/\r?\n/)`. -/
def splitLines : List Char → List (List Char)
  | [] => [[]]
  | '\r' :: '\n' :: cs => [] :: splitLines cs
  | '\n' :: cs => [] :: splitLines cs
  | c :: cs =>
      match splitLines cs with
      | [] => [[c]]
      | line :: lines => (c :: line) :: lines

def joinLines (lines : List (List Char)) : List Char := List.intercalate ['\n'] lines

def agentFriendStart : List Char := "[AgentFriend".toList

/-- `/^\[AgentFriend[A-Za-z]+\]/`. -/
def isAgentFriendSection (line : List Char) : Bool :=
  let rest := line.drop agentFriendStart.length
  agentFriendStart.isPrefixOf line && rest.head?.any Char.isAlpha &&
    decide ((rest.dropWhile Char.isAlpha).head? = some ']')

def boundRequestBeforeAgentFriendSections (value : List Char) : List Char :=
  match splitLines value with
  | [] => []
  | line :: lines =>
      trimChars (joinLines
        (line :: lines.takeWhile fun later => !isAgentFriendSection (trimChars later)))

/-! ## The active request -/

/-- A text property of an autonomous envelope that is not blank. -/
def envelopeText (members : List (String × Json)) (key : String) : Option (List Char) :=
  match members.lookup key with
  | some (.str text) => (some (trimChars text.toList)).filter (· ≠ [])
  | _ => none

def extractAutonomousExecutionPayload (userInput : List Char) : Option (List Char) :=
  if AUTONOMOUS_EXECUTION_PREFIX.isPrefixOf userInput then
    let payload := trimChars (userInput.drop AUTONOMOUS_EXECUTION_PREFIX.length)
    if payload = [] then none
    else
      match host.parseJson payload with
      | some (.obj parsed) =>
          some (((envelopeText parsed "initialExecutionInput").or
            (envelopeText parsed "goal")).getD payload)
      | _ => some payload
  else none

def extractExecutionContextPayload (userInput : List Char) : List Char :=
  let normalized := trimChars userInput
  if normalized = [] then [] else (extractAutonomousExecutionPayload host normalized).getD normalized

def extractActiveRequestSegment (userInput : List Char) : List Char :=
  let normalized := extractExecutionContextPayload host userInput
  if normalized = [] then []
  else
    match extractSectionAfterMarker host normalized CURRENT_USER_REQUEST_MARKER with
    | some currentRequest => boundRequestBeforeAgentFriendSections currentRequest
    | none =>
        ((extractSectionAfterMarker host normalized USER_FOLLOW_UP_ANSWER_MARKER).or
          ((extractSectionAfterMarker host normalized USER_QUESTION_MARKER).or
            (extractAgentPulseRequestSegment host normalized))).getD normalized

/-! ## Trusted metadata -/

def extractTrustedMetadataPayload (userInput marker : List Char) : Option (List Char) :=
  let normalized := extractExecutionContextPayload host userInput
  if normalized = [] then none
  else
    match extractMachineAuthoredPrefixBeforeActiveRequest host normalized with
    | none | some [] => none
    | some machinePrefix =>
        (lastIndexOf (host.caseMapping.lower marker)
          (host.caseMapping.lower machinePrefix)).map fun markerIndex =>
            trimChars (dropUnits markerIndex machinePrefix)

def isLineTerminator (c : Char) : Bool :=
  c = '\n' || c = '\r' || c.toNat = 0x2028 || c.toNat = 0x2029

def isMetadataChar (c : Char) : Bool := c.isAlpha || c = '_'

/-- `/^label\s*(value)\s*$/im` at the begin of a line: the value, if it is one of those looked
for. -/
def metadataValueAt (label : List Char) (accepts : List Char → Bool) (cs : List Char) :
    Option (List Char) :=
  let rest := (cs.drop label.length).dropWhile isWhitespace
  let value := rest.takeWhile isMetadataChar
  let behind := rest.dropWhile isMetadataChar
  if (label.map Char.toLower).isPrefixOf (cs.map Char.toLower) && accepts value &&
      ((behind.dropWhile isWhitespace).isEmpty ||
        (behind.takeWhile isWhitespace).any isLineTerminator) then
    some value
  else none

/-- The value of the first metadata line with the label. -/
def metadataLine (label : List Char) (accepts : List Char → Bool) (atLineStart : Bool) :
    List Char → Option (List Char)
  | [] => none
  | c :: cs =>
      (if atLineStart then metadataValueAt label accepts (c :: cs) else none).or
        (metadataLine label accepts (isLineTerminator c) cs)

/-- The value of a metadata line, where it is a supported one. -/
def extractSupportedMetadata (marker : List Char) (label : String) (supported : List String)
    (userInput : List Char) : Option String :=
  match extractTrustedMetadataPayload host userInput marker with
  | none | some [] => none
  | some normalized =>
      let candidate :=
        (metadataLine label.toList (fun value => decide (value ≠ [])) true normalized).getD []
      (some (String.ofList candidate)).filter (· ∈ supported)

def SUPPORTED_RESOLVED_SEMANTIC_ROUTE_IDS : List String :=
  ["chat_answer", "relationship_recall", "status_recall", "plan_request", "build_request",
    "static_html_build", "framework_app_build", "clarify_build_format", "clarify_execution_mode",
    "autonomous_execution", "review_feedback", "capability_discovery"]

def SUPPORTED_RESOLVED_MEMORY_INTENTS : List String :=
  ["none", "relationship_recall", "profile_update", "contextual_recall", "document_derived_recall"]

def SUPPORTED_RESOLVED_RUNTIME_CONTROL_INTENTS : List String :=
  ["none", "open_browser", "close_browser", "verify_browser", "inspect_runtime", "stop_runtime"]

def SUPPORTED_RESOLVED_EXECUTION_MODES : List String :=
  ["chat", "plan", "build", "autonomous", "status_or_recall", "review", "capability_discovery",
    "unclear"]

def SUPPORTED_RESOLVED_CONTINUATION_KINDS : List String :=
  ["none", "answer_thread", "workflow_resume", "return_handoff", "contextual_followup",
    "relationship_memory"]

def SUPPORTED_RESOLVED_BUILD_FORMATS : List String :=
  ["static_html", "framework_app", "nextjs", "react", "vite"]

def SOURCE_AUTHORITY_VALUES : List String :=
  ["exact_command", "explicit_user_statement", "active_clarification", "semantic_model",
    "lexical_fallback", "document_text", "document_model_summary", "media_transcript",
    "media_model_summary", "stale_runtime_context", "workflow_learning", "review_mutation",
    "compatibility_repair", "strict_schema", "legacy_compatibility", "unknown"]

def extractResolvedSemanticRouteId : List Char → Option String :=
  extractSupportedMetadata host RESOLVED_SEMANTIC_ROUTE_MARKER "- routeId:"
    SUPPORTED_RESOLVED_SEMANTIC_ROUTE_IDS

def extractResolvedBuildFormat : List Char → Option String :=
  extractSupportedMetadata host RESOLVED_BUILD_FORMAT_MARKER "- format:"
    SUPPORTED_RESOLVED_BUILD_FORMATS

def extractResolvedRouteMemoryIntent : List Char → Option String :=
  extractSupportedMetadata host RESOLVED_SEMANTIC_ROUTE_MARKER "- memoryIntent:"
    SUPPORTED_RESOLVED_MEMORY_INTENTS

def extractResolvedRouteSourceAuthority : List Char → Option String :=
  extractSupportedMetadata host RESOLVED_SEMANTIC_ROUTE_MARKER "- sourceAuthority:"
    SOURCE_AUTHORITY_VALUES

def extractResolvedRuntimeControlIntent : List Char → Option String :=
  extractSupportedMetadata host RESOLVED_SEMANTIC_ROUTE_MARKER "- runtimeControlIntent:"
    SUPPORTED_RESOLVED_RUNTIME_CONTROL_INTENTS

def extractResolvedRouteExecutionMode : List Char → Option String :=
  extractSupportedMetadata host RESOLVED_SEMANTIC_ROUTE_MARKER "- executionMode:"
    SUPPORTED_RESOLVED_EXECUTION_MODES

def extractResolvedRouteContinuationKind : List Char → Option String :=
  extractSupportedMetadata host RESOLVED_SEMANTIC_ROUTE_MARKER "- continuationKind:"
    SUPPORTED_RESOLVED_CONTINUATION_KINDS

structure ExtractedResolvedRouteConstraints where
  disallowBrowserOpen : Bool
  disallowServerStart : Bool
  requiresUserOwnedLocation : Bool
  deriving DecidableEq

/-- `true` or `false` in any case, read off a metadata line. -/
def readBoolean (normalized : List Char) (label : String) : Option Bool :=
  let isBoolean := fun value : List Char =>
    decide (value.map Char.toLower ∈ ["true".toList, "false".toList])
  (metadataLine label.toList isBoolean true normalized).map fun value =>
    decide (value.map Char.toLower = "true".toList)

def extractResolvedRouteConstraints (userInput : List Char) :
    Option ExtractedResolvedRouteConstraints :=
  match extractTrustedMetadataPayload host userInput RESOLVED_SEMANTIC_ROUTE_MARKER with
  | none | some [] => none
  | some normalized => do
      let disallowBrowserOpen ← readBoolean normalized "- disallowBrowserOpen:"
      let disallowServerStart ← readBoolean normalized "- disallowServerStart:"
      let requiresUserOwnedLocation ← readBoolean normalized "- requiresUserOwnedLocation:"
      pure { disallowBrowserOpen, disallowServerStart, requiresUserOwnedLocation }

/-- All that is resolved from the metadata of an execution input. -/
structure ResolvedRequest where
  routeId : Option String
  buildFormat : Option String
  memoryIntent : Option String
  sourceAuthority : Option String
  runtimeControlIntent : Option String
  executionMode : Option String
  continuationKind : Option String
  constraints : Option ExtractedResolvedRouteConstraints
  deriving DecidableEq

def resolvedRequest (userInput : List Char) : ResolvedRequest where
  routeId := extractResolvedSemanticRouteId host userInput
  buildFormat := extractResolvedBuildFormat host userInput
  memoryIntent := extractResolvedRouteMemoryIntent host userInput
  sourceAuthority := extractResolvedRouteSourceAuthority host userInput
  runtimeControlIntent := extractResolvedRuntimeControlIntent host userInput
  executionMode := extractResolvedRouteExecutionMode host userInput
  continuationKind := extractResolvedRouteContinuationKind host userInput
  constraints := extractResolvedRouteConstraints host userInput

end AgentBigBrain.Core
