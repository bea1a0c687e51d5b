import AgentBigBrain.Core.Types

/-!
# Live-run target overrides

When an approved `start_process` was moved to another loopback port, later proof and
browser actions of the same plan are rewritten to the actual target. The rewriting
touches parameters only: the id and the type of an action stay.
-/
namespace AgentBigBrain.Orchestration

open AgentBigBrain.Js AgentBigBrain.Core

variable (host : Host)

structure LoopbackTargetOverride where
  originalHost : String
  originalPort : ℤ
  originalUrl : Option String
  actualHost : String
  actualPort : ℤ
  actualUrl : Option String
  previewProcessLeaseId : Option String
  workspaceRoot : Option String

structure ParsedLoopbackUrlTarget where
  hostname : String
  port : ℤ
  pathAndSearch : String

structure RuntimeInspectionTargetOverride where
  rootPath : Option String
  previewUrl : Option String
  previewProcessLeaseId : Option String

/-- `.replace(/^\[|\]$/g, "")`. -/
def stripBrackets (text : String) : String :=
  let front := match text.toList with
    | '[' :: cs => cs
    | cs => cs
  String.ofList (if front.getLast? = some ']' then front.dropLast else front)

/-- The normalized spelling of a loopback host. -/
def normalizeLoopbackHost : Option String → Option String
  | none => none
  | some text =>
      let normalized := stripBrackets (host.toLowerCase (trim text))
      if normalized = "localhost" ∨ normalized = "127.0.0.1" ∨ normalized = "::1" then
        some normalized
      else
        none

def loopbackHostsAreEquivalent (left right : String) : Bool :=
  (normalizeLoopbackHost host (some left)).isSome &&
    (normalizeLoopbackHost host (some right)).isSome

def asString : Option Json → Option String
  | some (.str s) => some s
  | _ => none

/-- An integral number. -/
def asInteger : Option Json → Option ℤ
  | some (.num n) => n.toInt
  | _ => none

/-- `Number.parseInt(text, 10)` of the port of a URL, or the default of its protocol. -/
def urlPort (parts : UrlParts) : ℤ :=
  if isPresent parts.port then
    digitsValue parts.port.toList
  else if parts.protocol = "https:" then
    443
  else
    80

def parseLoopbackUrlTarget (urlValue : Option Json) : Option ParsedLoopbackUrlTarget := do
  let text ← asString urlValue
  if !isPresent text then none
  let parts ← host.parseUrl text
  let normalizedHost ← normalizeLoopbackHost host (some parts.hostname)
  let port := urlPort parts
  if port < 1 ∨ port > 65535 then none
  let pathname := if parts.pathname.isEmpty then "/" else parts.pathname
  return ⟨normalizedHost, port, pathname ++ parts.search⟩

def buildLoopbackUrl (hostname : String) (port : ℤ) (pathAndSearch : String) : String :=
  let printableHost := if hostname = "::1" then "[::1]" else hostname
  let normalizedPathAndSearch := if isPresent pathAndSearch then pathAndSearch else "/"
  "http://" ++ printableHost ++ ":" ++ toString port ++ normalizedPathAndSearch

/-! ## Parameters -/

/-- `{ ...params, [key]: text }`. -/
def setText (params : JsonObject) (key : String) (text : String) : JsonObject :=
  params.set key (.str text) trivial

def setInteger (params : JsonObject) (key : String) (n : ℤ) : JsonObject :=
  params.set key (.num (NumberText.ofInt n)) trivial

/-- `{ ...params, [key]: text ?? params[key] }`. -/
def setTextIfAny (params : JsonObject) (key : String) : Option String → JsonObject
  | some text => setText params key text
  | none => params

/-- `{ ...params, [key]: undefined }`, which reads and serializes as a missing member. -/
def unset (params : JsonObject) (key : String) : JsonObject where
  members := params.members.filter fun m => m.1 ≠ key
  distinct := by
    have h := (Json.distinctKeys_obj _).mp params.distinct
    refine (Json.distinctKeys_obj _).mpr
      ⟨h.1.sublist (List.filter_sublist.map Prod.fst), ?_⟩
    exact fun m hm => h.2 m (List.mem_of_mem_filter hm)

/-! ## Applying overrides -/

def findOverride (overrides : List LoopbackTargetOverride) (hostname : String) (port : ℤ) :
    Option LoopbackTargetOverride :=
  overrides.find? fun override =>
    override.originalPort == port &&
      loopbackHostsAreEquivalent host override.originalHost hostname

def findMatchingLoopbackTargetOverride (action : PlannedAction)
    (overrides : List LoopbackTargetOverride) : Option LoopbackTargetOverride :=
  match action.type with
  | .probePort => do
      let hostname ← normalizeLoopbackHost host (asString (action.params.get "host"))
      let port ← asInteger (action.params.get "port")
      findOverride host overrides hostname port
  | .probeHttp | .verifyBrowser | .openBrowser => do
      let target ← parseLoopbackUrlTarget host (action.params.get "url")
      findOverride host overrides target.hostname target.port
  | _ => none

def isMissingPreviewProcessLeaseId (value : Option Json) : Bool :=
  match normalizeOptionalString value with
  | none => true
  | some text => host.toLowerCase text == "none"

/-- The parameters with the override's target in place of the planned one. -/
def overrideParams (action : PlannedAction) (override : LoopbackTargetOverride) : JsonObject :=
  let params := action.params
  let target := parseLoopbackUrlTarget host (params.get "url")
  let rewritten := target.map fun t =>
    buildLoopbackUrl override.actualHost override.actualPort t.pathAndSearch
  match action.type with
  | .probePort =>
      setInteger (setText params "host" override.actualHost) "port" override.actualPort
  | .probeHttp | .verifyBrowser => setTextIfAny params "url" rewritten
  | .openBrowser =>
      let withUrl := setTextIfAny params "url" rewritten
      let withLease := match override.previewProcessLeaseId with
        | some lease => setText withUrl "previewProcessLeaseId" lease
        | none =>
            if isMissingPreviewProcessLeaseId host (params.get "previewProcessLeaseId") then
              unset withUrl "previewProcessLeaseId"
            else
              withUrl
      setTextIfAny withLease "rootPath" override.workspaceRoot
  | _ => params

def applyLiveRunTargetOverrides (action : PlannedAction)
    (overrides : List LoopbackTargetOverride) : PlannedAction :=
  match findMatchingLoopbackTargetOverride host action overrides with
  | none => action
  | some override => { action with params := overrideParams host action override }

/-! ## Inspection targets -/

/-- `text.split(/\r?\n/)` on characters; the accumulator is the current line, reversed. -/
def splitLinesFrom (line : List Char) : List Char → List (List Char)
  | [] => [line.reverse]
  | '\r' :: '\n' :: cs => line.reverse :: splitLinesFrom [] cs
  | '\n' :: cs => line.reverse :: splitLinesFrom [] cs
  | c :: cs => splitLinesFrom (c :: line) cs

def splitLines (text : String) : List String :=
  (splitLinesFrom [] text.toList).map String.ofList

def inspectionTargetPrefix : String := "AUTONOMOUS_RUNTIME_INSPECTION_TARGET "

/-- The target named on one line of the task input. -/
def inspectionTargetOfLine (rawLine : String) : Option RuntimeInspectionTargetOverride := do
  let line := trim rawLine
  if !startsWith line inspectionTargetPrefix then none
  let payload :=
    trim (String.ofList (line.toList.drop inspectionTargetPrefix.toList.length))
  if payload.isEmpty then none
  match ← host.parseJson payload with
  | .null => none
  | .obj members =>
      return {
        rootPath := normalizeOptionalString (members.lookup "rootPath")
        previewUrl := normalizeOptionalString (members.lookup "previewUrl")
        previewProcessLeaseId := normalizeOptionalString (members.lookup "previewProcessLeaseId") }
  | _ => return { rootPath := none, previewUrl := none, previewProcessLeaseId := none }

/-- The last line that names a target. -/
def readRuntimeInspectionTargetOverride (userInput : String) :
    Option RuntimeInspectionTargetOverride :=
  if isPresent userInput then
    ((splitLines userInput).filterMap (inspectionTargetOfLine host)).getLast?
  else
    none

def applyRuntimeInspectionTargetOverrides (action : PlannedAction) (userInput : String) :
    PlannedAction :=
  if action.type = .inspectWorkspaceResources then
    match readRuntimeInspectionTargetOverride host userInput with
    | none => action
    | some override =>
        let withRoot := setTextIfAny action.params "rootPath" override.rootPath
        let withUrl := setTextIfAny withRoot "previewUrl" override.previewUrl
        { action with
          params := setTextIfAny withUrl "previewProcessLeaseId" override.previewProcessLeaseId }
  else
    action

/-! ## Remembering overrides -/

/-- The override that a result announces. -/
def overrideOfResult (actionResult : ActionRunResult) : Option LoopbackTargetOverride := do
  if actionResult.action.type ≠ .startProcess ∨ actionResult.approved = false then none
  let metadata := actionResult.executionMetadata.getD JsonObject.empty
  let actualHost := normalizeLoopbackHost host (asString (metadata.get "processRequestedHost"))
  let actualPort := asInteger (metadata.get "processRequestedPort")
  let originalHost := normalizeLoopbackHost host
    (asString (metadata.get "processOriginalRequestedHost")) <|> actualHost
  let originalPort := asInteger (metadata.get "processOriginalRequestedPort") <|> actualPort
  return {
    originalHost := ← originalHost
    originalPort := ← originalPort
    originalUrl := asString (metadata.get "processOriginalRequestedUrl")
    actualHost := ← actualHost
    actualPort := ← actualPort
    actualUrl := asString (metadata.get "processRequestedUrl")
    previewProcessLeaseId := asString (metadata.get "processLeaseId")
    workspaceRoot := asString (metadata.get "processCwd") }

def rememberLiveRunTargetOverride (overrides : List LoopbackTargetOverride)
    (actionResult : ActionRunResult) : List LoopbackTargetOverride :=
  match overrideOfResult host actionResult with
  | none => overrides
  | some resolved =>
      resolved :: overrides.filter fun candidate =>
        !(loopbackHostsAreEquivalent host candidate.originalHost resolved.originalHost &&
          candidate.originalPort == resolved.originalPort)

/-! ## What the rewriting keeps -/

/-- Rewriting replaces parameters only. -/
structure SameButParams (action rewritten : PlannedAction) : Prop where
  id_eq : rewritten.id = action.id
  type_eq : rewritten.type = action.type
  description_eq : rewritten.description = action.description
  cost_eq : rewritten.estimatedCostUsd = action.estimatedCostUsd

lemma SameButParams.refl (action : PlannedAction) : SameButParams action action :=
  ⟨rfl, rfl, rfl, rfl⟩

lemma SameButParams.trans {a b c : PlannedAction} (hab : SameButParams a b)
    (hbc : SameButParams b c) : SameButParams a c :=
  ⟨hbc.id_eq.trans hab.id_eq, hbc.type_eq.trans hab.type_eq,
    hbc.description_eq.trans hab.description_eq, hbc.cost_eq.trans hab.cost_eq⟩

lemma applyLiveRunTargetOverrides_same (action : PlannedAction)
    (overrides : List LoopbackTargetOverride) :
    SameButParams action (applyLiveRunTargetOverrides host action overrides) := by
  unfold applyLiveRunTargetOverrides
  split
  · exact SameButParams.refl action
  · exact ⟨rfl, rfl, rfl, rfl⟩

lemma applyRuntimeInspectionTargetOverrides_same (action : PlannedAction) (userInput : String) :
    SameButParams action (applyRuntimeInspectionTargetOverrides host action userInput) := by
  unfold applyRuntimeInspectionTargetOverrides
  split
  · split
    · exact SameButParams.refl action
    · exact ⟨rfl, rfl, rfl, rfl⟩
  · exact SameButParams.refl action

end AgentBigBrain.Orchestration
