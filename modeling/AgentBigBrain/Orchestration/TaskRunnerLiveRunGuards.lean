import AgentBigBrain.Orchestration.TaskRunnerLiveRunOverrides
import AgentBigBrain.Orchestration.TaskRunnerSummary

/-!
# Live-run guards

Proof and browser actions are blocked while the start of their loopback target, or a
prerequisite of their workspace, has failed earlier in the same plan. A blocked action
keeps its id and its type in its result.
-/
namespace AgentBigBrain.Orchestration

open AgentBigBrain.Js AgentBigBrain.Core

/-! ## Matching commands -/

/-- The leftmost match of a pattern that sees the character before it. -/
def firstMatch {α : Type} (pattern : Option Char → List Char → Option α) (before : Option Char) :
    List Char → Option α
  | [] => pattern before []
  | c :: cs => pattern before (c :: cs) <|> firstMatch pattern (some c) cs

def dropText (part : String) (rest : List Char) : Option (List Char) :=
  if part.toList.isPrefixOf rest then some (rest.drop part.toList.length) else none

/-- `\s+`. -/
def dropSpaces (rest : List Char) : Option (List Char) :=
  match rest with
  | c :: cs => if isWhitespace c then some (cs.dropWhile isWhitespace) else none
  | [] => none

/-- `(?:=|\s+)`. -/
def dropEqualsOrSpaces (rest : List Char) : Option (List Char) :=
  dropText "=" rest <|> dropSpaces rest

/-- `(\d{2,5})\b`. -/
def portDigits (rest : List Char) : Option (List Char) :=
  let digits := rest.takeWhile Char.isDigit
  let after := rest.dropWhile Char.isDigit
  if 2 ≤ digits.length ∧ digits.length ≤ 5 ∧ ¬ after.head?.any isWordChar then
    some digits
  else
    none

def loopbackSpellings : List String := ["127.0.0.1", "localhost", "::1"]

/-- One of the loopback spellings at the front, with what follows it. -/
def dropLoopback (rest : List Char) : Option (String × List Char) :=
  loopbackSpellings.findSome? fun spelling => (dropText spelling rest).map fun r => (spelling, r)

/-- `(?:^|\s)flag`. -/
def dropFlag (flag : String) (before : Option Char) (rest : List Char) : Option (List Char) :=
  if before.all isWhitespace then dropText flag rest else none

def bindHostPattern (before : Option Char) (rest : List Char) : Option String :=
  ["--bind", "--hostname", "--host"].findSome? fun flag => do
    let value ← (dropFlag flag before rest).bind dropEqualsOrSpaces
    let found ← dropLoopback value
    if found.2.head?.any isWordChar then none else some found.1

/-- `\b(?:localhost|127\.0\.0\.1|::1):(\d{2,5})\b` with the spelling and the port. -/
def hostPortPattern (before : Option Char) (rest : List Char) : Option (String × List Char) := do
  if !atBoundary before rest then none
  let found ← dropLoopback rest
  let digits ← (dropText ":" found.2).bind portDigits
  return (found.1, digits)

def httpServerPattern (before : Option Char) (rest : List Char) : Option (List Char) := do
  if !atBoundary before rest then none
  ((dropText "http.server" rest).bind dropSpaces).bind portDigits

def portFlagPattern (before : Option Char) (rest : List Char) : Option (List Char) :=
  ((dropFlag "--port" before rest).bind dropEqualsOrSpaces).bind portDigits

def shortPortFlagPattern (before : Option Char) (rest : List Char) : Option (List Char) :=
  ((dropFlag "-p" before rest).bind dropSpaces).bind portDigits

structure ManagedProcessLoopbackTargetHint where
  host : String
  port : ℤ
  url : String

variable (host : Host)

/-- The loopback target that a start command spells out. -/
def inferManagedProcessLoopbackTarget (command : String) :
    Option ManagedProcessLoopbackTargetHint :=
  let normalizedCommand := (host.toLowerCase (trim command)).toList
  let explicitHost := firstMatch bindHostPattern none normalizedCommand <|>
    (firstMatch hostPortPattern none normalizedCommand).map Prod.fst
  let hostname := explicitHost.getD "localhost"
  let patterns : List (Option Char → List Char → Option (List Char)) :=
    [httpServerPattern, portFlagPattern, shortPortFlagPattern,
      fun before rest => (hostPortPattern before rest).map Prod.snd]
  patterns.findSome? fun pattern => do
    let digits ← firstMatch pattern none normalizedCommand
    let port := digitsValue digits
    if port < 1 ∨ port > 65535 then none
    let printableHost := if hostname = "::1" then "[::1]" else hostname
    return ⟨hostname, port, "http://" ++ printableHost ++ ":" ++ toString port⟩

/-! ## Failed targets -/

structure LoopbackTarget where
  host : String
  port : ℤ
  url : Option String

structure FailedManagedProcessStartTarget extends LoopbackTarget where
  sourceActionId : String
  failureKind : Option String

inductive WorkspaceDependencyStage where
  | install
  | build
  | workspaceProof
  | buildProof
  deriving DecidableEq, Repr

def WorkspaceDependencyStage.text : WorkspaceDependencyStage → String
  | .install => "install"
  | .build => "build"
  | .workspaceProof => "workspace_proof"
  | .buildProof => "build_proof"

structure FailedWorkspaceExecutionDependency where
  workspaceRoot : String
  sourceActionId : String
  failureCode : ConstraintViolationCode
  stage : WorkspaceDependencyStage

/-- `localhost` for every loopback spelling. -/
def loopbackMarker (text : Option String) : Option String :=
  (normalizeLoopbackHost host text).map fun _ => "localhost"

def normalizeLoopbackPort (port : Option Json) : Option ℤ := do
  let n ← asInteger port
  if n < 1 ∨ n > 65535 then none
  return n

def resolveLoopbackTargetFromUrl (urlValue : Option Json) : Option LoopbackTarget := do
  let text ← asString urlValue
  if !isPresent text then none
  let parts ← host.parseUrl text
  let hostname ← loopbackMarker host (some parts.hostname)
  let port := urlPort parts
  if port < 1 ∨ port > 65535 then none
  return ⟨hostname, port, some parts.href⟩

def resolveDependentLoopbackTarget (action : PlannedAction) : Option LoopbackTarget :=
  match action.type with
  | .probePort => do
      let hostname ← loopbackMarker host (asString (action.params.get "host"))
      let port ← normalizeLoopbackPort (action.params.get "port")
      return ⟨hostname, port, some ("http://" ++ hostname ++ ":" ++ toString port)⟩
  | .probeHttp | .verifyBrowser | .openBrowser =>
      resolveLoopbackTargetFromUrl host (action.params.get "url")
  | _ => none

def readWorkspaceRoot (action : PlannedAction) : Option String :=
  normalizeOptionalString (action.params.get "cwd") <|>
    normalizeOptionalString (action.params.get "workdir") <|>
    normalizeOptionalString (action.params.get "rootPath")

def resolveWorkspaceDependencyStage (action : PlannedAction) : Option WorkspaceDependencyStage :=
  if action.type ≠ .shellCommand then
    none
  else
    let command := asciiLower ((asString (action.params.get "command")).getD "")
    if hasWord command "npm install" then some .install
    else if hasWord command "npm run build" then some .build
    else if includes command "workspace not ready" then some .workspaceProof
    else if includes command "landing page build proof missing" then some .buildProof
    else none

def resolveWorkspaceRootForDependentAction (action : PlannedAction)
    (failedDependencies : List FailedWorkspaceExecutionDependency) : Option String :=
  match readWorkspaceRoot action with
  | some root => some root
  | none =>
      match failedDependencies with
      | [failed] => (resolveDependentLoopbackTarget host action).map fun _ => failed.workspaceRoot
      | _ => none

def resolveFailedManagedProcessStartTarget (actionResult : ActionRunResult) :
    Option FailedManagedProcessStartTarget :=
  if actionResult.action.type ≠ .startProcess ∨ actionResult.approved = true ∨
      actionResult.executionFailureCode ≠ some .processStartFailed then
    none
  else
    let metadata := actionResult.executionMetadata.getD JsonObject.empty
    let metadataHost := loopbackMarker host (asString (metadata.get "processRequestedHost"))
    let metadataPort := normalizeLoopbackPort (metadata.get "processRequestedPort")
    let metadataUrl := resolveLoopbackTargetFromUrl host (metadata.get "processRequestedUrl")
    match metadataHost, metadataPort with
    | some hostname, some port => some {
        host := hostname
        port := port
        url := (metadataUrl.bind LoopbackTarget.url) <|>
          some ("http://" ++ hostname ++ ":" ++ toString port)
        sourceActionId := actionResult.action.id
        failureKind := asString (metadata.get "processStartupFailureKind") }
    | _, _ =>
        let command := (asString (actionResult.action.params.get "command")).getD ""
        (inferManagedProcessLoopbackTarget host command).map fun hint =>
          { host := "localhost"
            port := hint.port
            url := some hint.url
            sourceActionId := actionResult.action.id
            failureKind := none }

/-- The newest failed start of each host and port. -/
def rememberFailedManagedProcessStartTarget (failedTargets : List FailedManagedProcessStartTarget)
    (actionResult : ActionRunResult) : List FailedManagedProcessStartTarget :=
  match resolveFailedManagedProcessStartTarget host actionResult with
  | none => failedTargets
  | some resolved =>
      resolved :: failedTargets.filter fun candidate =>
        !(candidate.host == resolved.host && candidate.port == resolved.port)

def rememberFailedWorkspaceExecutionDependency
    (failedDependencies : List FailedWorkspaceExecutionDependency)
    (actionResult : ActionRunResult) : List FailedWorkspaceExecutionDependency :=
  if actionResult.approved then
    failedDependencies
  else
    match readWorkspaceRoot actionResult.action,
      resolveWorkspaceDependencyStage actionResult.action with
    | some workspaceRoot, some stage =>
        { workspaceRoot := workspaceRoot
          sourceActionId := actionResult.action.id
          failureCode := actionResult.executionFailureCode.getD .actionExecutionFailed
          stage := stage } ::
          failedDependencies.filter fun candidate => candidate.workspaceRoot != workspaceRoot
    | _, _ => failedDependencies

/-! ## Blocking -/

def jsonOfText : Option String → Json
  | none => .null
  | some s => .str s

/-- The metadata of an action that depends on a failed start. -/
def failedTargetMetadata (failedTarget : FailedManagedProcessStartTarget) : JsonObject :=
  let base := setText (setText JsonObject.empty "processLifecycleStatus" "PROCESS_START_FAILED")
    "processRequestedHost" failedTarget.host
  let withPort := setInteger base "processRequestedPort" failedTarget.port
  let withUrl := withPort.set "processRequestedUrl" (jsonOfText failedTarget.url)
    (by cases failedTarget.url <;> trivial)
  let withKind := withUrl.set "processStartupFailureKind" (jsonOfText failedTarget.failureKind)
    (by cases failedTarget.failureKind <;> trivial)
  let withFlag := withKind.set "liveRunDependencyBlocked" (.bool true) trivial
  setText withFlag "liveRunDependencySourceActionId" failedTarget.sourceActionId

def failedDependencyMetadata (failed : FailedWorkspaceExecutionDependency) : JsonObject :=
  let withFlag := JsonObject.empty.set "liveRunDependencyBlocked" (.bool true) trivial
  let withSource := setText withFlag "liveRunDependencySourceActionId" failed.sourceActionId
  let withRoot := setText withSource "liveRunDependencyWorkspaceRoot" failed.workspaceRoot
  setText withRoot "liveRunDependencyStage" failed.stage.text

/-- A result blocked by one code with the same text as output and message. -/
def buildDependencyBlockedResult (action : PlannedAction) (mode : ExecutionMode)
    (code : ConstraintViolationCode) (output : String) (metadata : JsonObject) :
    ActionRunResult :=
  buildBlockedActionResult action mode [.constraint code] [⟨code, output⟩] [] none
    { output := some output
      executionStatus := some .blocked
      executionFailureCode := some code
      executionMetadata := some metadata }

def evaluateDependentLiveRunTargetBlock (action : PlannedAction) (mode : ExecutionMode)
    (failedTargets : List FailedManagedProcessStartTarget) : Option ActionRunResult := do
  let target ← resolveDependentLoopbackTarget host action
  let failedTarget ← failedTargets.find? fun candidate =>
    candidate.host == target.host && candidate.port == target.port
  let targetLabel := failedTarget.url.getD
    ("http://" ++ failedTarget.host ++ ":" ++ toString failedTarget.port)
  let failureDetail := match failedTarget.failureKind with
    | none => ""
    | some kind => if kind.isEmpty then "" else " (" ++ kind ++ ")"
  let output := action.type.text ++ " skipped: an earlier start_process for " ++ targetLabel ++
    " failed" ++ failureDetail ++ ". " ++
    "This plan attempt cannot truthfully verify or open that same local target until a later " ++
    "step starts the app successfully."
  return buildDependencyBlockedResult action mode .processStartFailed output
    (failedTargetMetadata failedTarget)

def evaluateDependentWorkspaceExecutionBlock (action : PlannedAction) (mode : ExecutionMode)
    (failedDependencies : List FailedWorkspaceExecutionDependency) : Option ActionRunResult := do
  let workspaceRoot ← resolveWorkspaceRootForDependentAction host action failedDependencies
  let failed ← failedDependencies.find? fun candidate => candidate.workspaceRoot == workspaceRoot
  let output := action.type.text ++
    " skipped: an earlier framework workspace prerequisite failed in " ++ workspaceRoot ++
    " (stage " ++ failed.stage.text ++ "). This plan attempt cannot truthfully continue the " ++
    "same local build or preview chain until that prerequisite succeeds."
  return buildDependencyBlockedResult action mode failed.failureCode output
    (failedDependencyMetadata failed)

lemma evaluateDependentLiveRunTargetBlock_refuses {action : PlannedAction} {mode : ExecutionMode}
    {failedTargets : List FailedManagedProcessStartTarget} {result : ActionRunResult}
    (h : evaluateDependentLiveRunTargetBlock host action mode failedTargets = some result) :
    Refuses action result := by
  simp only [evaluateDependentLiveRunTargetBlock, Option.bind_eq_bind, Option.bind_eq_some_iff,
    Option.pure_def, Option.some.injEq] at h
  obtain ⟨target, -, failedTarget, -, rfl⟩ := h
  exact ⟨rfl, rfl⟩

lemma evaluateDependentWorkspaceExecutionBlock_refuses {action : PlannedAction}
    {mode : ExecutionMode} {failedDependencies : List FailedWorkspaceExecutionDependency}
    {result : ActionRunResult}
    (h : evaluateDependentWorkspaceExecutionBlock host action mode failedDependencies =
      some result) : Refuses action result := by
  simp only [evaluateDependentWorkspaceExecutionBlock, Option.bind_eq_bind,
    Option.bind_eq_some_iff, Option.pure_def, Option.some.injEq] at h
  obtain ⟨root, -, failed, -, rfl⟩ := h
  exact ⟨rfl, rfl⟩

end AgentBigBrain.Orchestration
