import AgentBigBrain.Core.Types
import AgentBigBrain.Js.Platform

/-!
# Mission evidence

A mission contract says which proofs a goal needs before it counts as met. Each action result of a
task may be evidence for some of them; the counters add up the evidence of one goal, and what is
required and not yet counted is missing.
-/
namespace AgentBigBrain.Autonomy

open AgentBigBrain.Js AgentBigBrain.Core

/-! ## Contracts -/

structure TaskRunResult where
  task : TaskRequest
  summary : String
  actionResults : List ActionRunResult

inductive MissionRequirementId where
  | sideEffect
  | targetPath
  | mutation
  | readiness
  | browser
  | browserOpen
  | processStop
  deriving DecidableEq

def MissionRequirementId.text : MissionRequirementId → String
  | .sideEffect => "REAL_SIDE_EFFECT"
  | .targetPath => "TARGET_PATH_TOUCH"
  | .mutation => "ARTIFACT_MUTATION"
  | .readiness => "READINESS_PROOF"
  | .browser => "BROWSER_PROOF"
  | .browserOpen => "BROWSER_OPEN_PROOF"
  | .processStop => "PROCESS_STOP_PROOF"

structure MissionCompletionContract where
  executionStyle : Bool
  requireRealSideEffect : Bool
  requireTargetPathTouch : Bool
  requireArtifactMutation : Bool
  requireReadinessProof : Bool
  requireBrowserProof : Bool
  requireBrowserOpenProof : Bool
  requireProcessStopProof : Bool
  targetPathHints : List String
  deriving DecidableEq

/-- What the contract builder reads from the text of a goal. -/
structure MissionTextPolicies where
  /-- The goal, or the routing class of its text, is of the execution style. -/
  executionStyle : String → Bool
  requiresArtifactMutationEvidence : String → Bool
  requiresReadinessEvidence : String → Bool
  requiresBrowserVerificationEvidence : String → Bool
  requiresBrowserOpenEvidence : String → Bool
  requiresManagedProcessStopEvidence : String → Bool
  extractGoalPathHints : String → List String

def buildMissionCompletionContract (policies : MissionTextPolicies) (goal : String) :
    MissionCompletionContract :=
  let executionStyle := policies.executionStyle goal
  let targetPathHints := policies.extractGoalPathHints goal
  { executionStyle := executionStyle
    requireRealSideEffect := executionStyle
    requireTargetPathTouch := executionStyle && !targetPathHints.isEmpty
    requireArtifactMutation := executionStyle && policies.requiresArtifactMutationEvidence goal
    requireReadinessProof := executionStyle && policies.requiresReadinessEvidence goal
    requireBrowserProof := executionStyle && policies.requiresBrowserVerificationEvidence goal
    requireBrowserOpenProof := executionStyle && policies.requiresBrowserOpenEvidence goal
    requireProcessStopProof :=
      executionStyle && policies.requiresManagedProcessStopEvidence goal
    targetPathHints := targetPathHints }

structure MissionEvidenceCounters where
  realSideEffects : ℕ
  targetPathTouches : ℕ
  artifactMutations : ℕ
  readinessProofs : ℕ
  browserProofs : ℕ
  browserOpenProofs : ℕ
  processStopProofs : ℕ
  deriving DecidableEq

def MissionEvidenceCounters.zero : MissionEvidenceCounters :=
  ⟨0, 0, 0, 0, 0, 0, 0⟩

def MAX_MANAGED_PROCESS_READINESS_FAILURES : ℕ := 3

def hasTaskRunResultBlockCode (result : TaskRunResult) (code : ConstraintViolationCode) : Bool :=
  result.actionResults.any fun entry =>
    decide (entry.executionFailureCode = some code) ||
      entry.blockedBy.any (fun blocked => decide (blocked = .constraint code)) ||
      entry.violations.any fun violation => decide (violation.code = code)

/-! ## Evidence of one action result -/

variable (platform : Platform)

/-- `entry.executionMetadata?.[key]`. -/
def metadataOf (entry : ActionRunResult) (key : String) : Option Json :=
  entry.executionMetadata.bind (·.get key)

/-- `entry.executionMetadata?.processLifecycleStatus === status`. -/
def hasLifecycleStatus (entry : ActionRunResult) (status : String) : Bool :=
  metadataOf entry "processLifecycleStatus" = some (.str status)

def normalizeEvidenceText (input : String) : String :=
  platform.toLowerCase (trim input)

/-- Each run of backslashes as one. -/
def collapseBackslashes : List Char → List Char
  | [] => []
  | [c] => [c]
  | c :: d :: rest =>
      if c = '\\' ∧ d = '\\' then collapseBackslashes (d :: rest)
      else c :: collapseBackslashes (d :: rest)

def normalizePathHint (value : String) : String :=
  let opened := (normalizeEvidenceText platform value).toList.dropWhile fun c =>
    c = '"' || c = Char.ofNat 39 || isWhitespace c || c = '('
  let closed := opened.reverse.dropWhile fun c =>
    c = '"' || c = Char.ofNat 39 || isWhitespace c || [')', ',', '.', ';', ':'].contains c
  String.ofList (collapseBackslashes (closed.reverse.map fun c => if c = '/' then '\\' else c))

def isExecutionEvidenceActionType : ActionType → Bool
  | .respond | .readFile | .listDirectory | .checkProcess | .probePort | .probeHttp
  | .verifyBrowser => false
  | _ => true

def isSimulatedExecutionEvidence (entry : ActionRunResult) : Bool :=
  decide (metadataOf entry "simulatedExecution" = some (.bool true)) ||
    hasWord (normalizeEvidenceText platform (entry.output.getD "")) "simulated"

def isRealSideEffectEvidence (entry : ActionRunResult) : Bool :=
  entry.approved && isExecutionEvidenceActionType entry.action.type &&
    !isSimulatedExecutionEvidence platform entry

def isArtifactMutationEvidenceAction (entry : ActionRunResult) : Bool :=
  entry.approved && !isSimulatedExecutionEvidence platform entry &&
    match entry.action.type with
    | .writeFile | .deleteFile | .selfModify | .memoryMutation | .networkWrite | .createSkill
    | .runSkill => true
    | _ => false

def isReadinessProofEvidenceAction (requireHttpReachability : Bool) (entry : ActionRunResult) :
    Bool :=
  entry.approved && !isSimulatedExecutionEvidence platform entry &&
    match entry.action.type with
    | .probePort => !requireHttpReachability && hasLifecycleStatus entry "PROCESS_READY"
    | .openBrowser =>
        decide (metadataOf entry "browserSession" = some (.bool true)) &&
          decide (metadataOf entry "browserSessionStatus" = some (.str "open")) &&
          hasLifecycleStatus entry "PROCESS_READY"
    | .probeHttp | .verifyBrowser => hasLifecycleStatus entry "PROCESS_READY"
    | _ => false

def isBrowserProofEvidenceAction (entry : ActionRunResult) : Bool :=
  entry.approved && decide (entry.action.type = .verifyBrowser) &&
    !isSimulatedExecutionEvidence platform entry &&
    decide (metadataOf entry "browserVerification" = some (.bool true)) &&
    decide (metadataOf entry "browserVerifyPassed" = some (.bool true))

def isBrowserOpenEvidenceAction (entry : ActionRunResult) : Bool :=
  entry.approved && decide (entry.action.type = .openBrowser) &&
    !isSimulatedExecutionEvidence platform entry &&
    decide (metadataOf entry "browserSession" = some (.bool true)) &&
    decide (metadataOf entry "browserSessionStatus" = some (.str "open"))

/-- Unlike the others, this one does not look for a simulation. -/
def isManagedProcessStopEvidenceAction (entry : ActionRunResult) : Bool :=
  entry.approved &&
    decide (entry.action.type = .stopProcess ∨ entry.action.type = .checkProcess) &&
    hasLifecycleStatus entry "PROCESS_STOPPED"

/-- The parameters of an action that may hold a path. -/
def pathParams : List String :=
  ["path", "target", "file", "directory", "cwd", "workdir", "url", "endpoint"]

def collectActionPathHints (action : PlannedAction) : List String :=
  (pathParams.filterMap fun key =>
    match action.params.get key with
    | some (.str value) => some (normalizePathHint platform value)
    | _ => none).filter fun hint => 2 ≤ utf16Length hint

def isTargetPathTouchEvidence (targetPathHints : List String) (entry : ActionRunResult) : Bool :=
  entry.approved && isExecutionEvidenceActionType entry.action.type &&
    !isSimulatedExecutionEvidence platform entry &&
    targetPathHints.any fun target =>
      (collectActionPathHints platform entry.action).any fun hint =>
        includes hint target || includes target hint

/-! ## Counters -/

def countApprovedRealSideEffectActions (result : TaskRunResult) : ℕ :=
  result.actionResults.countP (isRealSideEffectEvidence platform)

def countApprovedTargetPathTouchActions (result : TaskRunResult) (targetPathHints : List String) :
    ℕ :=
  if targetPathHints = [] then 0
  else result.actionResults.countP (isTargetPathTouchEvidence platform targetPathHints)

def countApprovedArtifactMutationActions (result : TaskRunResult) : ℕ :=
  result.actionResults.countP (isArtifactMutationEvidenceAction platform)

def countApprovedReadinessProofActions (result : TaskRunResult) (requireHttpReachability : Bool) :
    ℕ :=
  result.actionResults.countP (isReadinessProofEvidenceAction platform requireHttpReachability)

def countApprovedBrowserProofActions (result : TaskRunResult) : ℕ :=
  result.actionResults.countP (isBrowserProofEvidenceAction platform)

def countApprovedBrowserOpenProofActions (result : TaskRunResult) : ℕ :=
  result.actionResults.countP (isBrowserOpenEvidenceAction platform)

def countApprovedManagedProcessStopActions (result : TaskRunResult) : ℕ :=
  result.actionResults.countP isManagedProcessStopEvidenceAction

/-- The counters after one more task of the goal. -/
def MissionEvidenceCounters.add (counters : MissionEvidenceCounters)
    (contract : MissionCompletionContract) (result : TaskRunResult) : MissionEvidenceCounters where
  realSideEffects := counters.realSideEffects + countApprovedRealSideEffectActions platform result
  targetPathTouches := counters.targetPathTouches +
    countApprovedTargetPathTouchActions platform result contract.targetPathHints
  artifactMutations :=
    counters.artifactMutations + countApprovedArtifactMutationActions platform result
  readinessProofs := counters.readinessProofs + countApprovedReadinessProofActions platform result
    (contract.requireBrowserProof || contract.requireBrowserOpenProof)
  browserProofs := counters.browserProofs + countApprovedBrowserProofActions platform result
  browserOpenProofs :=
    counters.browserOpenProofs + countApprovedBrowserOpenProofActions platform result
  processStopProofs := counters.processStopProofs + countApprovedManagedProcessStopActions result

/-- The requirement in the contract. -/
def MissionCompletionContract.requires (contract : MissionCompletionContract) :
    MissionRequirementId → Bool
  | .sideEffect => contract.requireRealSideEffect
  | .targetPath => contract.requireTargetPathTouch
  | .mutation => contract.requireArtifactMutation
  | .readiness => contract.requireReadinessProof
  | .browser => contract.requireBrowserProof
  | .browserOpen => contract.requireBrowserOpenProof
  | .processStop => contract.requireProcessStopProof

/-- Only a goal of the execution style is required to prove anything. -/
lemma executionStyle_of_requires {policies : MissionTextPolicies} {goal : String}
    {requirement : MissionRequirementId}
    (h : (buildMissionCompletionContract policies goal).requires requirement = true) :
    (buildMissionCompletionContract policies goal).executionStyle = true := by
  cases requirement <;>
    simp only [MissionCompletionContract.requires, buildMissionCompletionContract,
      Bool.and_eq_true] at h ⊢ <;>
    first | exact h | exact h.1

/-- The counter that a requirement looks at. -/
def MissionEvidenceCounters.count (counters : MissionEvidenceCounters) : MissionRequirementId → ℕ
  | .sideEffect => counters.realSideEffects
  | .targetPath => counters.targetPathTouches
  | .mutation => counters.artifactMutations
  | .readiness => counters.readinessProofs
  | .browser => counters.browserProofs
  | .browserOpen => counters.browserOpenProofs
  | .processStop => counters.processStopProofs

/-- The requirements in the order in which they are reported. -/
def MissionRequirementId.all : List MissionRequirementId :=
  [.sideEffect, .targetPath, .mutation, .readiness, .browser, .browserOpen, .processStop]

def resolveMissingMissionRequirements (contract : MissionCompletionContract)
    (counters : MissionEvidenceCounters) : List MissionRequirementId :=
  if contract.executionStyle then
    MissionRequirementId.all.filter fun requirement =>
      contract.requires requirement && decide (counters.count requirement = 0)
  else []

lemma mem_resolveMissing {contract : MissionCompletionContract}
    {counters : MissionEvidenceCounters} {requirement : MissionRequirementId} :
    requirement ∈ resolveMissingMissionRequirements contract counters ↔
      contract.executionStyle = true ∧ contract.requires requirement = true ∧
        counters.count requirement = 0 := by
  have hall : requirement ∈ MissionRequirementId.all := by
    cases requirement <;> decide
  unfold resolveMissingMissionRequirements
  split_ifs with hstyle
  · simp [hstyle, hall]
  · simp [hstyle]

end AgentBigBrain.Autonomy
