import AgentBigBrain.Core.PathConstraints

/-!
# Skill manifests

The manifest of a skill says what kind of artifact it has, whether its self-test passed, whether it
is active and on whose word. The descriptive fields of a manifest (summaries, tags, risk, policies,
version and stamps) decide nothing of this and are left out.
-/
namespace AgentBigBrain.Skills

open AgentBigBrain.Js AgentBigBrain.Core

inductive SkillKind where
  | executableModule
  | markdownInstruction
  deriving DecidableEq

inductive SkillOrigin where
  | builtin
  | runtimeUser
  deriving DecidableEq

inductive SkillVerificationStatus where
  | unverified
  | verified
  | failed
  deriving DecidableEq

inductive SkillLifecycleStatus where
  | active
  | draft
  | pendingApproval
  | rejected
  | deprecated
  deriving DecidableEq

def SkillLifecycleStatus.text : SkillLifecycleStatus → String
  | .active => "active"
  | .draft => "draft"
  | .pendingApproval => "pending_approval"
  | .rejected => "rejected"
  | .deprecated => "deprecated"

inductive SkillActivationSource where
  | builtin
  | legacyMigration
  | explicitUserRequest
  | agentSuggestion
  | operatorApproval
  deriving DecidableEq

structure SkillArtifactPaths where
  instructionPath : String
  primaryPath : String
  compatibilityPath : String
  deriving DecidableEq

structure SkillManifest where
  name : String
  kind : SkillKind
  origin : SkillOrigin
  verificationStatus : SkillVerificationStatus
  verificationVerifiedAt : Option String
  verificationFailureReason : Option String
  verificationTestInput : Option String
  verificationExpectedOutputContains : Option String
  lifecycleStatus : SkillLifecycleStatus
  activationSource : SkillActivationSource
  instructionPath : Option String
  primaryPath : String
  compatibilityPath : String
  deriving DecidableEq

variable (host : Host)

/-! ## Normalization -/

/-- The member of an enumeration that a text names, in any case and padding. -/
def namedMember {α : Type} (members : List (String × α)) (value : Option Json) : Option α :=
  (normalizeOptionalString value).bind fun text => members.lookup (host.toLowerCase text)

def normalizeSkillKind (value : Option Json) : SkillKind :=
  (namedMember host [("executable_module", .executableModule),
    ("markdown_instruction", .markdownInstruction)] value).getD .executableModule

def normalizeSkillOrigin (value : Option Json) : SkillOrigin :=
  (namedMember host [("builtin", .builtin), ("runtime_user", .runtimeUser)] value).getD
    .runtimeUser

def normalizeActivationSource (value origin : Option Json) : SkillActivationSource :=
  (namedMember host [("builtin", .builtin), ("legacy_migration", .legacyMigration),
    ("explicit_user_request", .explicitUserRequest), ("agent_suggestion", .agentSuggestion),
    ("operator_approval", .operatorApproval)] value).getD
      (if normalizeSkillOrigin host origin = .builtin then .builtin else .legacyMigration)

/-! ## Creation parameters -/

/-- `extractMarkdownSkillInstructions`. -/
def extractMarkdownSkillInstructions (params : JsonObject) : Option String :=
  let instructions := (getStringParam params "instructions" <|>
    getStringParam params "markdownContent" <|> getStringParam params "content").getD ""
  if isPresent instructions then some (trim instructions) else none

/-- The kind that a creation writes an artifact of. -/
def resolveCreateSkillRuntimeKind (params : JsonObject) : SkillKind :=
  let explicitKind := (getStringParam params "kind").map fun text => host.toLowerCase (trim text)
  if explicitKind = some "markdown_instruction" then .markdownInstruction
  else if explicitKind = some "executable_module" then .executableModule
  else if (getStringParam params "code").getD "" = "" ∧
      (extractMarkdownSkillInstructions params).isSome then .markdownInstruction
  else .executableModule

/-- The kind that a creation writes into the manifest. -/
def resolveCreateSkillKind (params : JsonObject) : SkillKind :=
  if params.get "kind" ≠ none then normalizeSkillKind host (params.get "kind")
  else if normalizeOptionalString (params.get "code") = none ∧
      ((normalizeOptionalString (params.get "instructions")).isSome ∨
        (normalizeOptionalString (params.get "markdownContent")).isSome ∨
        (normalizeOptionalString (params.get "content")).isSome) then .markdownInstruction
  else .executableModule

def resolveCreateSkillActivationSource (params : JsonObject) : SkillActivationSource :=
  if params.get "activationSource" ≠ none then
    normalizeActivationSource host (params.get "activationSource") (params.get "origin")
  else if normalizeSkillOrigin host (params.get "origin") = .builtin then .builtin
  else .agentSuggestion

structure SkillVerificationConfig where
  testInput : Option String
  expectedOutputContains : Option String

def extractSkillVerificationConfig (params : JsonObject) : SkillVerificationConfig where
  testInput := normalizeOptionalString (params.get "testInput")
  expectedOutputContains := normalizeOptionalString (params.get "expectedOutputContains")

def buildSkillManifest (params : JsonObject) (skillName : String)
    (artifactPaths : SkillArtifactPaths) : SkillManifest :=
  let kind := resolveCreateSkillKind host params
  let verification := extractSkillVerificationConfig params
  let activationSource := resolveCreateSkillActivationSource host params
  { name := skillName
    kind := kind
    origin := normalizeSkillOrigin host (params.get "origin")
    verificationStatus := .unverified
    verificationVerifiedAt := none
    verificationFailureReason := none
    verificationTestInput := verification.testInput
    verificationExpectedOutputContains := verification.expectedOutputContains
    lifecycleStatus := if activationSource = .agentSuggestion then .pendingApproval else .active
    activationSource := activationSource
    instructionPath :=
      if kind = .markdownInstruction then some artifactPaths.instructionPath else none
    primaryPath :=
      if kind = .markdownInstruction then artifactPaths.instructionPath
      else artifactPaths.primaryPath
    compatibilityPath :=
      if kind = .markdownInstruction then artifactPaths.instructionPath
      else artifactPaths.compatibilityPath }

/-! ## Verification -/

structure SkillVerificationResult where
  status : SkillVerificationStatus
  verifiedAt : Option String
  failureReason : Option String
  deriving DecidableEq

def evaluateSkillVerificationResult (actualOutputSummary expectedOutputContains : Option String)
    (nowIso : String) : SkillVerificationResult :=
  let presentText (text : Option String) : Option String :=
    text.bind fun s => if isPresent s then some (trim s) else none
  match presentText expectedOutputContains with
  | none => ⟨.unverified, none, none⟩
  | some normalizedExpectation =>
      if (presentText actualOutputSummary).any (fun normalizedOutput =>
          includes (host.toLowerCase normalizedOutput)
            (host.toLowerCase normalizedExpectation)) then
        ⟨.verified, some nowIso, none⟩
      else
        ⟨.failed, none, some ("Expected skill output to include: " ++ normalizedExpectation)⟩

def applySkillVerificationResult (manifest : SkillManifest)
    (verification : SkillVerificationResult) : SkillManifest :=
  { manifest with
    verificationStatus := verification.status
    verificationVerifiedAt := verification.verifiedAt
    verificationFailureReason := verification.failureReason }

end AgentBigBrain.Skills
