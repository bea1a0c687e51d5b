import AgentBigBrain.Skills.SkillManifest

/-!
# Skill actions

Creating, updating, approving, rejecting, deprecating and running a skill. The files of a skill are
its artifact texts and its manifest; the actions write them one by one.
-/
namespace AgentBigBrain.Skills

open AgentBigBrain.Js AgentBigBrain.Core

/-- The files under the name of a skill; `none` where there is no file. -/
structure SkillFiles where
  instruction : Option String
  primary : Option String
  compatibility : Option String
  manifest : Option SkillManifest
  deriving DecidableEq

def noSkillFiles : SkillFiles where
  instruction := none
  primary := none
  compatibility := none
  manifest := none

/-- The runtime skills directory. -/
abbrev SkillStore := String → SkillFiles

/-- What the actions use beyond their parameters and the store. -/
structure SkillEnvironment where
  host : Host
  /-- `compileSkillSourceToJavaScript`; an error is the message of what it throws. -/
  compile : String → Except String String
  containsUnsafeMarkdownSkillInstructions : String → Bool
  artifactPaths : String → SkillArtifactPaths
  /-- The path checks on the artifact paths of a name. -/
  pathsStayInsideRoot : String → Bool
  /-- The source-controlled skills. -/
  builtIn : String → Option SkillManifest
  builtIn_markdown : ∀ name manifest, builtIn name = some manifest →
    manifest.kind = .markdownInstruction ∧ manifest.origin = .builtin

inductive SkillOutcome where
  | success (message : String)
  | blocked (message failureCode : String)
  | failed (message failureCode : String)
  deriving DecidableEq

/-- What comes of loading the artifact of a new skill and calling it. -/
inductive SelfTest where
  | threw (message : String)
  | noCallable
  | returned (outputSummary : String)
  deriving DecidableEq

inductive SkillLifecycleAction where
  | deprecateSkill
  | approveSkill
  | rejectSkill
  deriving DecidableEq

variable (env : SkillEnvironment)

/-- `/^[a-zA-Z0-9_-]{1,64}$/`. -/
def isSafeSkillName (skillName : String) : Bool :=
  decide (1 ≤ skillName.toList.length ∧ skillName.toList.length ≤ 64) &&
    skillName.toList.all fun c => c.isAlphanum || c == '_' || c == '-'

/-- The runtime manifest of the name, or else the built-in one. -/
def loadManifest (store : SkillStore) (skillName : String) : Option SkillManifest :=
  (store skillName).manifest <|> env.builtIn skillName

/-! ## Creation -/

def verifyCreatedSkillArtifact (skillName : String) (verification : SkillVerificationConfig)
    (selfTest : SelfTest) (nowIso : String) : Except String SkillVerificationResult :=
  if verification.testInput = none ∧ verification.expectedOutputContains = none then
    .ok (evaluateSkillVerificationResult env.host none none nowIso)
  else
    match selfTest with
    | .threw message => .error message
    | .noCallable =>
        .ok ⟨.failed, none, some ("No callable export found in " ++ skillName ++ ".js.")⟩
    | .returned outputSummary =>
        .ok (evaluateSkillVerificationResult env.host (some outputSummary)
          verification.expectedOutputContains nowIso)

/-- `verificationSuffix`. -/
def verificationSuffix (manifest : SkillManifest) : String :=
  if manifest.verificationStatus = .verified ∧ manifest.lifecycleStatus = .active then
    " Verified and ready for reuse."
  else if manifest.verificationStatus = .verified then
    " Verified, but pending approval before reuse."
  else if manifest.verificationStatus = .failed then
    " Verification failed: " ++ manifest.verificationFailureReason.getD "unknown reason" ++ "."
  else " Verification pending."

/-- The part of `executeCreateSkillAction` that writes an executable skill. -/
def createExecutableSkill (params : JsonObject) (skillName code : String) (selfTest : SelfTest)
    (nowIso : String) (files : SkillFiles) : SkillFiles × SkillOutcome :=
  match env.compile code with
  | .error message =>
      (files, .failed ("Create skill failed: " ++ message) "ACTION_EXECUTION_FAILED")
  | .ok javascriptCode =>
      let manifest := buildSkillManifest env.host params skillName (env.artifactPaths skillName)
      let saved := { files with
        primary := some javascriptCode
        compatibility := some code
        manifest := some manifest }
      match verifyCreatedSkillArtifact env skillName (extractSkillVerificationConfig params)
        selfTest nowIso with
      | .error message =>
          (saved, .failed ("Create skill failed: " ++ message) "ACTION_EXECUTION_FAILED")
      | .ok verificationResult =>
          let verified := applySkillVerificationResult manifest verificationResult
          ({ saved with manifest := some verified },
            .success ("Skill created successfully: " ++ skillName ++ ".js (compat: " ++ skillName ++
              ".ts)." ++ verificationSuffix verified))

/-- The part of `executeCreateSkillAction` that writes a Markdown skill. -/
def createMarkdownSkill (params : JsonObject) (skillName markdownInstructions : String)
    (files : SkillFiles) : SkillFiles × SkillOutcome :=
  ({ files with
      instruction := some markdownInstructions
      manifest :=
        some (buildSkillManifest env.host params skillName (env.artifactPaths skillName)) },
    .success ("Markdown skill created successfully: " ++ skillName ++
      ".md. Guidance saved for bounded planner reuse."))

/-- The checks of `executeCreateSkillAction`, and what it goes on to write: the name, and the
instructions or the code. -/
def checkCreateSkill (params : JsonObject) : Except SkillOutcome (String × SkillKind × String) :=
  let kind := resolveCreateSkillRuntimeKind env.host params
  match normalizeOptionalString (params.get "name") with
  | none => .error (.blocked "Create skill blocked: missing name." "CREATE_SKILL_MISSING_NAME")
  | some skillName =>
      match kind, extractMarkdownSkillInstructions params,
        normalizeOptionalString (params.get "code") with
      | .markdownInstruction, none, _ =>
          .error (.blocked "Create Markdown skill blocked: missing instruction content."
            "CREATE_SKILL_MISSING_CODE")
      | .executableModule, _, none =>
          .error (.blocked "Create skill blocked: missing code." "CREATE_SKILL_MISSING_CODE")
      | .markdownInstruction, some markdownInstructions, _ =>
          if env.containsUnsafeMarkdownSkillInstructions markdownInstructions then
            .error (.blocked "Create Markdown skill blocked: unsafe instruction content."
              "CREATE_SKILL_UNSAFE_CODE")
          else checkCreateName skillName (skillName, .markdownInstruction, markdownInstructions)
      | .executableModule, _, some code =>
          checkCreateName skillName (skillName, .executableModule, code)
where
  checkCreateName (skillName : String) (content : String × SkillKind × String) :
      Except SkillOutcome (String × SkillKind × String) :=
    if isSafeSkillName skillName = false then
      .error (.blocked "Create skill blocked: invalid skill name format."
        "CREATE_SKILL_INVALID_NAME")
    else if env.pathsStayInsideRoot skillName = false then
      .error (.blocked "Create skill blocked: skill path escaped skills directory."
        "ACTION_EXECUTION_FAILED")
    else .ok content

def executeCreateSkillAction (params : JsonObject) (selfTest : SelfTest) (nowIso : String)
    (store : SkillStore) : SkillStore × SkillOutcome :=
  match checkCreateSkill env params with
  | .error outcome => (store, outcome)
  | .ok (skillName, kind, content) =>
      let created := match kind with
        | .markdownInstruction => createMarkdownSkill env params skillName content (store skillName)
        | .executableModule =>
            createExecutableSkill env params skillName content selfTest nowIso (store skillName)
      (Function.update store skillName created.1, created.2)

/-! ## Update -/

/-- The name and the manifest of the runtime skill that an action is about. -/
def mutableSkill (actionName : String) (params : JsonObject) (store : SkillStore) :
    Except SkillOutcome (String × SkillManifest) :=
  match normalizeOptionalString (params.get "name") with
  | none => .error (.blocked (actionName ++ " blocked: missing skill name.")
      "SKILL_ACTION_MISSING_NAME")
  | some skillName =>
      if isSafeSkillName skillName = false then
        .error (.blocked (actionName ++ " blocked: invalid skill name format.")
          "SKILL_ACTION_INVALID_NAME")
      else if env.pathsStayInsideRoot skillName = false then
        .error (.blocked (actionName ++ " blocked: skill path escaped skills directory.")
          "ACTION_EXECUTION_FAILED")
      else
        let missing : SkillOutcome :=
          .blocked (actionName ++ " blocked: no mutable runtime skill found for " ++ skillName ++
            ".") "SKILL_ACTION_ARTIFACT_MISSING"
        match loadManifest env store skillName with
        | none => .error missing
        | some manifest =>
            if manifest.origin = .builtin then .error missing else .ok (skillName, manifest)

/-- The artifact texts after an update. -/
def updatedArtifact (params : JsonObject) (manifest : SkillManifest) (files : SkillFiles) :
    Except String SkillFiles :=
  match manifest.kind, extractMarkdownSkillInstructions params,
    normalizeOptionalString (params.get "code") with
  | .markdownInstruction, some markdownInstructions, _ =>
      .ok { files with instruction := some markdownInstructions }
  | .executableModule, _, some code =>
      (env.compile code).map fun javascriptCode =>
        { files with primary := some javascriptCode, compatibility := some code }
  | _, _, _ => .ok files

def executeUpdateSkillAction (params : JsonObject) (store : SkillStore) :
    SkillStore × SkillOutcome :=
  match mutableSkill env "Update skill" params store with
  | .error outcome => (store, outcome)
  | .ok (skillName, manifest) =>
      if (extractMarkdownSkillInstructions params).any
          env.containsUnsafeMarkdownSkillInstructions then
        (store, .blocked "Update skill blocked: unsafe Markdown instruction content."
          "SKILL_ACTION_UNSAFE_CONTENT")
      else
        match updatedArtifact env params manifest (store skillName) with
        | .error message =>
            (store, .failed ("Update skill failed: " ++ message) "ACTION_EXECUTION_FAILED")
        | .ok files =>
            -- `applySkillMetadataUpdate` copies every field that is modelled.
            (Function.update store skillName { files with manifest := some manifest },
              .success ("Skill updated successfully: " ++ skillName ++ "."))

/-! ## Lifecycle -/

def SkillLifecycleAction.status : SkillLifecycleAction → SkillLifecycleStatus
  | .approveSkill => .active
  | .rejectSkill => .rejected
  | .deprecateSkill => .deprecated

def SkillLifecycleAction.updated (action : SkillLifecycleAction) (manifest : SkillManifest) :
    SkillManifest :=
  { manifest with
    lifecycleStatus := action.status
    activationSource :=
      if action = .approveSkill then .operatorApproval else manifest.activationSource }

def executeSkillLifecycleAction (action : SkillLifecycleAction) (params : JsonObject)
    (store : SkillStore) : SkillStore × SkillOutcome :=
  match mutableSkill env "Skill lifecycle action" params store with
  | .error outcome => (store, outcome)
  | .ok (skillName, manifest) =>
      (Function.update store skillName
          { store skillName with manifest := some (action.updated manifest) },
        .success ("Skill lifecycle updated: " ++ skillName ++ " is " ++ action.status.text ++ "."))

/-! ## Running -/

/-- The artifact that would be run: the JavaScript text, or else the TypeScript text. -/
def resolveExistingSkillArtifact (files : SkillFiles) : Option String :=
  files.primary <|> files.compatibility

/-- `executeRunSkillAction` up to the artifact text that it loads and calls. -/
def executeRunSkillAction (params : JsonObject) (store : SkillStore) :
    Except SkillOutcome (String × String) :=
  match normalizeOptionalString (params.get "name") with
  | none => .error (.blocked "Run skill blocked: missing skill name." "RUN_SKILL_MISSING_NAME")
  | some skillName =>
      if isSafeSkillName skillName = false then
        .error (.blocked "Run skill blocked: invalid skill name format." "RUN_SKILL_INVALID_NAME")
      else if env.pathsStayInsideRoot skillName = false then
        .error (.blocked "Run skill blocked: skill path escaped skills directory."
          "ACTION_EXECUTION_FAILED")
      else
        let manifest := loadManifest env store skillName
        if manifest.any (fun found => decide (found.kind = .markdownInstruction)) then
          .error (.blocked ("Run skill blocked: " ++ skillName ++
            " is a Markdown instruction skill and cannot execute code.")
            "RUN_SKILL_ARTIFACT_MISSING")
        else
          match manifest.filter (fun found => decide (found.lifecycleStatus ≠ .active)) with
          | some found =>
              .error (.blocked ("Run skill blocked: " ++ skillName ++ " is " ++
                found.lifecycleStatus.text ++ ".") "RUN_SKILL_ARTIFACT_MISSING")
          | none =>
              match resolveExistingSkillArtifact (store skillName) with
              | none =>
                  .error (.failed ("Run skill failed: no skill artifact found for " ++ skillName ++
                    ".") "RUN_SKILL_ARTIFACT_MISSING")
              | some artifact => .ok (skillName, artifact)

/-- The runtime skills that the registry lists as active. -/
def listedActive (store : SkillStore) (skillName : String) : Option SkillManifest :=
  (store skillName).manifest.filter fun manifest => decide (manifest.lifecycleStatus = .active)

end AgentBigBrain.Skills
