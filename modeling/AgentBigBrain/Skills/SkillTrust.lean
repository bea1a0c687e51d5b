import AgentBigBrain.Lib.Runs
import AgentBigBrain.Skills.SkillActions

/-!
# Trust in a skill

Beside the files a ledger keeps what was approved, what passed its self-test, what was revoked and
what the last creation wrote. Along orderly runs the manifest of a skill agrees with its ledger.
-/
namespace AgentBigBrain.Skills

open AgentBigBrain.Js AgentBigBrain.Core AgentBigBrain.Lib

/-! ## Runs -/

/-- What happened to a skill. -/
structure SkillLedger where
  /-- The artifact that was last approved, or created on a request that the runtime established. -/
  approved : Option (SkillKind × String)
  /-- The artifact whose self-test last passed. -/
  tested : Option String
  /-- Rejected or deprecated, and not approved since. -/
  revoked : Bool
  /-- The kind of the artifact that was last created. -/
  created : Option SkillKind

def noSkillLedger : SkillLedger where
  approved := none
  tested := none
  revoked := false
  created := none

structure SkillWorld where
  store : SkillStore
  ledger : String → SkillLedger

/-- Before any skill is created. -/
def noSkills : SkillWorld where
  store _ := noSkillFiles
  ledger _ := noSkillLedger

inductive SkillEvent where
  /-- `userRequested`: the runtime established that the user asked for the skill. -/
  | create (params : JsonObject) (userRequested : Bool) (selfTest : SelfTest) (nowIso : String)
  | update (params : JsonObject)
  | lifecycle (action : SkillLifecycleAction) (params : JsonObject)
  | run (params : JsonObject)

/-- The text of the artifact of the kind. -/
def storedArtifact (kind : SkillKind) (files : SkillFiles) : Option String :=
  match kind with
  | .markdownInstruction => files.instruction
  | .executableModule => resolveExistingSkillArtifact files

variable (env : SkillEnvironment)

/-- The artifact that a creation writes. -/
def createdArtifact (params : JsonObject) : Option (String × SkillKind × String) :=
  match checkCreateSkill env params with
  | .error _ => none
  | .ok (skillName, .markdownInstruction, content) =>
      some (skillName, .markdownInstruction, content)
  | .ok (skillName, .executableModule, code) =>
      match env.compile code with
      | .error _ => none
      | .ok javascriptCode => some (skillName, .executableModule, javascriptCode)

/-- The self-test that the parameters ask for passes. -/
def selfTestPassed (params : JsonObject) (skillName : String) (selfTest : SelfTest)
    (nowIso : String) : Bool :=
  match verifyCreatedSkillArtifact env skillName (extractSkillVerificationConfig params) selfTest
    nowIso with
  | .error _ => false
  | .ok verificationResult => decide (verificationResult.status = .verified)

/-- The runtime skill that the parameters name. -/
def namedSkill (params : JsonObject) (store : SkillStore) : Option (String × SkillManifest) :=
  (normalizeOptionalString (params.get "name")).bind fun skillName =>
    if isSafeSkillName skillName = true ∧ env.pathsStayInsideRoot skillName = true then
      (store skillName).manifest.map fun manifest => (skillName, manifest)
    else none

def SkillLedger.afterCreate (ledger : SkillLedger) (kind : SkillKind) (artifact : String)
    (userRequested passed : Bool) : SkillLedger :=
  { ledger with
    approved := if userRequested then some (kind, artifact) else ledger.approved
    tested := if passed && decide (kind = .executableModule) then some artifact else ledger.tested
    created := some kind }

def SkillLedger.afterLifecycle (ledger : SkillLedger) (action : SkillLifecycleAction)
    (manifest : SkillManifest) (files : SkillFiles) : SkillLedger :=
  if action = .approveSkill then
    if manifest.origin = .builtin then ledger
    else
      { ledger with
        approved := (storedArtifact manifest.kind files).map fun artifact =>
          (manifest.kind, artifact)
        revoked := false }
  else { ledger with revoked := true }

def skillStep (world : SkillWorld) : SkillEvent → SkillWorld
  | .create params userRequested selfTest nowIso =>
      { store := (executeCreateSkillAction env params selfTest nowIso world.store).1
        ledger := match createdArtifact env params with
          | none => world.ledger
          | some (skillName, kind, artifact) =>
              Function.update world.ledger skillName ((world.ledger skillName).afterCreate kind
                artifact userRequested (selfTestPassed env params skillName selfTest nowIso)) }
  | .update params => { world with store := (executeUpdateSkillAction env params world.store).1 }
  | .lifecycle action params =>
      { store := (executeSkillLifecycleAction env action params world.store).1
        ledger := match namedSkill env params world.store with
          | none => world.ledger
          | some (skillName, manifest) =>
              Function.update world.ledger skillName ((world.ledger skillName).afterLifecycle
                action manifest (world.store skillName)) }
  | .run _ => world

/-! ## Trust and its condition -/

/-- The paths of the manifest are those of the kind. -/
def SkillManifest.NamesArtifact (manifest : SkillManifest) (paths : SkillArtifactPaths) : Prop :=
  match manifest.kind with
  | .markdownInstruction =>
      manifest.instructionPath = some paths.instructionPath ∧
        manifest.primaryPath = paths.instructionPath ∧
        manifest.compatibilityPath = paths.instructionPath
  | .executableModule =>
      manifest.instructionPath = none ∧ manifest.primaryPath = paths.primaryPath ∧
        manifest.compatibilityPath = paths.compatibilityPath

structure SkillWorld.Trusted (world : SkillWorld) : Prop where
  /-- What is run was approved as it stands, and not revoked. -/
  run : ∀ params skillName artifact,
    executeRunSkillAction env params world.store = .ok (skillName, artifact) →
      (world.ledger skillName).approved = some (.executableModule, artifact) ∧
        (world.ledger skillName).revoked = false
  /-- What is listed as active was approved as it stands. -/
  listed : ∀ skillName manifest, listedActive world.store skillName = some manifest →
    ∃ artifact, storedArtifact manifest.kind (world.store skillName) = some artifact ∧
      (world.ledger skillName).approved = some (manifest.kind, artifact)
  /-- What is called verified passed its self-test as it stands. -/
  verified : ∀ skillName manifest, (world.store skillName).manifest = some manifest →
    manifest.verificationStatus = .verified →
      ∃ artifact, storedArtifact manifest.kind (world.store skillName) = some artifact ∧
        (world.ledger skillName).tested = some artifact
  /-- The manifest names the artifact that was created last. -/
  named : ∀ skillName manifest, (world.store skillName).manifest = some manifest →
    (world.ledger skillName).created = some manifest.kind ∧
      manifest.NamesArtifact (env.artifactPaths skillName)

/-- The steps that do not meet a defect. -/
def OrderlySkills (world : SkillWorld) : SkillEvent → Prop
  | .create params userRequested _ _ =>
      ∀ created ∈ createdArtifact env params,
        resolveCreateSkillKind env.host params = created.2.1 ∧
          (resolveCreateSkillActivationSource env.host params ≠ .agentSuggestion →
            userRequested = true ∧ (world.ledger created.1).revoked = false)
  | .update params =>
      ∀ named ∈ namedSkill env params world.store, named.2.origin ≠ .builtin →
        (extractMarkdownSkillInstructions params).any
          env.containsUnsafeMarkdownSkillInstructions = false →
        ∀ files ∈ (updatedArtifact env params named.2 (world.store named.1)).toOption,
          storedArtifact named.2.kind files ≠
            storedArtifact named.2.kind (world.store named.1) →
            named.2.lifecycleStatus ≠ .active ∧ named.2.verificationStatus ≠ .verified
  | .lifecycle action params =>
      ∀ named ∈ namedSkill env params world.store,
        action ≠ .approveSkill → named.2.origin = .builtin → named.2.lifecycleStatus ≠ .active
  | .run _ => True

/-! ## The invariant of a skill -/

variable {env}

/-- How the files of a skill agree with its ledger. -/
structure SkillAgrees (paths : SkillArtifactPaths) (files : SkillFiles) (ledger : SkillLedger) :
    Prop where
  artifact_of_manifest : ∀ manifest, files.manifest = some manifest →
    ∃ artifact, storedArtifact manifest.kind files = some artifact
  manifest_of_artifact : files.manifest = none → resolveExistingSkillArtifact files = none
  active : ∀ manifest artifact, files.manifest = some manifest →
    manifest.lifecycleStatus = .active → storedArtifact manifest.kind files = some artifact →
      ledger.approved = some (manifest.kind, artifact) ∧ ledger.revoked = false
  verified : ∀ manifest artifact, files.manifest = some manifest →
    manifest.verificationStatus = .verified → storedArtifact manifest.kind files = some artifact →
      ledger.tested = some artifact
  named : ∀ manifest, files.manifest = some manifest →
    ledger.created = some manifest.kind ∧ manifest.NamesArtifact paths

lemma skillAgrees_noSkill (paths : SkillArtifactPaths) :
    SkillAgrees paths noSkillFiles noSkillLedger where
  artifact_of_manifest _ h := by cases h
  manifest_of_artifact _ := rfl
  active _ _ h := by cases h
  verified _ _ h := by cases h
  named _ h := by cases h

/-- The trust that the files of every skill earn. -/
theorem trusted_of_agrees {world : SkillWorld}
    (h : ∀ skillName, SkillAgrees (env.artifactPaths skillName) (world.store skillName)
      (world.ledger skillName)) : world.Trusted env where
  run params skillName artifact hrun := by
    unfold executeRunSkillAction at hrun
    split at hrun
    · cases hrun
    · dsimp only at hrun
      split_ifs at hrun with hsafe hinside hmarkdown
      split at hrun
      · cases hrun
      · rename_i hactive
        split at hrun
        · cases hrun
        · rename_i hfound
          cases hrun
          cases hmanifest : (world.store skillName).manifest with
          | none =>
              rw [(h skillName).manifest_of_artifact hmanifest] at hfound
              cases hfound
          | some manifest =>
              have hload : loadManifest env world.store skillName = some manifest := by
                simp [loadManifest, hmanifest]
              rw [hload] at hmarkdown hactive
              have hkind : manifest.kind = .executableModule := by
                cases hcase : manifest.kind with
                | executableModule => rfl
                | markdownInstruction => simp [hcase] at hmarkdown
              have hstatus : manifest.lifecycleStatus = .active := by simpa using hactive
              have hstored : storedArtifact manifest.kind (world.store skillName) = some artifact := by
                rw [hkind]
                exact hfound
              have hagrees := (h skillName).active manifest artifact hmanifest hstatus hstored
              rwa [hkind] at hagrees
  listed skillName manifest hlisted := by
    obtain ⟨hmanifest, hstatus⟩ := Option.filter_eq_some_iff.mp hlisted
    obtain ⟨artifact, hartifact⟩ := (h skillName).artifact_of_manifest manifest hmanifest
    exact ⟨artifact, hartifact,
      ((h skillName).active manifest artifact hmanifest (by simpa using hstatus) hartifact).1⟩
  verified skillName manifest hmanifest hstatus := by
    obtain ⟨artifact, hartifact⟩ := (h skillName).artifact_of_manifest manifest hmanifest
    exact ⟨artifact, hartifact,
      (h skillName).verified manifest artifact hmanifest hstatus hartifact⟩
  named skillName manifest hmanifest := (h skillName).named manifest hmanifest

/-- The invariant, for a skill that has a manifest and its artifact. -/
lemma agrees_of_manifest {paths : SkillArtifactPaths} {files : SkillFiles} {ledger : SkillLedger}
    {manifest : SkillManifest} {artifact : String} (hmanifest : files.manifest = some manifest)
    (hstored : storedArtifact manifest.kind files = some artifact)
    (hactive : manifest.lifecycleStatus = .active →
      ledger.approved = some (manifest.kind, artifact) ∧ ledger.revoked = false)
    (hverified : manifest.verificationStatus = .verified → ledger.tested = some artifact)
    (hcreated : ledger.created = some manifest.kind) (hnames : manifest.NamesArtifact paths) :
    SkillAgrees paths files ledger where
  artifact_of_manifest other hother := by
    cases hmanifest.symm.trans hother
    exact ⟨artifact, hstored⟩
  manifest_of_artifact hnone := by
    rw [hnone] at hmanifest
    cases hmanifest
  active other found hother hstatus hfound := by
    cases hmanifest.symm.trans hother
    cases hstored.symm.trans hfound
    exact hactive hstatus
  verified other found hother hstatus hfound := by
    cases hmanifest.symm.trans hother
    cases hstored.symm.trans hfound
    exact hverified hstatus
  named other hother := by
    cases hmanifest.symm.trans hother
    exact ⟨hcreated, hnames⟩

/-! ## Creation -/

lemma namesArtifact_buildSkillManifest (host : Host) (params : JsonObject) (skillName : String)
    (paths : SkillArtifactPaths) :
    (buildSkillManifest host params skillName paths).NamesArtifact paths := by
  unfold SkillManifest.NamesArtifact buildSkillManifest
  dsimp only
  cases hkind : resolveCreateSkillKind host params with
  | markdownInstruction => simp
  | executableModule => simp

/-- A skill becomes active by its creation only where its activation source says so. -/
lemma source_of_active {host : Host} {params : JsonObject} {skillName : String}
    {paths : SkillArtifactPaths}
    (h : (buildSkillManifest host params skillName paths).lifecycleStatus = .active) :
    resolveCreateSkillActivationSource host params ≠ .agentSuggestion := by
  intro hsource
  unfold buildSkillManifest at h
  dsimp only at h
  rw [if_pos hsource] at h
  cases h

lemma approved_afterCreate {params : JsonObject} {artifact : String} {kind : SkillKind}
    {userRequested : Bool} {ledger : SkillLedger} (skillName : String) (passed : Bool)
    (horderly : resolveCreateSkillActivationSource env.host params ≠ .agentSuggestion →
      userRequested = true ∧ ledger.revoked = false)
    (h : (buildSkillManifest env.host params skillName
      (env.artifactPaths skillName)).lifecycleStatus = .active) :
    (ledger.afterCreate kind artifact userRequested passed).approved = some (kind, artifact) ∧
      (ledger.afterCreate kind artifact userRequested passed).revoked = false := by
  obtain ⟨hrequested, hrevoked⟩ := horderly (source_of_active h)
  exact ⟨by simp [SkillLedger.afterCreate, hrequested], hrevoked⟩

lemma agrees_createMarkdownSkill {params : JsonObject} {skillName content : String}
    {userRequested : Bool} {ledger : SkillLedger} (files : SkillFiles) (passed : Bool)
    (hkind : resolveCreateSkillKind env.host params = .markdownInstruction)
    (horderly : resolveCreateSkillActivationSource env.host params ≠ .agentSuggestion →
      userRequested = true ∧ ledger.revoked = false) :
    SkillAgrees (env.artifactPaths skillName)
      (createMarkdownSkill env params skillName content files).1
      (ledger.afterCreate .markdownInstruction content userRequested passed) := by
  have hbuilt : (buildSkillManifest env.host params skillName
      (env.artifactPaths skillName)).kind = .markdownInstruction := hkind
  refine @agrees_of_manifest _ _ _ _ content rfl ?_ ?_ ?_ ?_ ?_
  · rw [hbuilt]
    rfl
  · rw [hbuilt]
    exact approved_afterCreate skillName passed horderly
  · intro hverified
    cases hverified
  · rw [hbuilt]
    rfl
  · exact namesArtifact_buildSkillManifest _ _ _ _

lemma agrees_createExecutableSkill {params : JsonObject} {skillName code javascriptCode : String}
    {userRequested : Bool} {ledger : SkillLedger} (selfTest : SelfTest) (nowIso : String)
    (files : SkillFiles) (hcompile : env.compile code = .ok javascriptCode)
    (hkind : resolveCreateSkillKind env.host params = .executableModule)
    (horderly : resolveCreateSkillActivationSource env.host params ≠ .agentSuggestion →
      userRequested = true ∧ ledger.revoked = false) :
    SkillAgrees (env.artifactPaths skillName)
      (createExecutableSkill env params skillName code selfTest nowIso files).1
      (ledger.afterCreate .executableModule javascriptCode userRequested
        (selfTestPassed env params skillName selfTest nowIso)) := by
  have hbuilt : (buildSkillManifest env.host params skillName
      (env.artifactPaths skillName)).kind = .executableModule := hkind
  have hnames := namesArtifact_buildSkillManifest env.host params skillName
    (env.artifactPaths skillName)
  unfold createExecutableSkill
  rw [hcompile]
  dsimp only
  cases htest : verifyCreatedSkillArtifact env skillName (extractSkillVerificationConfig params)
      selfTest nowIso with
  | error message =>
      refine @agrees_of_manifest _ _ _ _ javascriptCode rfl ?_ ?_ ?_ ?_ hnames
      · rw [hbuilt]
        rfl
      · rw [hbuilt]
        exact approved_afterCreate skillName _ horderly
      · intro hverified
        cases hverified
      · rw [hbuilt]
        rfl
  | ok verificationResult =>
      have hverifiedKind : (applySkillVerificationResult (buildSkillManifest env.host params
          skillName (env.artifactPaths skillName)) verificationResult).kind =
            .executableModule := hkind
      refine @agrees_of_manifest _ _ _ _ javascriptCode rfl ?_ ?_ ?_ ?_ ?_
      · rw [hverifiedKind]
        rfl
      · rw [hverifiedKind]
        exact approved_afterCreate skillName _ horderly
      · intro hverified
        have hpassed : selfTestPassed env params skillName selfTest nowIso = true := by
          unfold selfTestPassed
          rw [htest]
          exact decide_eq_true hverified
        simp [SkillLedger.afterCreate, hpassed]
      · rw [hverifiedKind]
        rfl
      · exact hnames

/-! ## Worlds -/

/-- Every skill agrees with its ledger. -/
def SkillWorld.Agrees (env : SkillEnvironment) (world : SkillWorld) : Prop :=
  ∀ skillName, SkillAgrees (env.artifactPaths skillName) (world.store skillName)
    (world.ledger skillName)

lemma agrees_update {store : SkillStore} {ledger : String → SkillLedger} {name : String}
    {files : SkillFiles} {entry : SkillLedger}
    (h : ∀ skillName, SkillAgrees (env.artifactPaths skillName) (store skillName)
      (ledger skillName))
    (hname : SkillAgrees (env.artifactPaths name) files entry) :
    SkillWorld.Agrees env ⟨Function.update store name files, Function.update ledger name entry⟩ := by
  intro skillName
  by_cases hsame : skillName = name
  · subst hsame
    simpa using hname
  · simpa [hsame] using h skillName

/-- A ledger that stays is one that is written back. -/
lemma agrees_update_files {world : SkillWorld} {name : String} {files : SkillFiles}
    (h : world.Agrees env)
    (hname : SkillAgrees (env.artifactPaths name) files (world.ledger name)) :
    SkillWorld.Agrees env ⟨Function.update world.store name files, world.ledger⟩ := by
  have hupdate := agrees_update h hname
  rwa [Function.update_eq_self] at hupdate

lemma agrees_create {world : SkillWorld} (h : world.Agrees env) {params : JsonObject}
    {userRequested : Bool} {selfTest : SelfTest} {nowIso : String}
    (horderly : OrderlySkills env world (.create params userRequested selfTest nowIso)) :
    (skillStep env world (.create params userRequested selfTest nowIso)).Agrees env := by
  simp only [skillStep, executeCreateSkillAction]
  cases hcheck : checkCreateSkill env params with
  | error outcome =>
      have hnone : createdArtifact env params = none := by
        unfold createdArtifact
        rw [hcheck]
      rw [hnone]
      exact h
  | ok checked =>
      obtain ⟨skillName, kind, content⟩ := checked
      cases kind with
      | markdownInstruction =>
          have hcreated : createdArtifact env params =
              some (skillName, .markdownInstruction, content) := by
            unfold createdArtifact
            rw [hcheck]
          obtain ⟨hkind, hsource⟩ := horderly _ hcreated
          rw [hcreated]
          exact agrees_update h (agrees_createMarkdownSkill _ _ hkind hsource)
      | executableModule =>
          cases hcompile : env.compile content with
          | error message =>
              have hnone : createdArtifact env params = none := by
                unfold createdArtifact
                rw [hcheck]
                dsimp only
                rw [hcompile]
              have hfiles : (createExecutableSkill env params skillName content selfTest nowIso
                  (world.store skillName)).1 = world.store skillName := by
                unfold createExecutableSkill
                rw [hcompile]
              rw [hnone]
              dsimp only
              rw [hfiles, Function.update_eq_self]
              exact h
          | ok javascriptCode =>
              have hcreated : createdArtifact env params =
                  some (skillName, .executableModule, javascriptCode) := by
                unfold createdArtifact
                rw [hcheck]
                dsimp only
                rw [hcompile]
              obtain ⟨hkind, hsource⟩ := horderly _ hcreated
              rw [hcreated]
              exact agrees_update h
                (agrees_createExecutableSkill selfTest nowIso _ hcompile hkind hsource)

/-! ## Update and lifecycle -/

lemma namedSkill_of_mutableSkill {actionName : String} {params : JsonObject} {store : SkillStore}
    {skillName : String} {manifest : SkillManifest}
    (h : mutableSkill env actionName params store = .ok (skillName, manifest)) :
    namedSkill env params store = some (skillName, manifest) ∧ manifest.origin ≠ .builtin := by
  unfold mutableSkill at h
  unfold namedSkill
  cases hname : normalizeOptionalString (params.get "name") with
  | none =>
      rw [hname] at h
      cases h
  | some name =>
      rw [hname] at h
      dsimp only at h
      split_ifs at h with hsafe hinside
      split at h
      · cases h
      · rename_i found hload
        split_ifs at h with hbuiltin
        cases h
        have hstored : (store skillName).manifest = some manifest := by
          cases hruntime : (store skillName).manifest with
          | some runtime =>
              simpa [loadManifest, hruntime] using hload
          | none =>
              -- A built-in skill is not mutable.
              have hbuilt : env.builtIn skillName = some manifest := by
                simpa [loadManifest, hruntime] using hload
              exact absurd (env.builtIn_markdown _ _ hbuilt).2 hbuiltin
        have hsafe' : isSafeSkillName skillName = true := by simpa using hsafe
        have hinside' : env.pathsStayInsideRoot skillName = true := by simpa using hinside
        exact ⟨by simp [hsafe', hinside', hstored], hbuiltin⟩

lemma manifest_of_namedSkill {params : JsonObject} {store : SkillStore} {skillName : String}
    {manifest : SkillManifest} (h : namedSkill env params store = some (skillName, manifest)) :
    (store skillName).manifest = some manifest := by
  obtain ⟨name, -, hstored⟩ := Option.bind_eq_some_iff.mp h
  split_ifs at hstored
  obtain ⟨found, hfound, hpair⟩ := Option.map_eq_some_iff.mp hstored
  cases hpair
  exact hfound

/-- A runtime skill that is not called built-in can be changed. -/
lemma mutableSkill_of_namedSkill {params : JsonObject} {store : SkillStore} {skillName : String}
    {manifest : SkillManifest} (actionName : String)
    (h : namedSkill env params store = some (skillName, manifest))
    (horigin : manifest.origin ≠ .builtin) :
    mutableSkill env actionName params store = .ok (skillName, manifest) := by
  have hmanifest := manifest_of_namedSkill h
  obtain ⟨name, hname, hstored⟩ := Option.bind_eq_some_iff.mp h
  split_ifs at hstored with hchecks
  obtain ⟨found, -, hpair⟩ := Option.map_eq_some_iff.mp hstored
  cases hpair
  unfold mutableSkill
  rw [hname]
  simp [hchecks.1, hchecks.2, loadManifest, hmanifest, horigin]

lemma mutableSkill_of_builtin {params : JsonObject} {store : SkillStore} {skillName : String}
    {manifest : SkillManifest} (actionName : String)
    (h : namedSkill env params store = some (skillName, manifest))
    (horigin : manifest.origin = .builtin) :
    ∃ outcome, mutableSkill env actionName params store = .error outcome := by
  cases hmutable : mutableSkill env actionName params store with
  | error outcome => exact ⟨outcome, rfl⟩
  | ok pair =>
      obtain ⟨hnamed, hnot⟩ := namedSkill_of_mutableSkill hmutable
      cases h.symm.trans hnamed
      exact absurd horigin hnot

/-- An update writes no manifest and, where the artifact is of the other kind, no artifact. -/
lemma updatedArtifact_storedArtifact {params : JsonObject} {manifest : SkillManifest}
    {files updated : SkillFiles} (h : updatedArtifact env params manifest files = .ok updated)
    {artifact : String} (hstored : storedArtifact manifest.kind files = some artifact) :
    ∃ after, storedArtifact manifest.kind updated = some after := by
  unfold updatedArtifact at h
  split at h
  · rename_i markdownInstructions _ hkind _
    cases h
    rw [hkind]
    exact ⟨_, rfl⟩
  · rename_i code hkind _
    rw [hkind]
    cases hcompile : env.compile code with
    | error message =>
        rw [hcompile] at h
        cases h
    | ok javascriptCode =>
        rw [hcompile] at h
        cases h
        exact ⟨javascriptCode, rfl⟩
  · cases h
    exact ⟨artifact, hstored⟩

lemma agrees_skillUpdate {world : SkillWorld} (h : world.Agrees env) {params : JsonObject}
    (horderly : OrderlySkills env world (.update params)) :
    (skillStep env world (.update params)).Agrees env := by
  simp only [skillStep, executeUpdateSkillAction]
  cases hmutable : mutableSkill env "Update skill" params world.store with
  | error outcome => exact h
  | ok pair =>
      obtain ⟨skillName, manifest⟩ := pair
      obtain ⟨hnamed, horigin⟩ := namedSkill_of_mutableSkill hmutable
      have hmanifest := manifest_of_namedSkill hnamed
      have hskill := h skillName
      dsimp only
      by_cases hdanger : (extractMarkdownSkillInstructions params).any
          env.containsUnsafeMarkdownSkillInstructions = true
      · rw [if_pos hdanger]
        exact h
      rw [if_neg hdanger]
      cases hupdated : updatedArtifact env params manifest (world.store skillName) with
      | error message => exact h
      | ok files =>
          obtain ⟨artifact, hartifact⟩ := hskill.artifact_of_manifest manifest hmanifest
          obtain ⟨after, hafter⟩ := updatedArtifact_storedArtifact hupdated hartifact
          have hchanged := horderly _ hnamed horigin (by simpa using hdanger) files
            (by rw [hupdated]; rfl)
          rw [hafter, hartifact] at hchanged
          have hstored : storedArtifact manifest.kind { files with manifest := some manifest } =
              some after := by
            cases hkind : manifest.kind <;> rw [hkind] at hafter <;> exact hafter
          refine agrees_update_files h
            (@agrees_of_manifest _ _ _ _ after rfl hstored ?_ ?_ ?_ ?_)
          · intro hactive
            by_cases hsame : after = artifact
            · rw [hsame]
              exact hskill.active manifest artifact hmanifest hactive hartifact
            · exact absurd hactive (hchanged fun heq => hsame (Option.some.inj heq)).1
          · intro hverified
            by_cases hsame : after = artifact
            · rw [hsame]
              exact hskill.verified manifest artifact hmanifest hverified hartifact
            · exact absurd hverified (hchanged fun heq => hsame (Option.some.inj heq)).2
          · exact (hskill.named manifest hmanifest).1
          · exact (hskill.named manifest hmanifest).2

lemma agrees_lifecycle {world : SkillWorld} (h : world.Agrees env)
    {action : SkillLifecycleAction} {params : JsonObject}
    (horderly : OrderlySkills env world (.lifecycle action params)) :
    (skillStep env world (.lifecycle action params)).Agrees env := by
  simp only [skillStep, executeSkillLifecycleAction]
  cases hnamed : namedSkill env params world.store with
  | none =>
      cases hmutable : mutableSkill env "Skill lifecycle action" params world.store with
      | error outcome => exact h
      | ok pair =>
          have hsome := (namedSkill_of_mutableSkill hmutable).1
          rw [hnamed] at hsome
          cases hsome
  | some pair =>
      obtain ⟨skillName, manifest⟩ := pair
      have hmanifest := manifest_of_namedSkill hnamed
      have hskill := h skillName
      obtain ⟨artifact, hartifact⟩ := hskill.artifact_of_manifest manifest hmanifest
      obtain ⟨hcreated, hnames⟩ := hskill.named manifest hmanifest
      dsimp only
      by_cases horigin : manifest.origin = .builtin
      · -- A skill that its creation called built-in is not touched.
        obtain ⟨outcome, hmutable⟩ :=
          mutableSkill_of_builtin "Skill lifecycle action" hnamed horigin
        rw [hmutable]
        dsimp only
        have hentry : SkillAgrees (env.artifactPaths skillName) (world.store skillName)
            ((world.ledger skillName).afterLifecycle action manifest (world.store skillName)) := by
          unfold SkillLedger.afterLifecycle
          split_ifs with happrove
          · exact hskill
          · refine agrees_of_manifest hmanifest hartifact ?_ ?_ hcreated hnames
            · intro hactive
              exact absurd hactive (horderly _ hnamed happrove horigin)
            · exact fun hverified =>
                hskill.verified manifest artifact hmanifest hverified hartifact
        have hupdate := agrees_update h hentry
        rwa [Function.update_eq_self] at hupdate
      · rw [mutableSkill_of_namedSkill "Skill lifecycle action" hnamed horigin]
        dsimp only
        refine agrees_update h ?_
        have hstored : storedArtifact manifest.kind
            { world.store skillName with manifest := some (action.updated manifest) } =
              some artifact := by
          cases hkind : manifest.kind <;> rw [hkind] at hartifact <;> exact hartifact
        refine @agrees_of_manifest _ _ _ (action.updated manifest) artifact rfl hstored ?_ ?_ ?_
          hnames
        · intro hactive
          unfold SkillLedger.afterLifecycle
          cases action with
          | approveSkill =>
              simp [horigin, hartifact, SkillLifecycleAction.updated]
          | rejectSkill => cases hactive
          | deprecateSkill => cases hactive
        · intro hverified
          have htested := hskill.verified manifest artifact hmanifest hverified hartifact
          unfold SkillLedger.afterLifecycle
          split_ifs <;> exact htested
        · unfold SkillLedger.afterLifecycle
          split_ifs <;> exact hcreated

theorem agrees_skillStep {world : SkillWorld} {event : SkillEvent} (h : world.Agrees env)
    (horderly : OrderlySkills env world event) : (skillStep env world event).Agrees env := by
  cases event with
  | create params userRequested selfTest nowIso => exact agrees_create h horderly
  | update params => exact agrees_skillUpdate h horderly
  | lifecycle action params => exact agrees_lifecycle h horderly
  | run params => exact h

/-- After any orderly run of skill actions, what is run or listed as active was approved as it
stands, what is called verified passed its self-test as it stands, nothing revoked is run, and
every manifest names the artifact that was created last. -/
theorem skills_trusted_along {events : List SkillEvent} {world : SkillWorld}
    (h : Along (fun world event => some (skillStep env world event)) (OrderlySkills env) noSkills
      events)
    (hrun : run (fun world event => some (skillStep env world event)) noSkills events =
      some world) : world.Trusted env := by
  have hstart : noSkills.Agrees env := fun _ => skillAgrees_noSkill _
  have hagrees : world.Agrees env := by
    refine invariant_of_along ?_ hstart h hrun
    intro state event next hstate horderly hnext
    cases hnext
    exact agrees_skillStep hstate horderly
  exact trusted_of_agrees hagrees

/-! ## Runs of one skill -/

instance decidableOrderlySkills (world : SkillWorld) :
    ∀ event, Decidable (OrderlySkills env world event)
  | .create .. | .update _ | .lifecycle _ _ => inferInstanceAs (Decidable (∀ _ ∈ _, _))
  | .run _ => inferInstanceAs (Decidable True)

/-- An environment whose compiler takes every code as it stands. -/
def plainEnvironment : SkillEnvironment where
  host := Host.ofTables [] []
  compile code := .ok code
  containsUnsafeMarkdownSkillInstructions _ := false
  artifactPaths name :=
    { instructionPath := "/skills/" ++ name ++ ".md"
      primaryPath := "/skills/" ++ name ++ ".js"
      compatibilityPath := "/skills/" ++ name ++ ".ts" }
  pathsStayInsideRoot _ := true
  builtIn _ := none
  builtIn_markdown _ _ h := by cases h

def plainSkillStep (world : SkillWorld) (event : SkillEvent) : Option SkillWorld :=
  some (skillStep plainEnvironment world event)

def skillNamed : JsonObject :=
  ⟨[("name", .str "greet")], by simp [Json.DistinctKeys, Json.DistinctKeysMembers]⟩

def skillCode (code : String) : JsonObject :=
  ⟨[("name", .str "greet"), ("code", .str code), ("expectedOutputContains", .str "hello")],
    by simp [Json.DistinctKeys, Json.DistinctKeysMembers]⟩

def requestedSkill (code : String) : JsonObject :=
  ⟨[("name", .str "greet"), ("code", .str code),
      ("activationSource", .str "explicit_user_request")],
    by simp [Json.DistinctKeys, Json.DistinctKeysMembers]⟩

def guideSkill : JsonObject :=
  ⟨[("name", .str "greet"), ("kind", .str "guide"), ("instructions", .str "Greet politely.")],
    by simp [Json.DistinctKeys, Json.DistinctKeysMembers]⟩

def createRequested (code : String) : SkillEvent :=
  .create (requestedSkill code) true .noCallable "2026-03-01T10:00:00.000Z"

def approvedSkillRun : List SkillEvent :=
  [.create (skillCode "export default () => 'hello'") false (.returned "hello")
      "2026-03-01T10:00:00.000Z",
    .lifecycle .approveSkill skillNamed, .run skillNamed, .lifecycle .rejectSkill skillNamed]

theorem skills_trusted_along_approved :
    Along plainSkillStep (OrderlySkills plainEnvironment) noSkills approvedSkillRun ∧
      ∃ world, run plainSkillStep noSkills approvedSkillRun = some world ∧
        world.Trusted plainEnvironment := by
  have horderly : Along plainSkillStep (OrderlySkills plainEnvironment) noSkills
      approvedSkillRun := by
    decide
  exact ⟨horderly, _, rfl, skills_trusted_along horderly rfl⟩

/-- An update of active code, a planner's word for a user's, a creation after a rejection, and a
kind that the two readers understand differently. -/
theorem skills_not_trusted :
    ¬ (skillStep plainEnvironment (skillStep plainEnvironment noSkills
        (createRequested "export default () => 'hello'"))
        (.update (skillCode "export default () => 'gone'"))).Trusted plainEnvironment ∧
      ¬ (skillStep plainEnvironment noSkills
        (.create (requestedSkill "export default () => 1") false .noCallable
          "2026-03-01T10:00:00.000Z")).Trusted plainEnvironment ∧
      ¬ (skillStep plainEnvironment (skillStep plainEnvironment (skillStep plainEnvironment noSkills
        (createRequested "export default () => 1"))
        (.lifecycle .rejectSkill skillNamed))
        (createRequested "export default () => 2")).Trusted plainEnvironment ∧
      ¬ (skillStep plainEnvironment noSkills
        (.create guideSkill false .noCallable "2026-03-01T10:00:00.000Z")).Trusted
          plainEnvironment := by
  refine ⟨fun h => ?_, fun h => ?_, fun h => ?_, fun h => ?_⟩
  · have hrun := h.run skillNamed "greet" "export default () => 'gone'" (by decide)
    exact absurd hrun.1 (by decide)
  · have hrun := h.run skillNamed "greet" "export default () => 1" (by decide)
    exact absurd hrun.1 (by decide)
  · have hrun := h.run skillNamed "greet" "export default () => 2" (by decide)
    exact absurd hrun.2 (by decide)
  · have hnamed := h.named "greet" (buildSkillManifest plainEnvironment.host guideSkill "greet"
      (plainEnvironment.artifactPaths "greet")) (by decide)
    exact absurd hnamed.1 (by decide)

end AgentBigBrain.Skills
