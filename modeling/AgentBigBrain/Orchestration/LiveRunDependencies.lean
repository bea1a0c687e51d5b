import AgentBigBrain.Js.Persisted
import AgentBigBrain.Orchestration.DuplicateActions

/-!
# What the live-run guards follow

Proof and browser actions wait for the start of their target, and everything in a workspace
for its prerequisites. The loop remembers each failure in the outcomes of its actions. What
is remembered is never taken back, so the guards follow the newest outcome only in the runs
in which no outcome would have to take something back.
-/
namespace AgentBigBrain.Orchestration

open AgentBigBrain.Js AgentBigBrain.Core

variable (sha : Sha256) (host : Host) (input : RunPlanActionsInput)

/-! ## Starts -/

/-- The host and the port that a start was for. -/
def startTarget (result : ActionRunResult) : Option (String × ℤ) :=
  let metadata := result.executionMetadata.getD JsonObject.empty
  match loopbackMarker host (asString (metadata.get "processRequestedHost")),
    normalizeLoopbackPort (metadata.get "processRequestedPort") with
  | some hostname, some port => some (hostname, port)
  | _, _ =>
      let command := (asString (result.action.params.get "command")).getD ""
      (inferManagedProcessLoopbackTarget host command).map fun hint => ("localhost", hint.port)

/-- A start that has succeeded or failed; one that was refused has not been tried. -/
def IsStartOutcome (result : ActionRunResult) (target : String × ℤ) : Prop :=
  result.action.type = .startProcess ∧
    (result.approved = true ∨ result.executionFailureCode = some .processStartFailed) ∧
    startTarget host result = some target

/-- The newest start of the target among the outcomes has failed. -/
def LatestStartFailed (outcomes : List ActionRunResult) (target : String × ℤ) : Prop :=
  ∃ before result after, outcomes = before ++ result :: after ∧
    IsStartOutcome host result target ∧ result.approved = false ∧
    ∀ later ∈ after, ¬ IsStartOutcome host later target

def Remembered (failedTargets : List FailedManagedProcessStartTarget) (target : String × ℤ) :
    Prop :=
  ∃ failed ∈ failedTargets, (failed.host, failed.port) = target

lemma resolveFailedManagedProcessStartTarget_map (result : ActionRunResult) :
    (resolveFailedManagedProcessStartTarget host result).map
        (fun failed => (failed.host, failed.port)) =
      if result.action.type ≠ .startProcess ∨ result.approved = true ∨
          result.executionFailureCode ≠ some .processStartFailed then
        none
      else
        startTarget host result := by
  unfold resolveFailedManagedProcessStartTarget startTarget
  split_ifs
  · rfl
  dsimp only
  cases loopbackMarker host (asString
    ((result.executionMetadata.getD JsonObject.empty).get "processRequestedHost")) with
  | none => simp only [Option.map_map, Function.comp_def]
  | some hostname =>
      cases normalizeLoopbackPort
        ((result.executionMetadata.getD JsonObject.empty).get "processRequestedPort") with
      | none => simp only [Option.map_map, Function.comp_def]
      | some port => rfl

/-- The failed starts are those that the loop remembers. -/
lemma resolveFailed_eq_some_iff {result : ActionRunResult} {target : String × ℤ} :
    (resolveFailedManagedProcessStartTarget host result).map
        (fun failed => (failed.host, failed.port)) = some target ↔
      IsStartOutcome host result target ∧ result.approved = false := by
  rw [resolveFailedManagedProcessStartTarget_map]
  unfold IsStartOutcome
  split_ifs with h
  · constructor
    · intro hnone
      cases hnone
    · rintro ⟨⟨htype, hend, -⟩, hdenied⟩
      rw [hdenied] at hend
      simp only [Bool.false_eq_true, false_or] at hend
      simp [htype, hend, hdenied] at h
  · push Not at h
    obtain ⟨htype, happroved, hcode⟩ := h
    have hdenied : result.approved = false := by simpa using happroved
    simp [htype, hcode, hdenied]

/-- One outcome adds the target of a failed start, and takes nothing back. -/
lemma remembered_remember {failedTargets : List FailedManagedProcessStartTarget}
    {result : ActionRunResult} {target : String × ℤ} :
    Remembered (rememberFailedManagedProcessStartTarget host failedTargets result) target ↔
      IsStartOutcome host result target ∧ result.approved = false ∨
        Remembered failedTargets target := by
  rw [← resolveFailed_eq_some_iff]
  unfold rememberFailedManagedProcessStartTarget Remembered
  cases resolveFailedManagedProcessStartTarget host result with
  | none => simp
  | some resolved =>
      simp only [List.mem_cons, List.mem_filter, exists_eq_or_imp, Option.map_some,
        Option.some.injEq]
      constructor
      · rintro (htarget | ⟨failed, ⟨hmem, -⟩, htarget⟩)
        · exact Or.inl htarget
        · exact Or.inr ⟨failed, hmem, htarget⟩
      · rintro (htarget | ⟨failed, hmem, htarget⟩)
        · exact Or.inl htarget
        · by_cases hsame : (resolved.host, resolved.port) = target
          · exact Or.inl hsame
          · refine Or.inr ⟨failed, ⟨hmem, ?_⟩, htarget⟩
            rw [← htarget, Prod.mk.injEq] at hsame
            simp only [Bool.not_eq_true', Bool.and_eq_false_iff, beq_eq_false_iff_ne]
            by_contra hboth
            push Not at hboth
            exact hsame ⟨hboth.1.symm, hboth.2.symm⟩

lemma latestStartFailed_append {outcomes : List ActionRunResult} {result : ActionRunResult}
    {target : String × ℤ} :
    LatestStartFailed host (outcomes ++ [result]) target ↔
      IsStartOutcome host result target ∧ result.approved = false ∨
        ¬ IsStartOutcome host result target ∧ LatestStartFailed host outcomes target := by
  constructor
  · rintro ⟨before, found, after, hsplit, hstart, hdenied, hlater⟩
    induction after using List.reverseRecOn with
    | nil =>
        obtain ⟨-, hlast⟩ := List.append_inj' hsplit rfl
        obtain rfl : result = found := by simpa using hlast
        exact Or.inl ⟨hstart, hdenied⟩
    | append_singleton after last _ =>
        rw [← List.cons_append, ← List.append_assoc] at hsplit
        obtain ⟨hinit, hlast⟩ := List.append_inj' hsplit rfl
        obtain rfl : result = last := by simpa using hlast
        refine Or.inr ⟨hlater _ (by simp), before, found, after, hinit, hstart, hdenied, ?_⟩
        exact fun later hmem => hlater later (by simp [hmem])
  · rintro (⟨hstart, hdenied⟩ | ⟨hother, before, found, after, rfl, hstart, hdenied, hlater⟩)
    · exact ⟨outcomes, result, [], rfl, hstart, hdenied, by simp⟩
    · refine ⟨before, found, after ++ [result], by simp, hstart, hdenied, ?_⟩
      intro later hmem
      rcases List.mem_append.mp hmem with hmem | hmem
      · exact hlater later hmem
      · rw [List.mem_singleton.mp hmem]
        exact hother

lemma evaluateDependentLiveRunTargetBlock_isSome {action : PlannedAction} {target : LoopbackTarget}
    (htarget : resolveDependentLoopbackTarget host action = some target) (mode : ExecutionMode)
    (failedTargets : List FailedManagedProcessStartTarget) :
    (evaluateDependentLiveRunTargetBlock host action mode failedTargets).isSome = true ↔
      Remembered failedTargets (target.host, target.port) := by
  simp only [evaluateDependentLiveRunTargetBlock, htarget, Option.bind_eq_bind, Option.bind_some,
    Option.isSome_bind, Remembered, Prod.mk.injEq]
  cases hfind : failedTargets.find? fun candidate =>
      candidate.host == target.host && candidate.port == target.port with
  | none =>
      rw [List.find?_eq_none] at hfind
      simp only [Option.any_none, Bool.false_eq_true, false_iff]
      rintro ⟨failed, hmem, hsame⟩
      exact hfind failed hmem (by simp [hsame])
  | some failed =>
      have hsame := List.find?_some hfind
      simp only [Bool.and_eq_true, beq_iff_eq] at hsame
      exact iff_of_true rfl ⟨failed, List.mem_of_find?_eq_some hfind, hsame⟩

/-! ## Targets that an action can name -/

lemma inferManagedProcessLoopbackTarget_port {command : String}
    {hint : ManagedProcessLoopbackTargetHint}
    (h : inferManagedProcessLoopbackTarget host command = some hint) :
    1 ≤ hint.port ∧ hint.port ≤ 65535 := by
  obtain ⟨pattern, -, hfound⟩ := List.exists_of_findSome?_eq_some h
  simp only [Option.bind_eq_bind, Option.bind_eq_some_iff] at hfound
  obtain ⟨digits, -, hport⟩ := hfound
  by_cases hrange : digitsValue digits < 1 ∨ digitsValue digits > 65535
  · rw [if_pos hrange] at hport
    cases hport
  · simp only [hrange, if_false, Option.pure_def, Option.some.injEq] at hport
    obtain rfl := hport
    dsimp only
    omega

lemma startTarget_nameable {result : ActionRunResult} {target : String × ℤ}
    (h : startTarget host result = some target) :
    target.1 = "localhost" ∧ 1 ≤ target.2 ∧ target.2 ≤ 65535 := by
  unfold startTarget at h
  dsimp only at h
  split at h
  · rename_i hostname port hhost hport
    obtain rfl := Option.some.inj h
    obtain ⟨-, -, rfl⟩ := Option.map_eq_some_iff.mp hhost
    simp only [normalizeLoopbackPort, Option.bind_eq_bind, Option.bind_eq_some_iff] at hport
    obtain ⟨n, -, hn⟩ := hport
    by_cases hrange : n < 1 ∨ n > 65535
    · rw [if_pos hrange] at hn
      cases hn
    · simp only [hrange, if_false, Option.pure_def, Option.some.injEq] at hn
      obtain rfl := hn
      exact ⟨rfl, by omega, by omega⟩
  · obtain ⟨hint, hhint, rfl⟩ := Option.map_eq_some_iff.mp h
    exact ⟨rfl, inferManagedProcessLoopbackTarget_port host hhint⟩

/-- A probe of a port of this machine. -/
def portProbe (port : ℤ) : PlannedAction where
  id := "probe"
  type := .probePort
  description := "Probe the port."
  params := ⟨[("host", .str "localhost"), ("port", .num (NumberText.ofInt port))],
    by simp [Json.DistinctKeys, Json.DistinctKeysMembers]⟩
  estimatedCostUsd := 0

lemma resolveDependentLoopbackTarget_portProbe
    (hlower : host.toLowerCase "localhost" = "localhost") {port : ℤ} (hlow : 1 ≤ port)
    (hhigh : port ≤ 65535) :
    ∃ url, resolveDependentLoopbackTarget host (portProbe port) =
      some ⟨"localhost", port, url⟩ := by
  have hhost : loopbackMarker host (asString ((portProbe port).params.get "host")) =
      some "localhost" := by
    have htrim : trim "localhost" = "localhost" := by decide
    have hstrip : stripBrackets "localhost" = "localhost" := by decide
    simp [portProbe, JsonObject.get, loopbackMarker, normalizeLoopbackHost, asString, htrim,
      hlower, hstrip]
  obtain ⟨n, rfl⟩ := Int.eq_ofNat_of_zero_le (show 0 ≤ port by omega)
  have hport : normalizeLoopbackPort ((portProbe n).params.get "port") = some (n : ℤ) := by
    have hvalue : asInteger ((portProbe n).params.get "port") = some (n : ℤ) := by
      change (NumberText.ofNat n).toInt = some (n : ℤ)
      exact NumberText.toInt_ofNat n
    have hrange : ¬ ((n : ℤ) < 1 ∨ (n : ℤ) > 65535) := by omega
    simp only [normalizeLoopbackPort, hvalue, hrange, Option.bind_eq_bind, Option.bind_some,
      if_false, Option.pure_def]
  refine ⟨some ("http://" ++ "localhost" ++ ":" ++ toString (n : ℤ)), ?_⟩
  change (do
    let hostname ← loopbackMarker host (asString ((portProbe n).params.get "host"))
    let port ← normalizeLoopbackPort ((portProbe n).params.get "port")
    return (⟨hostname, port, some ("http://" ++ hostname ++ ":" ++ toString port)⟩ :
      LoopbackTarget)) = _
  rw [hhost, hport]
  rfl

/-! ## Prerequisites of a workspace -/

/-- A workspace command that did not succeed. -/
def FailedPrerequisite (result : ActionRunResult) : Prop :=
  result.approved = false ∧ (readWorkspaceRoot result.action).isSome = true ∧
    (resolveWorkspaceDependencyStage result.action).isSome = true

def rootsOf (failedDependencies : List FailedWorkspaceExecutionDependency) : List String :=
  failedDependencies.map (·.workspaceRoot)

/-- A remembered workspace stays. -/
lemma rootsOf_remember {failedDependencies : List FailedWorkspaceExecutionDependency}
    (result : ActionRunResult) {root : String} (h : root ∈ rootsOf failedDependencies) :
    root ∈ rootsOf (rememberFailedWorkspaceExecutionDependency failedDependencies result) := by
  unfold rememberFailedWorkspaceExecutionDependency
  split_ifs
  · exact h
  split
  · rename_i workspaceRoot stage _ _
    obtain ⟨failed, hmem, rfl⟩ := List.mem_map.mp h
    by_cases hsame : failed.workspaceRoot = workspaceRoot
    · rw [hsame]
      exact List.mem_cons_self
    · refine List.mem_cons_of_mem _ (List.mem_map_of_mem (List.mem_filter.mpr ⟨hmem, ?_⟩))
      simpa using hsame
  · exact h

lemma rootsOf_failed (failedDependencies : List FailedWorkspaceExecutionDependency)
    {result : ActionRunResult} (h : FailedPrerequisite result) :
    ∃ root, readWorkspaceRoot result.action = some root ∧
      root ∈ rootsOf (rememberFailedWorkspaceExecutionDependency failedDependencies result) := by
  obtain ⟨hdenied, hroot, hstage⟩ := h
  obtain ⟨root, hroot⟩ := Option.isSome_iff_exists.mp hroot
  obtain ⟨stage, hstage⟩ := Option.isSome_iff_exists.mp hstage
  refine ⟨root, hroot, ?_⟩
  simp [rememberFailedWorkspaceExecutionDependency, hdenied, hroot, hstage, rootsOf]

/-- Everything in a remembered workspace is blocked. -/
lemma evaluateDependentWorkspaceExecutionBlock_of_root {action : PlannedAction} {root : String}
    (hroot : readWorkspaceRoot action = some root) (mode : ExecutionMode)
    {failedDependencies : List FailedWorkspaceExecutionDependency}
    (h : root ∈ rootsOf failedDependencies) :
    evaluateDependentWorkspaceExecutionBlock host action mode failedDependencies ≠ none := by
  obtain ⟨failed, hmem, hsame⟩ := List.mem_map.mp h
  simp only [evaluateDependentWorkspaceExecutionBlock, resolveWorkspaceRootForDependentAction,
    hroot, Option.bind_eq_bind, Option.bind_some]
  cases hfind : failedDependencies.find? fun candidate => candidate.workspaceRoot == root with
  | none =>
      rw [List.find?_eq_none] at hfind
      exact absurd (by simpa using hsame) (hfind failed hmem)
  | some found => simp

/-! ## The outcomes of a run -/

/-- The outcome of an action that the guards in front of the preflight have let pass. -/
def turnOutcome (it : Iteration host) (action : PlannedAction) (state next : RunnerState) :
    Option ActionRunResult :=
  match admitAction sha host input it action state with
  | .error _ => none
  | .ok _ => next.attemptResults.getLast?

def outcomesFrom (state : RunnerState) : List (PlannedAction × Iteration host) →
    List ActionRunResult
  | [] => []
  | (action, it) :: rest =>
      match step sha host input it action state with
      | .error _ => []
      | .ok next => (turnOutcome sha host input it action state next).toList ++
          outcomesFrom next rest

/-- The outcomes of a plan, in order. -/
def runOutcomes (actions : List (PlannedAction × Iteration host)) : List ActionRunResult :=
  outcomesFrom sha host input (initialState input) actions

lemma outcomesFrom_append_singleton {x : PlannedAction × Iteration host}
    (actions : List (PlannedAction × Iteration host)) :
    ∀ {state mid next : RunnerState}, runFrom sha host input state actions = .ok mid →
      step sha host input x.2 x.1 mid = .ok next →
      outcomesFrom sha host input state (actions ++ [x]) =
        outcomesFrom sha host input state actions ++
          (turnOutcome sha host input x.2 x.1 mid next).toList := by
  induction actions with
  | nil =>
      intro state mid next hrun hstep
      obtain rfl := Except.ok.inj hrun
      simp [outcomesFrom, hstep]
  | cons y actions ih =>
      intro state mid next hrun hstep
      unfold runFrom at hrun
      cases hfirst : step sha host input y.2 y.1 state with
      | error stopped =>
          rw [hfirst] at hrun
          cases hrun
      | ok second =>
          rw [hfirst] at hrun
          simp only [List.cons_append, outcomesFrom, hfirst, ih hrun hstep, List.append_assoc]

/-- What the loop remembers of a recorded result. -/
structure RemembersResult (state next : RunnerState) (result : ActionRunResult) : Prop where
  results : next.attemptResults = state.attemptResults ++ [result]
  targets : next.failedManagedProcessStartTargets =
    rememberFailedManagedProcessStartTarget host state.failedManagedProcessStartTargets result
  dependencies : next.failedWorkspaceExecutionDependencies =
    rememberFailedWorkspaceExecutionDependency state.failedWorkspaceExecutionDependencies result

section Turns

variable {sha host input} {it : Iteration host} {action : PlannedAction}
  {admission : Admission} {state next : RunnerState}

lemma rememberFailedManagedProcessStartTarget_of_other {result : ActionRunResult}
    (h : result.approved = true ∨ result.action.type ≠ .startProcess)
    (failedTargets : List FailedManagedProcessStartTarget) :
    rememberFailedManagedProcessStartTarget host failedTargets result = failedTargets := by
  have hnone : resolveFailedManagedProcessStartTarget host result = none := by
    unfold resolveFailedManagedProcessStartTarget
    rw [if_pos (by tauto)]
  rw [rememberFailedManagedProcessStartTarget, hnone]

lemma rememberFailedWorkspaceExecutionDependency_of_other {result : ActionRunResult}
    (h : result.approved = true ∨ result.action.type ≠ .shellCommand)
    (failedDependencies : List FailedWorkspaceExecutionDependency) :
    rememberFailedWorkspaceExecutionDependency failedDependencies result =
      failedDependencies := by
  unfold rememberFailedWorkspaceExecutionDependency
  rcases h with happroved | htype
  · rw [if_pos happroved]
  · have hstage : resolveWorkspaceDependencyStage result.action = none := by
      rw [resolveWorkspaceDependencyStage, if_pos htype]
    rw [hstage]
    split_ifs
    · rfl
    · cases readWorkspaceRoot result.action <;> rfl

lemma executeAdmitted_remembers {votes : List GovernorVote} {decision : MasterDecision}
    (h : executeAdmitted sha host input it action admission votes decision state = .ok next) :
    ∃ result, RemembersResult host state next result := by
  simp only [executeAdmitted] at h
  split at h
  · cases h
  rename_i executed hexecuted
  split_ifs at h with happroved
  · obtain rfl := Except.ok.inj h
    exact ⟨executed.actionResult, rfl,
      (rememberFailedManagedProcessStartTarget_of_other (Or.inl happroved) _).symm,
      (rememberFailedWorkspaceExecutionDependency_of_other (Or.inl happroved) _).symm⟩
  · obtain rfl := Except.ok.inj h
    exact ⟨executed.actionResult, rfl, rfl, rfl⟩

/-- Whatever an admitted action comes to, its result is remembered as such. -/
lemma governAdmitted_remembers (htype : admission.effectiveAction.type = action.type)
    (h : governAdmitted sha host input it action admission state = .ok next) :
    ∃ result, RemembersResult host state next result := by
  simp only [governAdmitted] at h
  split at h
  · obtain rfl := Except.ok.inj h
    exact ⟨_, rfl, rfl, rfl⟩
  split at h
  · cases h
  split at h
  · obtain rfl := Except.ok.inj h
    exact ⟨_, rfl, rfl, rfl⟩
  split at h
  · cases h
  split at h
  · rename_i result hresult
    obtain rfl := Except.ok.inj h
    have hrespond : result.action.type = .respond := by
      rw [(verificationBlock_refuses input hresult).1, htype]
      simp only [verificationBlock] at hresult
      split_ifs at hresult with hclaim
      exact hclaim.1
    exact ⟨result, rfl,
      (rememberFailedManagedProcessStartTarget_of_other (Or.inr (by simp [hrespond])) _).symm,
      (rememberFailedWorkspaceExecutionDependency_of_other (Or.inr (by simp [hrespond])) _).symm⟩
  · obtain ⟨result, hremembers⟩ := executeAdmitted_remembers h
    exact ⟨result, hremembers.results, hremembers.targets, hremembers.dependencies⟩

/-- A turn remembers its outcome, and nothing where it has none. -/
lemma step_remembers (h : step sha host input it action state = .ok next) :
    match turnOutcome sha host input it action state next with
    | none => next.failedManagedProcessStartTargets = state.failedManagedProcessStartTargets ∧
        next.failedWorkspaceExecutionDependencies = state.failedWorkspaceExecutionDependencies
    | some result => RemembersResult host state next result := by
  have hprocess := processAction_of_step h
  unfold processAction at hprocess
  split_ifs at hprocess
  unfold turnOutcome
  cases haccepted : admitAction sha host input it action state with
  | error blocked =>
      rw [haccepted] at hprocess
      obtain rfl := Except.ok.inj hprocess
      exact ⟨rfl, rfl⟩
  | ok admission =>
      rw [haccepted] at hprocess
      have hsame : SameButParams action admission.effectiveAction :=
        (admitAction_ok sha host input haccepted).1 ▸ rewriteAction_same host input action state
      obtain ⟨result, hremembers⟩ := governAdmitted_remembers hsame.type_eq hprocess
      have hlast : next.attemptResults.getLast? = some result := by
        rw [hremembers.results, List.getLast?_append_of_ne_nil _ (by simp)]
        rfl
      simp only [hlast]
      exact hremembers

lemma step_roots {root : String} (h : step sha host input it action state = .ok next)
    (hroot : root ∈ rootsOf state.failedWorkspaceExecutionDependencies) :
    root ∈ rootsOf next.failedWorkspaceExecutionDependencies := by
  have hremembers := step_remembers h
  split at hremembers
  · rw [hremembers.2]
    exact hroot
  · rw [hremembers.dependencies]
    exact rootsOf_remember _ hroot

end Turns

/-- A workspace with a failed prerequisite is remembered for the rest of the run. -/
lemma runFrom_roots {root : String} (actions : List (PlannedAction × Iteration host)) :
    ∀ {state last : RunnerState}, runFrom sha host input state actions = .ok last →
      root ∈ rootsOf state.failedWorkspaceExecutionDependencies →
      root ∈ rootsOf last.failedWorkspaceExecutionDependencies := by
  induction actions with
  | nil =>
      intro state last h hroot
      obtain rfl := Except.ok.inj h
      exact hroot
  | cons x actions ih =>
      intro state last h hroot
      unfold runFrom at h
      cases hstep : step sha host input x.2 x.1 state with
      | error stopped =>
          rw [hstep] at h
          cases h
      | ok next =>
          rw [hstep] at h
          exact ih h (step_roots hstep hroot)

/-! ## Following the outcomes -/

/-- The guards of a state agree with the outcomes so far: a target is blocked while its newest
start has failed, and no prerequisite that failed is blocked for good. -/
structure GuardsFollow (outcomes : List ActionRunResult) (state : RunnerState) : Prop where
  targets : ∀ action mode target, resolveDependentLoopbackTarget host action = some target →
    ((evaluateDependentLiveRunTargetBlock host action mode
        state.failedManagedProcessStartTargets).isSome = true ↔
      LatestStartFailed host outcomes (target.host, target.port))
  prerequisites : ∀ result ∈ outcomes, FailedPrerequisite result → ∀ mode,
    ∃ more last, runFrom sha host input state more = .ok last ∧
      evaluateDependentWorkspaceExecutionBlock host result.action mode
        last.failedWorkspaceExecutionDependencies = none

/-- An outcome that does not lift a remembered failure, and leaves no workspace behind. -/
structure Settles (state : RunnerState) (outcome : ActionRunResult) : Prop where
  start : outcome.approved = true → ∀ target, IsStartOutcome host outcome target →
    ¬ Remembered state.failedManagedProcessStartTargets target
  prerequisite : ¬ FailedPrerequisite outcome

/-- Every outcome of the run settles. -/
def OutcomesSettle (actions : List (PlannedAction × Iteration host)) : Prop :=
  ∀ n action it state next outcome, actions[n]? = some (action, it) →
    runPlanActions sha host input (actions.take n) = .ok state →
    step sha host input it action state = .ok next →
    turnOutcome sha host input it action state next = some outcome →
    Settles host state outcome

/-- In every state that the run reaches, the guards follow the outcomes. -/
def GuardsFollowRun (actions : List (PlannedAction × Iteration host)) : Prop :=
  ∀ n state, runPlanActions sha host input (actions.take n) = .ok state →
    GuardsFollow sha host input (runOutcomes sha host input (actions.take n)) state

/-- What carries over from one state to the next. -/
structure FollowsExactly (outcomes : List ActionRunResult) (state : RunnerState) : Prop where
  targets : ∀ target, Remembered state.failedManagedProcessStartTargets target ↔
    LatestStartFailed host outcomes target
  prerequisites : ∀ result ∈ outcomes, ¬ FailedPrerequisite result

section Follow

variable {sha host input} {actions : List (PlannedAction × Iteration host)}
  {outcomes : List ActionRunResult} {state next : RunnerState} {n : ℕ}

lemma FollowsExactly.guards (h : FollowsExactly host outcomes state) :
    GuardsFollow sha host input outcomes state where
  targets := by
    intro action mode target htarget
    rw [evaluateDependentLiveRunTargetBlock_isSome host htarget mode]
    exact h.targets _
  prerequisites := fun result hmem hfailed => absurd hfailed (h.prerequisites result hmem)

lemma FollowsExactly.of_result {result : ActionRunResult} (h : FollowsExactly host outcomes state)
    (hremembers : RemembersResult host state next result) (hsettles : Settles host state result) :
    FollowsExactly host (outcomes ++ [result]) next where
  targets := by
    intro target
    rw [hremembers.targets, remembered_remember, latestStartFailed_append, h.targets]
    by_cases hstart : IsStartOutcome host result target
    · cases happroved : result.approved with
      | true =>
          have hnone := hsettles.start happroved target hstart
          rw [h.targets] at hnone
          simp [hstart, hnone]
      | false => simp [hstart]
    · simp [hstart]
  prerequisites := by
    intro result' hmem
    rcases List.mem_append.mp hmem with hmem | hmem
    · exact h.prerequisites result' hmem
    · rw [List.mem_singleton.mp hmem]
      exact hsettles.prerequisite

/-- A run that has come to the next position has made the turn of this one. -/
lemma runPlanActions_turn
    (h : runPlanActions sha host input (actions.take (n + 1)) = .ok next) :
    runPlanActions sha host input (actions.take n) = .ok next ∧
        actions.take (n + 1) = actions.take n ∨
      ∃ x state, actions[n]? = some x ∧ actions.take (n + 1) = actions.take n ++ [x] ∧
        runPlanActions sha host input (actions.take n) = .ok state ∧
        step sha host input x.2 x.1 state = .ok next := by
  cases hx : actions[n]? with
  | none =>
      have hlength := List.getElem?_eq_none_iff.mp hx
      have htake : actions.take (n + 1) = actions.take n := by
        rw [List.take_of_length_le hlength, List.take_of_length_le (by omega)]
      rw [htake] at h
      exact Or.inl ⟨h, htake⟩
  | some x =>
      obtain ⟨state, hstate, -⟩ := runPlanActions_take (Nat.le_succ n) h
      refine Or.inr ⟨x, state, rfl, ?_, hstate, runPlanActions_succ hx hstate h⟩
      rw [List.take_add_one, hx]
      rfl

/-- The outcomes of a run after one more turn. -/
lemma runOutcomes_turn {x : PlannedAction × Iteration host}
    (hstate : runPlanActions sha host input (actions.take n) = .ok state)
    (hstep : step sha host input x.2 x.1 state = .ok next) :
    runOutcomes sha host input (actions.take n ++ [x]) =
      runOutcomes sha host input (actions.take n) ++
        (turnOutcome sha host input x.2 x.1 state next).toList :=
  outcomesFrom_append_singleton sha host input _ hstate hstep

lemma followsExactly_of_settles (hsettle : OutcomesSettle sha host input actions) :
    ∀ n state, runPlanActions sha host input (actions.take n) = .ok state →
      FollowsExactly host (runOutcomes sha host input (actions.take n)) state := by
  intro n
  induction n with
  | zero =>
      intro state h
      obtain rfl := Except.ok.inj h
      constructor
      · intro target
        simp [Remembered, initialState, LatestStartFailed, runOutcomes, outcomesFrom]
      · simp [runOutcomes, outcomesFrom]
  | succ n ih =>
      intro next h
      rcases runPlanActions_turn h with ⟨hsame, htake⟩ | ⟨x, state, hx, htake, hstate, hstep⟩
      · rw [htake]
        exact ih next hsame
      · have hfollows := ih state hstate
        have hremembers := step_remembers hstep
        rw [htake, runOutcomes_turn hstate hstep]
        cases houtcome : turnOutcome sha host input x.2 x.1 state next with
        | none =>
            rw [houtcome] at hremembers
            rw [Option.toList_none, List.append_nil]
            refine ⟨fun target => ?_, hfollows.prerequisites⟩
            rw [hremembers.1]
            exact hfollows.targets target
        | some result =>
            rw [houtcome] at hremembers
            exact hfollows.of_result hremembers
              (hsettle n x.1 x.2 state next result hx hstate hstep houtcome)

/-- A turn whose outcome does not settle leaves guards that do not follow. -/
lemma settles_of_guardsFollow (hlower : host.toLowerCase "localhost" = "localhost")
    {outcome : ActionRunResult}
    (hremembers : RemembersResult host state next outcome)
    (hguards : GuardsFollow sha host input (outcomes ++ [outcome]) next) :
    Settles host state outcome where
  start := by
    intro happroved target hstart hremembered
    obtain ⟨hhost, hlow, hhigh⟩ := startTarget_nameable host hstart.2.2
    obtain ⟨url, hprobe⟩ := resolveDependentLoopbackTarget_portProbe host hlower hlow hhigh
    have hblocked := hguards.targets _ .fastPath _ hprobe
    rw [evaluateDependentLiveRunTargetBlock_isSome host hprobe, ← hhost, hremembers.targets,
      remembered_remember, latestStartFailed_append] at hblocked
    simp [hstart, happroved, hremembered] at hblocked
  prerequisite := by
    intro hfailed
    obtain ⟨root, hroot, hmem⟩ :=
      rootsOf_failed state.failedWorkspaceExecutionDependencies hfailed
    rw [← hremembers.dependencies] at hmem
    obtain ⟨more, last, hrun, hnone⟩ :=
      hguards.prerequisites outcome (by simp) hfailed .fastPath
    exact evaluateDependentWorkspaceExecutionBlock_of_root host hroot .fastPath
      (runFrom_roots sha host input more hrun hmem) hnone

lemma outcomesSettle_of_guardsFollow (hlower : host.toLowerCase "localhost" = "localhost")
    (h : GuardsFollowRun sha host input actions) : OutcomesSettle sha host input actions := by
  intro n action it state next outcome hx hstate hstep houtcome
  have hremembers := step_remembers hstep
  rw [houtcome] at hremembers
  have htake : actions.take (n + 1) = actions.take n ++ [(action, it)] := by
    rw [List.take_add_one, hx]
    rfl
  have hnext : runPlanActions sha host input (actions.take (n + 1)) = .ok next := by
    unfold runPlanActions at hstate ⊢
    rw [htake, runFrom_append, hstate]
    simp only [runFrom, hstep]
  have hguards := h (n + 1) next hnext
  rw [htake, runOutcomes_turn hstate hstep, houtcome] at hguards
  exact settles_of_guardsFollow hlower hremembers hguards

end Follow

/-! ### A server started twice -/

def startServer (id : String) : PlannedAction where
  id := id
  type := .startProcess
  description := "Start the server."
  params := ⟨[("command", .str "python3 -m http.server 3000")],
    by simp [Json.DistinctKeys, Json.DistinctKeysMembers]⟩
  estimatedCostUsd := 0

def serverMetadata : JsonObject where
  members := [("processRequestedHost", .str "localhost"),
    ("processRequestedPort", .num (.ofNat 3000))]
  distinct := by simp [Json.DistinctKeys, Json.DistinctKeysMembers]

/-- The executor answers a start with one outcome. -/
def startIteration (status : ExecutorExecutionStatus)
    (failureCode : Option ConstraintViolationCode) : Iteration plainHost :=
  { failingIteration with
    execution := { failingIteration.execution with
      executeWithOutcome := fun _ => .ok {
        status := status
        output := "http://localhost:3000"
        failureCode := failureCode
        executionMetadata := some serverMetadata } } }

/-- The port is occupied at first, and free at the second try. -/
def restartedServer : List (PlannedAction × Iteration plainHost) :=
  [(startServer "action_1", startIteration .failed (some .processStartFailed)),
    (startServer "action_2", startIteration .success none)]

/-- The digests behind the ids of the two starts. -/
def serverSha : Sha256 :=
  Sha256.ofTable
    [("task_1|1|intake|start_process|\x7b\"command\":\"python3 -m http.server 3000\"\x7d",
        "9863b758c065c84b9c62baf453152632177681d2229ec93075a399f1f665a772"),
      ("task_1|1|retrieve|start_process|\x7b\"command\":\"python3 -m http.server 3000\"\x7d",
        "dc733fcf2e879cf58818c62904b6bc58c8805d143d5dba0402867eed1d8177ae")]
    ((validTable_nil.cons (by decide) (by decide)).cons (by decide) (by decide))

/-- In a run the guards follow the outcomes exactly if no start succeeds on a target whose
failure is remembered and no prerequisite of a workspace fails. -/
theorem guards_follow_iff (hlower : host.toLowerCase "localhost" = "localhost")
    (actions : List (PlannedAction × Iteration host)) :
    GuardsFollowRun sha host input actions ↔ OutcomesSettle sha host input actions := by
  constructor
  · exact outcomesSettle_of_guardsFollow hlower
  · intro hsettle n state hstate
    exact (followsExactly_of_settles hsettle n state hstate).guards

/-- Two commands that name no workspace. -/
theorem guards_follow_commands :
    GuardsFollowRun commandSha plainHost repeatingInput (failingAttempts 1).actions ↔
      OutcomesSettle commandSha plainHost repeatingInput (failingAttempts 1).actions :=
  guards_follow_iff commandSha plainHost repeatingInput (by decide) _

lemma restartedServer_outcomes :
    (runOutcomes serverSha plainHost repeatingInput restartedServer).map
        (fun outcome => (outcome.action.type, outcome.approved,
          startTarget plainHost outcome)) =
      [(.startProcess, false, some ("localhost", 3000)),
        (.startProcess, true, some ("localhost", 3000))] := by
  decide +kernel

lemma restartedServer_blocked :
    (runPlanActions serverSha plainHost repeatingInput restartedServer).isOk = true ∧
      (evaluateDependentLiveRunTargetBlock plainHost (portProbe 3000) .fastPath
        (finalState (runPlanActions serverSha plainHost repeatingInput
          restartedServer)).failedManagedProcessStartTargets).isSome = true := by
  decide +kernel

/-- The second start has succeeded, and a probe of its port is still blocked. -/
theorem restarted_server_stays_blocked :
    ¬ GuardsFollowRun serverSha plainHost repeatingInput restartedServer := by
  intro h
  have hguards := h 2
  rw [show restartedServer.take 2 = restartedServer from rfl] at hguards
  obtain ⟨hok, hblocked⟩ := restartedServer_blocked
  obtain ⟨url, hprobe⟩ : ∃ url, resolveDependentLoopbackTarget plainHost (portProbe 3000) =
      some ⟨"localhost", 3000, url⟩ :=
    resolveDependentLoopbackTarget_portProbe plainHost (by decide) (by decide) (by decide)
  cases hrun : runPlanActions serverSha plainHost repeatingInput restartedServer with
  | error stopped =>
      rw [hrun] at hok
      cases hok
  | ok state =>
      rw [hrun] at hblocked
      have hfailed := ((hguards state hrun).targets _ .fastPath _ hprobe).mp hblocked
      obtain ⟨first, rest, houtcomes, -, hrest⟩ :=
        List.map_eq_cons_iff.mp restartedServer_outcomes
      obtain ⟨second, rest, rfl, hsecond, hnil⟩ := List.map_eq_cons_iff.mp hrest
      obtain rfl := List.map_eq_nil_iff.mp hnil
      simp only [Prod.mk.injEq] at hsecond
      obtain ⟨htype, happroved, htarget⟩ := hsecond
      have hstart : IsStartOutcome plainHost second ("localhost", 3000) :=
        ⟨htype, Or.inl happroved, htarget⟩
      rw [houtcomes, show [first, second] = [first] ++ [second] from rfl,
        latestStartFailed_append] at hfailed
      simp [hstart, happroved] at hfailed

end AgentBigBrain.Orchestration
