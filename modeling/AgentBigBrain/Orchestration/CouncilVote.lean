import AgentBigBrain.Js.Platform
import AgentBigBrain.Orchestration.TaskRunnerGovernance

/-!
# Council votes

What a governor does is turned into a vote before it is counted: a vote that is malformed or
names another governor, a failure and a timeout are all rejections in the governor's name, and
so is the absence of an expected governor. The decision counts the approvals.
-/
namespace AgentBigBrain.Orchestration

open AgentBigBrain.Js AgentBigBrain.Core

/-! ## What a governor returns -/

/-- A value of unknown type, as far as a vote is checked. -/
inductive UnknownValue where
  | undefined
  | nonFiniteNumber
  | json (value : Json)

/-- The members of a returned object that a vote is read from. -/
structure RawVote where
  governorId : UnknownValue
  approve : UnknownValue
  reason : UnknownValue
  confidence : UnknownValue
  rejectCategory : UnknownValue

inductive GovernorBehaviour where
  /-- `none` is a value that is no object. -/
  | returns (rawVote : Option RawVote)
  | rejects
  | timesOut

def allGovernorIds : List GovernorId :=
  [.ethics, .logic, .resource, .security, .continuity, .utility, .compliance, .codeReview]

def governorRejectCategories : List GovernorRejectCategory :=
  [.abuseMalwareOrFraud, .securityBoundary, .identityIntegrity, .compliancePolicy,
    .resourceBudget, .rationaleQuality, .utilityAlignment, .modelAdvisoryBlock,
    .governorTimeoutOrFailure, .governorMalformedVote, .governorMissing, .otherPolicy]

lemma expected_or_codeReview (id : GovernorId) :
    id ∈ fullCouncilGovernorIds ∨ id = .codeReview := by
  cases id <;> decide

/-- The governor id that a value is. -/
def readGovernorId : UnknownValue → Option GovernorId
  | .json (.str text) => allGovernorIds.find? fun id => id.text = text
  | _ => none

/-- `undefined` is no category; `none` where the value is neither. -/
def readRejectCategory : UnknownValue → Option (Option GovernorRejectCategory)
  | .undefined => some none
  | .json (.str text) =>
      (governorRejectCategories.find? fun category => category.text = text).map some
  | _ => none

/-- `isGovernorVoteShape`, with the vote that has the shape. -/
def readGovernorVote (rawVote : RawVote) : Option GovernorVote :=
  match rawVote.approve, rawVote.reason, rawVote.confidence with
  | .json (.bool approve), .json (.str reason), .json (.num confidence) => do
      let governorId ← readGovernorId rawVote.governorId
      let rejectCategory ← readRejectCategory rawVote.rejectCategory
      some
        { governorId := governorId
          approve := approve
          reason := reason
          confidence := confidence
          rejectCategory := rejectCategory }
  | _, _, _ => none

def GovernorVote.toRaw (vote : GovernorVote) : RawVote where
  governorId := .json (.str vote.governorId.text)
  approve := .json (.bool vote.approve)
  reason := .json (.str vote.reason)
  confidence := .json (.num vote.confidence)
  rejectCategory :=
    match vote.rejectCategory with
    | none => .undefined
    | some category => .json (.str category.text)

lemma readGovernorVote_toRaw (vote : GovernorVote) :
    readGovernorVote (GovernorVote.toRaw vote) = some vote := by
  have hid : readGovernorId (.json (.str vote.governorId.text)) = some vote.governorId := by
    cases vote.governorId <;> decide
  obtain ⟨governorId, approve, reason, confidence, rejectCategory⟩ := vote
  cases rejectCategory with
  | none => simp [readGovernorVote, GovernorVote.toRaw, hid, readRejectCategory]
  | some category =>
      have hcategory : readRejectCategory (.json (.str category.text)) = some (some category) := by
        cases category <;> decide
      simp [readGovernorVote, GovernorVote.toRaw, hid, hcategory]

/-! ## The vote that is counted -/

def fallbackVote (governorId : GovernorId) (reason : String)
    (rejectCategory : GovernorRejectCategory) : GovernorVote where
  governorId := governorId
  approve := false
  reason := reason
  confidence := NumberText.ofNat 1
  rejectCategory := some rejectCategory

/-- What arrives within the deadline, or else the fallback. -/
def withTimeout (behaviour : GovernorBehaviour) (fallback : GovernorVote) : Option RawVote :=
  match behaviour with
  | .returns rawVote => rawVote
  | .rejects => some (GovernorVote.toRaw fallback)
  | .timesOut => some (GovernorVote.toRaw fallback)

def normalizeGovernorVote (rawVote : Option RawVote) (expectedGovernorId : GovernorId) :
    GovernorVote :=
  match rawVote.bind readGovernorVote with
  | none =>
      fallbackVote expectedGovernorId "Governor returned malformed vote payload."
        .governorMalformedVote
  | some vote =>
      if vote.governorId ≠ expectedGovernorId then
        fallbackVote expectedGovernorId "Governor returned mismatched governorId."
          .governorMalformedVote
      else vote

def governorVote (behaviour : GovernorBehaviour) (governorId : GovernorId) : GovernorVote :=
  normalizeGovernorVote
    (withTimeout behaviour
      (fallbackVote governorId "Governor timeout or failure." .governorTimeoutOrFailure))
    governorId

/-- The governor returned a vote of its own that has the shape of a vote. -/
def ReturnsVote (behaviour : GovernorBehaviour) (governorId : GovernorId) (vote : GovernorVote) :
    Prop :=
  ∃ rawVote, behaviour = .returns (some rawVote) ∧ readGovernorVote rawVote = some vote ∧
    vote.governorId = governorId

/-- The governor returned a well-formed approving vote. -/
def ReturnsApproval (behaviour : GovernorBehaviour) (governorId : GovernorId) : Prop :=
  ∃ vote, ReturnsVote behaviour governorId vote ∧ vote.approve = true

lemma governorVote_of_returnsVote {behaviour : GovernorBehaviour} {governorId : GovernorId}
    {vote : GovernorVote} (h : ReturnsVote behaviour governorId vote) :
    governorVote behaviour governorId = vote := by
  obtain ⟨rawVote, rfl, hread, hid⟩ := h
  simp [governorVote, withTimeout, normalizeGovernorVote, hread, hid]

/-- A governor that returns no vote of its own is counted as rejecting, in its own name. -/
theorem governorVote_of_no_vote {behaviour : GovernorBehaviour} {governorId : GovernorId}
    (h : ∀ vote, ¬ ReturnsVote behaviour governorId vote) :
    (governorVote behaviour governorId).approve = false ∧
      (governorVote behaviour governorId).governorId = governorId := by
  have hfallback : ∀ reason category,
      normalizeGovernorVote (some (GovernorVote.toRaw (fallbackVote governorId reason category)))
        governorId = fallbackVote governorId reason category := by
    intro reason category
    simp only [normalizeGovernorVote, Option.bind_some, readGovernorVote_toRaw]
    exact if_neg fun hne => hne rfl
  cases behaviour with
  | rejects =>
      rw [governorVote, withTimeout, hfallback]
      exact ⟨rfl, rfl⟩
  | timesOut =>
      rw [governorVote, withTimeout, hfallback]
      exact ⟨rfl, rfl⟩
  | returns rawVote =>
      rw [governorVote, withTimeout, normalizeGovernorVote]
      cases hread : rawVote.bind readGovernorVote with
      | none => exact ⟨rfl, rfl⟩
      | some vote =>
          obtain ⟨object, rfl, hshape⟩ := Option.bind_eq_some_iff.mp hread
          have hne : vote.governorId ≠ governorId := fun hid => h vote ⟨object, rfl, hshape, hid⟩
          simp only [if_pos hne]
          exact ⟨rfl, rfl⟩

lemma approve_governorVote_iff {behaviour : GovernorBehaviour} {governorId : GovernorId} :
    (governorVote behaviour governorId).approve = true ↔ ReturnsApproval behaviour governorId := by
  constructor
  · intro happrove
    by_contra hnone
    by_cases hvote : ∃ vote, ReturnsVote behaviour governorId vote
    · obtain ⟨vote, hreturns⟩ := hvote
      rw [governorVote_of_returnsVote hreturns] at happrove
      exact hnone ⟨vote, hreturns, happrove⟩
    · have hrejects := (governorVote_of_no_vote fun vote hreturns => hvote ⟨vote, hreturns⟩).1
      rw [hrejects] at happrove
      cases happrove
  · rintro ⟨vote, hreturns, happrove⟩
    rw [governorVote_of_returnsVote hreturns]
    exact happrove

/-! ## The decision -/

/-- `MasterGovernor.review`. -/
def review (threshold : ℕ) (votes : List GovernorVote) : MasterDecision where
  approved := decide (threshold ≤ (votes.filter fun vote => vote.approve).length)
  yesVotes := (votes.filter fun vote => vote.approve).length
  noVotes := votes.length - (votes.filter fun vote => vote.approve).length
  threshold := threshold
  dissent := votes.filter fun vote => !vote.approve

def missingGovernorIds (governors expectedGovernorIds : List GovernorId) : List GovernorId :=
  (uniqueValues expectedGovernorIds).filter fun id => id ∉ governors

def runCouncilVote (evaluate : GovernorId → GovernorBehaviour) (governors : List GovernorId)
    (threshold : ℕ) (expectedGovernorIds : List GovernorId) : CouncilVote :=
  let missing := missingGovernorIds governors expectedGovernorIds
  let votes := governors.map (fun id => governorVote (evaluate id) id) ++
    missing.map fun id => fallbackVote id "Governor missing from council set." .governorMissing
  let decision := review threshold votes
  { votes := votes
    decision := some { decision with approved := decision.approved && missing.isEmpty } }

/-- What the code-review governor does; its vote is taken as it is. -/
inductive CodeReviewBehaviour where
  | returns (vote : GovernorVote)
  | rejects
  | timesOut

def evaluateCodeReview : CodeReviewBehaviour → GovernorVote
  | .returns vote => vote
  | .rejects => ⟨.codeReview, false, "Code review governor failure.", NumberText.ofNat 1, none⟩
  | .timesOut => ⟨.codeReview, false, "Code review governor timeout.", NumberText.ofNat 1, none⟩

/-- The governors of a task runner, with what each does on a proposal. -/
structure Council where
  governors : List GovernorId
  distinct : governors.Nodup
  evaluate : GovernorId → GovernanceProposal → GovernorBehaviour
  codeReview : GovernanceProposal → CodeReviewBehaviour
  /-- The approvals that `masterGovernor` asks for. -/
  threshold : ℕ

/-- On the fast path every governor has to approve. -/
def Council.thresholdOf (council : Council) (mode : ExecutionMode) (governorCount : ℕ) : ℕ :=
  match mode with
  | .fastPath => governorCount
  | .escalationPath => council.threshold

def Council.runtime (council : Council) (mode : ExecutionMode) : GovernanceRuntime where
  governors := council.governors
  evaluateCodeReview proposal := evaluateCodeReview (council.codeReview proposal)
  runCouncilVote proposal governors expectedGovernorIds :=
    runCouncilVote (council.evaluate · proposal) governors
      (council.thresholdOf mode governors.length) expectedGovernorIds

/-! ## What an approval stands for -/

section Approval

variable {evaluate : GovernorId → GovernorBehaviour} {governors expectedGovernorIds : List GovernorId}
  {threshold : ℕ}

lemma runCouncilVote_missing {decision : MasterDecision}
    (hdecision :
      (runCouncilVote evaluate governors threshold expectedGovernorIds).decision = some decision)
    (happroved : decision.approved = true) : ∀ id ∈ expectedGovernorIds, id ∈ governors := by
  cases hdecision
  have hmissing : missingGovernorIds governors expectedGovernorIds = [] := by
    simpa using (Bool.and_eq_true_iff.mp happroved).2
  intro id hid
  by_contra hout
  have hmem : id ∈ missingGovernorIds governors expectedGovernorIds :=
    List.mem_filter.mpr ⟨mem_uniqueValues.mpr hid, decide_eq_true hout⟩
  rw [hmissing] at hmem
  cases hmem

/-- The approving votes are the votes of the governors that approve. -/
lemma approvals_of_votes (evaluate : GovernorId → GovernorBehaviour)
    (governors missing : List GovernorId) (reason : String) (category : GovernorRejectCategory) :
    ((governors.map (fun id => governorVote (evaluate id) id) ++
        missing.map fun id => fallbackVote id reason category).filter
          fun vote => vote.approve).length =
      (governors.filter fun id => (governorVote (evaluate id) id).approve).length := by
  rw [List.filter_append, List.length_append, List.filter_map, List.filter_map]
  have hnone : missing.filter ((fun vote => vote.approve) ∘
      fun id => fallbackVote id reason category) = [] :=
    List.filter_eq_nil_iff.mpr fun id _ => by simp [fallbackVote]
  rw [hnone, List.map_nil, List.length_nil, Nat.add_zero, List.length_map]
  rfl

lemma runCouncilVote_approvals {decision : MasterDecision}
    (hdecision :
      (runCouncilVote evaluate governors threshold expectedGovernorIds).decision = some decision)
    (happroved : decision.approved = true) :
    threshold ≤ (governors.filter fun id => (governorVote (evaluate id) id).approve).length := by
  cases hdecision
  have henough := of_decide_eq_true (Bool.and_eq_true_iff.mp happroved).1
  rwa [approvals_of_votes] at henough

/-- Where every governor has to approve, each one has. -/
lemma runCouncilVote_unanimous {decision : MasterDecision}
    (hdecision : (runCouncilVote evaluate governors governors.length
      expectedGovernorIds).decision = some decision)
    (happroved : decision.approved = true) :
    ∀ id ∈ governors, ReturnsApproval (evaluate id) id := by
  have henough := runCouncilVote_approvals hdecision happroved
  have hall : (governors.filter fun id => (governorVote (evaluate id) id).approve) = governors :=
    List.filter_sublist.eq_of_length_le henough
  intro id hid
  have happrove := (List.filter_eq_self.mp hall) id hid
  exact approve_governorVote_iff.mp happrove

lemma rejection_recorded {id : GovernorId} (hid : id ∈ governors)
    (h : ∀ vote, ¬ ReturnsVote (evaluate id) id vote) :
    ∃ vote ∈ (runCouncilVote evaluate governors threshold expectedGovernorIds).votes,
      vote.governorId = id ∧ vote.approve = false := by
  have hvote := governorVote_of_no_vote h
  refine ⟨governorVote (evaluate id) id, ?_, hvote.2, hvote.1⟩
  exact List.mem_append_left _ (List.mem_map.mpr ⟨id, hid, rfl⟩)

end Approval

lemma approved_of_governanceOfCouncil {action : PlannedAction} {mode : ExecutionMode}
    {votes : List GovernorVote} {decision : Option MasterDecision}
    (h : (governanceOfCouncil action mode votes decision).blockedResult = none) :
    (governanceOfCouncil action mode votes decision).combinedVotes = votes ∧
      ∃ verdict, decision = some verdict ∧ verdict.approved = true := by
  cases decision with
  | none => cases h
  | some verdict =>
      refine ⟨rfl, verdict, rfl, ?_⟩
      by_contra hrejected
      simp [governanceOfCouncil, hrejected] at h

/-- The code review of a new skill that is not blocked has approved it. -/
lemma codeReview_of_not_any {council : Council} {mode : ExecutionMode} {action : PlannedAction}
    {proposal : GovernanceProposal}
    (h : ¬ (codeReviewVotes (council.runtime mode) action proposal).any (fun vote => !vote.approve) =
      true) (hskill : action.type = .createSkill) :
    (evaluateCodeReview (council.codeReview proposal)).approve = true := by
  simpa [codeReviewVotes, hskill, Council.runtime] using h

variable (council : Council) (config : BrainConfig) (action : PlannedAction)
  (proposal : GovernanceProposal)

/-- An action that the full council lets through has as many approvals as the threshold asks for,
each of another governor of the council, no expected governor is missing, and whatever is no vote
stands as a rejection. -/
structure ApprovedByCouncil (combinedVotes : List GovernorVote) : Prop where
  present : ∀ id ∈ fullCouncilGovernorIds, id ∈ council.governors
  approvals : ∃ voters : List GovernorId, voters.Nodup ∧ council.threshold ≤ voters.length ∧
    ∀ id ∈ voters, id ∈ council.governors ∧
      (id ∈ fullCouncilGovernorIds ∨ id = .codeReview) ∧
      ReturnsApproval (council.evaluate id proposal) id
  rejections : ∀ id ∈ council.governors,
    (∀ vote, ¬ ReturnsVote (council.evaluate id proposal) id vote) → ∃ vote ∈ combinedVotes, vote.governorId = id ∧ vote.approve = false

/-- An action that is not blocked is approved by the council or by every fast-path governor, and
a new skill by the code review before. -/
theorem approval_failClosed (mode : ExecutionMode)
    (happroved : (evaluateTaskRunnerGovernance (council.runtime mode) config action mode
      proposal).blockedResult = none) :
    (mode = .escalationPath → ApprovedByCouncil council proposal
      (evaluateTaskRunnerGovernance (council.runtime mode) config action mode
        proposal).combinedVotes) ∧
    (mode = .fastPath → ∀ id ∈ config.fastPathGovernorIds,
      id ∈ council.governors ∧ ReturnsApproval (council.evaluate id proposal) id) ∧
    (action.type = .createSkill →
      (evaluateCodeReview (council.codeReview proposal)).approve = true) := by
  unfold evaluateTaskRunnerGovernance at happroved ⊢
  dsimp only at happroved ⊢
  split at happroved
  · cases happroved
  · rename_i hreview
    rw [if_neg hreview]
    refine ⟨?_, ?_, codeReview_of_not_any hreview⟩
    · rintro rfl
      obtain ⟨hvotes, decision, hdecision, hverdict⟩ := approved_of_governanceOfCouncil happroved
      rw [hvotes]
      refine ⟨runCouncilVote_missing hdecision hverdict, ?_, ?_⟩
      · refine ⟨_, council.distinct.filter _, runCouncilVote_approvals hdecision hverdict, ?_⟩
        intro id hid
        obtain ⟨hmem, happrove⟩ := List.mem_filter.mp hid
        exact ⟨hmem, expected_or_codeReview id, approve_governorVote_iff.mp happrove⟩
      · intro id hid hnone
        have hrecorded : ∃ vote ∈ (runCouncilVote (council.evaluate · proposal) council.governors
            council.threshold fullCouncilGovernorIds).votes,
            vote.governorId = id ∧ vote.approve = false := rejection_recorded hid hnone
        obtain ⟨vote, hvote, hrejects⟩ := hrecorded
        exact ⟨vote, List.mem_append_right _ hvote, hrejects⟩
    · rintro rfl
      dsimp only at happroved
      split at happroved
      · cases happroved
      · obtain ⟨-, decision, hdecision, hverdict⟩ := approved_of_governanceOfCouncil happroved
        intro id hid
        have hfast := runCouncilVote_missing hdecision hverdict id hid
        exact ⟨List.mem_of_mem_filter hfast, runCouncilVote_unanimous hdecision hverdict id hfast⟩

/-! ## A malformed vote in an approving council -/

/-- Logic returns no object, compliance runs out of time, and all the others approve. -/
def splitBehaviour (id : GovernorId) : GovernorBehaviour :=
  match id with
  | .logic => .returns none
  | .compliance => .timesOut
  | id => .returns (some (GovernorVote.toRaw ⟨id, true, "ok", NumberText.ofNat 1, none⟩))

/-- A council that the code-review governor sits in as well. -/
def splitCouncil : Council where
  governors := allGovernorIds
  distinct := by decide
  evaluate id _ := splitBehaviour id
  codeReview _ := .timesOut
  threshold := 6

def respondAction : PlannedAction where
  id := "action_1"
  type := .respond
  description := "Respond safely."
  params := .empty
  estimatedCostUsd := 0

def respondProposal : GovernanceProposal where
  id := "proposal_1"
  taskId := "task_1"
  requestedBy := "planner"
  rationale := "Answer the user."
  action := respondAction
  touchesImmutable := false

def fullCouncilConfig : BrainConfig where
  limits := {
    maxEstimatedCostUsd := 1
    maxCumulativeEstimatedCostUsd := 10
    maxCumulativeModelSpendUsd := 10
    maxCumulativeNonApiModelCalls := 100
    perTurnDeadlineMs := 120000
    maxActionsPerTask := 8
    maxPlanAttemptsPerTask := 2 }
  allowNetworkWriteAction := false
  immutableKeywords := []
  fastPathGovernorIds := [.security]
  escalationActionTypes := []

/-- The council approves although an expected governor returns no vote, and only five of the
expected governors approve where the threshold is six. -/
theorem split_council_approves :
    (evaluateTaskRunnerGovernance (splitCouncil.runtime .escalationPath) fullCouncilConfig
        respondAction .escalationPath respondProposal).blockedResult = none ∧
      .logic ∈ fullCouncilGovernorIds ∧
      (∀ vote, ¬ ReturnsVote (splitCouncil.evaluate .logic respondProposal) .logic vote) ∧
      ¬ ∃ voters : List GovernorId, voters.Nodup ∧ splitCouncil.threshold ≤ voters.length ∧
        ∀ id ∈ voters, id ∈ fullCouncilGovernorIds ∧
          ReturnsApproval (splitCouncil.evaluate id respondProposal) id := by
  refine ⟨by decide, by decide, ?_, ?_⟩
  · rintro vote ⟨rawVote, hreturns, -⟩
    cases hreturns
  · rintro ⟨voters, hnodup, henough, hvoters⟩
    have hsubset : voters ⊆ [.ethics, .resource, .security, .continuity, .utility] := by
      intro id hid
      obtain ⟨hexpected, hreturns⟩ := hvoters id hid
      have happrove := approve_governorVote_iff.mpr hreturns
      revert hexpected happrove
      cases id <;> decide
    have hlength := (List.subperm_of_subset hnodup hsubset).length_le
    have hsix : 6 ≤ voters.length := henough
    simp only [List.length_cons, List.length_nil] at hlength
    omega

theorem approval_failClosed_of_split :
    ApprovedByCouncil splitCouncil respondProposal
      (evaluateTaskRunnerGovernance (splitCouncil.runtime .escalationPath) fullCouncilConfig
        respondAction .escalationPath respondProposal).combinedVotes := by
  have happroved : (evaluateTaskRunnerGovernance (splitCouncil.runtime .escalationPath)
      fullCouncilConfig respondAction .escalationPath respondProposal).blockedResult = none := by
    decide
  exact (approval_failClosed splitCouncil fullCouncilConfig respondAction respondProposal
    .escalationPath happroved).1 rfl

end AgentBigBrain.Orchestration
