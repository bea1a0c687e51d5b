import AgentBigBrain.Core.HardConstraints
import AgentBigBrain.Orchestration.TaskRunnerSummary

/-!
# Task-runner governance

The vote on one proposal: a code review before the council for new skills, then the
fast-path governors or the full council. Anything but an approving decision becomes a
blocked result.
-/
namespace AgentBigBrain.Orchestration

open AgentBigBrain.Core

structure CouncilVote where
  votes : List GovernorVote
  decision : Option MasterDecision

/-- The voters of one proposal. -/
structure GovernanceRuntime where
  /-- The ids of the active governors. -/
  governors : List GovernorId
  evaluateCodeReview : GovernanceProposal → GovernorVote
  /-- The vote of some governors, of which the given ids are expected. -/
  runCouncilVote : GovernanceProposal → List GovernorId → List GovernorId → CouncilVote

structure TaskRunnerGovernanceOutcome where
  combinedVotes : List GovernorVote
  decision : Option MasterDecision
  blockedResult : Option ActionRunResult

def fullCouncilGovernorIds : List GovernorId :=
  [.ethics, .logic, .resource, .security, .continuity, .utility, .compliance]

/-- The code-review vote that precedes the council on a new skill. -/
def codeReviewVotes (runtime : GovernanceRuntime) (action : PlannedAction)
    (proposal : GovernanceProposal) : List GovernorVote :=
  if action.type = .createSkill then [runtime.evaluateCodeReview proposal] else []

/-- The ids of the governors that rejected. -/
def rejectingGovernors (votes : List GovernorVote) : List ActionBlockReason :=
  (votes.filter fun vote => !vote.approve).map fun vote => .governor vote.governorId

/-- The verdict on the votes of a council. -/
def governanceOfCouncil (action : PlannedAction) (mode : ExecutionMode)
    (combinedVotes : List GovernorVote) (decision : Option MasterDecision) :
    TaskRunnerGovernanceOutcome :=
  match decision with
  | none =>
      { combinedVotes := combinedVotes
        decision := none
        blockedResult := some (buildBlockedActionResult action mode
          [.constraint .governanceDecisionMissing]
          [⟨.governanceDecisionMissing,
            "Governance decision missing after council vote; execution denied fail-closed."⟩]
          combinedVotes none .none) }
  | some decision =>
      { combinedVotes := combinedVotes
        decision := some decision
        blockedResult :=
          if decision.approved then
            none
          else
            some (buildBlockedActionResult action mode (rejectingGovernors combinedVotes) []
              combinedVotes (some decision) .none) }

def evaluateTaskRunnerGovernance (runtime : GovernanceRuntime) (config : BrainConfig)
    (action : PlannedAction) (mode : ExecutionMode) (proposal : GovernanceProposal) :
    TaskRunnerGovernanceOutcome :=
  let preflightVotes := codeReviewVotes runtime action proposal
  if preflightVotes.any fun vote => !vote.approve then
    { combinedVotes := preflightVotes
      decision := none
      blockedResult := some (buildBlockedActionResult action mode
        (rejectingGovernors preflightVotes) [] preflightVotes none .none) }
  else
    match mode with
    | .fastPath =>
        let fastGovernors := runtime.governors.filter (· ∈ config.fastPathGovernorIds)
        if fastGovernors = [] then
          { combinedVotes := preflightVotes
            decision := none
            blockedResult := some (buildBlockedActionResult action mode
              [.constraint .governorSetEmpty]
              [⟨.governorSetEmpty, "Fast-path governance denied because no active governors " ++
                "matched fastPathGovernorIds."⟩] [] none .none) }
        else
          let council := runtime.runCouncilVote proposal fastGovernors config.fastPathGovernorIds
          governanceOfCouncil action mode (preflightVotes ++ council.votes) council.decision
    | .escalationPath =>
        let council := runtime.runCouncilVote proposal runtime.governors fullCouncilGovernorIds
        governanceOfCouncil action mode (preflightVotes ++ council.votes) council.decision

/-! ## What a vote says -/

/-- A blocked result refuses the action, and the absence of one needs an approving
decision. -/
structure GovernsFailClosed (action : PlannedAction) (outcome : TaskRunnerGovernanceOutcome) :
    Prop where
  refuses : ∀ result, outcome.blockedResult = some result → Refuses action result
  approves : outcome.blockedResult = none →
    ∃ decision, outcome.decision = some decision ∧ decision.approved = true

lemma governsFailClosed_of_blocked {action : PlannedAction} {outcome : TaskRunnerGovernanceOutcome}
    {result : ActionRunResult} (hblocked : outcome.blockedResult = some result)
    (hrefuses : Refuses action result) : GovernsFailClosed action outcome where
  refuses := by
    intro other hother
    obtain rfl := Option.some.inj (hblocked.symm.trans hother)
    exact hrefuses
  approves := by
    intro hnone
    rw [hblocked] at hnone
    cases hnone

lemma governanceOfCouncil_failClosed (action : PlannedAction) (mode : ExecutionMode)
    (votes : List GovernorVote) (decision : Option MasterDecision) :
    GovernsFailClosed action (governanceOfCouncil action mode votes decision) := by
  cases decision with
  | none => exact governsFailClosed_of_blocked rfl (refuses_buildBlockedActionResult ..)
  | some decision =>
      cases happroved : decision.approved with
      | true =>
          constructor
          · intro result hresult
            simp [governanceOfCouncil, happroved] at hresult
          · intro _
            exact ⟨decision, rfl, happroved⟩
      | false =>
          have hblocked : (governanceOfCouncil action mode votes (some decision)).blockedResult =
              some (buildBlockedActionResult action mode (rejectingGovernors votes) [] votes
                (some decision) .none) := by
            simp [governanceOfCouncil, happroved]
          exact governsFailClosed_of_blocked hblocked (refuses_buildBlockedActionResult ..)

/-- The vote on an action is fail-closed. -/
theorem evaluateTaskRunnerGovernance_failClosed (runtime : GovernanceRuntime)
    (config : BrainConfig) (action : PlannedAction) (mode : ExecutionMode)
    (proposal : GovernanceProposal) : GovernsFailClosed action
      (evaluateTaskRunnerGovernance runtime config action mode proposal) := by
  simp only [evaluateTaskRunnerGovernance]
  split
  · exact governsFailClosed_of_blocked rfl (refuses_buildBlockedActionResult ..)
  · split
    · split
      · exact governsFailClosed_of_blocked rfl (refuses_buildBlockedActionResult ..)
      · exact governanceOfCouncil_failClosed ..
    · exact governanceOfCouncil_failClosed ..

end AgentBigBrain.Orchestration
