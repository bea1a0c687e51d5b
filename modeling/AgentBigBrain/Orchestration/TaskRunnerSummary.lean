import AgentBigBrain.Core.Types

/-!
# Action results

The two shapes of an action result: a blocked one with its reasons, and an approved one.
-/
namespace AgentBigBrain.Orchestration

open AgentBigBrain.Js AgentBigBrain.Core

/-- The outcome data that a result may carry besides its verdict. -/
structure OutcomeDetails where
  output : Option String
  executionStatus : Option ExecutorExecutionStatus
  executionFailureCode : Option ConstraintViolationCode
  executionMetadata : Option JsonObject

def OutcomeDetails.none : OutcomeDetails where
  output := Option.none
  executionStatus := Option.none
  executionFailureCode := Option.none
  executionMetadata := Option.none

def buildBlockedActionResult (action : PlannedAction) (mode : ExecutionMode)
    (blockedBy : List ActionBlockReason) (violations : List ConstraintViolation)
    (votes : List GovernorVote) (decision : Option MasterDecision) (details : OutcomeDetails) :
    ActionRunResult where
  action := action
  mode := mode
  approved := false
  output := details.output
  executionStatus := details.executionStatus
  executionFailureCode := details.executionFailureCode
  executionMetadata := details.executionMetadata
  blockedBy := blockedBy
  violations := violations
  votes := votes
  decision := decision

def buildApprovedActionResult (action : PlannedAction) (mode : ExecutionMode) (output : String)
    (executionStatus : ExecutorExecutionStatus) (executionMetadata : Option JsonObject)
    (votes : List GovernorVote) (decision : Option MasterDecision) : ActionRunResult where
  action := action
  mode := mode
  approved := true
  output := some output
  executionStatus := some executionStatus
  executionFailureCode := none
  executionMetadata := executionMetadata
  blockedBy := []
  violations := []
  votes := votes
  decision := decision

/-- The result of an action blocked by one constraint before it was voted on. -/
def buildConstraintBlockedResult (action : PlannedAction) (mode : ExecutionMode)
    (code : ConstraintViolationCode) (message : String) : ActionRunResult :=
  buildBlockedActionResult action mode [.constraint code] [⟨code, message⟩] [] none .none

/-- A result that refuses an action names it. -/
def Refuses (action : PlannedAction) (result : ActionRunResult) : Prop :=
  result.action = action ∧ result.approved = false

lemma refuses_buildBlockedActionResult (action : PlannedAction) (mode : ExecutionMode)
    (blockedBy : List ActionBlockReason) (violations : List ConstraintViolation)
    (votes : List GovernorVote) (decision : Option MasterDecision) (details : OutcomeDetails) :
    Refuses action
      (buildBlockedActionResult action mode blockedBy violations votes decision details) :=
  ⟨rfl, rfl⟩

lemma refuses_buildConstraintBlockedResult (action : PlannedAction) (mode : ExecutionMode)
    (code : ConstraintViolationCode) (message : String) :
    Refuses action (buildConstraintBlockedResult action mode code message) :=
  ⟨rfl, rfl⟩

end AgentBigBrain.Orchestration
