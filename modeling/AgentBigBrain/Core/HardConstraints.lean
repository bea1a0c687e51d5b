import AgentBigBrain.Core.ActionCostPolicy

/-!
# Hard constraints

The checks of a proposal that no vote can lift. The cost checks compare the deterministic
cost of the action with the per-action cap, and its sum with the cost approved so far with
the cumulative cap. The evaluators of the action families and of communication safety are
the parameter `ConstraintRuntime`.
-/
namespace AgentBigBrain.Core

open Js

structure BrainLimits where
  maxEstimatedCostUsd : ℚ
  maxCumulativeEstimatedCostUsd : ℚ
  maxCumulativeModelSpendUsd : ℚ
  maxCumulativeNonApiModelCalls : ℤ
  perTurnDeadlineMs : ℤ
  maxActionsPerTask : ℤ
  maxPlanAttemptsPerTask : ℤ

/-- The configuration, as far as the task runner reads it. -/
structure BrainConfig where
  limits : BrainLimits
  allowNetworkWriteAction : Bool
  immutableKeywords : List String
  fastPathGovernorIds : List GovernorId
  escalationActionTypes : List ActionType

/-- The evaluators of `constraintRuntime/` and of communication safety. -/
structure ConstraintRuntime where
  /-- Constraints on the parameters of an action of the given type. -/
  evaluateActionFamily : ActionType → JsonObject → List ConstraintViolation
  /-- Impersonation and personal-data constraints. -/
  evaluateCommunication : GovernanceProposal → List ConstraintViolation

def costLimitViolation (config : BrainConfig) (cost : ℚ) : List ConstraintViolation :=
  if config.limits.maxEstimatedCostUsd < cost then
    [⟨.costLimitExceeded, "Deterministic action cost " ++ toFixed 2 cost ++ " exceeds max " ++
      toFixed 2 config.limits.maxEstimatedCostUsd ++ "."⟩]
  else
    []

def cumulativeCostLimitViolation (config : BrainConfig) (projectedCumulativeCostUsd : ℚ) :
    List ConstraintViolation :=
  if config.limits.maxCumulativeEstimatedCostUsd < projectedCumulativeCostUsd then
    [⟨.cumulativeCostLimitExceeded,
      "Projected cumulative action cost " ++ toFixed 2 projectedCumulativeCostUsd ++
        " exceeds task max " ++ toFixed 2 config.limits.maxCumulativeEstimatedCostUsd ++ "."⟩]
  else
    []

/-- A self-modification that is flagged, or whose target holds an immutable keyword. -/
def detectImmutableTouch (host : Host) (config : BrainConfig) (proposal : GovernanceProposal) :
    Bool :=
  proposal.touchesImmutable ||
    match proposal.action.params.get "target" with
    | some (.str target) => target != "" &&
        config.immutableKeywords.any fun keyword => includes (host.toLowerCase target) keyword
    | _ => false

variable (host : Host) (runtime : ConstraintRuntime)

def evaluateHardConstraints (proposal : GovernanceProposal) (config : BrainConfig)
    (cumulativeEstimatedCostUsd : ℚ) : List ConstraintViolation :=
  let action := proposal.action
  let cost := estimateActionCostUsd action.type action.params
  costLimitViolation config cost ++
    cumulativeCostLimitViolation config (cumulativeEstimatedCostUsd + cost) ++
    (if action.type = .selfModify ∧ detectImmutableTouch host config proposal then
      [⟨.immutableViolation, "Proposed self-modification targets immutable constraints."⟩]
    else []) ++
    runtime.evaluateActionFamily action.type action.params ++
    (if action.type = .networkWrite ∧ config.allowNetworkWriteAction = false then
      [⟨.networkWriteDisabled, "Network write actions are disabled by DNA constraints."⟩]
    else []) ++
    runtime.evaluateCommunication proposal

/-- An action without violations fits both cost caps. -/
theorem cost_le_of_evaluateHardConstraints_eq_nil {proposal : GovernanceProposal}
    {config : BrainConfig} {cumulativeEstimatedCostUsd : ℚ}
    (h : evaluateHardConstraints host runtime proposal config cumulativeEstimatedCostUsd = []) :
    estimateActionCostUsd proposal.action.type proposal.action.params ≤
        config.limits.maxEstimatedCostUsd ∧
      cumulativeEstimatedCostUsd +
          estimateActionCostUsd proposal.action.type proposal.action.params ≤
        config.limits.maxCumulativeEstimatedCostUsd := by
  simp only [evaluateHardConstraints, List.append_eq_nil_iff] at h
  obtain ⟨⟨⟨⟨⟨hcost, hcumulative⟩, -⟩, -⟩, -⟩, -⟩ := h
  constructor
  · unfold costLimitViolation at hcost
    split_ifs at hcost with hle
    exact le_of_not_gt hle
  · unfold cumulativeCostLimitViolation at hcumulative
    split_ifs at hcumulative with hle
    exact le_of_not_gt hle

end AgentBigBrain.Core
