import AgentBigBrain.Core.Canonicalization
import AgentBigBrain.Core.Sha256
import AgentBigBrain.Core.Types

/-!
# Approval grants

An approval request names its scope and the digest of a diff; a grant is that request
approved. A use of a grant is checked against digest, mission, action, idempotency key,
expiry and number of uses, in this order.
-/
namespace AgentBigBrain.Core

open Js

inductive ApprovalRiskClass where
  | tier2
  | tier3
  deriving DecidableEq, Repr

structure ApprovalRequest where
  approvalId : String
  missionId : String
  actionIds : List String
  diff : String
  diffHash : String
  riskClass : ApprovalRiskClass
  idempotencyKeys : List String
  expiresAt : String
  maxUses : ℕ

structure ApprovalGrant where
  approvalId : String
  missionId : String
  actionIds : List String
  diffHash : String
  approvedAt : String
  expiresAt : String
  approvedBy : String
  idempotencyKeys : List String
  maxUses : ℕ
  uses : ℕ
  approverPrincipalAccess : Option PrincipalAccessAuditMetadata
  deriving DecidableEq

structure ApprovalUseContext (host : Host) where
  missionId : String
  actionId : String
  idempotencyKey : String
  now : ClockReading host

variable (sha : Sha256) (host : Host)

/-- The scope a caller asks approval for. -/
structure ApprovalScope where
  missionId : String
  actionIds : List String
  diff : String
  riskClass : ApprovalRiskClass
  idempotencyKeys : List String
  expiresAt : String
  maxUses : ℕ

def createApprovalRequest (scope : ApprovalScope) : ApprovalRequest :=
  let approvalIdBasis := String.intercalate "|"
    [scope.missionId, canonicalJson host.locale (.arr (scope.actionIds.map .str)), scope.diff,
      scope.expiresAt]
  { approvalId :=
      "approval_" ++ String.ofList ((sha.digest approvalIdBasis).toList.take 16)
    missionId := scope.missionId
    actionIds := scope.actionIds
    diff := scope.diff
    diffHash := sha.digest scope.diff
    riskClass := scope.riskClass
    idempotencyKeys := scope.idempotencyKeys
    expiresAt := scope.expiresAt
    maxUses := max 1 scope.maxUses }

@[simp]
lemma createApprovalRequest_diffHash (scope : ApprovalScope) :
    (createApprovalRequest sha host scope).diffHash = sha.digest scope.diff := rfl

/-- `Date.parse(nowIso) > Date.parse(expiresAt)`: false when `expiresAt` is no date. -/
def isPast (now : ClockReading host) (expiresAt : String) : Bool :=
  match host.dateParse expiresAt with
  | none => false
  | some t => decide (t < now.ms)

/-- A refusal with its block code and reason; `none` when the use is valid. -/
def validateApprovalGrantUse (request : ApprovalRequest) (grant : ApprovalGrant)
    (context : ApprovalUseContext host) : Option ConstraintViolation :=
  if grant.approvalId ≠ request.approvalId ∨ grant.diffHash ≠ request.diffHash then
    some ⟨.approvalDiffHashMismatch, "Approval grant does not match request diff hash."⟩
  else if grant.missionId ≠ context.missionId ∨ grant.missionId ≠ request.missionId then
    some ⟨.approvalScopeMismatch, "Approval grant mission scope mismatch."⟩
  else if context.actionId ∉ grant.actionIds ∨ context.actionId ∉ request.actionIds then
    some ⟨.approvalScopeMismatch, "Action id is outside approved scope."⟩
  else if context.idempotencyKey ∉ grant.idempotencyKeys then
    some ⟨.approvalScopeMismatch, "Idempotency key is outside approved scope."⟩
  else if isPast host context.now grant.expiresAt then
    some ⟨.approvalExpired, "Approval grant is expired."⟩
  else if grant.maxUses ≤ grant.uses then
    some ⟨.approvalMaxUsesExceeded, "Approval grant max uses exceeded."⟩
  else
    none

def registerApprovalGrantUse (grant : ApprovalGrant) : ApprovalGrant :=
  { grant with uses := grant.uses + 1 }

/-- What an accepted use has been checked for. -/
theorem validateApprovalGrantUse_eq_none {request : ApprovalRequest} {grant : ApprovalGrant}
    {context : ApprovalUseContext host}
    (h : validateApprovalGrantUse host request grant context = none) :
    grant.approvalId = request.approvalId ∧ grant.diffHash = request.diffHash ∧
      isPast host context.now grant.expiresAt = false ∧ grant.uses < grant.maxUses := by
  unfold validateApprovalGrantUse at h
  split_ifs at h with h1 h2 h3 h4 h5 h6
  push Not at h1
  exact ⟨h1.1, h1.2, by simpa using h5, by omega⟩

end AgentBigBrain.Core
