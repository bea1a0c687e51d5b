import AgentBigBrain.Interfaces.SessionState

/-!
# Acknowledgement and delivery states of a job

The transitions between the acknowledgement states, what is asserted of a job's fields, and
when an acknowledgement may be sent or edited.
-/
namespace AgentBigBrain.Interfaces

open AgentBigBrain.Js

def isAckTerminalState : ConversationAckLifecycleState → Bool
  | .replaced | .finalSentNoEdit | .cancelled => true
  | .notSent | .sent => false

def canTransitionAckLifecycleState (current next : ConversationAckLifecycleState) : Bool :=
  if current = next then true
  else if isAckTerminalState current then false
  else
    match current with
    | .notSent => decide (next = .sent ∨ next = .finalSentNoEdit ∨ next = .cancelled)
    | .sent => decide (next = .replaced ∨ next = .finalSentNoEdit ∨ next = .cancelled)
    | _ => false

inductive AckInvariantReason where
  | ackMessageIdMissing | finalSentWithNonTerminalAckState | finalDeliveryAttemptCountMissing
  deriving DecidableEq

/-- The reason code of the first violation; `none` when the job is fine. -/
def assertAckInvariants (job : ConversationJob) : Option AckInvariantReason :=
  if job.ackLifecycleState = .sent ∧ ¬ (job.ackMessageId.any (· ≠ "")) then
    some .ackMessageIdMissing
  else if job.finalDeliveryOutcome = .sent ∧ job.ackLifecycleState ≠ .replaced ∧
      job.ackLifecycleState ≠ .finalSentNoEdit then
    some .finalSentWithNonTerminalAckState
  else if job.finalDeliveryOutcome ≠ .notAttempted ∧ job.finalDeliveryAttemptCount ≤ 0 then
    some .finalDeliveryAttemptCountMissing
  else
    none

/-- The move where it is allowed; otherwise the acknowledgement is cancelled if it can be, and
the error is noted. -/
def setConversationAckLifecycleState (job : ConversationJob)
    (nextState : ConversationAckLifecycleState) (fallbackErrorCode : String) : ConversationJob :=
  if job.ackLifecycleState = nextState then job
  else if canTransitionAckLifecycleState job.ackLifecycleState nextState then
    { job with ackLifecycleState := nextState }
  else if canTransitionAckLifecycleState job.ackLifecycleState .cancelled then
    { job with ackLifecycleState := .cancelled, ackLastErrorCode := some fallbackErrorCode }
  else
    { job with ackLastErrorCode := some fallbackErrorCode }

inductive AckEligibilityReason where
  | ackEditUnsupported | ackAlreadyTerminal | finalDeliveryAlreadyAttempted
  | ackEligibilityTimestampMissing | ackEligibilityTimestampInvalid | ackDelayNotReached
  deriving DecidableEq

variable (platform : Platform)

/-- Why no acknowledgement may be sent; `none` when it may. -/
def deriveAckEligibility (job : ConversationJob) (nowIso : String) (supportsEdit : Bool) :
    Option AckEligibilityReason :=
  if supportsEdit = false then some .ackEditUnsupported
  else if isAckTerminalState job.ackLifecycleState then some .ackAlreadyTerminal
  else if job.finalDeliveryOutcome ≠ .notAttempted ∨ 0 < job.finalDeliveryAttemptCount then
    some .finalDeliveryAlreadyAttempted
  else
    match job.ackEligibleAt.filter (· ≠ "") with
    | none => some .ackEligibilityTimestampMissing
    | some ackEligibleAt =>
        match platform.dateParse nowIso, platform.dateParse ackEligibleAt with
        | some nowMs, some eligibleAtMs =>
            if nowMs < eligibleAtMs then some .ackDelayNotReached else none
        | _, _ => some .ackEligibilityTimestampInvalid

def canEditAckMessage (job : ConversationJob) : Bool :=
  decide (job.ackLifecycleState = .sent) && job.ackMessageId.any (· ≠ "")

def RATE_LIMIT_ERROR_CODES : List String :=
  ["RATE_LIMITED", "TELEGRAM_RATE_LIMITED", "DISCORD_RATE_LIMITED"]

def isRateLimitedErrorCode (errorCode : Option String) : Bool :=
  errorCode.any fun code => decide (code ∈ RATE_LIMIT_ERROR_CODES)

end AgentBigBrain.Interfaces
