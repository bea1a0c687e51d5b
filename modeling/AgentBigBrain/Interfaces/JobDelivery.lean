import AgentBigBrain.Interfaces.JobQueue
import AgentBigBrain.Interfaces.SessionRecovery

/-!
# Acknowledging, settling and delivering a job

What the acknowledgement timer, the end of an execution and the final delivery make of the record
of a job. Each of them reads the session, may wait for the transport, and writes the record back
among the recent jobs.
-/
namespace AgentBigBrain.Interfaces

open AgentBigBrain.Js AgentBigBrain.Core

variable (platform : Platform)

/-- What the transport answers to a send or an edit. -/
structure ConversationDeliveryResult where
  ok : Bool
  messageId : Option String
  errorCode : Option String
  errorDetail : Option String

/-- The record in the recent jobs and the time of the write in the session. -/
def writeJob (session : ConversationSession) (job : ConversationJob) (nowIso : String)
    (maxRecentJobs : ℕ) : ConversationSession :=
  { upsertRecentJob session job maxRecentJobs with updatedAt := nowIso }

/-! ## The acknowledgement -/

structure AckTimerRecord where
  jobId : String
  generation : ℚ

def AckEligibilityReason.text : AckEligibilityReason → String
  | .ackEditUnsupported => "ACK_EDIT_UNSUPPORTED"
  | .ackAlreadyTerminal => "ACK_ALREADY_TERMINAL"
  | .finalDeliveryAlreadyAttempted => "FINAL_DELIVERY_ALREADY_ATTEMPTED"
  | .ackEligibilityTimestampMissing => "ACK_ELIGIBILITY_TIMESTAMP_MISSING"
  | .ackEligibilityTimestampInvalid => "ACK_ELIGIBILITY_TIMESTAMP_INVALID"
  | .ackDelayNotReached => "ACK_DELAY_NOT_REACHED"

def AckInvariantReason.text : AckInvariantReason → String
  | .ackMessageIdMissing => "ACK_MESSAGE_ID_MISSING"
  | .finalSentWithNonTerminalAckState => "FINAL_SENT_WITH_NON_TERMINAL_ACK_STATE"
  | .finalDeliveryAttemptCountMissing => "FINAL_DELIVERY_ATTEMPT_COUNT_MISSING"

/-- The record a timer that fires is about. -/
def ackTimerJob (session : ConversationSession) (timerRecord : AckTimerRecord) :
    Option ConversationJob :=
  if session.runningJobId ≠ some timerRecord.jobId then none
  else
    (findRecentJob session timerRecord.jobId).filter fun job =>
      decide (job.status = .running) && decide (job.ackTimerGeneration = timerRecord.generation)

/-- What a timer that fires does before it waits for the transport. -/
inductive AckTimerDecision where
  | ignore
  | record (job : ConversationJob)
  | send (job : ConversationJob)

def runningJobDecision (runningJob : ConversationJob) (nowIso : String) (canUseAckTimer : Bool) :
    AckTimerDecision :=
  match deriveAckEligibility platform runningJob nowIso canUseAckTimer with
  | none => .send runningJob
  | some .ackDelayNotReached => .ignore
  | some reason => .record { runningJob with ackLastErrorCode := some reason.text }

def ackTimerDecision (session : ConversationSession) (timerRecord : AckTimerRecord)
    (nowIso : String) (canUseAckTimer : Bool) : AckTimerDecision :=
  match ackTimerJob session timerRecord with
  | none => .ignore
  | some runningJob => runningJobDecision platform runningJob nowIso canUseAckTimer

/-- The record after the send of the acknowledgement. -/
def acknowledgedJob (runningJob : ConversationJob) (delivery : ConversationDeliveryResult)
    (nowIso : String) : ConversationJob :=
  let code := delivery.errorCode.getD "ACK_SEND_FAILED"
  if delivery.ok = false then
    { setConversationAckLifecycleState runningJob .cancelled code with
      ackLastErrorCode := some code }
  else
    match delivery.messageId.filter (· ≠ "") with
    | none =>
        { setConversationAckLifecycleState runningJob .cancelled "ACK_MESSAGE_ID_MISSING" with
          ackLastErrorCode := some "ACK_MESSAGE_ID_MISSING" }
    | some messageId =>
        let sent :=
          { setConversationAckLifecycleState runningJob .sent "ACK_STATE_TRANSITION_BLOCKED" with
            ackMessageId := some messageId
            ackSentAt := some nowIso
            ackLastErrorCode := none }
        match assertAckInvariants sent with
        | none => sent
        | some reason =>
            { setConversationAckLifecycleState sent .cancelled reason.text with
              ackLastErrorCode := some reason.text
              ackMessageId := none }

/-! ## The end of an execution -/

/-- How `executeTask` ended. -/
inductive ExecutionEnd where
  | completed (summary : String)
  | failed (message : String)
  /-- A pulse job that did more than respond. -/
  | blockedPulse
  deriving DecidableEq

/-- `executionResult?.summary`. -/
def ExecutionEnd.summary : ExecutionEnd → Option String
  | .completed summary => some summary
  | .failed _ => none
  | .blockedPulse => some "Blocked: Agent Pulse jobs can only send a response."

def executedJob (job : ConversationJob) (ending : ExecutionEnd) (completedAt : String) :
    ConversationJob :=
  match ending with
  | .completed summary =>
      { job with
        status := .completed
        completedAt := some completedAt
        resultSummary := some summary
        errorMessage := none }
  | .failed message =>
      { job with
        status := .failed
        completedAt := some completedAt
        resultSummary := none
        errorMessage := some message }
  | .blockedPulse =>
      { job with
        status := .failed
        completedAt := some completedAt
        resultSummary := none
        errorMessage :=
          some "Agent Pulse jobs are respond-only and cannot execute side-effect actions." }

/-- The record `persistExecutedJobOutcome` writes, with the summary and the trace that the code
after it puts in their place (a clarification, a closed preview, a retry notice). -/
structure OutcomeTexts where
  resultSummary : Option String → Option String
  recoveryTrace : Option ConversationRecoveryTrace → Option ConversationRecoveryTrace

def OutcomeTexts.keep : OutcomeTexts where
  resultSummary summary := summary
  recoveryTrace trace := trace

def settledJob (persisted executed : ConversationJob) (texts : OutcomeTexts) : ConversationJob :=
  let settled :=
    { persisted with
      status := executed.status
      completedAt := executed.completedAt
      resultSummary := texts.resultSummary executed.resultSummary
      errorMessage := executed.errorMessage
      recoveryTrace := texts.recoveryTrace (executed.recoveryTrace.or persisted.recoveryTrace) }
  match assertAckInvariants settled with
  | none => settled
  | some reason => { settled with ackLastErrorCode := some reason.text }

/-- The record that is left when the persistence of the outcome throws. -/
def recoveredTerminalJob (persisted executed : ConversationJob) (ending : ExecutionEnd) :
    ConversationJob :=
  { persisted with
    status := executed.status
    startedAt := executed.startedAt
    completedAt := executed.completedAt
    resultSummary := (executed.resultSummary.or ending.summary).or persisted.resultSummary
    errorMessage := executed.errorMessage.or persisted.errorMessage
    recoveryTrace := executed.recoveryTrace.or persisted.recoveryTrace
    finalDeliveryOutcome := .notAttempted
    finalDeliveryLastErrorCode := none
    finalDeliveryLastAttemptAt := none }

/-- A system job whose result stays internal counts as sent. -/
def suppressedJob (persisted : ConversationJob) : ConversationJob :=
  { persisted with finalDeliveryOutcome := .sent }

/-! ## The final delivery -/

def isFinalDeliveryTerminal : ConversationFinalDeliveryOutcome → Bool
  | .sent | .rateLimited | .failed => true
  | .notAttempted => false

/-- What the transport does during a final delivery. -/
structure FinalDelivery where
  canUseAckTimer : Bool
  canEdit : Bool
  previewDeliveredFullText : Bool
  edit : ConversationDeliveryResult
  send : ConversationDeliveryResult
  baseNowIso : String
  sendAttemptAt : String

/-- The record a final delivery is about; one that was attempted is not delivered again. -/
def finalDeliveryJob (session : ConversationSession) (jobId : String) : Option ConversationJob :=
  (findRecentJob session jobId).filter fun job => !isFinalDeliveryTerminal job.finalDeliveryOutcome

def editsAck (delivery : FinalDelivery) (job : ConversationJob) : Bool :=
  delivery.canUseAckTimer && canEditAckMessage job && delivery.canEdit

/-- The preview edits the acknowledgement of a job that is no system job. -/
def previewDelivers (delivery : FinalDelivery) (job : ConversationJob) : Bool :=
  !job.isSystemJob && editsAck delivery job && delivery.previewDeliveredFullText

def replacedJob (job : ConversationJob) : ConversationJob :=
  { setConversationAckLifecycleState job .replaced "ACK_REPLACE_STATE_TRANSITION_BLOCKED" with
    finalDeliveryOutcome := .sent
    finalDeliveryLastErrorCode := none
    ackLastErrorCode := none }

def attemptedEdit (job : ConversationJob) (delivery : FinalDelivery) : ConversationJob :=
  { job with
    ackEditAttemptCount := job.ackEditAttemptCount + 1
    finalDeliveryAttemptCount := job.finalDeliveryAttemptCount + 1
    finalDeliveryLastAttemptAt := some delivery.baseNowIso }

def formatDeliveryFailureDetail (errorCode errorDetail : Option String) (fallback : String) :
    String :=
  let code := errorCode.getD fallback
  let detail := trim (errorDetail.getD "")
  if detail = "" then code else code ++ ": " ++ detail

/-- The record after the final send; `editAttempted` tells whether an edit failed before. -/
def sentJob (job : ConversationJob) (delivery : FinalDelivery) (editAttempted : Bool) :
    ConversationJob :=
  let attempted :=
    { job with
      finalDeliveryAttemptCount := job.finalDeliveryAttemptCount + 1
      finalDeliveryLastAttemptAt := some delivery.sendAttemptAt }
  if delivery.send.ok then
    setConversationAckLifecycleState
      { attempted with finalDeliveryOutcome := .sent, finalDeliveryLastErrorCode := none }
      .finalSentNoEdit "ACK_FINAL_NO_EDIT_STATE_TRANSITION_BLOCKED"
  else
    let fallbackFailureCode :=
      if editAttempted then "FINAL_SEND_FAILED_AFTER_EDIT_ATTEMPT" else "FINAL_SEND_FAILED"
    let code := delivery.send.errorCode.getD fallbackFailureCode
    let failed :=
      { attempted with
        finalDeliveryOutcome :=
          if isRateLimitedErrorCode delivery.send.errorCode then .rateLimited else .failed
        finalDeliveryLastErrorCode := some code
        errorMessage :=
          if attempted.status = .completed then none
          else
            some ("Final response delivery failed (" ++
              formatDeliveryFailureDetail delivery.send.errorCode delivery.send.errorDetail
                fallbackFailureCode ++ ").")
        status := if attempted.status = .completed then .completed else .failed }
    { setConversationAckLifecycleState failed .cancelled code with ackLastErrorCode := some code }

/-- The record after a final delivery: an edit of the acknowledgement where there is one, and a
new message where the edit fails. -/
def deliveredJob (job : ConversationJob) (delivery : FinalDelivery) : ConversationJob :=
  if editsAck delivery job then
    let edited := attemptedEdit job delivery
    if previewDelivers delivery job || delivery.edit.ok then replacedJob edited
    else
      let code := delivery.edit.errorCode.getD "ACK_EDIT_FAILED"
      sentJob { edited with ackLastErrorCode := some code, finalDeliveryLastErrorCode := some code }
        delivery true
  else
    sentJob job delivery false

/-- The session a final delivery writes; nothing is written without an open record. -/
def deliverFinalMessage (session : ConversationSession) (jobId : String)
    (delivery : FinalDelivery) (maxRecentJobs : ℕ) : Option ConversationSession :=
  (finalDeliveryJob session jobId).map fun job =>
    writeJob session (deliveredJob job delivery)
      (if editsAck delivery job && (previewDelivers delivery job || delivery.edit.ok) then
        delivery.baseNowIso
      else
        delivery.sendAttemptAt)
      maxRecentJobs

end AgentBigBrain.Interfaces
