import AgentBigBrain.Interfaces.SessionStore

/-!
# The job queue of a conversation

A request is appended to the queue of its session; the worker takes the first job of the queue,
marks it as running and records it among the recent jobs.
-/
namespace AgentBigBrain.Interfaces

open AgentBigBrain.Js AgentBigBrain.Core AgentBigBrain.Lib

/-! ## Enqueueing -/

def formatQueuedRequestCount (count : ℕ) : String :=
  Nat.repr count ++ " request" ++ if count = 1 then "" else "s"

def buildQueuedAcknowledgement (session : ConversationSession) : String :=
  let waitingAhead := session.queuedJobs.length - 1
  let verb := if waitingAhead = 1 then "is" else "are"
  if truthy session.runningJobId then
    if 0 < waitingAhead then
      "I got your request and added it to the queue. " ++ formatQueuedRequestCount waitingAhead ++
        " " ++ verb ++ " already lined up behind the work in progress, so this will start after " ++
        "those. I'll keep you posted here."
    else
      "I got your request and added it behind the work already in progress. " ++
        "It will start as soon as the current request finishes. I'll keep you posted here."
  else if 0 < waitingAhead then
    "I got your request and added it to the queue. " ++ formatQueuedRequestCount waitingAhead ++
      " " ++ verb ++ " already waiting ahead of it. I'll keep you posted here."
  else
    "I got your request and added it to the queue. It is next in line, and I'll keep you posted here."

structure EnqueueResult where
  reply : String
  shouldStartWorker : Bool
  deriving DecidableEq

/-- The arguments of an enqueue, with the generated id of the job. -/
structure EnqueueInput where
  jobId : String
  input : String
  receivedAt : String
  executionInput : Option String
  isSystemJob : Bool
  pulseMetadata : Option PulseSystemJobMetadata

section Enqueue

-- what the principal context of a session says of the jobs it starts
variable (principalSnapshotOf : Option Json → ConversationJobPrincipalSnapshot)

def newConversationJob (session : ConversationSession) (input : EnqueueInput) :
    ConversationJob where
  id := input.jobId
  input := input.input
  executionInput := some (input.executionInput.getD input.input)
  createdAt := input.receivedAt
  startedAt := none
  completedAt := none
  status := .queued
  resultSummary := none
  errorMessage := none
  recoveryTrace := none
  isSystemJob := input.isSystemJob
  ackTimerGeneration := 0
  ackEligibleAt := none
  ackLifecycleState := .notSent
  ackMessageId := none
  ackSentAt := none
  ackEditAttemptCount := 0
  ackLastErrorCode := none
  finalDeliveryOutcome := .notAttempted
  finalDeliveryAttemptCount := 0
  finalDeliveryLastErrorCode := none
  finalDeliveryLastAttemptAt := none
  pauseRequestedAt := none
  pulseMetadata := input.pulseMetadata
  principalSnapshot := some (principalSnapshotOf session.principalContext)

/-- The session with the job at the end of its queue, and whether a worker is to start. -/
def enqueueConversationJob (session : ConversationSession) (input : EnqueueInput) :
    ConversationSession × EnqueueResult :=
  let queued :=
    { session with
      queuedJobs := session.queuedJobs ++ [newConversationJob principalSnapshotOf session input]
      updatedAt := input.receivedAt }
  let hadActiveWork := truthy queued.runningJobId || decide (1 < queued.queuedJobs.length)
  if hadActiveWork then
    (queued, { shouldStartWorker := false, reply := buildQueuedAcknowledgement queued })
  else
    (queued, { shouldStartWorker := true, reply := "" })

end Enqueue

/-! ## Starting a job -/

/-- What the start of a job reads from the clock, and the message it shows. -/
structure StartReadings where
  startedAt : String
  ackEligibleAt : String
  progressMessage : String

def startedJob (job : ConversationJob) (readings : StartReadings) : ConversationJob :=
  { job with
    status := .running
    startedAt := some readings.startedAt
    completedAt := none
    errorMessage := none
    resultSummary := none
    recoveryTrace := none
    ackMessageId := none
    ackSentAt := none
    ackLastErrorCode := none
    ackEditAttemptCount := 0
    ackEligibleAt := some readings.ackEligibleAt
    finalDeliveryOutcome := .notAttempted
    finalDeliveryAttemptCount := 0
    finalDeliveryLastErrorCode := none
    finalDeliveryLastAttemptAt := none }

def markQueuedJobRunning (session : ConversationSession) (job : ConversationJob)
    (readings : StartReadings) (maxRecentJobs : ℕ) : ConversationSession :=
  upsertRecentJob
    { session with
      runningJobId := some job.id
      updatedAt := readings.startedAt
      progressState := some
        { status := .working
          message := readings.progressMessage
          jobId := some job.id
          updatedAt := readings.startedAt
          recoveryTrace := none } }
    (startedJob job readings) maxRecentJobs

/-- One turn of the worker loop up to its save: the job it takes and the session it saves. -/
def takeNextJob (session : ConversationSession) (readings : StartReadings) (maxRecentJobs : ℕ) :
    Option (ConversationJob × ConversationSession) :=
  if truthy session.runningJobId then none
  else
    match session.queuedJobs with
    | [] => none
    | nextJob :: rest =>
        some (startedJob nextJob readings,
          markQueuedJobRunning { session with queuedJobs := rest } nextJob readings maxRecentJobs)

end AgentBigBrain.Interfaces
