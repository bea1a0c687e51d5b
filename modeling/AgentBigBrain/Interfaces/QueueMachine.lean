import AgentBigBrain.Interfaces.JobDelivery
import AgentBigBrain.Interfaces.MessageIngress

/-!
# The parties of one conversation

Messages, progress updates, acknowledgement timers and the worker all read the session of a
conversation, work on the copy they got, and save it later. Between a read and the save that
follows anything may happen. Saves of the JSON store merge.
-/
namespace AgentBigBrain.Interfaces

open AgentBigBrain.Js AgentBigBrain.Core AgentBigBrain.Lib

/-! ## Writes -/

/-- The first element that fits, changed. -/
def updateFirst {α : Type*} (p : α → Bool) (f : α → α) : List α → List α
  | [] => []
  | x :: xs => if p x then f x :: xs else x :: updateFirst p f xs

/-- An update of the progress a running job shows. -/
structure ProgressUpdate where
  status : ConversationProgressStatus
  message : String
  recoveryTrace : Option ConversationRecoveryTrace
  updatedAt : String

/-- `none` when the job is not the current one. -/
def persistConversationExecutionProgress (session : ConversationSession) (jobId : String)
    (update : ProgressUpdate) : Option ConversationSession :=
  let isCurrentJob := decide (session.runningJobId = some jobId) ||
    session.recentJobs.any fun job => decide (job.id = jobId) && decide (job.status = .running)
  let trace := update.recoveryTrace.map fun trace => { trace with updatedAt := update.updatedAt }
  let ended := decide (update.status = .waitingForUser ∨ update.status = .completed ∨
    update.status = .stopped)
  if isCurrentJob then
    some
      { session with
        progressState := some
          { status := update.status
            message := update.message
            jobId := if ended then none else some jobId
            updatedAt := update.updatedAt
            recoveryTrace := trace }
        recentJobs := updateFirst (fun job => decide (job.id = jobId))
          (fun job => { job with recoveryTrace := trace }) session.recentJobs
        updatedAt := update.updatedAt }
  else
    none

/-- A write of a party other than the worker. -/
inductive PartyWrite where
  /-- A message that ends in an enqueue. -/
  | message (deps : RecoveryDeps) (message : InboundMessage)
  /-- A system-triggered job; the input is normalized. -/
  | systemJob (input : EnqueueInput)
  /-- A message that enqueues nothing. -/
  | noJob (deps : RecoveryDeps) (receivedAt : String) (update : SessionUpdate)
  | progress (jobId : String) (update : ProgressUpdate)
  | ackTimer (timerRecord : AckTimerRecord) (nowIso : String) (canUseAckTimer : Bool)
      (delivery : ConversationDeliveryResult)

/-- What the end of an execution brings: the code around the job record may also change the rest
of the session and enqueue a retry. -/
structure ExecutionOutcome where
  ending : ExecutionEnd
  completedAt : String
  updatedAt : String
  texts : OutcomeTexts
  update : SessionUpdate
  retry : Option EnqueueInput

/-- A write of the worker about the job it executed. -/
inductive WorkerWrite where
  | outcome (outcome : ExecutionOutcome)
  | terminalRecovery (ending : ExecutionEnd) (completedAt : String)
  | suppress
  | deliver (delivery : FinalDelivery)

variable (platform : Platform) (sha : Sha256)
  (principalSnapshotOf : Option Json → ConversationJobPrincipalSnapshot) (maxRecentJobs : ℕ)

/-- The session that is saved; `none` when the party saves nothing. -/
def PartyWrite.apply (session : ConversationSession) : PartyWrite → Option ConversationSession
  | .message deps inbound =>
      some (processedSession platform principalSnapshotOf deps session inbound).1
  | .systemJob input =>
      if input.input = "" ∨ session.activeProposal.isSome = true then
        none
      else
        some
          { (enqueueConversationJob principalSnapshotOf session input).1 with
            updatedAt := input.receivedAt }
  | .noJob deps receivedAt update =>
      some (update.apply
        { recoverStaleRunningJobIfNeeded platform deps session receivedAt with
          updatedAt := receivedAt })
  | .progress jobId update => persistConversationExecutionProgress session jobId update
  | .ackTimer timerRecord nowIso canUseAckTimer delivery =>
      match ackTimerDecision platform session timerRecord nowIso canUseAckTimer with
      | .ignore => none
      | .record written => some (writeJob session written nowIso maxRecentJobs)
      | .send runningJob =>
          some (writeJob session (acknowledgedJob runningJob delivery nowIso) nowIso maxRecentJobs)

/-- The id of the job a party enqueues. -/
def PartyWrite.jobId : PartyWrite → Option String
  | .message _ inbound => some inbound.jobId
  | .systemJob input => some input.jobId
  | _ => none

def settleOutcome (session : ConversationSession) (taken : ConversationJob)
    (outcome : ExecutionOutcome) : ConversationSession :=
  let executed := executedJob taken outcome.ending outcome.completedAt
  let persisted := (findRecentJob session executed.id).getD executed
  let settled := settledJob persisted executed outcome.texts
  let written := outcome.update.apply
    { writeJob session settled outcome.updatedAt maxRecentJobs with runningJobId := none }
  match outcome.retry with
  | none => written
  | some input =>
      upsertRecentJob (enqueueConversationJob principalSnapshotOf written input).1 settled
        maxRecentJobs

def settleTerminalRecovery (session : ConversationSession) (taken : ConversationJob)
    (ending : ExecutionEnd) (completedAt : String) : ConversationSession :=
  let executed := executedJob taken ending completedAt
  let persisted := (findRecentJob session executed.id).getD executed
  { writeJob session (recoveredTerminalJob persisted executed ending) completedAt maxRecentJobs with
    runningJobId := none
    progressState := none }

def WorkerWrite.apply (session : ConversationSession) (taken : ConversationJob) :
    WorkerWrite → Option ConversationSession
  | .outcome result =>
      some (settleOutcome principalSnapshotOf maxRecentJobs session taken result)
  | .terminalRecovery ending completedAt =>
      some (settleTerminalRecovery maxRecentJobs session taken ending completedAt)
  | .suppress =>
      (findRecentJob session taken.id).map fun job =>
        upsertRecentJob session (suppressedJob job) maxRecentJobs
  | .deliver delivery => deliverFinalMessage session taken.id delivery maxRecentJobs

def WorkerWrite.jobId : WorkerWrite → Option String
  | .outcome result => result.retry.map EnqueueInput.jobId
  | _ => none

/-! ## The machine -/

/-- Where the worker loop stands. -/
inductive WorkerPhase where
  | idle
  /-- At the head of the loop. -/
  | turning
  /-- With the session it read. -/
  | looking (copy : ConversationSession)
  /-- With a job it marked as running in its copy, which is not saved yet. -/
  | taken (job : ConversationJob) (copy : ConversationSession)
  /-- The mark is saved; `executeTask` comes next. -/
  | started (job : ConversationJob) (copy : ConversationSession)
  /-- `executeTask` has been called. -/
  | working (job : ConversationJob) (copy : ConversationSession)

/-- The store, the copies the other parties hold, and the worker; beside them the ids handed to
`executeTask` and those of the jobs whose enqueue was saved. -/
structure QueueMachine where
  store : JsonStore platform
  copies : List ConversationSession
  worker : WorkerPhase
  handed : List String
  enqueued : List String

/-- What does not change while the machine runs. -/
structure QueueConfig where
  seed : ConversationKeySeedInput
  maxRecentJobs : ℕ
  positive : 0 < maxRecentJobs

def QueueConfig.sessionKey (config : QueueConfig) : String :=
  buildConversationKey config.seed

inductive MachineEvent where
  | read (receivedAt : String)
  | write (index : ℕ) (write : PartyWrite)
  | startWorker
  | look
  | take (readings : StartReadings)
  | saveTaken
  | execute
  | workerRead
  | workerWrite (write : WorkerWrite)
  | nextTurn
  | stopWorker
  | restart

namespace QueueMachine

variable {platform} (config : QueueConfig)

def new : QueueMachine platform where
  store := .new
  copies := []
  worker := .idle
  handed := []
  enqueued := []

def stored (machine : QueueMachine platform) : Option ConversationSession :=
  machine.store.file.find config.sessionKey

/-- A save of a session, which has the time of a clock, and the id of the job it enqueues. -/
def save (machine : QueueMachine platform) (session : ConversationSession)
    (jobId : Option String) : Option (QueueMachine platform) :=
  if isDate platform session.updatedAt = true then
    some
      { machine with
        store := machine.store.setSession sha session
        enqueued := machine.enqueued ++ jobId.toList }
  else
    none

/-- `none` where the event cannot happen. -/
def step (machine : QueueMachine platform) : MachineEvent → Option (QueueMachine platform)
  | .read receivedAt =>
      let session := (machine.store.getSession sha config.sessionKey).getD
        (buildSessionSeed { config.seed with receivedAt := receivedAt })
      some { machine with copies := machine.copies ++ [session] }
  | .write index write =>
      machine.copies[index]?.bind fun copy =>
        (write.apply platform principalSnapshotOf config.maxRecentJobs copy).bind fun session =>
          ({ machine with copies := machine.copies.eraseIdx index }).save sha session write.jobId
  | .startWorker =>
      match machine.worker with
      | .idle => some { machine with worker := .turning }
      | _ => none
  | .look =>
      match machine.worker with
      | .turning =>
          (machine.store.getSession sha config.sessionKey).map fun copy =>
            { machine with worker := .looking copy }
      | _ => none
  | .take readings =>
      match machine.worker with
      | .looking copy =>
          (takeNextJob copy readings config.maxRecentJobs).map fun taken =>
            { machine with worker := .taken taken.1 taken.2 }
      | _ => none
  | .saveTaken =>
      match machine.worker with
      | .taken job copy => ({ machine with worker := .started job copy }).save sha copy none
      | _ => none
  | .execute =>
      match machine.worker with
      | .started job copy =>
          some { machine with worker := .working job copy, handed := machine.handed ++ [job.id] }
      | _ => none
  | .workerRead =>
      match machine.worker with
      | .working job copy =>
          some { machine with
            worker :=
              .working job ((machine.store.getSession sha config.sessionKey).getD copy) }
      | _ => none
  | .workerWrite write =>
      match machine.worker with
      | .working job copy =>
          (write.apply principalSnapshotOf config.maxRecentJobs copy job).bind fun session =>
            ({ machine with worker := .working job session }).save sha session write.jobId
      | _ => none
  | .nextTurn =>
      match machine.worker with
      | .working _ _ => some { machine with worker := .turning }
      | _ => none
  | .stopWorker => some { machine with worker := .idle }
  | .restart =>
      some { machine with store := { machine.store with loaded := none }, copies := [], worker := .idle }

end QueueMachine

end AgentBigBrain.Interfaces
