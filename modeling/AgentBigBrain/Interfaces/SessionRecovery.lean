import AgentBigBrain.Interfaces.AckStateMachine
import AgentBigBrain.Interfaces.JobMerging
import AgentBigBrain.Interfaces.SessionMutations

/-!
# Recovery of stale jobs

A message that comes in fails the jobs whose worker is gone: queued jobs that wait longer than
the recovery window, and a running job whose session was not written for a while.
-/
namespace AgentBigBrain.Interfaces

open AgentBigBrain.Js AgentBigBrain.Core AgentBigBrain.Lib

variable (platform : Platform)

def ORPHANED_RUNNING_JOB_RECOVERY_GRACE_MS : ℤ := 15000

/-- What recovery reads of the worker and the configuration. -/
structure RecoveryDeps where
  isWorkerActive : Bool
  workerLastSeenAt : Option String
  staleRunningJobRecoveryMs : ℤ
  maxRecentJobs : ℕ

def isOlderThanRecoveryWindow (timestampIso : Option String) (nowIso : String)
    (thresholdMs : ℤ) : Bool :=
  match timestampIso.filter (· ≠ "") with
  | none => false
  | some timestamp =>
      match platform.dateParse nowIso, platform.dateParse timestamp with
      | some nowMs, some candidateMs => decide (thresholdMs ≤ nowMs - candidateMs)
      | _, _ => false

/-! ## Queued jobs -/

/-- `max(value, 1)`, as both recovered records count. -/
def atLeastOne (value : ℚ) : ℚ :=
  max 1 value

def staleRecoveryTrace (summary updatedAt : String) : ConversationRecoveryTrace where
  kind := .staleSessionRecovery
  status := .failed
  summary := summary
  updatedAt := updatedAt
  recoveryClass := none
  fingerprint := none

def STALE_QUEUED_JOB_MESSAGE : String :=
  "Recovered stale queued job after runtime interruption."

def STALE_RUNNING_JOB_MESSAGE : String :=
  "Recovered stale running job after runtime interruption."

def buildRecoveredStaleQueuedJob (job : ConversationJob) (completedAt : String) :
    ConversationJob :=
  { job with
    startedAt := some (job.startedAt.getD job.createdAt)
    completedAt := some completedAt
    status := .failed
    resultSummary := none
    errorMessage := some STALE_QUEUED_JOB_MESSAGE
    recoveryTrace := some (staleRecoveryTrace STALE_QUEUED_JOB_MESSAGE completedAt)
    ackTimerGeneration := atLeastOne (job.ackTimerGeneration + 1)
    ackEligibleAt := none
    ackLifecycleState := .cancelled
    ackMessageId := none
    ackSentAt := none
    ackEditAttemptCount := 0
    ackLastErrorCode := some "STALE_QUEUED_JOB_RECOVERED"
    finalDeliveryOutcome := .failed
    finalDeliveryAttemptCount := atLeastOne job.finalDeliveryAttemptCount
    finalDeliveryLastErrorCode := some "STALE_QUEUED_JOB_RECOVERED"
    finalDeliveryLastAttemptAt := some completedAt }

/-- The queued jobs that outlived the recovery window. -/
def staleQueuedJobs (deps : RecoveryDeps) (session : ConversationSession) (nowIso : String) :
    List ConversationJob :=
  session.queuedJobs.filter fun job =>
    isOlderThanRecoveryWindow platform (some job.createdAt) nowIso deps.staleRunningJobRecoveryMs

def recoverStaleQueuedJobsIfNeeded (deps : RecoveryDeps) (session : ConversationSession)
    (nowIso : String) : ConversationSession :=
  if truthy session.runningJobId then session
  else
    let staleJobs := staleQueuedJobs platform deps session nowIso
    if staleJobs.isEmpty then session
    else
      let remaining :=
        { session with
          queuedJobs := session.queuedJobs.filter fun job =>
            decide (job.id ∉ staleJobs.map ConversationJob.id) }
      let recovered := staleJobs.foldl (fun current job =>
        upsertRecentJob current (buildRecoveredStaleQueuedJob job nowIso) deps.maxRecentJobs)
        remaining
      { recovered with updatedAt := nowIso }

/-! ## Progress -/

/-- A stale "working" progress that no running job owns is cleared. -/
def clearOrphanedWorkingProgressIfNeeded (deps : RecoveryDeps) (session : ConversationSession)
    (nowIso : String) : ConversationSession :=
  match session.progressState with
  | none => session
  | some progress =>
      if progress.status ≠ .working then session
      else if !isOlderThanRecoveryWindow platform (some progress.updatedAt) nowIso
          deps.staleRunningJobRecoveryMs then session
      else if truthy session.runningJobId ∧ progress.jobId = session.runningJobId then session
      else { session with progressState := none, updatedAt := nowIso }

/-! ## The running job -/

def shouldRecoverOrphanedRunningJobEarly (session : ConversationSession) (nowIso : String)
    (thresholdMs : ℤ) : Bool :=
  let recoveryWindowMs := min thresholdMs ORPHANED_RUNNING_JOB_RECOVERY_GRACE_MS
  isOlderThanRecoveryWindow platform
      (session.progressState.map ConversationProgressState.updatedAt) nowIso recoveryWindowMs ||
    isOlderThanRecoveryWindow platform (some session.updatedAt) nowIso recoveryWindowMs

def hasFreshWorkerOwnership (deps : RecoveryDeps) (nowIso : String) : Bool :=
  if deps.isWorkerActive = false then false
  else
    match deps.workerLastSeenAt.filter (· ≠ "") with
    | none => true
    | some workerLastSeenAt =>
        !isOlderThanRecoveryWindow platform (some workerLastSeenAt) nowIso
          deps.staleRunningJobRecoveryMs

/-- A running job that was not written for longer than the recovery window has lost its worker. -/
def isOrphanedRunningJob (deps : RecoveryDeps) (session : ConversationSession) (nowIso : String) :
    Bool :=
  shouldRecoverOrphanedRunningJobEarly platform session nowIso deps.staleRunningJobRecoveryMs ||
    isOlderThanRecoveryWindow platform (some session.updatedAt) nowIso
      deps.staleRunningJobRecoveryMs

def findRecentJob (session : ConversationSession) (jobId : String) : Option ConversationJob :=
  session.recentJobs.find? fun job => job.id = jobId

def recoveredRunningJob (job : ConversationJob) (nowIso : String) : ConversationJob :=
  { job with
    status := .failed
    completedAt := some nowIso
    resultSummary := none
    errorMessage := some STALE_RUNNING_JOB_MESSAGE
    recoveryTrace := some (staleRecoveryTrace STALE_RUNNING_JOB_MESSAGE nowIso)
    ackTimerGeneration := job.ackTimerGeneration + 1
    ackLastErrorCode := some "STALE_RUNNING_JOB_RECOVERED"
    ackMessageId := none
    ackSentAt := none
    ackLifecycleState :=
      if canTransitionAckLifecycleState job.ackLifecycleState .cancelled then .cancelled
      else job.ackLifecycleState
    finalDeliveryOutcome :=
      if job.finalDeliveryOutcome = .notAttempted then .failed else job.finalDeliveryOutcome
    finalDeliveryAttemptCount := atLeastOne job.finalDeliveryAttemptCount
    finalDeliveryLastErrorCode := some "STALE_RUNNING_JOB_RECOVERED"
    finalDeliveryLastAttemptAt := some nowIso }

/-- The record of a running job that the recent jobs do not list. -/
def buildRecoveredStaleJob (jobId startedAt completedAt : String) : ConversationJob where
  id := jobId
  input := "__recovered_stale_job__"
  executionInput := none
  createdAt := startedAt
  startedAt := some startedAt
  completedAt := some completedAt
  status := .failed
  resultSummary := none
  errorMessage := some STALE_RUNNING_JOB_MESSAGE
  recoveryTrace := some (staleRecoveryTrace STALE_RUNNING_JOB_MESSAGE completedAt)
  isSystemJob := false
  ackTimerGeneration := 0
  ackEligibleAt := none
  ackLifecycleState := .cancelled
  ackMessageId := none
  ackSentAt := none
  ackEditAttemptCount := 0
  ackLastErrorCode := some "STALE_RUNNING_JOB_RECOVERED"
  finalDeliveryOutcome := .failed
  finalDeliveryAttemptCount := 1
  finalDeliveryLastErrorCode := some "STALE_RUNNING_JOB_RECOVERED"
  finalDeliveryLastAttemptAt := some completedAt
  pauseRequestedAt := none
  pulseMetadata := none
  principalSnapshot := none

/-- The failed record a recovery leaves of the running job. -/
def failedRunningJob (session : ConversationSession) (jobId nowIso : String) : ConversationJob :=
  match findRecentJob session jobId with
  | some job => recoveredRunningJob job nowIso
  | none => buildRecoveredStaleJob jobId session.updatedAt nowIso

def recoverRunningJob (deps : RecoveryDeps) (session : ConversationSession)
    (jobId nowIso : String) : ConversationSession :=
  { upsertRecentJob session (failedRunningJob session jobId nowIso) deps.maxRecentJobs with
    runningJobId := none
    progressState := none
    updatedAt := nowIso }

def recoverStaleRunningJobIfNeeded (deps : RecoveryDeps) (session : ConversationSession)
    (nowIso : String) : ConversationSession :=
  if hasFreshWorkerOwnership platform deps nowIso then session
  else
    let cleared := clearOrphanedWorkingProgressIfNeeded platform deps
      (recoverStaleQueuedJobsIfNeeded platform deps session nowIso) nowIso
    match cleared.runningJobId.filter (· ≠ "") with
    | none => cleared
    | some jobId =>
        if isOrphanedRunningJob platform deps cleared nowIso then
          recoverRunningJob deps cleared jobId nowIso
        else
          cleared

/-! ## What recovery leaves -/

section Recovered

variable {platform} {deps : RecoveryDeps} {session : ConversationSession} {nowIso : String}

lemma filter_ne_empty_eq_some {text : Option String} {s : String} :
    text.filter (· ≠ "") = some s ↔ text = some s ∧ s ≠ "" := by
  simp [Option.filter_eq_some_iff]

lemma filter_ne_empty_eq_none {text : Option String} :
    text.filter (· ≠ "") = none ↔ truthy text = false := by
  cases text <;> simp [truthy, Option.filter_some]

@[simp] lemma failedRunningJob_id (jobId : String) :
    (failedRunningJob session jobId nowIso).id = jobId := by
  unfold failedRunningJob
  split
  · rename_i job hfind
    simpa [recoveredRunningJob] using List.find?_some hfind
  · rfl

@[simp] lemma failedRunningJob_isTerminal (jobId : String) :
    (failedRunningJob session jobId nowIso).isTerminal = true := by
  unfold failedRunningJob
  split <;> rfl

@[simp] lemma clearOrphanedWorkingProgressIfNeeded_queuedJobs :
    (clearOrphanedWorkingProgressIfNeeded platform deps session nowIso).queuedJobs =
      session.queuedJobs := by
  unfold clearOrphanedWorkingProgressIfNeeded
  split
  · rfl
  · split_ifs <;> rfl

@[simp] lemma clearOrphanedWorkingProgressIfNeeded_recentJobs :
    (clearOrphanedWorkingProgressIfNeeded platform deps session nowIso).recentJobs =
      session.recentJobs := by
  unfold clearOrphanedWorkingProgressIfNeeded
  split
  · rfl
  · split_ifs <;> rfl

@[simp] lemma clearOrphanedWorkingProgressIfNeeded_runningJobId :
    (clearOrphanedWorkingProgressIfNeeded platform deps session nowIso).runningJobId =
      session.runningJobId := by
  unfold clearOrphanedWorkingProgressIfNeeded
  split
  · rfl
  · split_ifs <;> rfl

@[simp] lemma clearOrphanedWorkingProgressIfNeeded_conversationId :
    (clearOrphanedWorkingProgressIfNeeded platform deps session nowIso).conversationId =
      session.conversationId := by
  unfold clearOrphanedWorkingProgressIfNeeded
  split
  · rfl
  · split_ifs <;> rfl

lemma foldl_upsertRecentJob (f : ConversationJob → ConversationJob) (maxRecentJobs : ℕ)
    (jobs : List ConversationJob) (session : ConversationSession) :
    jobs.foldl (fun current job => upsertRecentJob current (f job) maxRecentJobs) session =
      { session with
        recentJobs := jobs.foldl (fun recentJobs job =>
          (replaceById ConversationJob.id (f job) recentJobs).take maxRecentJobs)
          session.recentJobs } := by
  induction jobs generalizing session with
  | nil => rfl
  | cons job jobs ih =>
      rw [List.foldl_cons, List.foldl_cons, ih]
      rfl

@[simp] lemma recoverStaleQueuedJobsIfNeeded_runningJobId :
    (recoverStaleQueuedJobsIfNeeded platform deps session nowIso).runningJobId =
      session.runningJobId := by
  unfold recoverStaleQueuedJobsIfNeeded
  dsimp only
  rw [foldl_upsertRecentJob]
  split_ifs <;> rfl

@[simp] lemma recoverStaleQueuedJobsIfNeeded_conversationId :
    (recoverStaleQueuedJobsIfNeeded platform deps session nowIso).conversationId =
      session.conversationId := by
  unfold recoverStaleQueuedJobsIfNeeded
  dsimp only
  rw [foldl_upsertRecentJob]
  split_ifs <;> rfl

lemma recoverStaleQueuedJobsIfNeeded_of_truthy (h : truthy session.runningJobId = true) :
    recoverStaleQueuedJobsIfNeeded platform deps session nowIso = session := by
  rw [recoverStaleQueuedJobsIfNeeded, if_pos h]

/-- Without a running job the queue loses the jobs that waited too long. -/
lemma recoverStaleQueuedJobsIfNeeded_queuedJobs (h : truthy session.runningJobId = false) :
    (recoverStaleQueuedJobsIfNeeded platform deps session nowIso).queuedJobs =
      session.queuedJobs.filter fun job =>
        decide (job.id ∉ (staleQueuedJobs platform deps session nowIso).map ConversationJob.id) := by
  unfold recoverStaleQueuedJobsIfNeeded
  rw [if_neg (by simp [h])]
  dsimp only
  rw [foldl_upsertRecentJob]
  split_ifs with hnone
  · rw [List.isEmpty_iff.mp hnone]
    simp
  · rfl

lemma mem_foldl_replaceById (f : ConversationJob → ConversationJob) (maxRecentJobs : ℕ)
    {jobs recentJobs : List ConversationJob} {record : ConversationJob}
    (h : record ∈ jobs.foldl (fun recent job =>
      (replaceById ConversationJob.id (f job) recent).take maxRecentJobs) recentJobs) :
    record ∈ recentJobs ∨ ∃ job ∈ jobs, record = f job := by
  induction jobs generalizing recentJobs with
  | nil => exact Or.inl h
  | cons job jobs ih =>
      rcases ih h with hbase | ⟨other, hother, rfl⟩
      · rcases List.mem_cons.mp (List.mem_of_mem_take hbase) with rfl | hkept
        · exact Or.inr ⟨job, List.mem_cons_self, rfl⟩
        · exact Or.inl (List.mem_of_mem_filter hkept)
      · exact Or.inr ⟨other, List.mem_cons_of_mem job hother, rfl⟩

/-- Only queued jobs get new recent records. -/
lemma mem_recoverStaleQueuedJobsIfNeeded_recentJobs {record : ConversationJob}
    (h : record ∈ (recoverStaleQueuedJobsIfNeeded platform deps session nowIso).recentJobs) :
    record ∈ session.recentJobs ∨
      ∃ job ∈ session.queuedJobs, record = buildRecoveredStaleQueuedJob job nowIso := by
  unfold recoverStaleQueuedJobsIfNeeded at h
  dsimp only at h
  rw [foldl_upsertRecentJob] at h
  split_ifs at h
  · exact Or.inl h
  · exact Or.inl h
  · rcases mem_foldl_replaceById _ _ h with hkept | ⟨job, hjob, rfl⟩
    · exact Or.inl hkept
    · exact Or.inr ⟨job, (List.mem_filter.mp hjob).1, rfl⟩

/-! ### The three outcomes for the running job -/

variable (platform) in
/-- A running job whose worker is not taken to be gone. -/
def keepsRunningJob (deps : RecoveryDeps) (session : ConversationSession) (nowIso : String) :
    Bool :=
  truthy session.runningJobId &&
    !isOrphanedRunningJob platform deps
      (clearOrphanedWorkingProgressIfNeeded platform deps session nowIso) nowIso

lemma recover_of_fresh (h : hasFreshWorkerOwnership platform deps nowIso = true) :
    recoverStaleRunningJobIfNeeded platform deps session nowIso = session := by
  rw [recoverStaleRunningJobIfNeeded, if_pos h]

lemma recover_of_keeps (hfresh : hasFreshWorkerOwnership platform deps nowIso = false)
    (hkeeps : keepsRunningJob platform deps session nowIso = true) :
    recoverStaleRunningJobIfNeeded platform deps session nowIso =
      clearOrphanedWorkingProgressIfNeeded platform deps session nowIso := by
  simp only [keepsRunningJob, Bool.and_eq_true, Bool.not_eq_true'] at hkeeps
  unfold recoverStaleRunningJobIfNeeded
  rw [if_neg (by simp [hfresh]), recoverStaleQueuedJobsIfNeeded_of_truthy hkeeps.1]
  dsimp only
  split
  · rfl
  · rw [if_neg (by simp [hkeeps.2])]

lemma recover_of_orphaned (hfresh : hasFreshWorkerOwnership platform deps nowIso = false)
    {jobId : String} (hrunning : session.runningJobId = some jobId) (hne : jobId ≠ "")
    (hkeeps : keepsRunningJob platform deps session nowIso = false) :
    recoverStaleRunningJobIfNeeded platform deps session nowIso =
      recoverRunningJob deps (clearOrphanedWorkingProgressIfNeeded platform deps session nowIso)
        jobId nowIso := by
  have htruthy : truthy session.runningJobId = true := truthy_iff.mpr ⟨jobId, hrunning, hne⟩
  have horphaned : isOrphanedRunningJob platform deps
      (clearOrphanedWorkingProgressIfNeeded platform deps session nowIso) nowIso = true := by
    simpa [keepsRunningJob, htruthy] using hkeeps
  have hfilter : session.runningJobId.filter (· ≠ "") = some jobId :=
    filter_ne_empty_eq_some.mpr ⟨hrunning, hne⟩
  unfold recoverStaleRunningJobIfNeeded
  rw [if_neg (by simp [hfresh]), recoverStaleQueuedJobsIfNeeded_of_truthy htruthy]
  dsimp only
  rw [clearOrphanedWorkingProgressIfNeeded_runningJobId, hfilter]
  dsimp only
  rw [if_pos horphaned]

lemma recover_of_idle (hfresh : hasFreshWorkerOwnership platform deps nowIso = false)
    (hidle : truthy session.runningJobId = false) :
    recoverStaleRunningJobIfNeeded platform deps session nowIso =
      clearOrphanedWorkingProgressIfNeeded platform deps
        (recoverStaleQueuedJobsIfNeeded platform deps session nowIso) nowIso := by
  unfold recoverStaleRunningJobIfNeeded
  rw [if_neg (by simp [hfresh])]
  dsimp only
  rw [clearOrphanedWorkingProgressIfNeeded_runningJobId,
    recoverStaleQueuedJobsIfNeeded_runningJobId, filter_ne_empty_eq_none.mpr hidle]

variable (platform) in
/-- The jobs a recovery leaves in the queue. -/
def waitingJobs (deps : RecoveryDeps) (session : ConversationSession) (nowIso : String) :
    List ConversationJob :=
  if truthy session.runningJobId then session.queuedJobs
  else
    session.queuedJobs.filter fun job =>
      decide (job.id ∉ (staleQueuedJobs platform deps session nowIso).map ConversationJob.id)

lemma recover_queuedJobs (hfresh : hasFreshWorkerOwnership platform deps nowIso = false) :
    (recoverStaleRunningJobIfNeeded platform deps session nowIso).queuedJobs =
      waitingJobs platform deps session nowIso := by
  unfold waitingJobs
  split_ifs with hrunning
  · cases hkeeps : keepsRunningJob platform deps session nowIso with
    | true => simp [recover_of_keeps hfresh hkeeps]
    | false =>
        obtain ⟨jobId, hid, hne⟩ := truthy_iff.mp hrunning
        rw [recover_of_orphaned hfresh hid hne hkeeps]
        simp [recoverRunningJob, upsertRecentJob]
  · have hidle : truthy session.runningJobId = false := by simpa using hrunning
    rw [recover_of_idle hfresh hidle, clearOrphanedWorkingProgressIfNeeded_queuedJobs,
      recoverStaleQueuedJobsIfNeeded_queuedJobs hidle]

lemma truthy_recover_runningJobId (hfresh : hasFreshWorkerOwnership platform deps nowIso = false) :
    truthy (recoverStaleRunningJobIfNeeded platform deps session nowIso).runningJobId =
      keepsRunningJob platform deps session nowIso := by
  cases hkeeps : keepsRunningJob platform deps session nowIso with
  | true =>
      rw [recover_of_keeps hfresh hkeeps, clearOrphanedWorkingProgressIfNeeded_runningJobId]
      simp only [keepsRunningJob, Bool.and_eq_true] at hkeeps
      exact hkeeps.1
  | false =>
      by_cases hrunning : truthy session.runningJobId = true
      · obtain ⟨jobId, hid, hne⟩ := truthy_iff.mp hrunning
        rw [recover_of_orphaned hfresh hid hne hkeeps]
        rfl
      · have hidle : truthy session.runningJobId = false := by simpa using hrunning
        rw [recover_of_idle hfresh hidle, clearOrphanedWorkingProgressIfNeeded_runningJobId,
          recoverStaleQueuedJobsIfNeeded_runningJobId, hidle]

/-- A recovery writes recent records of queued jobs and of the running job only. -/
lemma mem_recover_recentJobs {record : ConversationJob}
    (h : record ∈ (recoverStaleRunningJobIfNeeded platform deps session nowIso).recentJobs) :
    record ∈ session.recentJobs ∨
      record.isTerminal = true ∧ ((∃ job ∈ session.queuedJobs, job.id = record.id) ∨
        session.runningJobId = some record.id) := by
  cases hfresh : hasFreshWorkerOwnership platform deps nowIso with
  | true => exact Or.inl (by rwa [recover_of_fresh hfresh] at h)
  | false =>
      by_cases hrunning : truthy session.runningJobId = true
      · cases hkeeps : keepsRunningJob platform deps session nowIso with
        | true =>
            rw [recover_of_keeps hfresh hkeeps,
              clearOrphanedWorkingProgressIfNeeded_recentJobs] at h
            exact Or.inl h
        | false =>
            obtain ⟨jobId, hid, hne⟩ := truthy_iff.mp hrunning
            rw [recover_of_orphaned hfresh hid hne hkeeps] at h
            rcases List.mem_cons.mp (List.mem_of_mem_take h) with rfl | hkept
            · exact Or.inr ⟨failedRunningJob_isTerminal jobId, Or.inr (by simpa using hid)⟩
            · have hold := List.mem_of_mem_filter hkept
              rw [clearOrphanedWorkingProgressIfNeeded_recentJobs] at hold
              exact Or.inl hold
      · have hidle : truthy session.runningJobId = false := by simpa using hrunning
        rw [recover_of_idle hfresh hidle, clearOrphanedWorkingProgressIfNeeded_recentJobs] at h
        rcases mem_recoverStaleQueuedJobsIfNeeded_recentJobs h with hkept | ⟨job, hjob, rfl⟩
        · exact Or.inl hkept
        · exact Or.inr ⟨rfl, Or.inl ⟨job, hjob, rfl⟩⟩

/-- A recovery adds nothing to the queue. -/
lemma mem_of_mem_recover_queuedJobs {job : ConversationJob}
    (h : job ∈ (recoverStaleRunningJobIfNeeded platform deps session nowIso).queuedJobs) :
    job ∈ session.queuedJobs := by
  cases hfresh : hasFreshWorkerOwnership platform deps nowIso with
  | true => rwa [recover_of_fresh hfresh] at h
  | false =>
      rw [recover_queuedJobs hfresh, waitingJobs] at h
      split_ifs at h
      · exact h
      · exact List.mem_of_mem_filter h

@[simp] lemma recover_conversationId :
    (recoverStaleRunningJobIfNeeded platform deps session nowIso).conversationId =
      session.conversationId := by
  unfold recoverStaleRunningJobIfNeeded
  split
  · rfl
  · dsimp only
    split
    · simp
    · split
      · simp [recoverRunningJob, upsertRecentJob]
      · simp

end Recovered

end AgentBigBrain.Interfaces
