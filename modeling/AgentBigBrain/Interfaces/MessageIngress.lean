import AgentBigBrain.Interfaces.SessionRecovery
import AgentBigBrain.Interfaces.StoredLedgers

/-!
# A message that enqueues a job

What an inbound message does to its session when it ends in an enqueue: stale jobs are recovered,
the job is appended, the session is saved, and a worker is started or not. The command and the
proposal path start one whenever the queue is not empty; a routed message leaves it to the
enqueue, which takes jobs that are left in the queue for active work.
-/
namespace AgentBigBrain.Interfaces

open AgentBigBrain.Js AgentBigBrain.Core AgentBigBrain.Lib

/-! ## The message -/

/-- Where the message enqueues its job. -/
inductive IngressPath where
  | command | proposal | routed
  deriving DecidableEq

/-- What the code before and after the enqueue makes of the session: turns, routing state, pulse
state and so on, but neither the job ledgers nor the time. -/
structure SessionUpdate where
  apply : ConversationSession → ConversationSession
  conversationId : ∀ session, (apply session).conversationId = session.conversationId
  updatedAt : ∀ session, (apply session).updatedAt = session.updatedAt
  runningJobId : ∀ session, (apply session).runningJobId = session.runningJobId
  queuedJobs : ∀ session, (apply session).queuedJobs = session.queuedJobs
  recentJobs : ∀ session, (apply session).recentJobs = session.recentJobs

def SessionUpdate.keep : SessionUpdate where
  apply session := session
  conversationId _ := rfl
  updatedAt _ := rfl
  runningJobId _ := rfl
  queuedJobs _ := rfl
  recentJobs _ := rfl

structure InboundMessage extends ConversationKeySeedInput where
  path : IngressPath
  beforeEnqueue : SessionUpdate
  afterEnqueue : SessionUpdate
  jobId : String
  jobInput : String
  executionInput : Option String

def InboundMessage.enqueueInput (message : InboundMessage) : EnqueueInput where
  jobId := message.jobId
  input := message.jobInput
  receivedAt := message.receivedAt
  executionInput := message.executionInput
  isSystemJob := false
  pulseMetadata := none

variable (platform : Platform) (sha : Sha256)
  (principalSnapshotOf : Option Json → ConversationJobPrincipalSnapshot)

/-! ## Processing -/

/-- The session the enqueue finds. -/
def routedSession (deps : RecoveryDeps) (session : ConversationSession)
    (message : InboundMessage) : ConversationSession :=
  message.beforeEnqueue.apply
    { recoverStaleRunningJobIfNeeded platform deps session message.receivedAt with
      updatedAt := message.receivedAt }

/-- The session a message writes, and whether it calls `startWorkerIfNeeded`. -/
def processedSession (deps : RecoveryDeps) (session : ConversationSession)
    (message : InboundMessage) : ConversationSession × Bool :=
  let enqueued := enqueueConversationJob principalSnapshotOf
    (routedSession platform deps session message) message.enqueueInput
  let written := message.afterEnqueue.apply enqueued.1
  let shouldStartWorker := match message.path with
    | .command | .proposal => decide (0 < written.queuedJobs.length)
    | .routed => enqueued.2.shouldStartWorker
  (written, shouldStartWorker)

def readOrSeed (read : Option ConversationSession) (message : InboundMessage) :
    ConversationSession :=
  read.getD (buildSessionSeed message.toConversationKeySeedInput)

def JsonStore.processConversationMessage (store : JsonStore platform) (deps : RecoveryDeps)
    (message : InboundMessage) : JsonStore platform × Bool :=
  let sessionKey := buildConversationKey message.toConversationKeySeedInput
  let session := readOrSeed (store.getSession sha sessionKey) message
  let processed := processedSession platform principalSnapshotOf deps session message
  (store.setSession sha processed.1, processed.2)

def SqliteStore.processConversationMessage (store : SqliteStore platform) (deps : RecoveryDeps)
    (message : InboundMessage) : SqliteStore platform × Bool :=
  let sessionKey := buildConversationKey message.toConversationKeySeedInput
  let session := readOrSeed (store.getSession sha sessionKey) message
  let processed := processedSession platform principalSnapshotOf deps session message
  (store.setSession sha processed.1, processed.2)

/-! ## Queues without a worker -/

/-- A stored session with queued jobs and no running job has a worker, or one was started. -/
def NotStranded (stored : Option ConversationSession) (workerActive workerStarted : Bool) : Prop :=
  ∀ session ∈ stored, session.queuedJobs ≠ [] → truthy session.runningJobId = false →
    workerActive = true ∨ workerStarted = true

instance (stored : Option ConversationSession) (workerActive workerStarted : Bool) :
    Decidable (NotStranded stored workerActive workerStarted) :=
  inferInstanceAs (Decidable (∀ session ∈ stored, _))

/-- The message finds a worker, starts one whenever its queue is not empty, or finds a session
whose running job is kept or whose queue is empty once stale jobs are recovered. -/
def LeavesNoQueueBehind (deps : RecoveryDeps) (session : ConversationSession)
    (message : InboundMessage) : Prop :=
  deps.isWorkerActive = true ∨ message.path ≠ .routed ∨
    keepsRunningJob platform deps session message.receivedAt = true ∨
    waitingJobs platform deps session message.receivedAt = []

instance (deps : RecoveryDeps) (session : ConversationSession) (message : InboundMessage) :
    Decidable (LeavesNoQueueBehind platform deps session message) :=
  inferInstanceAs (Decidable (_ ∨ _))

section Processed

variable {platform sha principalSnapshotOf} {deps : RecoveryDeps} {session : ConversationSession}
  {message : InboundMessage}

lemma enqueueConversationJob_session (routed : ConversationSession) (input : EnqueueInput) :
    (enqueueConversationJob principalSnapshotOf routed input).1 =
      { routed with
        queuedJobs := routed.queuedJobs ++ [newConversationJob principalSnapshotOf routed input]
        updatedAt := input.receivedAt } := by
  unfold enqueueConversationJob
  dsimp only
  split_ifs <;> rfl

lemma enqueueConversationJob_shouldStartWorker (routed : ConversationSession)
    (input : EnqueueInput) :
    (enqueueConversationJob principalSnapshotOf routed input).2.shouldStartWorker = true ↔
      truthy routed.runningJobId = false ∧ routed.queuedJobs = [] := by
  unfold enqueueConversationJob
  dsimp only
  split_ifs with h
  · simp only [Bool.or_eq_true, decide_eq_true_eq, List.length_append, List.length_singleton] at h
    cases hqueue : routed.queuedJobs <;> simp_all
  · simp only [Bool.or_eq_true, decide_eq_true_eq, List.length_append, List.length_singleton,
      not_or, Bool.not_eq_true] at h
    cases hqueue : routed.queuedJobs <;> simp_all

/-- What a message writes of the ledgers. -/
structure WritesJob (platform : Platform)
    (principalSnapshotOf : Option Json → ConversationJobPrincipalSnapshot) (deps : RecoveryDeps)
    (session : ConversationSession) (message : InboundMessage) (written : ConversationSession) :
    Prop where
  conversationId : written.conversationId = session.conversationId
  updatedAt : written.updatedAt = message.receivedAt
  runningJobId : written.runningJobId =
    (recoverStaleRunningJobIfNeeded platform deps session message.receivedAt).runningJobId
  recentJobs : written.recentJobs =
    (recoverStaleRunningJobIfNeeded platform deps session message.receivedAt).recentJobs
  queuedJobs : written.queuedJobs =
    (recoverStaleRunningJobIfNeeded platform deps session message.receivedAt).queuedJobs ++
      [newConversationJob principalSnapshotOf (routedSession platform deps session message)
        message.enqueueInput]

variable (platform principalSnapshotOf) in
lemma processedSession_writes (deps : RecoveryDeps) (session : ConversationSession)
    (message : InboundMessage) :
    WritesJob platform principalSnapshotOf deps session message
      (processedSession platform principalSnapshotOf deps session message).1 := by
  simp only [processedSession, enqueueConversationJob_session]
  constructor
  · rw [SessionUpdate.conversationId]
    dsimp only [routedSession]
    rw [SessionUpdate.conversationId]
    exact recover_conversationId
  · rw [SessionUpdate.updatedAt]
    rfl
  · rw [SessionUpdate.runningJobId]
    dsimp only [routedSession]
    rw [SessionUpdate.runningJobId]
  · rw [SessionUpdate.recentJobs]
    dsimp only [routedSession]
    rw [SessionUpdate.recentJobs]
  · rw [SessionUpdate.queuedJobs]
    dsimp only [routedSession]
    rw [SessionUpdate.queuedJobs]

lemma processedSession_started_iff
    (hfresh : hasFreshWorkerOwnership platform deps message.receivedAt = false) :
    (processedSession platform principalSnapshotOf deps session message).2 = true ↔
      message.path ≠ .routed ∨
        keepsRunningJob platform deps session message.receivedAt = false ∧
          waitingJobs platform deps session message.receivedAt = [] := by
  have hlength : 0 < (processedSession platform principalSnapshotOf deps session
      message).1.queuedJobs.length := by
    rw [(processedSession_writes platform principalSnapshotOf deps session message).queuedJobs]
    simp
  have hrunning : (routedSession platform deps session message).runningJobId =
      (recoverStaleRunningJobIfNeeded platform deps session message.receivedAt).runningJobId :=
    message.beforeEnqueue.runningJobId _
  have hqueue : (routedSession platform deps session message).queuedJobs =
      (recoverStaleRunningJobIfNeeded platform deps session message.receivedAt).queuedJobs :=
    message.beforeEnqueue.queuedJobs _
  unfold processedSession at hlength ⊢
  dsimp only at hlength ⊢
  cases hpath : message.path with
  | routed =>
      rw [enqueueConversationJob_shouldStartWorker, hrunning, hqueue,
        truthy_recover_runningJobId hfresh, recover_queuedJobs hfresh]
      simp
  | _ => simpa using hlength

end Processed

/-! ## The stored session -/

section Stored

variable {platform sha principalSnapshotOf} {deps : RecoveryDeps}
  {stored session : ConversationSession} {message : InboundMessage}

lemma SettledLedgers.running_neverEnded (h : SettledLedgers session) {jobId : String}
    (hrunning : session.runningJobId = some jobId) :
    NeverEnded session.recentJobs jobId ∧ ((∃ job ∈ session.recentJobs, job.id = jobId) ∨
      (∃ job ∈ session.queuedJobs, job.id = jobId) ∧ NeverEnded session.queuedJobs jobId) := by
  obtain ⟨-, job, hfound, hopen⟩ := (isRunnable_iff h.distinctQueued h.distinctRecent).mp
    (h.runnable jobId hrunning)
  cases hrecent : jobsById.find jobId session.recentJobs with
  | some record =>
      rw [hrecent, Option.some_or, Option.some.injEq] at hfound
      subst hfound
      obtain ⟨hmem, rfl⟩ := jobsById.mem_of_find hrecent
      exact ⟨NeverEnded.of_distinct h.distinctRecent hmem hopen, Or.inl ⟨record, hmem, rfl⟩⟩
  | none =>
      rw [hrecent, Option.none_or] at hfound
      obtain ⟨hmem, rfl⟩ := jobsById.mem_of_find hfound
      refine ⟨fun other hother hid => ?_, Or.inr ⟨⟨job, hmem, rfl⟩,
        NeverEnded.of_distinct h.distinctQueued hmem hopen⟩⟩
      exact absurd (List.mem_map.mpr ⟨other, hother, hid⟩) (jobsById.find_eq_none_iff.mp hrecent)

/-- The running job of a session without settled ledgers may be missing; here it is listed. -/
lemma SettledLedgers.lists_running (h : SettledLedgers session) {jobId : String}
    (hrunning : session.runningJobId = some jobId) : session.Lists jobId := by
  rcases (h.running_neverEnded hrunning).2 with ⟨job, hjob, hid⟩ | ⟨⟨job, hjob, hid⟩, -⟩
  · exact ⟨job, List.mem_append_right _ hjob, hid⟩
  · exact ⟨job, List.mem_append_left _ hjob, hid⟩

/-- What is read of a stored session is the session itself or its normalization. -/
structure ReadOf (platform : Platform) (sha : Sha256) (stored session : ConversationSession) :
    Prop where
  read : session = stored ∨ session = normalizedSession platform sha stored

lemma ReadOf.runningJobId (h : ReadOf platform sha stored session) :
    session.runningJobId = stored.runningJobId := by
  rcases h.read with rfl | rfl <;> rfl

lemma ReadOf.settled (h : ReadOf platform sha stored session) (hsettled : SettledLedgers stored) :
    SettledLedgers session := by
  rcases h.read with rfl | rfl
  · exact hsettled
  · exact hsettled.normalizedSession

/-- The ids of a ledger do not change when it is read. -/
lemma ReadOf.lists_iff (h : ReadOf platform sha stored session) {jobId : String} :
    session.Lists jobId ↔ stored.Lists jobId := by
  rcases h.read with rfl | rfl
  · exact Iff.rfl
  · simp [ConversationSession.Lists, ConversationSession.jobs, normalizedSession,
      or_and_right, exists_or]

variable (hread : ReadOf platform sha stored session)
  {written : ConversationSession}
  (hwritten : WritesJob platform principalSnapshotOf deps session message written)

include hread hwritten in
/-- The appended job is queued in the merged session. -/
lemma mergedQueuedJobs_ne_nil (hsettled : SettledLedgers stored)
    (hnew : ¬ session.Lists message.jobId)
    (hfresh : hasFreshWorkerOwnership platform deps message.receivedAt = false) :
    mergedQueuedJobs platform (normalizedSession platform sha stored)
      (normalizedSession platform sha written) ≠ [] := by
  have hstoredNew : ¬ stored.Lists message.jobId := fun h => hnew (hread.lists_iff.mpr h)
  have hunlisted : ∀ job ∈ session.jobs, job.id ≠ message.jobId :=
    fun job hjob hid => hnew ⟨job, hjob, hid⟩
  have hstoredUnlisted : ∀ job ∈ stored.jobs, job.id ≠ message.jobId :=
    fun job hjob hid => hstoredNew ⟨job, hjob, hid⟩
  have hwaiting : ∀ job ∈ waitingJobs platform deps session message.receivedAt,
      job ∈ session.queuedJobs := fun job hjob =>
    mem_of_mem_recover_queuedJobs (by rwa [recover_queuedJobs hfresh])
  have hqueue : written.queuedJobs = waitingJobs platform deps session message.receivedAt ++
      [newConversationJob principalSnapshotOf (routedSession platform deps session message)
        message.enqueueInput] := by
    rw [hwritten.queuedJobs, recover_queuedJobs hfresh]
  have hrecent : ∀ job ∈ written.recentJobs, job.id ≠ message.jobId := by
    intro job hjob hid
    rw [hwritten.recentJobs] at hjob
    rcases mem_recover_recentJobs hjob with hkept | ⟨-, ⟨queued, hqueued, hqueuedId⟩ | hrunning⟩
    · exact hunlisted job (List.mem_append_right _ hkept) hid
    · exact hunlisted queued (List.mem_append_left _ hqueued) (hqueuedId.trans hid)
    · exact hnew (hid ▸ (hread.settled hsettled).lists_running hrunning)
  obtain ⟨job, hjob, -⟩ : ∃ job ∈ mergedQueuedJobs platform (normalizedSession platform sha stored)
      (normalizedSession platform sha written), job.id = message.jobId := by
    refine exists_mergedQueuedJobs (Or.inr ?_) (NeverEnded.normalized ?_)
      (NeverEnded.normalized ?_) ?_
    · refine ⟨_, List.mem_map_of_mem (hqueue ▸ List.mem_append_right _ List.mem_cons_self), rfl⟩
    · exact fun job hjob hid => absurd hid (hstoredUnlisted job (List.mem_append_left _ hjob))
    · intro job hjob hid
      rw [hqueue] at hjob
      rcases List.mem_append.mp hjob with hold | happended
      · exact absurd hid (hunlisted job (List.mem_append_left _ (hwaiting job hold)))
      · rw [List.mem_singleton.mp happended]
        rfl
    · intro job hjob
      rcases List.mem_append.mp hjob with h | h
      · obtain ⟨source, hsource, rfl⟩ := List.mem_map.mp h
        exact hstoredUnlisted source (List.mem_append_right _ hsource)
      · obtain ⟨source, hsource, rfl⟩ := List.mem_map.mp h
        exact hrecent source hsource
  exact List.ne_nil_of_mem hjob

include hwritten in
/-- A running job that is not kept is written as failed. -/
lemma WritesJob.exists_failed (hmax : 0 < deps.maxRecentJobs)
    (hfresh : hasFreshWorkerOwnership platform deps message.receivedAt = false) {jobId : String}
    (hrunning : session.runningJobId = some jobId) (hne : jobId ≠ "")
    (hkeeps : keepsRunningJob platform deps session message.receivedAt = false) :
    ∃ failed ∈ written.recentJobs, failed.id = jobId ∧ failed.isTerminal = true := by
  refine ⟨failedRunningJob (clearOrphanedWorkingProgressIfNeeded platform deps session
    message.receivedAt) jobId message.receivedAt, ?_, failedRunningJob_id jobId,
    failedRunningJob_isTerminal jobId⟩
  rw [hwritten.recentJobs, recover_of_orphaned hfresh hrunning hne hkeeps]
  obtain ⟨n, hn⟩ := Nat.exists_eq_succ_of_ne_zero hmax.ne'
  simp [recoverRunningJob, upsertRecentJob, replaceById, hn]

include hread hwritten in
/-- The merged session has a running job exactly if the message keeps one. -/
lemma truthy_mergedRunningJobId (hsettled : SettledLedgers stored) (hmax : 0 < deps.maxRecentJobs)
    (hfresh : hasFreshWorkerOwnership platform deps message.receivedAt = false) :
    truthy (mergedRunningJobId platform (normalizedSession platform sha stored)
      (normalizedSession platform sha written)) =
        keepsRunningJob platform deps session message.receivedAt := by
  have hwrittenRunning : truthy written.runningJobId =
      keepsRunningJob platform deps session message.receivedAt := by
    rw [hwritten.runningJobId, truthy_recover_runningJobId hfresh]
  have hincoming : (normalizedSession platform sha written).runningJobId = written.runningJobId := rfl
  have hexisting : (normalizedSession platform sha stored).runningJobId = stored.runningJobId := rfl
  unfold mergedRunningJobId selectRunningJobId
  rw [hincoming, hexisting]
  cases hkeeps : keepsRunningJob platform deps session message.receivedAt with
  | true =>
      rw [hkeeps] at hwrittenRunning
      obtain ⟨jobId, hid, hne⟩ := truthy_iff.mp hwrittenRunning
      have hrunning : stored.runningJobId = some jobId := by
        rw [← hread.runningJobId, ← hid, hwritten.runningJobId, recover_of_keeps hfresh hkeeps,
          clearOrphanedWorkingProgressIfNeeded_runningJobId]
      obtain ⟨hrecentOpen, hlisted⟩ := hsettled.running_neverEnded hrunning
      have hwrittenRecent : written.recentJobs = session.recentJobs := by
        rw [hwritten.recentJobs, recover_of_keeps hfresh hkeeps,
          clearOrphanedWorkingProgressIfNeeded_recentJobs]
      have hwrittenQueue : ∀ job ∈ written.queuedJobs, job ∈ session.queuedJobs ∨
          job.isTerminal = false := by
        intro job hjob
        rw [hwritten.queuedJobs, recover_of_keeps hfresh hkeeps,
          clearOrphanedWorkingProgressIfNeeded_queuedJobs] at hjob
        rcases List.mem_append.mp hjob with hold | happended
        · exact Or.inl hold
        · rw [List.mem_singleton.mp happended]
          exact Or.inr rfl
      have hrunnable : isRunnable (mergedQueuedJobs platform (normalizedSession platform sha stored)
          (normalizedSession platform sha written)) (mergedRecentJobs platform
          (normalizedSession platform sha stored) (normalizedSession platform sha written))
          (some jobId) = true := by
        have hsessionRecent : NeverEnded session.recentJobs jobId := by
          rcases hread.read with rfl | rfl
          · exact hrecentOpen
          · exact hrecentOpen.normalized
        refine isRunnable_merged hne hrecentOpen.normalized
          (NeverEnded.normalized (hwrittenRecent ▸ hsessionRecent)) ?_
        refine hlisted.imp ?_ ?_
        · rintro ⟨job, hjob, rfl⟩
          exact ⟨_, List.mem_map_of_mem hjob, rfl⟩
        · rintro ⟨⟨job, hjob, rfl⟩, hqueueOpen⟩
          have hsessionQueue : NeverEnded session.queuedJobs job.id := by
            rcases hread.read with rfl | rfl
            · exact hqueueOpen
            · exact hqueueOpen.normalized
          refine ⟨⟨_, List.mem_map_of_mem hjob, rfl⟩, hqueueOpen.normalized,
            NeverEnded.normalized fun other hother hotherId => ?_⟩
          exact (hwrittenQueue other hother).elim (hsessionQueue other · hotherId) id
      rw [hid, if_pos hrunnable]
      exact hid ▸ hwrittenRunning
  | false =>
      rw [hkeeps] at hwrittenRunning
      rw [isRunnable_of_not_truthy hwrittenRunning, if_neg (by simp)]
      cases hstoredRunning : stored.runningJobId with
      | none => rfl
      | some jobId =>
          have hrunning : session.runningJobId = some jobId := hread.runningJobId.trans hstoredRunning
          have hne : jobId ≠ "" := by
            obtain ⟨id, hid, hne⟩ := truthy_iff.mp (hsettled.truthy_of_running hstoredRunning)
            rwa [Option.some.inj (hstoredRunning.symm.trans hid)]
          obtain ⟨failed, hfailed, rfl, hterminal⟩ :=
            hwritten.exists_failed hmax hfresh hrunning hne hkeeps
          have hmem : normalizeConversationJob failed ∈
              (normalizedSession platform sha written).recentJobs := List.mem_map_of_mem hfailed
          have hended : isRunnable (mergedQueuedJobs platform
              (normalizedSession platform sha stored) (normalizedSession platform sha written))
              (mergedRecentJobs platform (normalizedSession platform sha stored)
                (normalizedSession platform sha written))
              (some (normalizeConversationJob failed).id) = false :=
            isRunnable_merged_of_terminal hmem hterminal
          rw [SettledLedgers.normalizeConversationJob_id] at hended
          rw [hended]
          rfl

end Stored

/-! ## When a worker is there or started -/

section NotStranded

variable {platform sha principalSnapshotOf} {deps : RecoveryDeps} {session : ConversationSession}
  {message : InboundMessage}

lemma hasFreshWorkerOwnership_of_inactive {nowIso : String} (h : deps.isWorkerActive = false) :
    hasFreshWorkerOwnership platform deps nowIso = false := by
  simp [hasFreshWorkerOwnership, h]

/-- A stored session that has the job in its queue and a running job exactly if the message keeps
one has a worker exactly if no queue is left behind. -/
lemma notStranded_iff_of_stored {after : ConversationSession}
    (hqueue : deps.isWorkerActive = false → after.queuedJobs ≠ [])
    (hrunning : deps.isWorkerActive = false →
      truthy after.runningJobId = keepsRunningJob platform deps session message.receivedAt) :
    NotStranded (some after) deps.isWorkerActive
        (processedSession platform principalSnapshotOf deps session message).2 ↔
      LeavesNoQueueBehind platform deps session message := by
  unfold NotStranded LeavesNoQueueBehind
  cases hactive : deps.isWorkerActive with
  | true => simp
  | false =>
      have hfresh : hasFreshWorkerOwnership platform deps message.receivedAt = false :=
        hasFreshWorkerOwnership_of_inactive hactive
      have hstarted := @processedSession_started_iff platform principalSnapshotOf deps session
        message hfresh
      simp only [Option.mem_def, Option.some.injEq, forall_eq', hstarted, hrunning hactive,
        Bool.false_eq_true, false_or]
      have hne := hqueue hactive
      cases keepsRunningJob platform deps session message.receivedAt <;> simp [hne]

lemma readOrSeed_conversationId {read : Option ConversationSession}
    (h : ∀ session ∈ read,
      session.conversationId = buildConversationKey message.toConversationKeySeedInput) :
    (readOrSeed read message).conversationId =
      buildConversationKey message.toConversationKeySeedInput := by
  cases read with
  | none => rfl
  | some session => exact h session rfl

/-- A message that opens a conversation or replaces its row writes the job and keeps the running
job as it is. -/
lemma notStranded_iff_of_written (stages : ConversationSession → ConversationSession)
    (hqueue : ∀ session, (stages session).queuedJobs = [] ↔ session.queuedJobs = [])
    (hrunning : ∀ session, (stages session).runningJobId = session.runningJobId) :
    NotStranded
        (some (stages (processedSession platform principalSnapshotOf deps session message).1))
        deps.isWorkerActive
        (processedSession platform principalSnapshotOf deps session message).2 ↔
      LeavesNoQueueBehind platform deps session message := by
  have hwritten := processedSession_writes platform principalSnapshotOf deps session message
  refine notStranded_iff_of_stored (fun hactive => ?_) (fun hactive => ?_)
  · rw [Ne, hqueue, hwritten.queuedJobs]
    simp
  · rw [hrunning, hwritten.runningJobId,
      truthy_recover_runningJobId (hasFreshWorkerOwnership_of_inactive hactive)]

/-- Each row of a SQLite store is under the id of its session. -/
def SqliteStore.Keyed (store : SqliteStore platform) : Prop :=
  ∀ sessionKey session, store.rows.find sessionKey = some session →
    session.conversationId = sessionKey

lemma SqliteStore.getSession_setSession (store : SqliteStore platform)
    {session : ConversationSession} (hdate : isDate platform session.updatedAt = true) :
    (store.setSession sha session).getSession sha session.conversationId =
      some (normalizedSession platform sha (normalizedSession platform sha session)) := by
  have hfind : (store.rows.put (normalizedSession platform sha session) hdate).find
      session.conversationId = some (normalizedSession platform sha session) :=
    (Conversations.find_put store.rows (normalizedSession platform sha session) hdate
      session.conversationId).trans (if_pos rfl)
  unfold SqliteStore.setSession
  rw [dif_pos hdate, SqliteStore.getSession_eq]
  exact congrArg (Option.map (normalizedSession platform sha)) hfind

lemma SqliteStore.notStranded_iff_of_keyed {store : SqliteStore platform} (hkeyed : store.Keyed)
    (hdate : isDate platform message.receivedAt = true) :
    NotStranded
        ((store.processConversationMessage platform sha principalSnapshotOf deps
          message).1.getSession sha (buildConversationKey message.toConversationKeySeedInput))
        deps.isWorkerActive
        (store.processConversationMessage platform sha principalSnapshotOf deps message).2 ↔
      LeavesNoQueueBehind platform deps
        (readOrSeed
          (store.getSession sha (buildConversationKey message.toConversationKeySeedInput)) message)
        message := by
  unfold SqliteStore.processConversationMessage
  dsimp only
  set session := readOrSeed
    (store.getSession sha (buildConversationKey message.toConversationKeySeedInput)) message
    with hsession
  have hid : session.conversationId =
      buildConversationKey message.toConversationKeySeedInput := by
    refine readOrSeed_conversationId fun read hread => ?_
    rw [SqliteStore.getSession_eq] at hread
    obtain ⟨row, hrow, rfl⟩ := Option.map_eq_some_iff.mp hread
    exact hkeyed _ row hrow
  have hwritten := processedSession_writes platform principalSnapshotOf deps session message
  rw [← hid, ← hwritten.conversationId, store.getSession_setSession (hwritten.updatedAt ▸ hdate)]
  exact notStranded_iff_of_written
    (fun s => normalizedSession platform sha (normalizedSession platform sha s))
    (fun s => by simp [normalizedSession]) fun _ => rfl

lemma JsonStore.notStranded_iff_of_new {store : JsonStore platform}
    (hstore : EveryStored platform SettledLedgers store)
    (hdate : isDate platform message.receivedAt = true) (hmax : 0 < deps.maxRecentJobs)
    (hnew : ¬ (readOrSeed
      (store.getSession sha (buildConversationKey message.toConversationKeySeedInput))
      message).Lists message.jobId) :
    NotStranded
        ((store.processConversationMessage platform sha principalSnapshotOf deps
          message).1.getSession sha (buildConversationKey message.toConversationKeySeedInput))
        deps.isWorkerActive
        (store.processConversationMessage platform sha principalSnapshotOf deps message).2 ↔
      LeavesNoQueueBehind platform deps
        (readOrSeed
          (store.getSession sha (buildConversationKey message.toConversationKeySeedInput)) message)
        message := by
  unfold JsonStore.processConversationMessage
  dsimp only
  set session := readOrSeed
    (store.getSession sha (buildConversationKey message.toConversationKeySeedInput)) message
    with hsession
  have hid : session.conversationId =
      buildConversationKey message.toConversationKeySeedInput :=
    readOrSeed_conversationId fun _ hread => hstore.conversationId_eq hread
  have hwritten := processedSession_writes platform principalSnapshotOf deps session message
  have hdateWritten : isDate platform (processedSession platform principalSnapshotOf deps session
      message).1.updatedAt = true := hwritten.updatedAt ▸ hdate
  rw [JsonStore.getSession_setSession _ _ hdateWritten, hwritten.conversationId, hid, if_pos rfl]
  cases hfile : store.file.find (buildConversationKey message.toConversationKeySeedInput) with
  | none =>
      exact notStranded_iff_of_written (normalizedSession platform sha)
        (fun s => by simp [normalizedSession]) fun _ => rfl
  | some stored =>
      have hread : ReadOf platform sha stored session := by
        obtain ⟨read, hget⟩ := Option.ne_none_iff_exists'.mp fun hnone =>
          absurd (hfile.symm.trans (hstore.getSession_eq_none_iff.mp hnone)) (by simp)
        obtain ⟨found, hfound, hcases⟩ := hstore.getSession_cases hget
        rw [hfile, Option.some.injEq] at hfound
        subst hfound
        rw [hsession, hget]
        exact ⟨hcases⟩
      have hsettled := hstore.holds _ stored hfile
      exact notStranded_iff_of_stored
        (fun hactive => mergedQueuedJobs_ne_nil hread hwritten hsettled hnew
          (hasFreshWorkerOwnership_of_inactive hactive))
        (fun hactive => truthy_mergedRunningJobId hread hwritten hsettled hmax
          (hasFreshWorkerOwnership_of_inactive hactive))

/-- On both backends, for every session a message can read: after the message is processed its
queue has a worker, or one is started, exactly if the session's queue was not left behind. -/
theorem notStranded_iff (hdate : isDate platform message.receivedAt = true) :
    (∀ store : SqliteStore platform, store.Keyed →
      let sessionKey := buildConversationKey message.toConversationKeySeedInput
      let processed :=
        store.processConversationMessage platform sha principalSnapshotOf deps message
      NotStranded (processed.1.getSession sha sessionKey) deps.isWorkerActive processed.2 ↔
        LeavesNoQueueBehind platform deps (readOrSeed (store.getSession sha sessionKey) message)
          message) ∧
    ∀ events (store : JsonStore platform),
      run (queueStep platform sha principalSnapshotOf) JsonStore.new events = some store →
      0 < deps.maxRecentJobs →
      let sessionKey := buildConversationKey message.toConversationKeySeedInput
      let session := readOrSeed (store.getSession sha sessionKey) message
      let processed :=
        store.processConversationMessage platform sha principalSnapshotOf deps message
      ¬ session.Lists message.jobId →
      (NotStranded (processed.1.getSession sha sessionKey) deps.isWorkerActive processed.2 ↔
        LeavesNoQueueBehind platform deps session message) := by
  refine ⟨fun store hkeyed => SqliteStore.notStranded_iff_of_keyed hkeyed hdate,
    fun events store hrun hmax hnew => ?_⟩
  have hstore : EveryStored platform SettledLedgers store :=
    invariant_of_run (fun _ _ _ h hstep => h.queueStep principalSnapshotOf
      (SettledLedgers.keptByStore platform sha) hstep) EveryStored.new hrun
  exact JsonStore.notStranded_iff_of_new hstore hdate hmax hnew

end NotStranded

/-! ## A queue left behind by a restart -/

def restartPlatform : Platform :=
  .ofDates
    [("2026-01-01T00:00:00.000Z", 1767225600000), ("2026-01-01T00:00:30.000Z", 1767225630000)]

def restartStep : JsonStore restartPlatform → QueueEvent → Option (JsonStore restartPlatform) :=
  queueStep restartPlatform sampleSha fun _ => sampleVerifiedSnapshot

def sampleRecoveryDeps : RecoveryDeps where
  isWorkerActive := false
  workerLastSeenAt := none
  staleRunningJobRecoveryMs := 60000
  maxRecentJobs := 20

def sampleInboundMessage (jobId receivedAt : String) : InboundMessage where
  toConversationKeySeedInput := { sampleMessage with receivedAt := receivedAt }
  path := .routed
  beforeEnqueue := .keep
  afterEnqueue := .keep
  jobId := jobId
  jobInput := "build it"
  executionInput := none

def processSample (store : JsonStore restartPlatform) (message : InboundMessage) :
    JsonStore restartPlatform × Bool :=
  store.processConversationMessage restartPlatform sampleSha (fun _ => sampleVerifiedSnapshot)
    sampleRecoveryDeps message

/-- A request is stored and the process ends before its worker runs. The next message, half a
minute later, finds the job in the queue, takes it for active work and starts no worker. -/
theorem queue_left_behind_by_restart :
    (run restartStep JsonStore.new [firstRequest, .restart]).map (fun store =>
      let processed := processSample store (sampleInboundMessage "job-2" "2026-01-01T00:00:30.000Z")
      let stored := processed.1.getSession sampleSha "telegram:chat-1:user-1"
      (stored.map fun session => (session.runningJobId, session.queuedJobs.map ConversationJob.id),
        processed.2, decide (NotStranded stored false processed.2))) =
      some (some (none, ["job-2", "job-1"]), false, false) := by
  decide

/-- A message that opens a conversation starts a worker. -/
theorem first_message_not_stranded :
    let processed := processSample JsonStore.new
      (sampleInboundMessage "job-1" "2026-01-01T00:00:00.000Z")
    NotStranded (processed.1.getSession sampleSha "telegram:chat-1:user-1") false processed.2 := by
  have hdate : isDate restartPlatform
      (sampleInboundMessage "job-1" "2026-01-01T00:00:00.000Z").receivedAt = true := by decide
  have hiff := (@notStranded_iff restartPlatform sampleSha (fun _ => sampleVerifiedSnapshot)
    sampleRecoveryDeps _ hdate).2 [] JsonStore.new rfl (by decide)
    fun hlists => by
      obtain ⟨job, hjob, -⟩ := hlists
      exact absurd hjob List.not_mem_nil
  exact hiff.mpr (by decide)

end AgentBigBrain.Interfaces
