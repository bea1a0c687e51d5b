import AgentBigBrain.Interfaces.AckInvariants
import AgentBigBrain.Interfaces.QueueMachine

/-!
# What the parties do to the job ledgers

Whatever a party makes of the copy it read, its recent records are not queued and its queued ones
are; so are those of a merge, which drops no id and whose queue holds no job with a recent record.
-/
namespace AgentBigBrain.Interfaces

open AgentBigBrain.Js AgentBigBrain.Core AgentBigBrain.Lib

/-! ## Ledgers of a copy -/

/-- Ledgers of a conversation: what is queued is queued, what is recent is not. -/
structure SoundLedgers (sessionKey : String) (session : ConversationSession) : Prop where
  keyed : session.conversationId = sessionKey
  recent : ∀ job ∈ session.recentJobs, job.status ≠ .queued
  queued : ∀ job ∈ session.queuedJobs, job.status = .queued

/-- No job is in both ledgers. -/
def Separate (session : ConversationSession) : Prop :=
  ∀ queued ∈ session.queuedJobs, ∀ recent ∈ session.recentJobs, recent.id ≠ queued.id

def ConversationSession.ListsRecent (session : ConversationSession) (jobId : String) : Prop :=
  ∃ job ∈ session.recentJobs, job.id = jobId

section Ledgers

variable {platform : Platform} {sha : Sha256} {sessionKey : String}
  {session existing incoming : ConversationSession}

lemma SoundLedgers.normalized (h : SoundLedgers sessionKey session) :
    SoundLedgers sessionKey (normalizedSession platform sha session) where
  keyed := h.keyed
  recent job hjob := by
    obtain ⟨source, hsource, rfl⟩ := List.mem_map.mp hjob
    exact h.recent source hsource
  queued job hjob := by
    obtain ⟨source, hsource, rfl⟩ := List.mem_map.mp hjob
    exact h.queued source hsource

lemma Separate.normalized (h : Separate session) :
    Separate (normalizedSession platform sha session) := by
  intro queued hqueued recent hrecent
  obtain ⟨source, hsource, rfl⟩ := List.mem_map.mp hqueued
  obtain ⟨other, hother, rfl⟩ := List.mem_map.mp hrecent
  exact h source hsource other hother

lemma lists_normalizedSession {jobId : String} :
    (normalizedSession platform sha session).Lists jobId ↔ session.Lists jobId := by
  simp [ConversationSession.Lists, ConversationSession.jobs, normalizedSession, or_and_right,
    exists_or]

lemma listsRecent_normalizedSession {jobId : String} :
    (normalizedSession platform sha session).ListsRecent jobId ↔ session.ListsRecent jobId := by
  simp [ConversationSession.ListsRecent, normalizedSession]

/-- A status that no record of two lists has, no record of the merged one has. -/
lemma forall_mergedJobs {P : ConversationJobStatus → Prop} {sources : List ConversationJob}
    {existingJobs incomingJobs : List ConversationJob} (he : ∀ job ∈ existingJobs, P job.status)
    (hi : ∀ job ∈ incomingJobs, P job.status) :
    ∀ job ∈ applyVerifiedJobSnapshots sources
      (mergeConversationJobs platform existingJobs incomingJobs), P job.status := by
  intro job hjob
  obtain ⟨source, hsource, rfl⟩ := List.mem_map.mp hjob
  rw [applyVerifiedJobSnapshot_status]
  refine @KeyedMerge.forall_values _ _ jobsById _ (fun job => P job.status) _ _ he hi ?_ source
    ((mem_mergeConversationJobs platform).mp hsource)
  intro left right _ hleft hright
  obtain ⟨preferred, snapshot, rfl | rfl, hchoose⟩ :=
    choosePreferredConversationJob_cases left right <;> rw [jobsById_choose, hchoose]
  · exact hleft
  · exact hright

lemma SoundLedgers.merged (he : SoundLedgers sessionKey existing)
    (hi : SoundLedgers sessionKey incoming) :
    SoundLedgers sessionKey (mergedSession platform sha existing incoming) where
  keyed := hi.keyed
  recent := forall_mergedJobs (P := fun status => status ≠ .queued) he.recent hi.recent
  queued job hjob := forall_mergedJobs (P := fun status => status = .queued) he.queued hi.queued job
    (List.mem_filter.mp hjob).1

/-- A merged queue holds no job with a recent record. -/
lemma Separate.merged (he : SoundLedgers sessionKey existing)
    (hi : SoundLedgers sessionKey incoming) :
    Separate (mergedSession platform sha existing incoming) := by
  intro queued hqueued recent hrecent hid
  have hstays := (List.mem_filter.mp hqueued).2
  simp only [staysQueued, Bool.and_eq_true, Bool.not_eq_true', List.any_eq_false] at hstays
  have hmerged : SoundLedgers sessionKey (mergedSession platform sha existing incoming) :=
    he.merged hi
  have hnot := hstays.1 recent hrecent
  simp [hmerged.recent recent hrecent, hid] at hnot

/-- A merge keeps every id of both sides. -/
lemma lists_merged (he : SoundLedgers sessionKey existing)
    (hi : SoundLedgers sessionKey incoming) {jobId : String}
    (h : existing.Lists jobId ∨ incoming.Lists jobId) :
    (mergedSession platform sha existing incoming).Lists jobId := by
  by_contra hleft
  obtain ⟨source, hsource, rfl⟩ :
      ∃ source ∈ snapshotSources existing incoming, source.id = jobId := by
    rcases h with ⟨job, hjob, hid⟩ | ⟨job, hjob, hid⟩
    · refine ⟨job, ?_, hid⟩
      rw [snapshotSources, List.append_assoc]
      exact List.mem_append_left _ hjob
    · refine ⟨job, ?_, hid⟩
      rw [snapshotSources, List.append_assoc]
      exact List.mem_append_right _ hjob
  obtain ⟨-, job, hjob, -, hterminal⟩ := left_of_not_lists hsource hleft
  have hqueued : job.status = .queued := by
    rcases List.mem_append.mp hjob with hmem | hmem
    · exact he.queued job hmem
    · exact hi.queued job hmem
  simp [ConversationJob.isTerminal, hqueued, isTerminalConversationJobStatus] at hterminal

lemma listsRecent_merged {jobId : String}
    (h : existing.ListsRecent jobId ∨ incoming.ListsRecent jobId) :
    (mergedSession platform sha existing incoming).ListsRecent jobId :=
  (mem_ids_mergedRecentJobs platform existing incoming).mpr h

end Ledgers

/-! ## What the parties write -/

section Edits

variable {platform : Platform} {principalSnapshotOf : Option Json → ConversationJobPrincipalSnapshot}
  {sessionKey : String} {session : ConversationSession} {maxRecentJobs : ℕ}

lemma SoundLedgers.of_eq (h : SoundLedgers sessionKey session) {other : ConversationSession}
    (hkey : other.conversationId = session.conversationId)
    (hrecent : other.recentJobs = session.recentJobs)
    (hqueued : other.queuedJobs = session.queuedJobs) :
    SoundLedgers sessionKey other where
  keyed := hkey.trans h.keyed
  recent := hrecent ▸ h.recent
  queued := hqueued ▸ h.queued

lemma SoundLedgers.update (h : SoundLedgers sessionKey session) (update : SessionUpdate) :
    SoundLedgers sessionKey (update.apply session) :=
  h.of_eq (update.conversationId session) (update.recentJobs session) (update.queuedJobs session)

lemma SoundLedgers.upsert (h : SoundLedgers sessionKey session) {job : ConversationJob}
    (hstatus : job.status ≠ .queued) :
    SoundLedgers sessionKey (upsertRecentJob session job maxRecentJobs) where
  keyed := h.keyed
  recent other hother := by
    rcases List.mem_cons.mp (List.mem_of_mem_take hother) with rfl | hkept
    · exact hstatus
    · exact h.recent other (List.mem_of_mem_filter hkept)
  queued := h.queued

lemma SoundLedgers.findRecentJob (h : SoundLedgers sessionKey session) {jobId : String}
    {job : ConversationJob} (hfind : findRecentJob session jobId = some job) :
    job.status ≠ .queued :=
  h.recent job (List.mem_of_find?_eq_some hfind)

lemma SoundLedgers.writeJob (h : SoundLedgers sessionKey session) {job : ConversationJob}
    (hstatus : job.status ≠ .queued) (nowIso : String) :
    SoundLedgers sessionKey (writeJob session job nowIso maxRecentJobs) :=
  (h.upsert hstatus).of_eq rfl rfl rfl

lemma SoundLedgers.enqueue (h : SoundLedgers sessionKey session) (input : EnqueueInput) :
    SoundLedgers sessionKey (enqueueConversationJob principalSnapshotOf session input).1 := by
  rw [enqueueConversationJob_session]
  refine ⟨h.keyed, h.recent, fun job hjob => ?_⟩
  rcases List.mem_append.mp hjob with hold | hnew
  · exact h.queued job hold
  · rw [List.mem_singleton.mp hnew]
    rfl

lemma SoundLedgers.recover (h : SoundLedgers sessionKey session) (deps : RecoveryDeps)
    (nowIso : String) :
    SoundLedgers sessionKey (recoverStaleRunningJobIfNeeded platform deps session nowIso) where
  keyed := recover_conversationId.trans h.keyed
  recent job hjob := by
    rcases mem_recover_recentJobs hjob with hkept | ⟨hterminal, -⟩
    · exact h.recent job hkept
    · intro hqueued
      simp [ConversationJob.isTerminal, hqueued, isTerminalConversationJobStatus] at hterminal
  queued job hjob := h.queued job (mem_of_mem_recover_queuedJobs hjob)

lemma updateFirst_forall {α : Type*} {p : α → Bool} {f : α → α} {P : α → Prop} {xs : List α}
    (h : ∀ x ∈ xs, P x) (hf : ∀ x, P x → P (f x)) : ∀ x ∈ updateFirst p f xs, P x := by
  induction xs with
  | nil => exact fun x hx => by cases hx
  | cons y ys ih =>
      have hy := h y List.mem_cons_self
      have hys := fun x hx => h x (List.mem_cons_of_mem y hx)
      unfold updateFirst
      split_ifs
      · exact List.forall_mem_cons.mpr ⟨hf y hy, hys⟩
      · exact List.forall_mem_cons.mpr ⟨hy, ih hys⟩

lemma SoundLedgers.progress (h : SoundLedgers sessionKey session) {jobId : String}
    {update : ProgressUpdate} {written : ConversationSession}
    (hwritten : persistConversationExecutionProgress session jobId update = some written) :
    SoundLedgers sessionKey written := by
  unfold persistConversationExecutionProgress at hwritten
  dsimp only at hwritten
  split at hwritten
  · cases hwritten
    exact ⟨h.keyed, updateFirst_forall h.recent fun _ hjob => hjob, h.queued⟩
  · cases hwritten

lemma setConversationAckLifecycleState_status (job : ConversationJob)
    (nextState : ConversationAckLifecycleState) (code : String) :
    (setConversationAckLifecycleState job nextState code).status = job.status := by
  unfold setConversationAckLifecycleState
  split_ifs <;> rfl

lemma acknowledgedJob_status (job : ConversationJob) (delivery : ConversationDeliveryResult)
    (nowIso : String) : (acknowledgedJob job delivery nowIso).status = job.status := by
  unfold acknowledgedJob
  dsimp only
  split_ifs
  · exact setConversationAckLifecycleState_status _ _ _
  · split
    · exact setConversationAckLifecycleState_status _ _ _
    · split
      · exact setConversationAckLifecycleState_status _ _ _
      · exact (setConversationAckLifecycleState_status _ .cancelled _).trans
          (setConversationAckLifecycleState_status _ .sent _)

lemma executedJob_status (job : ConversationJob) (ending : ExecutionEnd) (completedAt : String) :
    (executedJob job ending completedAt).status ≠ .queued := by
  cases ending <;> simp [executedJob]

lemma settledJob_status (persisted executed : ConversationJob) (texts : OutcomeTexts) :
    (settledJob persisted executed texts).status = executed.status := by
  unfold settledJob
  dsimp only
  split <;> rfl

lemma sentJob_status {job : ConversationJob} (hstatus : job.status ≠ .queued)
    (delivery : FinalDelivery) (editAttempted : Bool) :
    (sentJob job delivery editAttempted).status ≠ .queued := by
  unfold sentJob
  dsimp only
  by_cases hok : delivery.send.ok = true
  · rw [if_pos hok, setConversationAckLifecycleState_status]
    exact hstatus
  · rw [if_neg hok]
    dsimp only
    rw [setConversationAckLifecycleState_status]
    dsimp only
    split_ifs <;> simp

lemma deliveredJob_status {job : ConversationJob} (hstatus : job.status ≠ .queued)
    (delivery : FinalDelivery) : (deliveredJob job delivery).status ≠ .queued := by
  unfold deliveredJob
  dsimp only
  split_ifs
  · have hset := setConversationAckLifecycleState_status (attemptedEdit job delivery) .replaced
      "ACK_REPLACE_STATE_TRANSITION_BLOCKED"
    exact fun hqueued => hstatus (hset.symm.trans hqueued)
  · exact @sentJob_status
      { attemptedEdit job delivery with
        ackLastErrorCode := some (delivery.edit.errorCode.getD "ACK_EDIT_FAILED")
        finalDeliveryLastErrorCode := some (delivery.edit.errorCode.getD "ACK_EDIT_FAILED") }
      hstatus delivery true
  · exact sentJob_status hstatus delivery false

lemma SoundLedgers.settleOutcome (h : SoundLedgers sessionKey session) (taken : ConversationJob)
    (outcome : ExecutionOutcome) :
    SoundLedgers sessionKey
      (settleOutcome principalSnapshotOf maxRecentJobs session taken outcome) := by
  have hexecuted := executedJob_status taken outcome.ending outcome.completedAt
  set executed := executedJob taken outcome.ending outcome.completedAt with hexecutedDef
  set settled := settledJob ((Interfaces.findRecentJob session executed.id).getD executed) executed
    outcome.texts with hsettled
  have hstatus : settled.status ≠ .queued := by
    rw [hsettled, settledJob_status]
    exact hexecuted
  have hwritten : SoundLedgers sessionKey (outcome.update.apply
      { Interfaces.writeJob session settled outcome.updatedAt maxRecentJobs with
        runningJobId := none }) := by
    have hcleared : SoundLedgers sessionKey
        { Interfaces.writeJob session settled outcome.updatedAt maxRecentJobs with
          runningJobId := none } :=
      (h.writeJob hstatus outcome.updatedAt).of_eq rfl rfl rfl
    exact hcleared.update outcome.update
  unfold Interfaces.settleOutcome
  dsimp only
  cases outcome.retry with
  | none => exact hwritten
  | some input => exact (hwritten.enqueue input).upsert hstatus

/-- The worker writes sound ledgers. -/
lemma workerWrite_sound (h : SoundLedgers sessionKey session) {taken : ConversationJob}
    {write : WorkerWrite} {written : ConversationSession}
    (hwritten : write.apply principalSnapshotOf maxRecentJobs session taken = some written) :
    SoundLedgers sessionKey written := by
  cases write with
  | outcome result =>
      cases hwritten
      exact h.settleOutcome taken result
  | terminalRecovery ending completedAt =>
      cases hwritten
      have hstatus : ∀ persisted, (recoveredTerminalJob persisted
          (executedJob taken ending completedAt) ending).status ≠ .queued :=
        fun _ => executedJob_status taken ending completedAt
      exact SoundLedgers.of_eq (h.upsert (hstatus _)) rfl rfl rfl
  | suppress =>
      obtain ⟨job, hfind, rfl⟩ := Option.map_eq_some_iff.mp hwritten
      have hstatus : job.status ≠ .queued := h.findRecentJob hfind
      exact @SoundLedgers.upsert _ _ _ h (suppressedJob job) hstatus
  | deliver delivery =>
      obtain ⟨job, hfind, rfl⟩ := Option.map_eq_some_iff.mp hwritten
      have hstatus : job.status ≠ .queued :=
        h.findRecentJob (Option.filter_eq_some_iff.mp hfind).1
      exact h.writeJob (deliveredJob_status hstatus delivery) _

variable (principalSnapshotOf) in
lemma lists_enqueued (session : ConversationSession) (input : EnqueueInput) :
    (enqueueConversationJob principalSnapshotOf session input).1.Lists input.jobId := by
  rw [enqueueConversationJob_session]
  exact ⟨newConversationJob principalSnapshotOf session input,
    List.mem_append_left _ (List.mem_append_right _ (List.mem_singleton_self _)), rfl⟩

lemma workerWrite_lists {taken : ConversationJob} {write : WorkerWrite}
    {written : ConversationSession}
    (hwritten : write.apply principalSnapshotOf maxRecentJobs session taken = some written) :
    ∀ jobId ∈ write.jobId, written.Lists jobId := by
  intro jobId hjobId
  cases write with
  | outcome result =>
      cases hwritten
      cases hretry : result.retry with
      | none => simp [WorkerWrite.jobId, hretry] at hjobId
      | some input =>
          have hid : input.jobId = jobId := by simpa [WorkerWrite.jobId, hretry] using hjobId
          subst hid
          -- The upsert of the settled record does not touch the queue.
          simp only [settleOutcome, hretry, enqueueConversationJob_session]
          exact ⟨_, List.mem_append_left _ (List.mem_append_right _ (List.mem_singleton_self _)), rfl⟩
  | _ => cases hjobId

/-- A party writes sound ledgers. -/
lemma partyWrite_sound (h : SoundLedgers sessionKey session) {write : PartyWrite}
    {written : ConversationSession}
    (hwritten : write.apply platform principalSnapshotOf maxRecentJobs session = some written) :
    SoundLedgers sessionKey written := by
  have htimed : ∀ deps receivedAt, SoundLedgers sessionKey
      { recoverStaleRunningJobIfNeeded platform deps session receivedAt with
        updatedAt := receivedAt } :=
    fun deps receivedAt => SoundLedgers.of_eq (h.recover deps receivedAt) rfl rfl rfl
  cases write with
  | message deps inbound =>
      cases hwritten
      have hrouted : SoundLedgers sessionKey (routedSession platform deps session inbound) :=
        (htimed deps inbound.receivedAt).update inbound.beforeEnqueue
      exact (hrouted.enqueue inbound.enqueueInput).update inbound.afterEnqueue
  | systemJob input =>
      simp only [PartyWrite.apply] at hwritten
      split_ifs at hwritten
      cases hwritten
      exact (h.enqueue input).of_eq rfl rfl rfl
  | noJob deps receivedAt update =>
      cases hwritten
      exact (htimed deps receivedAt).update update
  | progress jobId update => exact h.progress hwritten
  | ackTimer timerRecord nowIso canUseAckTimer delivery =>
      have hjob : ∀ job, ackTimerJob session timerRecord = some job → job.status ≠ .queued := by
        intro job hjob
        unfold ackTimerJob at hjob
        split_ifs at hjob
        exact h.findRecentJob (Option.filter_eq_some_iff.mp hjob).1
      simp only [PartyWrite.apply, ackTimerDecision] at hwritten
      cases hfind : ackTimerJob session timerRecord with
      | none => simp [hfind] at hwritten
      | some job =>
          have hstatus := hjob job hfind
          rw [hfind] at hwritten
          dsimp only at hwritten
          cases hdecision : runningJobDecision platform job nowIso canUseAckTimer with
          | ignore => simp [hdecision] at hwritten
          | record record =>
              rw [hdecision] at hwritten
              cases hwritten
              obtain ⟨code, rfl⟩ := runningJobDecision_record hdecision
              exact @SoundLedgers.writeJob _ _ _ h { job with ackLastErrorCode := code } hstatus
                nowIso
          | send sending =>
              rw [hdecision] at hwritten
              cases hwritten
              obtain ⟨rfl, -, -⟩ := runningJobDecision_send hdecision
              exact h.writeJob ((acknowledgedJob_status sending delivery nowIso).trans_ne hstatus)
                nowIso

lemma partyWrite_lists {write : PartyWrite} {written : ConversationSession}
    (hwritten : write.apply platform principalSnapshotOf maxRecentJobs session = some written) :
    ∀ jobId ∈ write.jobId, written.Lists jobId := by
  intro jobId hjobId
  cases write with
  | message deps inbound =>
      cases hwritten
      cases hjobId
      obtain ⟨job, hjob, hid⟩ := lists_enqueued principalSnapshotOf
        (routedSession platform deps session inbound) inbound.enqueueInput
      refine ⟨job, ?_, hid⟩
      simpa [ConversationSession.jobs, processedSession, SessionUpdate.queuedJobs,
        SessionUpdate.recentJobs] using hjob
  | systemJob input =>
      simp only [PartyWrite.apply] at hwritten
      split_ifs at hwritten
      cases hwritten
      cases hjobId
      exact lists_enqueued principalSnapshotOf session input
  | _ => cases hjobId

/-- A party that knows of no job writes no recent job. -/
lemma partyWrite_of_empty (hrecent : session.recentJobs = []) (hqueued : session.queuedJobs = [])
    (hrunning : session.runningJobId = none) {write : PartyWrite} {written : ConversationSession}
    (hwritten : write.apply platform principalSnapshotOf maxRecentJobs session = some written) :
    written.recentJobs = [] := by
  have hrecovered : ∀ deps nowIso,
      (recoverStaleRunningJobIfNeeded platform deps session nowIso).recentJobs = [] := by
    intro deps nowIso
    refine List.eq_nil_iff_forall_not_mem.mpr fun job hjob => ?_
    rcases mem_recover_recentJobs hjob with hkept | ⟨-, ⟨queued, hmem, -⟩ | hid⟩
    · simp [hrecent] at hkept
    · simp [hqueued] at hmem
    · simp [hrunning] at hid
  cases write with
  | message deps inbound =>
      cases hwritten
      rw [(processedSession_writes platform principalSnapshotOf deps session inbound).recentJobs]
      exact hrecovered deps inbound.receivedAt
  | systemJob input =>
      simp only [PartyWrite.apply] at hwritten
      split_ifs at hwritten
      cases hwritten
      rw [enqueueConversationJob_session]
      exact hrecent
  | noJob deps receivedAt update =>
      cases hwritten
      rw [SessionUpdate.recentJobs]
      exact hrecovered deps receivedAt
  | progress jobId update =>
      simp [PartyWrite.apply, persistConversationExecutionProgress, hrunning, hrecent] at hwritten
  | ackTimer timerRecord nowIso canUseAckTimer delivery =>
      simp [PartyWrite.apply, ackTimerDecision, ackTimerJob, hrunning] at hwritten

/-- The job the worker takes leaves the queue of its copy for the recent jobs. -/
lemma takeNextJob_sound (h : SoundLedgers sessionKey session) (hmax : 0 < maxRecentJobs)
    {readings : StartReadings} {job : ConversationJob} {copy : ConversationSession}
    (htake : takeNextJob session readings maxRecentJobs = some (job, copy)) :
    SoundLedgers sessionKey copy ∧ copy.ListsRecent job.id ∧
      ∃ queued ∈ session.queuedJobs, queued.id = job.id := by
  unfold takeNextJob at htake
  split_ifs at htake
  cases hqueue : session.queuedJobs with
  | nil => simp [hqueue] at htake
  | cons nextJob rest =>
      rw [hqueue] at htake
      cases htake
      obtain ⟨n, rfl⟩ := Nat.exists_eq_succ_of_ne_zero hmax.ne'
      refine ⟨⟨h.keyed, fun other hother => ?_, fun other hother => ?_⟩,
        ⟨startedJob nextJob readings, List.mem_cons_self, rfl⟩, nextJob, List.mem_cons_self, rfl⟩
      · rcases List.mem_cons.mp (List.mem_of_mem_take hother) with rfl | hkept
        · simp [startedJob]
        · exact h.recent other (List.mem_of_mem_filter hkept)
      · exact h.queued other (hqueue ▸ List.mem_cons_of_mem nextJob hother)

end Edits

/-! ## What a save leaves in the file -/

section Saves

variable {platform : Platform} {sha : Sha256} {config : QueueConfig}
  {machine next : QueueMachine platform} {written : ConversationSession} {jobId : Option String}

/-- A stored session with sound ledgers that list what the earlier one and the written one list. -/
structure StoredOver (sessionKey : String) (before : Option ConversationSession)
    (written stored : ConversationSession) : Prop where
  sound : SoundLedgers sessionKey stored
  separate : Separate stored
  lists : ∀ jobId, (written.Lists jobId ∨ ∃ session ∈ before, session.Lists jobId) →
    stored.Lists jobId
  listsRecent : ∀ jobId,
    (written.ListsRecent jobId ∨ ∃ session ∈ before, session.ListsRecent jobId) →
      stored.ListsRecent jobId

lemma keptByStore_true : KeptByStore platform sha fun _ => True :=
  ⟨fun _ _ => trivial, fun _ _ => trivial, fun _ _ => trivial⟩

variable (hstored : EveryStored platform (fun _ => True) machine.store)
  (hledgers : ∀ session ∈ machine.stored config, SoundLedgers config.sessionKey session)
  (hwritten : SoundLedgers config.sessionKey written)

include hstored in
lemma EveryStored.save (hsave : machine.save sha written jobId = some next) :
    EveryStored platform (fun _ => True) next.store := by
  unfold QueueMachine.save at hsave
  split_ifs at hsave
  cases hsave
  exact hstored.setSession keptByStore_true (Or.inr trivial)

include hstored hledgers hwritten in
/-- A save of sound ledgers; the first one has no recent jobs. -/
lemma storedOver_of_save (hfirst : machine.stored config = none → written.recentJobs = [])
    (hsave : machine.save sha written jobId = some next) :
    ∃ stored, next.stored config = some stored ∧
      StoredOver config.sessionKey (machine.stored config) written stored := by
  have hnext : EveryStored platform (fun _ => True) next.store := hstored.save hsave
  unfold QueueMachine.save at hsave
  split_ifs at hsave with hdate
  cases hsave
  have hget := machine.store.getSession_setSession sha hdate config.sessionKey
  rw [hwritten.keyed, if_pos rfl] at hget
  have hfind : (machine.store.setSession sha written).file.find config.sessionKey =
      (machine.store.setSession sha written).getSession sha config.sessionKey := by
    unfold JsonStore.setSession
    rw [dif_pos hdate]
    dsimp only
    split <;> rfl
  refine ⟨_, hfind.trans hget, ?_⟩
  cases hold : machine.store.file.find config.sessionKey with
  | none =>
      -- The first session of the conversation.
      have hrecent : written.recentJobs = [] := hfirst hold
      refine ⟨hwritten.normalized, ?_, ?_, ?_⟩
      · exact Separate.normalized fun queued _ recent hmem => by simp [hrecent] at hmem
      · rintro jobId (hlists | ⟨session, hsession, -⟩)
        · exact lists_normalizedSession.mpr hlists
        · exact absurd (hold.symm.trans hsession) (by simp)
      · rintro jobId (hlists | ⟨session, hsession, -⟩)
        · exact listsRecent_normalizedSession.mpr hlists
        · exact absurd (hold.symm.trans hsession) (by simp)
  | some session =>
      have hexisting : SoundLedgers config.sessionKey (normalizedSession platform sha session) :=
        (hledgers session hold).normalized
      have hincoming : SoundLedgers config.sessionKey (normalizedSession platform sha written) :=
        hwritten.normalized
      have hsame : ∀ other ∈ machine.stored config, other = session := fun other hother =>
        Option.some.inj (hother.symm.trans hold)
      refine ⟨hexisting.merged hincoming, Separate.merged hexisting hincoming, ?_, ?_⟩
      · rintro jobId (hlists | ⟨other, hother, hlists⟩)
        · exact lists_merged hexisting hincoming (Or.inr (lists_normalizedSession.mpr hlists))
        · rw [hsame other hother] at hlists
          exact lists_merged hexisting hincoming (Or.inl (lists_normalizedSession.mpr hlists))
      · rintro jobId (hlists | ⟨other, hother, hlists⟩)
        · exact listsRecent_merged (Or.inr (listsRecent_normalizedSession.mpr hlists))
        · rw [hsame other hother] at hlists
          exact listsRecent_merged (Or.inl (listsRecent_normalizedSession.mpr hlists))

end Saves

end AgentBigBrain.Interfaces
