import AgentBigBrain.Interfaces.JobLedger
import AgentBigBrain.Interfaces.QueueRuns

/-!
# The ledgers of stored sessions

Job ids are unique in both ledgers of every stored session, and its running job, if there is
one, is a job of the ledgers that can run.
-/
namespace AgentBigBrain.Interfaces

open AgentBigBrain.Js AgentBigBrain.Core AgentBigBrain.Lib

/-! ## The ledger record of a job -/

lemma ledgerJob_eq {queuedJobs recentJobs : List ConversationJob}
    (hqueued : jobsById.Distinct queuedJobs) (hrecent : jobsById.Distinct recentJobs)
    (jobId : String) :
    ledgerJob queuedJobs recentJobs jobId =
      (jobsById.find jobId recentJobs).or (jobsById.find jobId queuedJobs) := by
  unfold ledgerJob
  rw [KeyedMerge.collect, List.foldl_append]
  change jobsById.latest.find jobId
    (jobsById.latest.collect (jobsById.latest.collect [] queuedJobs) recentJobs) = _
  rw [jobsById.latest_collect_nil hqueued, jobsById.latest_find_collect hrecent]

lemma isRunnable_iff {queuedJobs recentJobs : List ConversationJob}
    (hqueued : jobsById.Distinct queuedJobs) (hrecent : jobsById.Distinct recentJobs)
    {jobId : String} :
    isRunnable queuedJobs recentJobs (some jobId) = true ↔
      jobId ≠ "" ∧ ∃ job, (jobsById.find jobId recentJobs).or (jobsById.find jobId queuedJobs) =
        some job ∧ job.isTerminal = false := by
  have hstatus : ∀ job : ConversationJob,
      (decide (job.status = .running) || decide (job.status = .queued)) = !job.isTerminal := by
    intro job
    cases hjob : job.status <;> simp [ConversationJob.isTerminal, hjob, isTerminalConversationJobStatus]
  simp only [isRunnable, Option.any_some, Bool.and_eq_true, decide_eq_true_eq, hstatus,
    ledgerJob_eq hqueued hrecent, Option.any_eq_true, Bool.not_eq_true']

lemma isRunnable_of_not_truthy {queuedJobs recentJobs : List ConversationJob}
    {jobId : Option String} (h : truthy jobId = false) :
    isRunnable queuedJobs recentJobs jobId = false := by
  cases jobId with
  | none => rfl
  | some id =>
      have hid : id = "" := by simpa [truthy] using h
      simp [isRunnable, hid]

/-- A terminal recent record says that a job cannot run. -/
lemma isRunnable_of_terminal {queuedJobs recentJobs : List ConversationJob}
    (hqueued : jobsById.Distinct queuedJobs) (hrecent : jobsById.Distinct recentJobs)
    {job : ConversationJob} (hjob : job ∈ recentJobs) (hterminal : job.isTerminal = true) :
    isRunnable queuedJobs recentJobs (some job.id) = false := by
  rw [Bool.eq_false_iff]
  intro hrunnable
  obtain ⟨-, found, hfound, hopen⟩ := (isRunnable_iff hqueued hrecent).mp hrunnable
  rw [← jobsById_key, jobsById.find_eq_some_of_mem hrecent hjob, Option.some_or,
    Option.some.injEq] at hfound
  rw [← hfound, hterminal] at hopen
  cases hopen

/-! ## Settled ledgers -/

structure SettledLedgers (session : ConversationSession) : Prop where
  distinctQueued : jobsById.Distinct session.queuedJobs
  distinctRecent : jobsById.Distinct session.recentJobs
  runnable : ∀ jobId ∈ session.runningJobId,
    isRunnable session.queuedJobs session.recentJobs (some jobId) = true

namespace SettledLedgers

variable {platform : Platform} {sha : Sha256} {session existing incoming : ConversationSession}

lemma truthy_of_running (h : SettledLedgers session) {jobId : String}
    (hrunning : session.runningJobId = some jobId) : truthy session.runningJobId = true := by
  obtain ⟨hne, -⟩ := (isRunnable_iff h.distinctQueued h.distinctRecent).mp
    (h.runnable jobId hrunning)
  exact truthy_iff.mpr ⟨jobId, hrunning, hne⟩

@[simp] lemma normalizeConversationJob_id (job : ConversationJob) :
    (normalizeConversationJob job).id = job.id := rfl

@[simp] lemma normalizeConversationJob_isTerminal (job : ConversationJob) :
    (normalizeConversationJob job).isTerminal = job.isTerminal := rfl

lemma distinct_normalizedJobs {jobs : List ConversationJob} (h : jobsById.Distinct jobs) :
    jobsById.Distinct (jobs.map normalizeConversationJob) := by
  unfold KeyedMerge.Distinct at h ⊢
  rw [List.map_map]
  exact h

lemma normalizedSession (h : SettledLedgers session) :
    SettledLedgers (normalizedSession platform sha session) where
  distinctQueued := distinct_normalizedJobs h.distinctQueued
  distinctRecent := distinct_normalizedJobs h.distinctRecent
  runnable jobId hrunning := by
    obtain ⟨hne, job, hjob, hopen⟩ := (isRunnable_iff h.distinctQueued h.distinctRecent).mp
      (h.runnable jobId hrunning)
    refine (isRunnable_iff (distinct_normalizedJobs h.distinctQueued)
      (distinct_normalizedJobs h.distinctRecent)).mpr
      ⟨hne, normalizeConversationJob job, ?_, hopen⟩
    have hfind : ∀ jobs, jobsById.find jobId (jobs.map normalizeConversationJob) =
        (jobsById.find jobId jobs).map normalizeConversationJob :=
      fun jobs => jobsById.find_map normalizeConversationJob (fun _ => rfl) jobId jobs
    exact (congrArg₂ Option.or (hfind _) (hfind _)).trans (by rw [← Option.map_or, hjob]; rfl)

lemma mergedSession : SettledLedgers (mergedSession platform sha existing incoming) where
  distinctQueued := distinct_mergedQueuedJobs
  distinctRecent := distinct_mergedRecentJobs
  runnable jobId hrunning := by
    change mergedRunningJobId platform existing incoming = some jobId at hrunning
    unfold mergedRunningJobId selectRunningJobId at hrunning
    split_ifs at hrunning with hincoming hexisting
    · rw [hrunning] at hincoming
      exact hincoming
    · rw [hrunning] at hexisting
      exact hexisting

lemma of_opens (h : OpensConversation session) : SettledLedgers session where
  distinctQueued := by
    match hqueue : session.queuedJobs with
    | [] => exact List.nodup_nil
    | [_] => exact List.nodup_singleton _
    | _ :: _ :: _ =>
        have hlength := h.queuedJobs
        rw [hqueue] at hlength
        simp at hlength
  distinctRecent := by
    rw [h.recentJobs]
    exact List.nodup_nil
  runnable jobId hrunning := by
    rw [h.runningJobId] at hrunning
    cases hrunning

variable (platform sha) in
lemma keptByStore : KeptByStore platform sha SettledLedgers where
  opening _ h := of_opens h
  normalized _ h := h.normalizedSession
  merged _ _ := mergedSession

end SettledLedgers

/-! ## Jobs that never ended -/

/-- No record of the job in the list is terminal. -/
def NeverEnded (jobs : List ConversationJob) (jobId : String) : Prop :=
  ∀ job ∈ jobs, job.id = jobId → job.isTerminal = false

section Merged

variable {platform : Platform} {existing incoming : ConversationSession} {jobId : String}

lemma NeverEnded.of_distinct {jobs : List ConversationJob} (hdistinct : jobsById.Distinct jobs)
    {job : ConversationJob} (hjob : job ∈ jobs) (hopen : job.isTerminal = false) :
    NeverEnded jobs job.id := by
  intro other hother hid
  rw [jobsById.eq_of_distinct hdistinct hother hjob hid]
  exact hopen

lemma NeverEnded.normalized {jobs : List ConversationJob} (h : NeverEnded jobs jobId) :
    NeverEnded (jobs.map normalizeConversationJob) jobId := by
  intro job hjob hid
  obtain ⟨source, hsource, rfl⟩ := List.mem_map.mp hjob
  exact h source hsource hid

lemma NeverEnded.values {existingJobs incomingJobs : List ConversationJob}
    (he : NeverEnded existingJobs jobId) (hi : NeverEnded incomingJobs jobId) :
    NeverEnded (jobsById.values existingJobs incomingJobs) jobId := by
  refine jobsById.forall_values he hi fun left right hkey hleft hright hid => ?_
  obtain ⟨preferred, snapshot, rfl | rfl, hchoose⟩ :=
    choosePreferredConversationJob_cases left right <;>
    rw [jobsById_choose, hchoose] at hid ⊢
  · exact hleft hid
  · exact hright hid

lemma NeverEnded.applyVerified {jobs : List ConversationJob} (h : NeverEnded jobs jobId)
    (sources : List ConversationJob) :
    NeverEnded (applyVerifiedJobSnapshots sources jobs) jobId := by
  intro job hjob hid
  obtain ⟨source, hsource, rfl⟩ := List.mem_map.mp hjob
  rw [applyVerifiedJobSnapshot_isTerminal]
  exact h source hsource ((applyVerifiedJobSnapshot_id _ _).symm.trans hid)

lemma NeverEnded.mergedRecentJobs (he : NeverEnded existing.recentJobs jobId)
    (hi : NeverEnded incoming.recentJobs jobId) :
    NeverEnded (mergedRecentJobs platform existing incoming) jobId :=
  NeverEnded.applyVerified
    (fun job hjob => (he.values hi) job ((mem_mergeConversationJobs platform).mp hjob)) _

lemma NeverEnded.mergedQueuedCandidates (he : NeverEnded existing.queuedJobs jobId)
    (hi : NeverEnded incoming.queuedJobs jobId) :
    NeverEnded (mergedQueuedCandidates platform existing incoming) jobId :=
  NeverEnded.applyVerified
    (fun job hjob => (he.values hi) job ((mem_mergeConversationJobs platform).mp hjob)) _

/-- A queued job without recent records that never ended stays queued. -/
lemma exists_mergedQueuedJobs
    (hqueued : (∃ job ∈ existing.queuedJobs, job.id = jobId) ∨
      ∃ job ∈ incoming.queuedJobs, job.id = jobId)
    (he : NeverEnded existing.queuedJobs jobId) (hi : NeverEnded incoming.queuedJobs jobId)
    (hrecent : ∀ job ∈ existing.recentJobs ++ incoming.recentJobs, job.id ≠ jobId) :
    ∃ job ∈ mergedQueuedJobs platform existing incoming, job.id = jobId := by
  obtain ⟨candidate, hcandidate, rfl⟩ :=
    (mem_ids_mergedQueuedCandidates platform existing incoming).mpr hqueued
  have hopen := he.mergedQueuedCandidates hi candidate hcandidate rfl
  have hnone : ∀ recent ∈ mergedRecentJobs platform existing incoming,
      recent.id ≠ candidate.id := by
    intro recent hmem hid
    rcases (mem_ids_mergedRecentJobs platform existing incoming).mp ⟨recent, hmem, hid⟩ with h | h
    · obtain ⟨job, hjob, hjobId⟩ := h
      exact hrecent job (List.mem_append_left _ hjob) hjobId
    · obtain ⟨job, hjob, hjobId⟩ := h
      exact hrecent job (List.mem_append_right _ hjob) hjobId
  have hstays : staysQueued (mergedRecentJobs platform existing incoming) candidate = true := by
    have hany : ((mergedRecentJobs platform existing incoming).any fun recent =>
        decide (recent.status ≠ .queued) && decide (recent.id = candidate.id)) = false :=
      List.any_eq_false.mpr fun recent hmem => by simp [hnone recent hmem]
    unfold staysQueued
    rw [hany, hopen]
    rfl
  exact ⟨candidate, List.mem_filter.mpr ⟨hcandidate, hstays⟩, rfl⟩

/-- A job that never ended on either side can run after the merge. -/
lemma isRunnable_merged (hne : jobId ≠ "") (he : NeverEnded existing.recentJobs jobId)
    (hi : NeverEnded incoming.recentJobs jobId)
    (hlisted : (∃ job ∈ existing.recentJobs, job.id = jobId) ∨
      (∃ job ∈ existing.queuedJobs, job.id = jobId) ∧ NeverEnded existing.queuedJobs jobId ∧
        NeverEnded incoming.queuedJobs jobId) :
    isRunnable (mergedQueuedJobs platform existing incoming)
      (mergedRecentJobs platform existing incoming) (some jobId) = true := by
  refine (isRunnable_iff distinct_mergedQueuedJobs distinct_mergedRecentJobs).mpr ⟨hne, ?_⟩
  by_cases hrecent : ∃ job ∈ mergedRecentJobs platform existing incoming, job.id = jobId
  · obtain ⟨job, hjob, rfl⟩ := hrecent
    refine ⟨job, ?_, he.mergedRecentJobs hi job hjob rfl⟩
    rw [← jobsById_key, jobsById.find_eq_some_of_mem distinct_mergedRecentJobs hjob,
      Option.some_or]
  · have hnone : jobsById.find jobId (mergedRecentJobs platform existing incoming) = none := by
      refine jobsById.find_eq_none_iff.mpr fun hmem => hrecent ?_
      obtain ⟨job, hjob, hid⟩ := List.mem_map.mp hmem
      exact ⟨job, hjob, hid⟩
    have hno := fun h => hrecent ((mem_ids_mergedRecentJobs platform existing incoming).mpr h)
    rcases hlisted with hlisted | ⟨hqueued, heq, hiq⟩
    · exact absurd (Or.inl hlisted) hno
    · have hstays : ∃ job ∈ mergedQueuedJobs platform existing incoming, job.id = jobId :=
        exists_mergedQueuedJobs (Or.inl hqueued) heq hiq fun job hjob hid =>
          hno ((List.mem_append.mp hjob).imp (⟨job, ·, hid⟩) (⟨job, ·, hid⟩))
      obtain ⟨job, hjob, rfl⟩ := hstays
      refine ⟨job, ?_, ?_⟩
      · rw [hnone, Option.none_or, ← jobsById_key,
          jobsById.find_eq_some_of_mem distinct_mergedQueuedJobs hjob]
      · exact heq.mergedQueuedCandidates hiq job (List.mem_filter.mp hjob).1 rfl

/-- A job whose incoming recent record is terminal cannot run after the merge. -/
lemma isRunnable_merged_of_terminal {job : ConversationJob} (hjob : job ∈ incoming.recentJobs)
    (hterminal : job.isTerminal = true) :
    isRunnable (mergedQueuedJobs platform existing incoming)
      (mergedRecentJobs platform existing incoming) (some job.id) = false := by
  obtain ⟨record, hrecord, hid⟩ :=
    (mem_ids_mergedRecentJobs platform existing incoming).mpr (Or.inr ⟨job, hjob, rfl⟩)
  have hrecordTerminal : record.isTerminal = true := by
    obtain ⟨merged, hmerged, rfl⟩ := List.mem_map.mp hrecord
    rw [applyVerifiedJobSnapshot_id] at hid
    rw [applyVerifiedJobSnapshot_isTerminal]
    exact terminal_absorbing.values_of_incoming hjob hterminal merged
      ((mem_mergeConversationJobs platform).mp hmerged) hid
  rw [← hid]
  exact isRunnable_of_terminal distinct_mergedQueuedJobs distinct_mergedRecentJobs hrecord
    hrecordTerminal

end Merged

end AgentBigBrain.Interfaces
