import AgentBigBrain.Interfaces.SessionMerging
import AgentBigBrain.Interfaces.SessionMutations

/-!
# The job ledgers under merging

What a sequence of merges keeps of the queued and recent jobs: a job that has ended stays
ended, ids stay unique, the running job is one that can run, and a verified origin is lost
only together with the job itself.
-/
namespace AgentBigBrain.Interfaces

open AgentBigBrain.Js AgentBigBrain.Core AgentBigBrain.Lib

variable (platform : Platform) (sha : Sha256)

/-! ## What the ledgers say of a job -/

/-- All records of the jobs of a session. -/
def ConversationSession.jobs (session : ConversationSession) : List ConversationJob :=
  session.queuedJobs ++ session.recentJobs

def ConversationSession.Lists (session : ConversationSession) (jobId : String) : Prop :=
  ∃ job ∈ session.jobs, job.id = jobId

/-- The job has ended: it is not queued, and its recent record is terminal. -/
structure ConversationSession.HasEnded (session : ConversationSession) (jobId : String) : Prop where
  listed : ∃ job ∈ session.recentJobs, job.id = jobId
  terminal : ∀ job ∈ session.recentJobs, job.id = jobId → job.isTerminal = true
  unqueued : ∀ job ∈ session.queuedJobs, job.id ≠ jobId

/-- Every record of the job has a verified origin. -/
def ConversationSession.Verifies (session : ConversationSession) (jobId : String) : Prop :=
  ∀ job ∈ session.jobs, job.id = jobId → job.isVerified = true

variable {platform sha} {existing incoming : ConversationSession}

/-! ## Ids -/

lemma distinct_mergedRecentJobs :
    jobsById.Distinct (mergedRecentJobs platform existing incoming) := by
  unfold KeyedMerge.Distinct mergedRecentJobs
  rw [map_id_applyVerifiedJobSnapshots]
  exact distinct_mergeConversationJobs platform _ _

lemma distinct_mergedQueuedJobs :
    jobsById.Distinct (mergedQueuedJobs platform existing incoming) := by
  have hcandidates : jobsById.Distinct (mergedQueuedCandidates platform existing incoming) := by
    unfold KeyedMerge.Distinct mergedQueuedCandidates
    rw [map_id_applyVerifiedJobSnapshots]
    exact distinct_mergeConversationJobs platform _ _
  exact List.Nodup.sublist (List.Sublist.map _ List.filter_sublist) hcandidates

lemma mem_ids_mergedRecentJobs (platform : Platform) (existing incoming : ConversationSession)
    {jobId : String} :
    (∃ job ∈ mergedRecentJobs platform existing incoming, job.id = jobId) ↔
      (∃ job ∈ existing.recentJobs, job.id = jobId) ∨
        ∃ job ∈ incoming.recentJobs, job.id = jobId := by
  have hkeys := jobsById.mem_keys_values existing.recentJobs incoming.recentJobs (k := jobId)
  have hperm := (mergeConversationJobs_perm platform existing.recentJobs
    incoming.recentJobs).map jobsById.key
  rw [← hperm.mem_iff, ← map_id_applyVerifiedJobSnapshots (snapshotSources existing incoming)]
    at hkeys
  simpa [mergedRecentJobs] using hkeys

lemma mem_ids_mergedQueuedCandidates (platform : Platform)
    (existing incoming : ConversationSession) {jobId : String} :
    (∃ job ∈ mergedQueuedCandidates platform existing incoming, job.id = jobId) ↔
      (∃ job ∈ existing.queuedJobs, job.id = jobId) ∨
        ∃ job ∈ incoming.queuedJobs, job.id = jobId := by
  have hkeys := jobsById.mem_keys_values existing.queuedJobs incoming.queuedJobs (k := jobId)
  have hperm := (mergeConversationJobs_perm platform existing.queuedJobs
    incoming.queuedJobs).map jobsById.key
  rw [← hperm.mem_iff, ← map_id_applyVerifiedJobSnapshots (snapshotSources existing incoming)]
    at hkeys
  simpa [mergedQueuedCandidates] using hkeys

/-! ## Ended jobs -/

/-- A merged session with a terminal recent record of a job says that the job has ended. -/
lemma hasEnded_of_mem_recentJobs {job : ConversationJob}
    (hjob : job ∈ mergedRecentJobs platform existing incoming) (hterminal : job.isTerminal = true) :
    (mergedSession platform sha existing incoming).HasEnded job.id := by
  refine ⟨⟨job, hjob, rfl⟩, fun record hrecord hid => ?_, fun queued hqueued hid => ?_⟩
  · rwa [jobsById.eq_of_distinct distinct_mergedRecentJobs hrecord hjob hid]
  · have hstays := (List.mem_filter.mp hqueued).2
    have hnotQueued : job.status ≠ .queued := by
      intro hstatus
      simp [ConversationJob.isTerminal, hstatus, isTerminalConversationJobStatus] at hterminal
    simp only [staysQueued, Bool.and_eq_true, Bool.not_eq_true', List.any_eq_false] at hstays
    have := hstays.1 job hjob
    simp [hnotQueued, hid] at this

/-- A terminal record of the stored recent jobs decides: the job has ended after the merge. -/
lemma hasEnded_mergedSession (hdistinct : jobsById.Distinct existing.recentJobs)
    {job : ConversationJob} (hjob : job ∈ existing.recentJobs) (hterminal : job.isTerminal = true) :
    (mergedSession platform sha existing incoming).HasEnded job.id := by
  obtain ⟨record, hrecord, hid⟩ := (mem_ids_mergedRecentJobs platform existing
    incoming).mpr (Or.inl ⟨job, hjob, rfl⟩)
  have hrecordTerminal : record.isTerminal = true := by
    obtain ⟨merged, hmerged, rfl⟩ := List.mem_map.mp hrecord
    rw [applyVerifiedJobSnapshot_id] at hid
    rw [applyVerifiedJobSnapshot_isTerminal]
    exact terminal_absorbing.values_of_existing hdistinct hjob hterminal merged
      ((mem_mergeConversationJobs platform).mp hmerged) hid
  rw [← hid]
  exact hasEnded_of_mem_recentJobs hrecord hrecordTerminal

/-! ## Verified jobs -/

/-- Any verified record of a job, on either side, verifies its records after the merge. -/
lemma verifies_mergedSession {source : ConversationJob}
    (hsource : source ∈ snapshotSources existing incoming) (hverified : source.isVerified = true) :
    (mergedSession platform sha existing incoming).Verifies source.id := by
  intro record hrecord hid
  have hmapped : ∃ merged, record = applyVerifiedJobSnapshot (snapshotSources existing incoming)
      merged := by
    rcases List.mem_append.mp hrecord with hqueued | hrecent
    · obtain ⟨merged, -, rfl⟩ := List.mem_map.mp (List.mem_filter.mp hqueued).1
      exact ⟨merged, rfl⟩
    · obtain ⟨merged, -, rfl⟩ := List.mem_map.mp hrecent
      exact ⟨merged, rfl⟩
  obtain ⟨merged, rfl⟩ := hmapped
  rw [applyVerifiedJobSnapshot_id] at hid
  exact isVerified_applyVerifiedJobSnapshot hsource hid.symm hverified

/-- A job that a merge no longer lists was in no recent jobs and was queued as ended. -/
lemma left_of_not_lists {source : ConversationJob}
    (hsource : source ∈ snapshotSources existing incoming)
    (hleft : ¬ (mergedSession platform sha existing incoming).Lists source.id) :
    (∀ job ∈ existing.recentJobs ++ incoming.recentJobs, job.id ≠ source.id) ∧
      ∃ job ∈ existing.queuedJobs ++ incoming.queuedJobs, job.id = source.id ∧
        job.isTerminal = true := by
  have hrecent : ∀ job ∈ mergedRecentJobs platform existing incoming, job.id ≠ source.id :=
    fun job hjob hid => hleft ⟨job, List.mem_append_right _ hjob, hid⟩
  have hnever : ∀ job ∈ existing.recentJobs ++ incoming.recentJobs, job.id ≠ source.id := by
    intro job hjob hid
    obtain ⟨record, hrecord, hrecordId⟩ := (mem_ids_mergedRecentJobs platform existing
      incoming).mpr ((List.mem_append.mp hjob).imp (fun h => ⟨job, h, hid⟩) fun h => ⟨job, h, hid⟩)
    exact hrecent record hrecord hrecordId
  refine ⟨hnever, ?_⟩
  have hqueued : source ∈ existing.queuedJobs ∨ source ∈ incoming.queuedJobs := by
    simp only [snapshotSources, List.mem_append] at hsource hnever
    rcases hsource with ((h | h) | h) | h
    · exact Or.inl h
    · exact absurd rfl (hnever source (Or.inl h))
    · exact Or.inr h
    · exact absurd rfl (hnever source (Or.inr h))
  obtain ⟨candidate, hcandidate, hcandidateId⟩ := (mem_ids_mergedQueuedCandidates platform
    existing incoming).mpr (hqueued.imp (fun h => ⟨source, h, rfl⟩) fun h => ⟨source, h, rfl⟩)
  -- It was dropped from the queue, and no recent record is the reason.
  have hterminal : candidate.isTerminal = true := by
    by_contra hrunning
    have hnoRecent : ((mergedRecentJobs platform existing incoming).any fun recent =>
        decide (recent.status ≠ .queued) && decide (recent.id = candidate.id)) = false := by
      refine List.any_eq_false.mpr fun recent hmem => ?_
      simp [hcandidateId, hrecent recent hmem]
    have hstays : staysQueued (mergedRecentJobs platform existing incoming) candidate = true := by
      unfold staysQueued
      rw [hnoRecent]
      simpa using hrunning
    exact hleft ⟨candidate, List.mem_append_left _ (List.mem_filter.mpr ⟨hcandidate, hstays⟩),
      hcandidateId⟩
  obtain ⟨merged, hmerged, rfl⟩ := List.mem_map.mp hcandidate
  rw [applyVerifiedJobSnapshot_isTerminal] at hterminal
  rw [applyVerifiedJobSnapshot_id] at hcandidateId
  -- The status of a merged record is that of one of the records it was chosen from.
  have hpreferred : ∀ record ∈ jobsById.values existing.queuedJobs incoming.queuedJobs,
      record.isTerminal = true → ∃ job ∈ existing.queuedJobs ++ incoming.queuedJobs,
        job.id = record.id ∧ job.isTerminal = true := by
    refine jobsById.forall_values (fun job h ht => ⟨job, List.mem_append_left _ h, rfl, ht⟩)
      (fun job h ht => ⟨job, List.mem_append_right _ h, rfl, ht⟩) ?_
    intro left right hkey hleftJob hrightJob ht
    obtain ⟨preferred, snapshot, hpreferred, hchoose⟩ :=
      choosePreferredConversationJob_cases left right
    simp only [jobsById_choose, hchoose] at ht ⊢
    rcases hpreferred with rfl | rfl
    · exact hleftJob ht
    · exact hrightJob ht
  obtain ⟨job, hjob, hid, hjobTerminal⟩ := hpreferred merged
    ((mem_mergeConversationJobs platform).mp hmerged) hterminal
  exact ⟨job, hjob, hid.trans hcandidateId, hjobTerminal⟩

/-! ## Histories -/

variable (platform sha)

/-- A stored session and the snapshots merged into it one after another. -/
structure MergeHistory (n : ℕ) where
  stored : ℕ → ConversationSession
  snapshot : ℕ → ConversationSession
  merged : ∀ k < n, mergeConversationSession platform sha (stored k) (snapshot k) =
    some (stored (k + 1))

namespace MergeHistory

variable {platform sha} {n : ℕ} (history : MergeHistory platform sha n)

/-- Whatever every merge produces holds of every session stored after the first. -/
lemma stored_of_merged {P : ConversationSession → Prop}
    (h : ∀ existing incoming, P (mergedSession platform sha existing incoming)) :
    ∀ k, 0 < k → k ≤ n → P (history.stored k) := by
  intro k hpos hk
  obtain ⟨i, rfl⟩ := Nat.exists_eq_succ_of_ne_zero hpos.ne'
  rw [mergeConversationSession_eq_some platform sha (history.merged i (by omega))]
  exact h _ _

/-- Induction over the later part of a history. -/
lemma stored_of_step {P : ConversationSession → Prop} {j : ℕ} (hstart : P (history.stored j))
    (hstep : ∀ k, j ≤ k → k < n → P (history.stored k) →
      P (mergedSession platform sha (history.stored k) (history.snapshot k))) :
    ∀ k, j ≤ k → k ≤ n → P (history.stored k) := by
  intro k hjk
  induction k, hjk using Nat.le_induction with
  | base => exact fun _ => hstart
  | succ k hjk ih =>
      intro hk
      rw [mergeConversationSession_eq_some platform sha (history.merged k (by omega))]
      exact hstep k hjk (by omega) (ih (by omega))

lemma distinct_recentJobs {k : ℕ} (hpos : 0 < k) (hk : k ≤ n) :
    jobsById.Distinct (history.stored k).recentJobs :=
  history.stored_of_merged (P := fun session => jobsById.Distinct session.recentJobs)
    (fun _ _ => distinct_mergedRecentJobs) k hpos hk

/-- Once a job has ended, it has ended in every later session. -/
lemma hasEnded_of_le {j : ℕ} (hpos : 0 < j) {jobId : String}
    (hended : (history.stored j).HasEnded jobId) :
    ∀ k, j ≤ k → k ≤ n → (history.stored k).HasEnded jobId := by
  refine history.stored_of_step (P := fun session => session.HasEnded jobId) hended ?_
  intro k hjk hkn hk
  obtain ⟨job, hjob, rfl⟩ := hk.listed
  exact hasEnded_mergedSession (history.distinct_recentJobs (by omega) hkn.le) hjob
    (hk.terminal job hjob rfl)

/-- A terminal recent record of any stored session whose recent ids are unique ends the job in
every merged session from there on. -/
lemma hasEnded_of_terminal {j k : ℕ} (hjk : j ≤ k) (hpos : 0 < k) (hk : k ≤ n)
    (hdistinct : jobsById.Distinct (history.stored j).recentJobs) {job : ConversationJob}
    (hjob : job ∈ (history.stored j).recentJobs) (hterminal : job.isTerminal = true) :
    (history.stored k).HasEnded job.id := by
  rcases Nat.eq_zero_or_pos j with rfl | hj
  · have hfirst : (history.stored 1).HasEnded job.id := by
      rw [mergeConversationSession_eq_some platform sha (history.merged 0 (by omega))]
      exact hasEnded_mergedSession hdistinct hjob hterminal
    exact history.hasEnded_of_le Nat.one_pos hfirst k (by omega) hk
  · have hhere : (history.stored j).HasEnded job.id := by
      obtain ⟨i, rfl⟩ := Nat.exists_eq_succ_of_ne_zero hj.ne'
      rw [mergeConversationSession_eq_some platform sha (history.merged i (by omega))] at hjob ⊢
      exact hasEnded_of_mem_recentJobs hjob hterminal
    exact history.hasEnded_of_le hj hhere k hjk hk

/-- A job verified by either side of a merge stays verified while it stays listed. -/
lemma verifies_of_source {j k : ℕ} (hjk : j < k) (hk : k ≤ n) {source : ConversationJob}
    (hsource : source ∈ snapshotSources (history.stored j) (history.snapshot j))
    (hverified : source.isVerified = true)
    (hlisted : ∀ i, j < i → i < k → (history.stored i).Lists source.id) :
    (history.stored k).Verifies source.id := by
  induction k, hjk using Nat.le_induction with
  | base =>
      rw [mergeConversationSession_eq_some platform sha (history.merged j (by omega))]
      exact verifies_mergedSession hsource hverified
  | succ k hjk ih =>
      have hverifies := ih (by omega) fun i hji hik => hlisted i hji (by omega)
      obtain ⟨job, hjob, hid⟩ := hlisted k hjk (by omega)
      have hjobSource : job ∈ snapshotSources (history.stored k) (history.snapshot k) := by
        rw [snapshotSources, List.append_assoc]
        exact List.mem_append_left _ hjob
      rw [mergeConversationSession_eq_some platform sha (history.merged k (by omega)), ← hid]
      exact verifies_mergedSession hjobSource (hverifies job hjob hid)

end MergeHistory

/-- The job ledgers over every sequence of merges. A terminal recent record, stored under a
unique id, keeps its job out of the queue and terminal from then on; the ids of both ledgers are
unique; the running job can run; and a job verified by a merged snapshot stays verified as long
as it stays listed, which ends only for a job that is in no recent jobs and queued as ended. -/
theorem job_ledger_across_merges {n : ℕ} (history : MergeHistory platform sha n) :
    (∀ j k, j ≤ k → 0 < k → k ≤ n → jobsById.Distinct (history.stored j).recentJobs →
      ∀ job ∈ (history.stored j).recentJobs, job.isTerminal = true →
        (∀ queued ∈ (history.stored k).queuedJobs, queued.id ≠ job.id) ∧
          ∀ recent ∈ (history.stored k).recentJobs, recent.id = job.id →
            recent.isTerminal = true) ∧
    (∀ k, 0 < k → k ≤ n → jobsById.Distinct (history.stored k).queuedJobs ∧
      jobsById.Distinct (history.stored k).recentJobs) ∧
    (∀ k, 0 < k → k ≤ n → NamesRunnable (history.stored k).queuedJobs
      (history.stored k).recentJobs (history.stored k).runningJobId) ∧
    (∀ j k, j < k → k ≤ n →
      ∀ source ∈ snapshotSources (history.stored j) (history.snapshot j), source.isVerified = true →
        (∀ i, j < i → i < k → (history.stored i).Lists source.id) →
          (history.stored k).Verifies source.id) ∧
    ∀ j < n, ∀ source ∈ snapshotSources (history.stored j) (history.snapshot j),
      ¬ (history.stored (j + 1)).Lists source.id →
        (∀ job ∈ (history.stored j).recentJobs ++ (history.snapshot j).recentJobs,
          job.id ≠ source.id) ∧
        ∃ job ∈ (history.stored j).queuedJobs ++ (history.snapshot j).queuedJobs,
          job.id = source.id ∧ job.isTerminal = true := by
  refine ⟨?_, ?_, ?_, ?_, ?_⟩
  · intro j k hjk hpos hk hdistinct job hjob hterminal
    have hended := history.hasEnded_of_terminal hjk hpos hk hdistinct hjob hterminal
    exact ⟨hended.unqueued, hended.terminal⟩
  · exact history.stored_of_merged
      (P := fun session => jobsById.Distinct session.queuedJobs ∧
        jobsById.Distinct session.recentJobs)
      fun _ _ => ⟨distinct_mergedQueuedJobs, distinct_mergedRecentJobs⟩
  · exact history.stored_of_merged
      (P := fun session => NamesRunnable session.queuedJobs session.recentJobs
        session.runningJobId)
      fun _ _ => namesRunnable_selectRunningJobId _ _ _ _
  · intro j k hjk hk source hsource hverified hlisted
    exact history.verifies_of_source hjk hk hsource hverified hlisted
  · intro j hj source hsource hleft
    rw [mergeConversationSession_eq_some platform sha (history.merged j hj)] at hleft
    exact left_of_not_lists hsource hleft

/-! ## What merging does not keep -/

lemma mergeConversationSession_of_sampleTimes {existing incoming : ConversationSession}
    (he : existing.updatedAt = sampleSession.updatedAt)
    (hi : incoming.updatedAt = sampleSession.updatedAt) :
    mergeConversationSession samplePlatform sampleSha existing incoming =
      some (mergedSession samplePlatform sampleSha existing incoming) := by
  have hdate : isDate samplePlatform sampleSession.updatedAt = true := by decide
  refine mergeConversationSession_of_dates samplePlatform sampleSha ?_ ?_
  · rw [he]
    exact hdate
  · rw [hi]
    exact hdate

/-- A queue that still holds a job that has failed, with its verified origin; then a snapshot
that knows the job without one. -/
def forgottenJobSnapshots : ℕ → ConversationSession
  | 0 =>
      { sampleSession with
        queuedJobs :=
          [{ sampleJob with status := .failed, principalSnapshot := some sampleVerifiedSnapshot }] }
  | _ => { sampleSession with recentJobs := [sampleJob] }

def forgottenJobStored : ℕ → ConversationSession
  | 0 => sampleSession
  | k + 1 => mergedSession samplePlatform sampleSha (forgottenJobStored k) (forgottenJobSnapshots k)

lemma forgottenJobSnapshots_updatedAt (k : ℕ) :
    (forgottenJobSnapshots k).updatedAt = sampleSession.updatedAt := by
  cases k <;> rfl

lemma forgottenJobStored_updatedAt (k : ℕ) :
    (forgottenJobStored k).updatedAt = sampleSession.updatedAt := by
  induction k with
  | zero => rfl
  | succ k ih =>
      change mergedUpdatedAt (forgottenJobStored k) (forgottenJobSnapshots k) = _
      rcases mergedUpdatedAt_cases (forgottenJobStored k) (forgottenJobSnapshots k) with h | h
      · rw [h, ih]
      · rw [h, forgottenJobSnapshots_updatedAt]

def forgottenJobHistory : MergeHistory samplePlatform sampleSha 2 where
  stored := forgottenJobStored
  snapshot := forgottenJobSnapshots
  merged k _ := mergeConversationSession_of_sampleTimes (forgottenJobStored_updatedAt k)
    (forgottenJobSnapshots_updatedAt k)

/-- A first session that records one job twice, first as completed and then as queued. -/
def repeatedJobStored : ℕ → ConversationSession
  | 0 => { sampleSession with recentJobs := [{ sampleJob with status := .completed }, sampleJob] }
  | k + 1 => mergedSession samplePlatform sampleSha (repeatedJobStored k) sampleSession

def repeatedJobHistory : MergeHistory samplePlatform sampleSha 1 where
  stored := repeatedJobStored
  snapshot _ := sampleSession
  merged k hk := by
    obtain rfl : k = 0 := by omega
    exact mergeConversationSession_of_sampleTimes rfl rfl

/-- A merge may drop a job with its verified origin, and a later one list it without; and where
the first session records a job twice, a completed record does not decide. -/
theorem ledger_facts_can_be_lost :
    ((∃ job ∈ (forgottenJobHistory.snapshot 0).jobs, job.id = "job-1" ∧ job.isVerified = true) ∧
      ∃ job ∈ (forgottenJobHistory.stored 2).jobs, job.id = "job-1" ∧ job.isVerified = false) ∧
    (∃ job ∈ (repeatedJobHistory.stored 0).recentJobs, job.id = "job-1" ∧ job.isTerminal = true) ∧
      ∃ job ∈ (repeatedJobHistory.stored 1).recentJobs,
        job.id = "job-1" ∧ job.isTerminal = false := by
  decide

end AgentBigBrain.Interfaces
