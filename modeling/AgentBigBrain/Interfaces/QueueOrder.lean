import AgentBigBrain.Interfaces.QueueRuns

/-!
# The order in which queued requests run

An enqueue appends and a worker takes the first job, but the save in between merges the queue
with the stored one, and a merged queue lists the newest job first. So a worker that finds more
than one job runs the newest of them, and only there.
-/
namespace AgentBigBrain.Interfaces

open AgentBigBrain.Js AgentBigBrain.Core AgentBigBrain.Lib

variable (platform : Platform) (sha : Sha256)
  (principalSnapshotOf : Option Json → ConversationJobPrincipalSnapshot)

/-! ## Order -/

/-- Creation times compare as the source compares them. -/
def CreatedBefore (job other : ConversationJob) : Prop :=
  platform.locale.le other.createdAt job.createdAt = false

instance (job other : ConversationJob) : Decidable (CreatedBefore platform job other) :=
  inferInstanceAs (Decidable (_ = _))

/-- The queue from which a worker that turns to the conversation takes a job. -/
def availableQueue (store : JsonStore platform) (sessionKey : String) : List ConversationJob :=
  match store.getSession sha sessionKey with
  | none => []
  | some session => if truthy session.runningJobId then [] else session.queuedJobs

/-- No job that stays in the queue was created before the job that is taken. -/
def TakesOldest : List ConversationJob → Prop
  | [] => True
  | nextJob :: rest => ∀ other ∈ rest, ¬ CreatedBefore platform other nextJob

instance : ∀ jobs, Decidable (TakesOldest platform jobs)
  | [] => inferInstanceAs (Decidable True)
  | _ :: _ => inferInstanceAs (Decidable (∀ _ ∈ _, _))

/-- What holds of the queue of each dequeue. -/
def AtDequeue (P : List ConversationJob → Prop) (store : JsonStore platform) : QueueEvent → Prop
  | .dequeue sessionKey _ _ => P (availableQueue platform sha store sessionKey)
  | _ => True

instance (P : List ConversationJob → Prop) [∀ jobs, Decidable (P jobs)]
    (store : JsonStore platform) : ∀ event, Decidable (AtDequeue platform sha P store event)
  | .dequeue _ _ _ => inferInstanceAs (Decidable (P _))
  | .enqueue _ _ => inferInstanceAs (Decidable True)
  | .save _ => inferInstanceAs (Decidable True)
  | .restart => inferInstanceAs (Decidable True)

/-- Different jobs of the queue have different creation times. -/
def DistinctTimes (jobs : List ConversationJob) : Prop :=
  jobs.Pairwise fun left right => CreatedBefore platform left right ∨ CreatedBefore platform right left

instance (jobs : List ConversationJob) : Decidable (DistinctTimes platform jobs) :=
  inferInstanceAs (Decidable (List.Pairwise _ _))

/-- At most one job is queued. -/
def AtMostOne (jobs : List ConversationJob) : Prop :=
  jobs.length ≤ 1

instance (jobs : List ConversationJob) : Decidable (AtMostOne jobs) :=
  inferInstanceAs (Decidable (_ ≤ _))

/-! ## Merged queues are newest first -/

section Sorted

variable {platform sha}

lemma jobOrder_le_congr {left right left' right' : ConversationJob}
    (hleftTime : left'.createdAt = left.createdAt) (hleftId : left'.id = left.id)
    (hrightTime : right'.createdAt = right.createdAt) (hrightId : right'.id = right.id) :
    (jobOrder platform).le left' right' = (jobOrder platform).le left right := by
  simp [jobOrder, Comparator.thenBy, hleftTime, hleftId, hrightTime, hrightId]

/-- The order looks at times and ids only. -/
lemma sorted_map {f : ConversationJob → ConversationJob} {jobs : List ConversationJob}
    (htime : ∀ job, (f job).createdAt = job.createdAt) (hid : ∀ job, (f job).id = job.id)
    (h : (jobOrder platform).Sorted jobs) : (jobOrder platform).Sorted (jobs.map f) := by
  refine List.pairwise_map.mpr (h.imp fun {left right} hle => ?_)
  rw [jobOrder_le_congr (htime left) (hid left) (htime right) (hid right)]
  exact hle

@[simp] lemma applyVerifiedJobSnapshot_createdAt (sources : List ConversationJob)
    (job : ConversationJob) : (applyVerifiedJobSnapshot sources job).createdAt = job.createdAt := by
  unfold applyVerifiedJobSnapshot
  split
  · rfl
  · split <;> rfl

lemma sorted_mergedQueuedJobs (existing incoming : ConversationSession) :
    (jobOrder platform).Sorted (mergedQueuedJobs platform existing incoming) := by
  have hcandidates : (jobOrder platform).Sorted (mergedQueuedCandidates platform existing incoming) :=
    sorted_map (applyVerifiedJobSnapshot_createdAt _) (applyVerifiedJobSnapshot_id _)
      ((jobOrder platform).sorted_sort _)
  exact hcandidates.sublist List.filter_sublist

lemma sorted_normalizedQueue {session : ConversationSession}
    (h : (jobOrder platform).Sorted session.queuedJobs) :
    (jobOrder platform).Sorted (normalizedSession platform sha session).queuedJobs :=
  sorted_map (fun _ => rfl) (fun _ => rfl) h

/-- The first job of a queue that lists the newest first is the oldest only if it is alone. -/
lemma takesOldest_iff_atMostOne {jobs : List ConversationJob}
    (hsorted : (jobOrder platform).Sorted jobs) (htimes : DistinctTimes platform jobs) :
    TakesOldest platform jobs ↔ AtMostOne jobs := by
  cases jobs with
  | nil => simp [TakesOldest, AtMostOne]
  | cons nextJob rest =>
      cases rest with
      | nil => simp [TakesOldest, AtMostOne]
      | cons other rest =>
          have hle := List.rel_of_pairwise_cons hsorted List.mem_cons_self
          have hnewest : platform.locale.le other.createdAt nextJob.createdAt = true := by
            simp only [jobOrder, Comparator.thenBy, Bool.and_eq_true] at hle
            exact hle.1
          have holder : CreatedBefore platform other nextJob := by
            rcases List.rel_of_pairwise_cons htimes List.mem_cons_self with h | h
            · exact absurd (hnewest.symm.trans h) (by decide)
            · exact h
          constructor
          · intro holdest
            exact absurd holder (holdest other List.mem_cons_self)
          · intro hone
            simp [AtMostOne] at hone

/-- Every stored session lists its newest job first. -/
lemma keptByStore_sorted :
    KeptByStore platform sha fun session => (jobOrder platform).Sorted session.queuedJobs where
  opening session h := by
    match hqueue : session.queuedJobs with
    | [] => exact List.Pairwise.nil
    | [_] => exact List.pairwise_singleton _ _
    | _ :: _ :: _ =>
        have hlength := h.queuedJobs
        rw [hqueue] at hlength
        simp at hlength
  normalized _ h := sorted_normalizedQueue h
  merged existing incoming := sorted_mergedQueuedJobs existing incoming

end Sorted

/-! ## Requests run in order only one at a time -/

variable {platform sha principalSnapshotOf}

/-- Over every run of a store, from an empty file on: each worker takes the oldest queued job
exactly if each worker that takes a job finds no other one in the queue. -/
theorem takesOldest_along_iff {events : List QueueEvent}
    (htimes : Along (queueStep platform sha principalSnapshotOf)
      (AtDequeue platform sha (DistinctTimes platform)) JsonStore.new events) :
    Along (queueStep platform sha principalSnapshotOf)
        (AtDequeue platform sha (TakesOldest platform)) JsonStore.new events ↔
      Along (queueStep platform sha principalSnapshotOf)
        (AtDequeue platform sha AtMostOne) JsonStore.new events := by
  refine along_iff_of_invariant
    (fun _ _ _ h hstep => h.queueStep principalSnapshotOf keptByStore_sorted hstep) ?_
    EveryStored.new htimes
  intro store event h hdistinct
  cases event with
  | dequeue sessionKey readings maxRecentJobs =>
      refine takesOldest_iff_atMostOne ?_ hdistinct
      unfold availableQueue
      split
      · exact List.Pairwise.nil
      · rename_i session hget
        split_ifs
        · exact List.Pairwise.nil
        · exact h.of_getSession keptByStore_sorted hget
  | _ => exact Iff.rfl

/-! ## A later request that runs first -/

/-- Two requests, a minute apart; the worker takes the second one and leaves the first. -/
theorem second_request_runs_first :
    (run sampleStep JsonStore.new [firstRequest, secondRequest, workerTurn]).bind (fun store =>
        (store.getSession sampleSha "telegram:chat-1:user-1").map fun session =>
          (session.runningJobId, session.queuedJobs.map fun job => (job.id, job.createdAt))) =
      some (some "job-2", [("job-1", "2026-01-01T00:00:00.000Z")]) ∧
    ¬ Along sampleStep (AtDequeue samplePlatform sampleSha (TakesOldest samplePlatform))
      JsonStore.new [firstRequest, secondRequest, workerTurn] := by
  decide

/-- A request that is taken before the next one comes is the oldest. -/
theorem lone_request_runs :
    Along sampleStep (AtDequeue samplePlatform sampleSha (TakesOldest samplePlatform))
      JsonStore.new [firstRequest, workerTurn, secondRequest] := by
  have htimes : Along sampleStep
      (AtDequeue samplePlatform sampleSha (DistinctTimes samplePlatform))
      JsonStore.new [firstRequest, workerTurn, secondRequest] := by decide
  exact (takesOldest_along_iff htimes).mpr (by decide)

end AgentBigBrain.Interfaces
