import AgentBigBrain.Interfaces.SessionState

/-!
# Merging job ledgers

Which of two records of one job a merge keeps, how verified origin snapshots are carried
over, and which job counts as running afterwards.
-/
namespace AgentBigBrain.Interfaces

open AgentBigBrain.Js AgentBigBrain.Lib

/-! ## The preferred record -/

def isTerminalConversationJobStatus : ConversationJobStatus → Bool
  | .completed | .failed => true
  | .queued | .running => false

def ConversationJob.isTerminal (job : ConversationJob) : Bool :=
  isTerminalConversationJobStatus job.status

/-- The truth value of an optional text. -/
def truthy (text : Option String) : Bool :=
  text.any (· ≠ "")

inductive MergeSide where
  | existing
  | incoming
  deriving DecidableEq

lemma truthy_iff {text : Option String} : truthy text = true ↔ ∃ s, text = some s ∧ s ≠ "" := by
  cases text <;> simp [truthy]

/-- The side that has something the other lacks. -/
def preferWhere (existing incoming : Bool) : Option MergeSide :=
  if existing && !incoming then some .existing
  else if !existing && incoming then some .incoming
  else none

def preferNewerTrace (existing incoming : Option ConversationRecoveryTrace) : Option MergeSide :=
  match existing, incoming with
  | some existingTrace, some incomingTrace =>
      if existingTrace.updatedAt ≠ incomingTrace.updatedAt then
        if textLt incomingTrace.updatedAt existingTrace.updatedAt then some .existing
        else some .incoming
      else
        none
  | _, _ => none

/-- `job.completedAt ?? job.startedAt ?? job.createdAt`. -/
def ConversationJob.timestamp (job : ConversationJob) : String :=
  (job.completedAt.or job.startedAt).getD job.createdAt

/-- The levels of preference, the first one that decides first; the incoming record wins a
tie. -/
def preferredSide (existing incoming : ConversationJob) : MergeSide :=
  ((((((preferWhere existing.isTerminal incoming.isTerminal).or
    (preferWhere (existing.finalDeliveryOutcome ≠ .notAttempted)
      (incoming.finalDeliveryOutcome ≠ .notAttempted))).or
    (preferWhere (truthy existing.resultSummary) (truthy incoming.resultSummary))).or
    (preferWhere (truthy existing.errorMessage) (truthy incoming.errorMessage))).or
    (preferWhere existing.recoveryTrace.isSome incoming.recoveryTrace.isSome)).or
    ((preferNewerTrace existing.recoveryTrace incoming.recoveryTrace).or
      (preferWhere (truthy existing.pauseRequestedAt) (truthy incoming.pauseRequestedAt)))).getD
    (if textLt incoming.timestamp existing.timestamp then .existing else .incoming)

def isVerified (snapshot : Option ConversationJobPrincipalSnapshot) : Bool :=
  snapshot.any fun s => s.snapshotState = .verified

def ConversationJob.isVerified (job : ConversationJob) : Bool :=
  Interfaces.isVerified job.principalSnapshot

def selectPreferredConversationJobPrincipalSnapshot
    (existing incoming preferred : Option ConversationJobPrincipalSnapshot) :
    Option ConversationJobPrincipalSnapshot :=
  if isVerified existing && !isVerified incoming then existing
  else if isVerified incoming && !isVerified existing then incoming
  else preferred

def choosePreferredConversationJob (existing incoming : ConversationJob) : ConversationJob :=
  let preferred := match preferredSide existing incoming with
    | .existing => existing
    | .incoming => incoming
  { preferred with
    principalSnapshot := selectPreferredConversationJobPrincipalSnapshot
      existing.principalSnapshot incoming.principalSnapshot preferred.principalSnapshot }

lemma choosePreferredConversationJob_cases (existing incoming : ConversationJob) :
    ∃ preferred snapshot, (preferred = existing ∨ preferred = incoming) ∧
      choosePreferredConversationJob existing incoming =
        { preferred with principalSnapshot := snapshot } := by
  unfold choosePreferredConversationJob
  cases preferredSide existing incoming
  · exact ⟨existing, _, Or.inl rfl, rfl⟩
  · exact ⟨incoming, _, Or.inr rfl, rfl⟩

/-- A record merged with itself stays as it is. -/
@[simp] lemma choosePreferredConversationJob_self (job : ConversationJob) :
    choosePreferredConversationJob job job = job := by
  unfold choosePreferredConversationJob selectPreferredConversationJobPrincipalSnapshot
  cases preferredSide job job <;> simp

/-- Of two records, one of which is terminal, a terminal one is kept. -/
lemma isTerminal_choosePreferred {existing incoming : ConversationJob}
    (h : existing.isTerminal = true ∨ incoming.isTerminal = true) :
    (choosePreferredConversationJob existing incoming).isTerminal = true := by
  unfold choosePreferredConversationJob
  cases hside : preferredSide existing incoming with
  | existing =>
      by_cases he : existing.isTerminal = true
      · exact he
      · have hi := h.resolve_left he
        simp [preferredSide, preferWhere, he, hi] at hside
  | incoming =>
      by_cases hi : incoming.isTerminal = true
      · exact hi
      · have he := h.resolve_right hi
        simp [preferredSide, preferWhere, he, hi] at hside

/-- Of two records, one of which has a verified snapshot, the kept one has one. -/
lemma isVerified_choosePreferred {existing incoming : ConversationJob}
    (h : existing.isVerified = true ∨ incoming.isVerified = true) :
    (choosePreferredConversationJob existing incoming).isVerified = true := by
  unfold ConversationJob.isVerified at h ⊢
  unfold choosePreferredConversationJob selectPreferredConversationJobPrincipalSnapshot
  cases he : isVerified existing.principalSnapshot <;>
    cases hi : isVerified incoming.principalSnapshot
  · simp [he, hi] at h
  · simp [hi]
  · simp [he]
  · cases preferredSide existing incoming <;> simp [he, hi]

/-! ## Ledgers -/

def jobsById : KeyedMerge ConversationJob String where
  key := ConversationJob.id
  choose := choosePreferredConversationJob
  key_choose existing incoming h := by
    obtain ⟨preferred, snapshot, rfl | rfl, hchoose⟩ :=
      choosePreferredConversationJob_cases existing incoming <;> rw [hchoose]
    exact h

@[simp] lemma jobsById_key (job : ConversationJob) : jobsById.key job = job.id := rfl

@[simp] lemma jobsById_choose (existing incoming : ConversationJob) :
    jobsById.choose existing incoming = choosePreferredConversationJob existing incoming := rfl

lemma terminal_absorbing : jobsById.Absorbing fun job => job.isTerminal = true :=
  fun _ _ _ h => isTerminal_choosePreferred h

variable (platform : Platform)

def jobOrder : Comparator ConversationJob :=
  (platform.locale.byKey ConversationJob.createdAt).reverse.thenBy
    (platform.locale.byKey ConversationJob.id)

def mergeConversationJobs (existingJobs incomingJobs : List ConversationJob) :
    List ConversationJob :=
  (jobOrder platform).sort (jobsById.values existingJobs incomingJobs)

lemma mergeConversationJobs_perm (existingJobs incomingJobs : List ConversationJob) :
    (mergeConversationJobs platform existingJobs incomingJobs).Perm
      (jobsById.values existingJobs incomingJobs) :=
  (jobOrder platform).sort_perm _

@[simp] lemma mem_mergeConversationJobs {existingJobs incomingJobs : List ConversationJob}
    {job : ConversationJob} :
    job ∈ mergeConversationJobs platform existingJobs incomingJobs ↔
      job ∈ jobsById.values existingJobs incomingJobs :=
  (mergeConversationJobs_perm platform existingJobs incomingJobs).mem_iff

lemma distinct_mergeConversationJobs (existingJobs incomingJobs : List ConversationJob) :
    jobsById.Distinct (mergeConversationJobs platform existingJobs incomingJobs) :=
  ((mergeConversationJobs_perm platform existingJobs incomingJobs).map _).nodup_iff.mpr
    (jobsById.distinct_values existingJobs incomingJobs)

/-- A ledger merged with itself stays as it is. -/
lemma mergeConversationJobs_self {jobs : List ConversationJob} (h : jobsById.Distinct jobs)
    (hsorted : (jobOrder platform).Sorted jobs) :
    mergeConversationJobs platform jobs jobs = jobs := by
  unfold mergeConversationJobs
  rw [jobsById.values_self h (by simp)]
  exact (jobOrder platform).sort_of_sorted hsorted

/-! ## Verified snapshots -/

/-- What `collectVerifiedConversationJobSnapshots` holds for a job: the last verified snapshot
of the lists. -/
def verifiedSnapshot (jobs : List ConversationJob) (jobId : String) :
    Option ConversationJobPrincipalSnapshot :=
  (jobs.reverse.find? fun job => decide (job.id = jobId) && job.isVerified).bind
    ConversationJob.principalSnapshot

def applyVerifiedJobSnapshot (sources : List ConversationJob) (job : ConversationJob) :
    ConversationJob :=
  if job.isVerified then job
  else
    match verifiedSnapshot sources job.id with
    | some snapshot => { job with principalSnapshot := some snapshot }
    | none => job

def applyVerifiedJobSnapshots (sources jobs : List ConversationJob) : List ConversationJob :=
  jobs.map (applyVerifiedJobSnapshot sources)

@[simp] lemma applyVerifiedJobSnapshot_id (sources : List ConversationJob)
    (job : ConversationJob) : (applyVerifiedJobSnapshot sources job).id = job.id := by
  unfold applyVerifiedJobSnapshot
  split
  · rfl
  · split <;> rfl

@[simp] lemma applyVerifiedJobSnapshot_status (sources : List ConversationJob)
    (job : ConversationJob) : (applyVerifiedJobSnapshot sources job).status = job.status := by
  unfold applyVerifiedJobSnapshot
  split
  · rfl
  · split <;> rfl

@[simp] lemma applyVerifiedJobSnapshot_isTerminal (sources : List ConversationJob)
    (job : ConversationJob) :
    (applyVerifiedJobSnapshot sources job).isTerminal = job.isTerminal := by
  simp [ConversationJob.isTerminal]

/-- A job with a verified record among the sources has a verified snapshot afterwards. -/
lemma isVerified_applyVerifiedJobSnapshot {sources : List ConversationJob}
    {job source : ConversationJob} (hsource : source ∈ sources) (hid : source.id = job.id)
    (hverified : source.isVerified = true) :
    (applyVerifiedJobSnapshot sources job).isVerified = true := by
  unfold applyVerifiedJobSnapshot
  split
  · assumption
  · have hfound : ∃ found, (sources.reverse.find? fun j => decide (j.id = job.id) && j.isVerified) =
        some found ∧ found.isVerified = true := by
      cases hfind : sources.reverse.find? fun j => decide (j.id = job.id) && j.isVerified with
      | none =>
          have := List.find?_eq_none.mp hfind source (by simpa using hsource)
          simp [hid, hverified] at this
      | some found =>
          have := List.find?_some hfind
          exact ⟨found, rfl, by simp_all⟩
    obtain ⟨found, hfind, hfoundVerified⟩ := hfound
    unfold ConversationJob.isVerified isVerified at hfoundVerified
    unfold verifiedSnapshot
    rw [hfind, Option.bind_some]
    cases hsnapshot : found.principalSnapshot with
    | none => simp [hsnapshot] at hfoundVerified
    | some snapshot =>
        rw [hsnapshot] at hfoundVerified
        simpa [ConversationJob.isVerified, isVerified] using hfoundVerified

/-- Where no record of a job has a verified snapshot, the job stays as it is. -/
lemma applyVerifiedJobSnapshot_eq_self {sources : List ConversationJob} {job : ConversationJob}
    (h : job.isVerified = true ∨ ∀ source ∈ sources, source.id = job.id →
      source.isVerified = false) : applyVerifiedJobSnapshot sources job = job := by
  unfold applyVerifiedJobSnapshot
  split
  · rfl
  · rename_i hjob
    have hnone : (sources.reverse.find? fun j => decide (j.id = job.id) && j.isVerified) = none := by
      refine List.find?_eq_none.mpr fun source hsource => ?_
      have := h.resolve_left hjob source (by simpa using hsource)
      simp_all
    simp [verifiedSnapshot, hnone]

lemma map_id_applyVerifiedJobSnapshots (sources jobs : List ConversationJob) :
    (applyVerifiedJobSnapshots sources jobs).map jobsById.key = jobs.map jobsById.key := by
  simp [applyVerifiedJobSnapshots, Function.comp_def]

/-! ## The running job -/

/-- The record `selectRunningJobId` sees of a job: recent records come last. -/
def ledgerJob (queuedJobs recentJobs : List ConversationJob) (jobId : String) :
    Option ConversationJob :=
  jobsById.latest.find jobId (jobsById.latest.collect [] (queuedJobs ++ recentJobs))

def isRunnable (queuedJobs recentJobs : List ConversationJob) (jobId : Option String) : Bool :=
  jobId.any fun id =>
    decide (id ≠ "") && (ledgerJob queuedJobs recentJobs id).any fun job =>
      decide (job.status = .running) || decide (job.status = .queued)

def selectRunningJobId (existingRunningJobId incomingRunningJobId : Option String)
    (queuedJobs recentJobs : List ConversationJob) : Option String :=
  if isRunnable queuedJobs recentJobs incomingRunningJobId then incomingRunningJobId
  else if isRunnable queuedJobs recentJobs existingRunningJobId then existingRunningJobId
  else none

/-- A job id that is not `null` names a job of the ledgers that is queued or running. -/
def NamesRunnable (queuedJobs recentJobs : List ConversationJob) (jobId : Option String) : Prop :=
  ∀ id ∈ jobId, ∃ job ∈ queuedJobs ++ recentJobs, job.id = id ∧
    (job.status = .running ∨ job.status = .queued)

lemma namesRunnable_of_isRunnable {queuedJobs recentJobs : List ConversationJob}
    {jobId : Option String} (h : isRunnable queuedJobs recentJobs jobId = true) :
    NamesRunnable queuedJobs recentJobs jobId := by
  rintro id rfl
  simp only [isRunnable, Option.any_some, Bool.and_eq_true, decide_eq_true_eq] at h
  cases hfind : ledgerJob queuedJobs recentJobs id with
  | none => simp [hfind] at h
  | some job =>
      obtain ⟨hmem, hid⟩ := jobsById.latest.mem_of_find hfind
      have hsource : ∀ j ∈ jobsById.latest.collect [] (queuedJobs ++ recentJobs),
          j ∈ queuedJobs ++ recentJobs :=
        jobsById.latest.forall_collect (by simp) (fun _ hj => hj) fun _ _ _ _ hy => hy
      exact ⟨job, hsource job hmem, hid, by simpa [hfind] using h.2⟩

theorem namesRunnable_selectRunningJobId (existingRunningJobId incomingRunningJobId : Option String)
    (queuedJobs recentJobs : List ConversationJob) :
    NamesRunnable queuedJobs recentJobs
      (selectRunningJobId existingRunningJobId incomingRunningJobId queuedJobs recentJobs) := by
  unfold selectRunningJobId
  split_ifs with hincoming hexisting
  · exact namesRunnable_of_isRunnable hincoming
  · exact namesRunnable_of_isRunnable hexisting
  · simp [NamesRunnable]

end AgentBigBrain.Interfaces
