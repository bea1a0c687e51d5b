import AgentBigBrain.Interfaces.SessionMerging
import AgentBigBrain.Interfaces.SessionMutations

/-!
# Merging a session with itself

Saving an unchanged session merges it with its own copy. Keyed lists and singular states
come out as they went in. The job ledgers do if they agree with each other, and the
conversation stack does if no stored turn moves it a second time.
-/
namespace AgentBigBrain.Interfaces

open AgentBigBrain.Js AgentBigBrain.Core AgentBigBrain.Lib

variable (platform : Platform) (sha : Sha256)

/-- Every list of the session, the stack's included, is in the order a merge leaves it in. -/
structure InMergeOrder (session : ConversationSession) : Prop where
  queuedJobs : ListInOrder jobsById (jobOrder platform) session.queuedJobs
  recentJobs : ListInOrder jobsById (jobOrder platform) session.recentJobs
  recentActions : ListInOrder actionsById (actionOrder platform) session.recentActions
  browserSessions :
    ListInOrder browserSessionsById (browserSessionOrder platform) session.browserSessions
  pathDestinations :
    ListInOrder (destinationsByLabel platform) (destinationOrder platform) session.pathDestinations
  conversationTurns : ListInOrder turnsByKey (turnOrder platform) session.conversationTurns
  classifierEvents : ListInOrder eventsByKey (eventOrder platform) session.classifierEvents
  conversationStack : ∀ stack ∈ session.conversationStack, StackInOrder platform stack

/-- The queue holds jobs that are to run and have not left it, all records of a job agree on
whether its origin is verified, the running job can run, and work is only under way while there is
a job for it. -/
structure LedgersAgree (session : ConversationSession) : Prop where
  queued : ∀ job ∈ session.queuedJobs, staysQueued session.recentJobs job = true
  origins : ∀ job ∈ session.queuedJobs ++ session.recentJobs, job.isVerified = true ∨
    ∀ other ∈ session.queuedJobs ++ session.recentJobs, other.id = job.id → other.isVerified = false
  running : session.runningJobId = none ∨
    isRunnable session.queuedJobs session.recentJobs session.runningJobId = true
  progress : ∀ progress ∈ session.progressState, progress.status.isInFlight = true →
    session.runningJobId ≠ none ∨ session.queuedJobs ≠ []

/-- No dated turn moves the stack again, and the replay leaves its time. -/
def StackKept (session : ConversationSession) : Prop :=
  ∀ stack ∈ session.conversationStack,
    ReplayQuiet platform sha stack (session.conversationTurns.map ConversationTurn.stackTurn) ∧
      replayedAt platform stack (session.conversationTurns.map ConversationTurn.stackTurn)
        session.updatedAt = stack.updatedAt

/-! ## The lists -/

lemma map_eq_self_iff {α : Type*} {f : α → α} {xs : List α} :
    xs.map f = xs ↔ ∀ x ∈ xs, f x = x := by
  induction xs with
  | nil => simp
  | cons x xs ih => simp [ih]

variable {platform sha} {session : ConversationSession}

lemma applyVerifiedJobSnapshot_eq_self_iff {sources : List ConversationJob}
    {job : ConversationJob} : applyVerifiedJobSnapshot sources job = job ↔
      job.isVerified = true ∨ ∀ source ∈ sources, source.id = job.id → source.isVerified = false := by
  refine ⟨fun hsame => ?_, applyVerifiedJobSnapshot_eq_self⟩
  by_contra hnot
  rw [not_or, not_forall] at hnot
  obtain ⟨hjob, source, hsource⟩ := hnot
  simp only [not_forall, Bool.not_eq_false] at hsource
  obtain ⟨hmem, hid, hverified⟩ := hsource
  have happlied := isVerified_applyVerifiedJobSnapshot hmem hid hverified
  rw [hsame] at happlied
  exact hjob happlied

lemma mem_snapshotSources_self {job : ConversationJob} :
    job ∈ snapshotSources session session ↔ job ∈ session.queuedJobs ++ session.recentJobs := by
  simp only [snapshotSources, List.mem_append]
  tauto

lemma mergedRecentJobs_self (h : InMergeOrder platform session) :
    mergedRecentJobs platform session session =
      session.recentJobs.map (applyVerifiedJobSnapshot (snapshotSources session session)) := by
  unfold mergedRecentJobs applyVerifiedJobSnapshots
  rw [mergeConversationJobs_self platform h.recentJobs.distinct h.recentJobs.sorted]

lemma mergedQueuedCandidates_self (h : InMergeOrder platform session) :
    mergedQueuedCandidates platform session session =
      session.queuedJobs.map (applyVerifiedJobSnapshot (snapshotSources session session)) := by
  unfold mergedQueuedCandidates applyVerifiedJobSnapshots
  rw [mergeConversationJobs_self platform h.queuedJobs.distinct h.queuedJobs.sorted]

/-- A snapshot put on a record changes nothing for the queue. -/
lemma staysQueued_applyVerifiedJobSnapshot (sources recentJobs : List ConversationJob)
    (job : ConversationJob) :
    staysQueued (recentJobs.map (applyVerifiedJobSnapshot sources))
      (applyVerifiedJobSnapshot sources job) = staysQueued recentJobs job := by
  simp [staysQueued, List.any_map, Function.comp_def]

lemma mergedQueuedJobs_self_iff (h : InMergeOrder platform session) :
    mergedQueuedJobs platform session session = session.queuedJobs ↔
      (∀ job ∈ session.queuedJobs, staysQueued session.recentJobs job = true) ∧
        ∀ job ∈ session.queuedJobs,
          applyVerifiedJobSnapshot (snapshotSources session session) job = job := by
  have hstays : ∀ job, staysQueued (mergedRecentJobs platform session session)
      (applyVerifiedJobSnapshot (snapshotSources session session) job) =
        staysQueued session.recentJobs job := by
    intro job
    rw [mergedRecentJobs_self h, staysQueued_applyVerifiedJobSnapshot]
  unfold mergedQueuedJobs
  rw [mergedQueuedCandidates_self h]
  constructor
  · intro hsame
    have hlength := congrArg List.length hsame
    have hall := List.length_filter_eq_length_iff.mp (hlength.trans (List.length_map
      (applyVerifiedJobSnapshot (snapshotSources session session))).symm)
    refine ⟨fun job hjob => ?_, ?_⟩
    · rw [← hstays job]
      exact hall _ (List.mem_map_of_mem hjob)
    · rw [List.filter_eq_self.mpr hall] at hsame
      exact map_eq_self_iff.mp hsame
  · rintro ⟨hqueued, horigins⟩
    rw [map_eq_self_iff.mpr horigins]
    refine List.filter_eq_self.mpr fun job hjob => ?_
    have := hstays job
    rw [horigins job hjob] at this
    rw [this]
    exact hqueued job hjob

/-! ## The session -/

/-- Beyond its ledgers, its progress and its stack, a normalized session in order is kept. -/
lemma mergedSession_self_iff (h : InMergeOrder platform session)
    (hnormal : normalizeSession platform sha session = some session) :
    mergedSession platform sha session session = session ↔
      some (mergedConversationStack platform sha session session) = session.conversationStack ∧
      mergedProgressState platform session session = session.progressState ∧
      mergedRunningJobId platform session session = session.runningJobId ∧
      mergedQueuedJobs platform session session = session.queuedJobs ∧
      mergedRecentJobs platform session session = session.recentJobs := by
  constructor
  · intro hsame
    exact ⟨congrArg ConversationSession.conversationStack hsame,
      congrArg ConversationSession.progressState hsame,
      congrArg ConversationSession.runningJobId hsame,
      congrArg ConversationSession.queuedJobs hsame,
      congrArg ConversationSession.recentJobs hsame⟩
  · rintro ⟨hstack, hprogress, hrunning, hqueued, hrecent⟩
    have hsame := (normalizeSession_eq_some hnormal).2
    have hdomain : normalizeConversationDomainContext platform session.domainContext
        session.conversationId = session.domainContext :=
      congrArg ConversationSession.domainContext hsame
    have hschema : some SessionSchemaVersion.v2 = session.sessionSchemaVersion :=
      congrArg ConversationSession.sessionSchemaVersion hsame
    have hactions : mergeRecentActions platform session.recentActions session.recentActions =
        session.recentActions := mergeSorted_self h.recentActions (by simp [actionsById])
    have hbrowsers : mergeBrowserSessions platform session.browserSessions session.browserSessions =
        session.browserSessions :=
      mergeSorted_self h.browserSessions (by simp [browserSessionsById, chooseBrowserSession])
    have hdestinations : mergePathDestinations platform session.pathDestinations
        session.pathDestinations = session.pathDestinations :=
      mergeSorted_self h.pathDestinations (by simp [destinationsByLabel])
    have hturns : mergedConversationTurns platform session session = session.conversationTurns :=
      mergeSorted_self h.conversationTurns (by simp [turnsByKey])
    have hevents : mergeClassifierEvents platform session.classifierEvents
        session.classifierEvents = session.classifierEvents :=
      mergeSorted_self h.classifierEvents (by simp [eventsByKey])
    have hupdatedAt : mergedUpdatedAt session session = session.updatedAt := by
      simp [mergedUpdatedAt]
    unfold mergedSession
    rw [hstack, hprogress, hrunning, hqueued, hrecent, hactions, hbrowsers, hdestinations, hturns,
      hevents, hupdatedAt, hschema, selectConversationDomainContext_self, hdomain]
    simp [selectActiveProposal, selectActiveClarification, selectModeContinuity]

lemma selectRunningJobId_self_iff {runningJobId : Option String}
    {queuedJobs recentJobs : List ConversationJob} :
    selectRunningJobId runningJobId runningJobId queuedJobs recentJobs = runningJobId ↔
      runningJobId = none ∨ isRunnable queuedJobs recentJobs runningJobId = true := by
  unfold selectRunningJobId
  cases hrunnable : isRunnable queuedJobs recentJobs runningJobId
  · simp [eq_comm]
  · simp

lemma resolveMergedProgressState_eq_self_iff {progressState : Option ConversationProgressState}
    {runningJobId : Option String} {queuedJobs : List ConversationJob} :
    resolveMergedProgressState progressState runningJobId queuedJobs = progressState ↔
      ∀ progress ∈ progressState, progress.status.isInFlight = true →
        runningJobId ≠ none ∨ queuedJobs ≠ [] := by
  unfold resolveMergedProgressState
  cases progressState with
  | none => simp
  | some progress =>
      rw [Option.filter_some]
      cases hstatus : progress.status.isInFlight <;> cases runningJobId <;>
        cases queuedJobs <;> simp [hstatus]

lemma mergedConversationStack_self_iff (h : InMergeOrder platform session)
    {stack : ConversationStackV1} (hstack : session.conversationStack = some stack) :
    some (mergedConversationStack platform sha session session) = session.conversationStack ↔
      StackKept platform sha session := by
  have hturns : mergedConversationTurns platform session session = session.conversationTurns :=
    mergeSorted_self h.conversationTurns (by simp [turnsByKey])
  have hupdatedAt : mergedUpdatedAt session session = session.updatedAt := by
    simp [mergedUpdatedAt]
  have hpreferred : preferredStack session session = some stack := by
    simp [preferredStack, hstack]
  unfold mergedConversationStack StackKept
  rw [hturns, hupdatedAt, hpreferred, hstack, Option.some.injEq,
    buildConversationStackFromTurnsV1_eq_iff platform sha (h.conversationStack stack hstack)]
  simp

variable (platform sha)

/-- Saving an unchanged session leaves it as it is exactly if its ledgers agree and no stored turn
moves its stack again. -/
theorem mergeConversationSession_self_iff (session : ConversationSession)
    (hnormal : normalizeSession platform sha session = some session)
    (horder : InMergeOrder platform session) :
    mergeConversationSession platform sha session session = some session ↔
      LedgersAgree session ∧ StackKept platform sha session := by
  obtain ⟨hdate, hsame⟩ := normalizeSession_eq_some hnormal
  obtain ⟨stack, hstack⟩ : ∃ stack, session.conversationStack = some stack :=
    ⟨_, (congrArg ConversationSession.conversationStack hsame).symm⟩
  rw [mergeConversationSession_of_dates platform sha hdate hdate, Option.some.injEq,
    mergedSession_self_iff horder hnormal, mergedConversationStack_self_iff horder hstack]
  constructor
  · rintro ⟨hkept, hprogress, hrunning, hqueued, hrecent⟩
    obtain ⟨hstays, hqueuedOrigins⟩ := (mergedQueuedJobs_self_iff horder).mp hqueued
    have hrecentOrigins := map_eq_self_iff.mp ((mergedRecentJobs_self horder).symm.trans hrecent)
    unfold mergedProgressState at hprogress
    unfold mergedRunningJobId at hrunning hprogress
    rw [hqueued, hrecent] at hrunning hprogress
    rw [hrunning, selectProgressState, selectNewest_self] at hprogress
    refine ⟨⟨hstays, fun job hjob => ?_, selectRunningJobId_self_iff.mp hrunning,
      resolveMergedProgressState_eq_self_iff.mp hprogress⟩, hkept⟩
    have horigin : applyVerifiedJobSnapshot (snapshotSources session session) job = job := by
      rcases List.mem_append.mp hjob with hjob | hjob
      · exact hqueuedOrigins job hjob
      · exact hrecentOrigins job hjob
    simpa only [mem_snapshotSources_self] using applyVerifiedJobSnapshot_eq_self_iff.mp horigin
  · rintro ⟨hledgers, hkept⟩
    have horigins : ∀ job ∈ session.queuedJobs ++ session.recentJobs,
        applyVerifiedJobSnapshot (snapshotSources session session) job = job := by
      intro job hjob
      rw [applyVerifiedJobSnapshot_eq_self_iff]
      simpa only [mem_snapshotSources_self] using hledgers.origins job hjob
    have hqueued := (mergedQueuedJobs_self_iff horder).mpr
      ⟨hledgers.queued, fun job hjob => horigins job (List.mem_append_left _ hjob)⟩
    have hrecent := (mergedRecentJobs_self horder).trans
      (map_eq_self_iff.mpr fun job hjob => horigins job (List.mem_append_right _ hjob))
    have hrunning : mergedRunningJobId platform session session = session.runningJobId := by
      unfold mergedRunningJobId
      rw [hqueued, hrecent]
      exact selectRunningJobId_self_iff.mpr hledgers.running
    have hprogress : mergedProgressState platform session session = session.progressState := by
      unfold mergedProgressState
      rw [hrunning, hqueued, selectProgressState, selectNewest_self]
      exact resolveMergedProgressState_eq_self_iff.mpr hledgers.progress
    exact ⟨hkept, hprogress, hrunning, hqueued, hrecent⟩

/-! ## A turn that is counted again -/

def topicSha : Sha256 :=
  Sha256.ofTable
    [("\x7b\"topicKey\":\"kitchen_renovation_budget\"\x7d",
        "7858d2504c8af7381a91145558de6f8c031d05afdf3448153cce54b2ba3039af")]
    (validTable_nil.cons (by decide) (by decide))

def topicTurn : ConversationTurn where
  id := none
  role := .user
  text := "kitchen renovation budget"
  «at» := "2026-01-01T00:01:00.000Z"
  metadata := none

/-- A session with one turn, which opened a thread. -/
def topicSession : ConversationSession :=
  normalizedSession samplePlatform topicSha
    { sampleSession with
      conversationTurns := [topicTurn]
      conversationStack := none
      updatedAt := "2026-01-01T00:01:00.000Z" }

lemma topicSession_normal :
    normalizeSession samplePlatform topicSha topicSession = some topicSession := by
  decide +kernel

lemma topicSession_inMergeOrder : InMergeOrder samplePlatform topicSession where
  queuedJobs := by decide
  recentJobs := by decide
  recentActions := by decide
  browserSessions := by decide
  pathDestinations := by decide
  conversationTurns := by decide
  classifierEvents := by decide
  conversationStack := by decide +kernel

theorem mergeConversationSession_self_iff_of_topic :
    mergeConversationSession samplePlatform topicSha topicSession topicSession =
        some topicSession ↔
      LedgersAgree topicSession ∧ StackKept samplePlatform topicSha topicSession :=
  mergeConversationSession_self_iff samplePlatform topicSha topicSession topicSession_normal
    topicSession_inMergeOrder

/-- Saving the unchanged session counts the mention of its topic a second time. -/
theorem self_merge_counts_again :
    normalizeSession samplePlatform topicSha topicSession = some topicSession ∧
      InMergeOrder samplePlatform topicSession ∧
      (topicSession.conversationStack.map fun stack => stack.topics.map TopicNodeV1.mentionCount) =
        some [1] ∧
      ((mergeConversationSession samplePlatform topicSha topicSession topicSession).bind fun merged =>
        merged.conversationStack.map fun stack => stack.topics.map TopicNodeV1.mentionCount) =
        some [2] := by
  refine ⟨topicSession_normal, topicSession_inMergeOrder, ?_⟩
  decide +kernel

end AgentBigBrain.Interfaces
