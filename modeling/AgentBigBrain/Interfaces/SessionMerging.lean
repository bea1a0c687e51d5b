import AgentBigBrain.Core.ConversationStackReplay
import AgentBigBrain.Interfaces.RecordMerging
import AgentBigBrain.Interfaces.SessionMergeStateSelection
import AgentBigBrain.Interfaces.SessionNormalization
import AgentBigBrain.Interfaces.WorkspaceMerge

/-!
# Merging two session snapshots

The session a save leaves behind when an older snapshot is already stored.
-/
namespace AgentBigBrain.Interfaces

open AgentBigBrain.Js AgentBigBrain.Core AgentBigBrain.Lib

variable (platform : Platform) (sha : Sha256)

/-! ## Job ledgers -/

/-- The records verified snapshots are collected from; a later one overrides. -/
def snapshotSources (existing incoming : ConversationSession) : List ConversationJob :=
  existing.queuedJobs ++ existing.recentJobs ++ incoming.queuedJobs ++ incoming.recentJobs

def mergedRecentJobs (existing incoming : ConversationSession) : List ConversationJob :=
  applyVerifiedJobSnapshots (snapshotSources existing incoming)
    (mergeConversationJobs platform existing.recentJobs incoming.recentJobs)

def mergedQueuedCandidates (existing incoming : ConversationSession) : List ConversationJob :=
  applyVerifiedJobSnapshots (snapshotSources existing incoming)
    (mergeConversationJobs platform existing.queuedJobs incoming.queuedJobs)

/-- A candidate stays queued unless it is terminal or a recent record says that it left the
queue. -/
def staysQueued (recentJobs : List ConversationJob) (job : ConversationJob) : Bool :=
  !(recentJobs.any fun recent => decide (recent.status ≠ .queued) && decide (recent.id = job.id)) &&
    !job.isTerminal

def mergedQueuedJobs (existing incoming : ConversationSession) : List ConversationJob :=
  (mergedQueuedCandidates platform existing incoming).filter
    (staysQueued (mergedRecentJobs platform existing incoming))

def mergedRunningJobId (existing incoming : ConversationSession) : Option String :=
  selectRunningJobId existing.runningJobId incoming.runningJobId
    (mergedQueuedJobs platform existing incoming) (mergedRecentJobs platform existing incoming)

/-! ## Time and stack -/

def mergedUpdatedAt (existing incoming : ConversationSession) : String :=
  if textLt incoming.updatedAt existing.updatedAt then existing.updatedAt else incoming.updatedAt

def preferredStack (existing incoming : ConversationSession) : Option ConversationStackV1 :=
  if textLe incoming.updatedAt existing.updatedAt then existing.conversationStack
  else incoming.conversationStack

def mergedConversationTurns (existing incoming : ConversationSession) : List ConversationTurn :=
  mergeConversationTurns platform existing.conversationTurns incoming.conversationTurns

def mergedConversationStack (existing incoming : ConversationSession) : ConversationStackV1 :=
  buildConversationStackFromTurnsV1 platform sha
    ((mergedConversationTurns platform existing incoming).map ConversationTurn.stackTurn)
    (mergedUpdatedAt existing incoming) {} (preferredStack existing incoming)

/-! ## The session -/

def mergedProgressState (existing incoming : ConversationSession) :
    Option ConversationProgressState :=
  resolveMergedProgressState (selectProgressState existing.progressState incoming.progressState)
    (mergedRunningJobId platform existing incoming) (mergedQueuedJobs platform existing incoming)

/-- The merged session when its time is a date. -/
def mergedSession (existing incoming : ConversationSession) : ConversationSession :=
  { incoming with
    sessionSchemaVersion := some .v2
    conversationStack := some (mergedConversationStack platform sha existing incoming)
    updatedAt := mergedUpdatedAt existing incoming
    activeProposal := selectActiveProposal existing.activeProposal incoming.activeProposal
    activeClarification :=
      selectActiveClarification existing.activeClarification incoming.activeClarification
    domainContext := selectConversationDomainContext platform existing.domainContext
      incoming.domainContext existing.conversationId
    modeContinuity := selectModeContinuity existing.modeContinuity incoming.modeContinuity
    progressState := mergedProgressState platform existing incoming
    returnHandoff := selectReturnHandoff existing.returnHandoff incoming.returnHandoff
    runningJobId := mergedRunningJobId platform existing incoming
    queuedJobs := mergedQueuedJobs platform existing incoming
    recentJobs := mergedRecentJobs platform existing incoming
    recentActions := mergeRecentActions platform existing.recentActions incoming.recentActions
    browserSessions :=
      mergeBrowserSessions platform existing.browserSessions incoming.browserSessions
    pathDestinations :=
      mergePathDestinations platform existing.pathDestinations incoming.pathDestinations
    activeWorkspace :=
      selectActiveWorkspace platform existing.activeWorkspace incoming.activeWorkspace
    conversationTurns := mergedConversationTurns platform existing incoming
    classifierEvents :=
      mergeClassifierEvents platform existing.classifierEvents incoming.classifierEvents }

/-- `none` when the source throws, because the merged time is no date. -/
def mergeConversationSession (existing incoming : ConversationSession) :
    Option ConversationSession :=
  if isDate platform (mergedUpdatedAt existing incoming) then
    some (mergedSession platform sha existing incoming)
  else
    none

lemma mergeConversationSession_eq_some {existing incoming merged : ConversationSession}
    (h : mergeConversationSession platform sha existing incoming = some merged) :
    merged = mergedSession platform sha existing incoming := by
  unfold mergeConversationSession at h
  split at h
  · exact (Option.some.inj h).symm
  · cases h

lemma mergedUpdatedAt_cases (existing incoming : ConversationSession) :
    mergedUpdatedAt existing incoming = existing.updatedAt ∨
      mergedUpdatedAt existing incoming = incoming.updatedAt := by
  unfold mergedUpdatedAt
  split_ifs
  · exact Or.inl rfl
  · exact Or.inr rfl

/-- Sessions with valid times can be merged. -/
lemma mergeConversationSession_of_dates {existing incoming : ConversationSession}
    (he : isDate platform existing.updatedAt = true)
    (hi : isDate platform incoming.updatedAt = true) :
    mergeConversationSession platform sha existing incoming =
      some (mergedSession platform sha existing incoming) := by
  unfold mergeConversationSession
  rw [if_pos]
  rcases mergedUpdatedAt_cases existing incoming with h | h <;> rw [h] <;> assumption

end AgentBigBrain.Interfaces
