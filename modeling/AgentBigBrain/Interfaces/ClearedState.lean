import AgentBigBrain.Interfaces.SessionStore

/-!
# Clearing a singular state

What the JSON backend returns after a snapshot was saved in which the active proposal, the
clarification, the handoff, the workspace or the progress state had been set to `null`.
-/
namespace AgentBigBrain.Interfaces

open AgentBigBrain.Js AgentBigBrain.Core

variable (platform : Platform) (sha : Sha256)

/-- Progress that is missing in the snapshot survives a merge unless it tells of work under way
while no job is running or queued. -/
lemma mergedProgressState_of_cleared (existing : ConversationSession)
    {incoming : ConversationSession}
    (hcleared : incoming.progressState = none) :
    (mergedProgressState platform existing incoming = none ↔
      ∀ progress ∈ existing.progressState, progress.status.isInFlight = true ∧
        mergedRunningJobId platform existing incoming = none ∧
          mergedQueuedJobs platform existing incoming = []) ∧
    (mergedProgressState platform existing incoming = none ∨
      mergedProgressState platform existing incoming = existing.progressState) := by
  unfold mergedProgressState resolveMergedProgressState selectProgressState
  rw [hcleared, selectNewest_none_right]
  cases existing.progressState with
  | none => simp
  | some progress =>
      rw [Option.filter_some]
      cases hstatus : progress.status.isInFlight <;>
        cases mergedRunningJobId platform existing incoming <;>
          cases mergedQueuedJobs platform existing incoming <;> simp [hstatus]

def sampleProposal : PendingProposal where
  id := "proposal-1"
  originalInput := "build it"
  currentInput := "build it"
  createdAt := "2026-01-01T00:00:00.000Z"
  updatedAt := "2026-01-01T00:00:00.000Z"
  status := .pending
  controller := none

def proposalStored : ConversationSession :=
  { sampleSession with activeProposal := some sampleProposal }

/-- The same session after the proposal was closed. -/
def proposalCleared : ConversationSession :=
  { proposalStored with activeProposal := none, updatedAt := "2026-01-01T00:01:00.000Z" }

def proposalStore : JsonStore samplePlatform :=
  JsonStore.new.setSession sampleSha proposalStored

end AgentBigBrain.Interfaces
