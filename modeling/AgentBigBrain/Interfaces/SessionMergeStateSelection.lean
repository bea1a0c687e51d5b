import AgentBigBrain.Interfaces.SessionState
import AgentBigBrain.Js.Text

/-!
# Selecting the singular states of two session snapshots

Each selector takes the other side where one is missing, and otherwise the one that is not
older. A side that is missing is never preferred.
-/
namespace AgentBigBrain.Interfaces

open AgentBigBrain.Js

/-- The state that is there, and of two the incoming one unless it is older. -/
def selectNewest {α : Type*} (time : α → String) (existing incoming : Option α) : Option α :=
  match existing, incoming with
  | none, incoming => incoming
  | existing, none => existing
  | some e, some i => if textLe (time e) (time i) then some i else some e

@[simp] lemma selectNewest_none_right {α : Type*} (time : α → String) (existing : Option α) :
    selectNewest time existing none = existing := by
  cases existing <;> rfl

@[simp] lemma selectNewest_self {α : Type*} (time : α → String) (state : Option α) :
    selectNewest time state state = state := by
  cases state <;> simp [selectNewest]

def selectActiveProposal : Option PendingProposal → Option PendingProposal →
    Option PendingProposal :=
  selectNewest PendingProposal.updatedAt

def selectActiveClarification : Option ActiveClarificationState →
    Option ActiveClarificationState → Option ActiveClarificationState :=
  selectNewest ActiveClarificationState.requestedAt

def selectModeContinuity : Option ConversationModeContinuityState →
    Option ConversationModeContinuityState → Option ConversationModeContinuityState :=
  selectNewest ConversationModeContinuityState.lastAffirmedAt

def selectProgressState : Option ConversationProgressState →
    Option ConversationProgressState → Option ConversationProgressState :=
  selectNewest ConversationProgressState.updatedAt

def backfillReturnHandoff (preferred fallback : ConversationReturnHandoffRecord) :
    ConversationReturnHandoffRecord :=
  { preferred with
    domainSnapshotLane := preferred.domainSnapshotLane.or fallback.domainSnapshotLane
    domainSnapshotRecordedAt :=
      preferred.domainSnapshotRecordedAt.or fallback.domainSnapshotRecordedAt }

@[simp] lemma backfillReturnHandoff_self (handoff : ConversationReturnHandoffRecord) :
    backfillReturnHandoff handoff handoff = handoff := by
  simp [backfillReturnHandoff]

def selectReturnHandoff (existing incoming : Option ConversationReturnHandoffRecord) :
    Option ConversationReturnHandoffRecord :=
  match existing, incoming with
  | none, incoming => incoming
  | existing, none => existing
  | some e, some i =>
      if textLe e.updatedAt i.updatedAt then some (backfillReturnHandoff i e)
      else some (backfillReturnHandoff e i)

@[simp] lemma selectReturnHandoff_none_right (existing : Option ConversationReturnHandoffRecord) :
    selectReturnHandoff existing none = existing := by
  cases existing <;> rfl

@[simp] lemma selectReturnHandoff_self (handoff : Option ConversationReturnHandoffRecord) :
    selectReturnHandoff handoff handoff = handoff := by
  cases handoff <;> simp [selectReturnHandoff]

/-- The progress states of work under way. -/
def ConversationProgressStatus.isInFlight : ConversationProgressStatus → Bool
  | .starting | .working | .retrying | .verifying => true
  | _ => false

def resolveMergedProgressState (progressState : Option ConversationProgressState)
    (runningJobId : Option String) (queuedJobs : List ConversationJob) :
    Option ConversationProgressState :=
  progressState.filter fun progress =>
    !progress.status.isInFlight || runningJobId.isSome || !queuedJobs.isEmpty

end AgentBigBrain.Interfaces
