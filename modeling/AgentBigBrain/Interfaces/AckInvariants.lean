import AgentBigBrain.Interfaces.JobDelivery
import AgentBigBrain.Interfaces.QueueRuns

/-!
# Acknowledgement and delivery of one job

The record of one job through its life, as either backend persists it: enqueued, started,
acknowledged, settled, delivered or suppressed, and recovered when it goes stale. Its fields stay
consistent as long as no result is suppressed and no final message is sent for a job whose
acknowledgement was cancelled; both of these mark a job as sent without a final state.
-/
namespace AgentBigBrain.Interfaces

open AgentBigBrain.Js AgentBigBrain.Core AgentBigBrain.Lib

/-! ## The life of a job -/

inductive SessionBackend where
  | json | sqlite
  deriving DecidableEq

/-- What is stored of a job after a write over its stored record. -/
def persistJob (backend : SessionBackend) (stored next : ConversationJob) : ConversationJob :=
  match backend with
  | .json => choosePreferredConversationJob (normalizeConversationJob stored)
      (normalizeConversationJob next)
  | .sqlite => normalizeConversationJob next

/-- How far the worker is with a job; the record it took from the queue stays in its memory. -/
inductive JobPhase where
  | queued
  | running (taken : ConversationJob)
  | settled
  | done
  deriving DecidableEq

structure TrackedJob where
  job : ConversationJob
  phase : JobPhase
  deriving DecidableEq

inductive JobEvent where
  | start (readings : StartReadings)
  | ackTimerFire (timerRecord : AckTimerRecord) (nowIso : String) (canUseAckTimer : Bool)
      (delivery : ConversationDeliveryResult)
  /-- The end of the execution; `persistenceFails` when writing its outcome throws. -/
  | executionOutcome (ending : ExecutionEnd) (completedAt : String) (texts : OutcomeTexts)
      (persistenceFails : Bool)
  | suppressedOutcome
  | finalDelivery (delivery : FinalDelivery)
  | recoverQueued (nowIso : String)
  | recoverRunning (nowIso : String)

def enqueuedJob (principalSnapshotOf : Option Json → ConversationJobPrincipalSnapshot)
    (session : ConversationSession) (input : EnqueueInput) : TrackedJob where
  job := normalizeConversationJob (newConversationJob principalSnapshotOf session input)
  phase := .queued

variable (platform : Platform) (backend : SessionBackend)

/-- The record a timer that fires writes, if it writes one. -/
def ackTimerWrite (job : ConversationJob) (timerRecord : AckTimerRecord) (nowIso : String)
    (canUseAckTimer : Bool) (delivery : ConversationDeliveryResult) : Option ConversationJob :=
  if job.status = .running ∧ job.ackTimerGeneration = timerRecord.generation then
    match runningJobDecision platform job nowIso canUseAckTimer with
    | .ignore => none
    | .record written => some written
    | .send runningJob => some (acknowledgedJob runningJob delivery nowIso)
  else
    none

def TrackedJob.write (tracked : TrackedJob) (next : ConversationJob) (phase : JobPhase) :
    TrackedJob where
  job := persistJob backend tracked.job next
  phase := phase

/-- The record a job gets among the recent jobs, which did not list it. -/
def TrackedJob.leaveQueue (next : ConversationJob) (phase : JobPhase) : TrackedJob where
  job := normalizeConversationJob next
  phase := phase

/-- `none` where the event cannot happen. -/
def jobStep (tracked : TrackedJob) : JobEvent → Option TrackedJob
  | .start readings =>
      if tracked.phase = .queued then
        let taken := startedJob tracked.job readings
        some (.leaveQueue taken (.running taken))
      else
        none
  | .ackTimerFire timerRecord nowIso canUseAckTimer delivery =>
      if tracked.phase = .queued then none
      else
        match ackTimerWrite platform tracked.job timerRecord nowIso canUseAckTimer delivery with
        | none => some tracked
        | some written => some (tracked.write backend written tracked.phase)
  | .executionOutcome ending completedAt texts persistenceFails =>
      match tracked.phase with
      | .running taken =>
          let executed := executedJob taken ending completedAt
          let next :=
            if persistenceFails then recoveredTerminalJob tracked.job executed ending
            else settledJob tracked.job executed texts
          some (tracked.write backend next .settled)
      | _ => none
  | .suppressedOutcome =>
      if tracked.phase = .settled ∧ tracked.job.isSystemJob = true then
        some (tracked.write backend (suppressedJob tracked.job) .done)
      else
        none
  | .finalDelivery delivery =>
      if tracked.phase = .settled then
        if isFinalDeliveryTerminal tracked.job.finalDeliveryOutcome then
          some { tracked with phase := .done }
        else
          some (tracked.write backend (deliveredJob tracked.job delivery) .done)
      else
        none
  | .recoverQueued nowIso =>
      if tracked.phase = .queued then
        some (.leaveQueue (buildRecoveredStaleQueuedJob tracked.job nowIso) .done)
      else
        none
  | .recoverRunning nowIso =>
      if tracked.phase ≠ .queued ∧ tracked.job.status = .running then
        some (tracked.write backend (recoveredRunningJob tracked.job nowIso) tracked.phase)
      else
        none

/-! ## The invariants -/

/-- Every version a step persists passes the assertions, and a terminal acknowledgement state
stays. -/
def PersistsValidJob (tracked : TrackedJob) (event : JobEvent) : Prop :=
  ∀ next ∈ jobStep platform backend tracked event,
    assertAckInvariants next.job = none ∧
      (isAckTerminalState tracked.job.ackLifecycleState = true →
        next.job.ackLifecycleState = tracked.job.ackLifecycleState)

instance (tracked : TrackedJob) (event : JobEvent) :
    Decidable (PersistsValidJob platform backend tracked event) :=
  inferInstanceAs (Decidable (∀ next ∈ jobStep platform backend tracked event, _))

/-- The step suppresses no result, and sends no final message for a job whose acknowledgement was
cancelled. -/
def KeepsFinalState (tracked : TrackedJob) : JobEvent → Prop
  | .suppressedOutcome => ¬ (tracked.phase = .settled ∧ tracked.job.isSystemJob = true)
  | .finalDelivery delivery =>
      ¬ (tracked.phase = .settled ∧ tracked.job.ackLifecycleState = .cancelled ∧
        tracked.job.finalDeliveryOutcome = .notAttempted ∧ delivery.send.ok = true)
  | _ => True

instance (tracked : TrackedJob) : ∀ event, Decidable (KeepsFinalState tracked event)
  | .suppressedOutcome => inferInstanceAs (Decidable (¬ _))
  | .finalDelivery _ => inferInstanceAs (Decidable (¬ _))
  | .start _ => inferInstanceAs (Decidable True)
  | .ackTimerFire _ _ _ _ => inferInstanceAs (Decidable True)
  | .executionOutcome _ _ _ _ => inferInstanceAs (Decidable True)
  | .recoverQueued _ => inferInstanceAs (Decidable True)
  | .recoverRunning _ => inferInstanceAs (Decidable True)

/-- What the fields of a record say of each other. -/
structure ConsistentAck (job : ConversationJob) : Prop where
  sentHasId : job.ackLifecycleState = .sent → job.ackMessageId.any (· ≠ "") = true
  deliveredIsFinal : job.finalDeliveryOutcome = .sent →
    job.ackLifecycleState = .replaced ∨ job.ackLifecycleState = .finalSentNoEdit
  attemptedCounts : job.finalDeliveryOutcome ≠ .notAttempted → 1 ≤ job.finalDeliveryAttemptCount
  counts : 0 ≤ job.finalDeliveryAttemptCount

lemma ConsistentAck.assertAckInvariants {job : ConversationJob} (h : ConsistentAck job) :
    assertAckInvariants job = none := by
  unfold Interfaces.assertAckInvariants
  rw [if_neg, if_neg, if_neg]
  · rintro ⟨hattempted, hcount⟩
    exact absurd (h.attemptedCounts hattempted) (by linarith)
  · rintro ⟨hsent, hreplaced, hfinal⟩
    rcases h.deliveredIsFinal hsent with hack | hack
    · exact hreplaced hack
    · exact hfinal hack
  · rintro ⟨hsent, hmissing⟩
    exact hmissing (h.sentHasId hsent)

/-! ## Transitions of the acknowledgement -/

def nextAckState (current next : ConversationAckLifecycleState) : ConversationAckLifecycleState :=
  if canTransitionAckLifecycleState current next then next
  else if canTransitionAckLifecycleState current .cancelled then .cancelled
  else current

/-- A transition changes the state and perhaps the last error. -/
lemma setConversationAckLifecycleState_eq (job : ConversationJob)
    (nextState : ConversationAckLifecycleState) (fallbackErrorCode : String) :
    ∃ code, setConversationAckLifecycleState job nextState fallbackErrorCode =
      { job with
        ackLifecycleState := nextAckState job.ackLifecycleState nextState
        ackLastErrorCode := code } := by
  unfold setConversationAckLifecycleState nextAckState
  split_ifs with hsame hmove hcancel
  · exact ⟨_, by rw [← hsame]⟩
  · exact absurd (by simp [canTransitionAckLifecycleState, hsame]) hmove
  · exact absurd (by simp [canTransitionAckLifecycleState, hsame]) hmove
  all_goals exact ⟨_, rfl⟩

lemma nextAckState_of_terminal {current next : ConversationAckLifecycleState}
    (h : isAckTerminalState current = true) : nextAckState current next = current := by
  cases current <;> cases next <;> first | rfl | cases h

lemma nextAckState_cancelled {current : ConversationAckLifecycleState}
    (h : current ≠ .replaced) (h' : current ≠ .finalSentNoEdit) :
    nextAckState current .cancelled = .cancelled := by
  cases current <;> first | rfl | exact absurd rfl h | exact absurd rfl h'

/-! ## What each write makes of a record -/

/-- The write leaves a consistent record and moves no terminal acknowledgement. -/
structure GoodWrite (before after : ConversationJob) : Prop where
  consistent : ConsistentAck after
  keeps : isAckTerminalState before.ackLifecycleState = true →
    after.ackLifecycleState = before.ackLifecycleState

/-- No final message has reached the acknowledgement. -/
def NotFinal (job : ConversationJob) : Prop :=
  job.ackLifecycleState ≠ .replaced ∧ job.ackLifecycleState ≠ .finalSentNoEdit

section Writes

variable {job : ConversationJob}

lemma startedJob_consistent (hack : job.ackLifecycleState = .notSent) (readings : StartReadings) :
    ConsistentAck (startedJob job readings) where
  sentHasId h := by
    rw [startedJob, hack] at h
    cases h
  deliveredIsFinal h := by cases h
  attemptedCounts h := absurd rfl h
  counts := le_rfl

lemma one_le_atLeastOne (value : ℚ) : 1 ≤ atLeastOne value :=
  le_max_left 1 value

lemma buildRecoveredStaleQueuedJob_consistent (nowIso : String) :
    ConsistentAck (buildRecoveredStaleQueuedJob job nowIso) where
  sentHasId h := by cases h
  deliveredIsFinal h := by cases h
  attemptedCounts _ := one_le_atLeastOne _
  counts := zero_le_one.trans (one_le_atLeastOne _)

lemma recoveredRunningJob_good (h : ConsistentAck job) (nowIso : String) :
    GoodWrite job (recoveredRunningJob job nowIso) where
  consistent :=
    { sentHasId := by
        intro hsent
        simp only [recoveredRunningJob] at hsent
        cases hack : job.ackLifecycleState <;> rw [hack] at hsent <;> cases hsent
      deliveredIsFinal := by
        intro hsent
        simp only [recoveredRunningJob] at hsent ⊢
        split_ifs at hsent
        rcases h.deliveredIsFinal hsent with hack | hack <;> rw [hack]
        · exact Or.inl rfl
        · exact Or.inr rfl
      attemptedCounts := fun _ => one_le_atLeastOne _
      counts := zero_le_one.trans (one_le_atLeastOne _) }
  keeps hterminal := by
    simp only [recoveredRunningJob]
    cases hack : job.ackLifecycleState <;> rw [hack] at hterminal <;> first | rfl | cases hterminal

lemma settledJob_good (h : ConsistentAck job) (executed : ConversationJob) (texts : OutcomeTexts) :
    GoodWrite job (settledJob job executed texts) := by
  unfold settledJob
  dsimp only
  split <;> exact ⟨⟨h.sentHasId, h.deliveredIsFinal, h.attemptedCounts, h.counts⟩, fun _ => rfl⟩

lemma settledJob_ack (executed : ConversationJob) (texts : OutcomeTexts) :
    (settledJob job executed texts).ackLifecycleState = job.ackLifecycleState := by
  unfold settledJob
  dsimp only
  split <;> rfl

lemma recoveredTerminalJob_good (h : ConsistentAck job) (executed : ConversationJob)
    (ending : ExecutionEnd) : GoodWrite job (recoveredTerminalJob job executed ending) where
  consistent :=
    { sentHasId := h.sentHasId
      deliveredIsFinal := fun hsent => by cases hsent
      attemptedCounts := fun hattempted => absurd rfl hattempted
      counts := h.counts }
  keeps _ := rfl

/-- An eligible job has no terminal acknowledgement and no attempted delivery. -/
lemma runningJobDecision_send {platform : Platform} {nowIso : String} {canUseAckTimer : Bool}
    {sending : ConversationJob}
    (h : runningJobDecision platform job nowIso canUseAckTimer = .send sending) :
    sending = job ∧ isAckTerminalState job.ackLifecycleState = false ∧
      job.finalDeliveryOutcome = .notAttempted := by
  unfold runningJobDecision at h
  split at h
  · rename_i heligible
    unfold deriveAckEligibility at heligible
    split_ifs at heligible with hedit hterminal hattempted
    rw [not_or, not_not] at hattempted
    exact ⟨(AckTimerDecision.send.inj h).symm, by simpa using hterminal, hattempted.1⟩
  · cases h
  · cases h

lemma runningJobDecision_record {platform : Platform} {nowIso : String} {canUseAckTimer : Bool}
    {written : ConversationJob}
    (h : runningJobDecision platform job nowIso canUseAckTimer = .record written) :
    ∃ code, written = { job with ackLastErrorCode := code } := by
  unfold runningJobDecision at h
  split at h
  · cases h
  · cases h
  · exact ⟨_, (AckTimerDecision.record.inj h).symm⟩

lemma acknowledgedJob_good (h : ConsistentAck job)
    (hopen : isAckTerminalState job.ackLifecycleState = false)
    (hattempted : job.finalDeliveryOutcome = .notAttempted) (delivery : ConversationDeliveryResult)
    (nowIso : String) :
    GoodWrite job (acknowledgedJob job delivery nowIso) ∧
      NotFinal (acknowledgedJob job delivery nowIso) := by
  have hnotFinal : job.ackLifecycleState ≠ .replaced ∧ job.ackLifecycleState ≠ .finalSentNoEdit := by
    constructor <;> intro hack <;> rw [hack] at hopen <;> cases hopen
  have hcancel := nextAckState_cancelled hnotFinal.1 hnotFinal.2
  -- A record whose acknowledgement is cancelled is consistent, as nothing was delivered.
  have hcancelled : ∀ after : ConversationJob, after.ackLifecycleState = .cancelled →
      after.finalDeliveryOutcome = .notAttempted →
      after.finalDeliveryAttemptCount = job.finalDeliveryAttemptCount →
        GoodWrite job after ∧ NotFinal after := by
    intro after hack hnone hcount
    refine ⟨⟨⟨?_, ?_, ?_, ?_⟩, ?_⟩, ?_⟩
    · intro hsent
      rw [hack] at hsent
      cases hsent
    · intro hsent
      rw [hnone] at hsent
      cases hsent
    · exact fun hdelivered => absurd hnone hdelivered
    · rw [hcount]
      exact h.counts
    · intro hterminal
      rw [hopen] at hterminal
      cases hterminal
    · simp [NotFinal, hack]
  unfold acknowledgedJob
  dsimp only
  split_ifs with hok
  · obtain ⟨code, hset⟩ := setConversationAckLifecycleState_eq job .cancelled
      (delivery.errorCode.getD "ACK_SEND_FAILED")
    rw [hset]
    exact hcancelled _ hcancel hattempted rfl
  · split
    · obtain ⟨code, hset⟩ := setConversationAckLifecycleState_eq job .cancelled
        "ACK_MESSAGE_ID_MISSING"
      rw [hset]
      exact hcancelled _ hcancel hattempted rfl
    · rename_i messageId hmessage
      obtain ⟨code, hset⟩ := setConversationAckLifecycleState_eq job .sent
        "ACK_STATE_TRANSITION_BLOCKED"
      have hsentState : nextAckState job.ackLifecycleState .sent = .sent := by
        cases hack : job.ackLifecycleState <;> rw [hack] at hopen <;> first | rfl | cases hopen
      rw [hset, hsentState]
      have hconsistent : ConsistentAck
          { job with
            ackLifecycleState := .sent
            ackMessageId := some messageId
            ackSentAt := some nowIso
            ackLastErrorCode := none } := by
        refine ⟨fun _ => ?_, fun hsent => ?_, fun hdelivered => absurd hattempted hdelivered, h.counts⟩
        · have hne := (filter_ne_empty_eq_some.mp hmessage).2
          simpa using hne
        · rw [hattempted] at hsent
          cases hsent
      rw [hconsistent.assertAckInvariants]
      refine ⟨⟨hconsistent, fun hterminal => ?_⟩, by simp [NotFinal]⟩
      rw [hopen] at hterminal
      cases hterminal

/-- A record that was not delivered is consistent once its acknowledgement is cancelled. -/
lemma cancelled_good {failed : ConversationJob} (hnotFinal : NotFinal job)
    (hack : failed.ackLifecycleState = job.ackLifecycleState)
    (houtcome : failed.finalDeliveryOutcome ≠ .sent) (hcount : 1 ≤ failed.finalDeliveryAttemptCount)
    (code : String) :
    GoodWrite job { setConversationAckLifecycleState failed .cancelled code with
      ackLastErrorCode := some code } := by
  obtain ⟨code', hset⟩ := setConversationAckLifecycleState_eq failed .cancelled code
  have hcancelled : nextAckState failed.ackLifecycleState .cancelled = .cancelled := by
    rw [hack]
    exact nextAckState_cancelled hnotFinal.1 hnotFinal.2
  rw [hset, hcancelled]
  refine ⟨⟨fun hsent => ?_, fun hsent => absurd hsent houtcome, fun _ => hcount,
    zero_le_one.trans hcount⟩, fun hterminal => ?_⟩
  · cases hsent
  · rw [← hack, ← hcancelled]
    exact nextAckState_of_terminal (hack ▸ hterminal)

/-- A successful send is final unless the acknowledgement was cancelled. -/
lemma sentJob_good (h : 0 ≤ job.finalDeliveryAttemptCount) (hnotFinal : NotFinal job)
    (delivery : FinalDelivery) (editAttempted : Bool)
    (hcondition : ¬ (job.ackLifecycleState = .cancelled ∧ delivery.send.ok = true)) :
    GoodWrite job (sentJob job delivery editAttempted) := by
  have hcount : 1 ≤ job.finalDeliveryAttemptCount + 1 := by linarith
  unfold sentJob
  dsimp only
  by_cases hok : delivery.send.ok = true
  · rw [if_pos hok]
    have hfinal : nextAckState job.ackLifecycleState .finalSentNoEdit = .finalSentNoEdit := by
      cases hack : job.ackLifecycleState with
      | cancelled => exact absurd ⟨hack, hok⟩ hcondition
      | replaced => exact absurd hack hnotFinal.1
      | _ => rfl
    obtain ⟨code, hset⟩ := setConversationAckLifecycleState_eq
      { job with
        finalDeliveryAttemptCount := job.finalDeliveryAttemptCount + 1
        finalDeliveryLastAttemptAt := some delivery.sendAttemptAt
        finalDeliveryOutcome := .sent
        finalDeliveryLastErrorCode := none }
      .finalSentNoEdit "ACK_FINAL_NO_EDIT_STATE_TRANSITION_BLOCKED"
    rw [hset]
    refine ⟨⟨fun hsent => ?_, fun _ => Or.inr hfinal, fun _ => hcount, zero_le_one.trans hcount⟩,
      fun hterminal => nextAckState_of_terminal hterminal⟩
    dsimp only at hsent
    rw [hfinal] at hsent
    cases hsent
  · rw [if_neg hok]
    apply cancelled_good hnotFinal
    · rfl
    · dsimp only
      split_ifs <;> simp
    · exact hcount

/-- An acknowledgement that can be edited is replaced. -/
lemma replacedJob_good (h : 1 ≤ job.finalDeliveryAttemptCount)
    (hsent : job.ackLifecycleState = .sent) : GoodWrite job (replacedJob job) := by
  obtain ⟨code, hset⟩ := setConversationAckLifecycleState_eq job .replaced
    "ACK_REPLACE_STATE_TRANSITION_BLOCKED"
  unfold replacedJob
  rw [hset, hsent]
  refine ⟨⟨fun hack => ?_, fun _ => Or.inl rfl, fun _ => h, zero_le_one.trans h⟩,
    fun hterminal => ?_⟩
  · cases hack
  · rw [hsent] at hterminal
    cases hterminal

lemma ackLifecycleState_of_editsAck {delivery : FinalDelivery} (h : editsAck delivery job = true) :
    job.ackLifecycleState = .sent := by
  simp only [editsAck, canEditAckMessage, Bool.and_eq_true, decide_eq_true_eq] at h
  exact h.1.2.1

lemma deliveredJob_good (h : ConsistentAck job) (hnotFinal : NotFinal job)
    (delivery : FinalDelivery)
    (hcondition : ¬ (job.ackLifecycleState = .cancelled ∧ delivery.send.ok = true)) :
    GoodWrite job (deliveredJob job delivery) := by
  have hcount : 1 ≤ job.finalDeliveryAttemptCount + 1 := by linarith [h.counts]
  unfold deliveredJob
  dsimp only
  split_ifs with hedits hreplaced
  · have hgood := @replacedJob_good (attemptedEdit job delivery) hcount
      (ackLifecycleState_of_editsAck hedits)
    exact ⟨hgood.consistent, hgood.keeps⟩
  · have hgood := @sentJob_good
      { attemptedEdit job delivery with
        ackLastErrorCode := some (delivery.edit.errorCode.getD "ACK_EDIT_FAILED")
        finalDeliveryLastErrorCode := some (delivery.edit.errorCode.getD "ACK_EDIT_FAILED") }
      (zero_le_one.trans hcount) hnotFinal delivery true hcondition
    exact ⟨hgood.consistent, hgood.keeps⟩
  · exact sentJob_good h.counts hnotFinal delivery false hcondition

end Writes

/-! ## What is persisted -/

section Persisted

variable {platform : Platform} {backend : SessionBackend} {before after : ConversationJob}

lemma ConsistentAck.normalized (h : ConsistentAck after) :
    ConsistentAck (normalizeConversationJob after) where
  sentHasId := h.sentHasId
  deliveredIsFinal := h.deliveredIsFinal
  attemptedCounts hattempted := by
    have hcount := h.attemptedCounts hattempted
    have hfloor : (1 : ℤ) ≤ ⌊after.finalDeliveryAttemptCount⌋ := Int.le_floor.mpr (by simpa using hcount)
    change 1 ≤ normalizeCount after.finalDeliveryAttemptCount
    rw [normalizeCount, if_pos h.counts]
    exact_mod_cast hfloor
  counts := by
    change 0 ≤ normalizeCount after.finalDeliveryAttemptCount
    rw [normalizeCount, if_pos h.counts]
    exact_mod_cast Int.floor_nonneg.mpr h.counts

/-- One of two versions of a record is persisted. -/
lemma persistJob_cases (backend : SessionBackend) (stored next : ConversationJob) :
    ∃ version snapshot, (version = stored ∨ version = next) ∧ persistJob backend stored next =
      { normalizeConversationJob version with principalSnapshot := snapshot } := by
  cases backend with
  | sqlite => exact ⟨next, _, Or.inr rfl, rfl⟩
  | json =>
      obtain ⟨preferred, snapshot, hpreferred, hchoose⟩ := choosePreferredConversationJob_cases
        (normalizeConversationJob stored) (normalizeConversationJob next)
      rcases hpreferred with rfl | rfl
      · exact ⟨stored, snapshot, Or.inl rfl, hchoose⟩
      · exact ⟨next, snapshot, Or.inr rfl, hchoose⟩

lemma GoodWrite.persisted (hbefore : ConsistentAck before) (h : GoodWrite before after) :
    GoodWrite before (persistJob backend before after) := by
  obtain ⟨version, snapshot, rfl | rfl, hpersisted⟩ := persistJob_cases backend before after <;>
    rw [hpersisted]
  · have hnormalized := hbefore.normalized
    exact ⟨⟨hnormalized.sentHasId, hnormalized.deliveredIsFinal, hnormalized.attemptedCounts,
      hnormalized.counts⟩, fun _ => rfl⟩
  · have hnormalized := h.consistent.normalized
    exact ⟨⟨hnormalized.sentHasId, hnormalized.deliveredIsFinal, hnormalized.attemptedCounts,
      hnormalized.counts⟩, h.keeps⟩

lemma notFinal_persisted (hbefore : NotFinal before) (hafter : NotFinal after) :
    NotFinal (persistJob backend before after) := by
  obtain ⟨version, snapshot, rfl | rfl, hpersisted⟩ := persistJob_cases backend before after <;>
    rw [hpersisted]
  · exact hbefore
  · exact hafter

end Persisted

/-! ## Runs of a job -/

/-- A consistent record; before the last phase no final message has been delivered, and before
the first one ends no acknowledgement. -/
structure SoundTracked (tracked : TrackedJob) : Prop where
  consistent : ConsistentAck tracked.job
  notFinal : tracked.phase ≠ .done → NotFinal tracked.job
  queued : tracked.phase = .queued → tracked.job.ackLifecycleState = .notSent

section Runs

variable {platform : Platform} {backend : SessionBackend} {tracked next : TrackedJob}
  {event : JobEvent}

lemma soundTracked_enqueuedJob
    (principalSnapshotOf : Option Json → ConversationJobPrincipalSnapshot)
    (session : ConversationSession) (input : EnqueueInput) :
    SoundTracked (enqueuedJob principalSnapshotOf session input) where
  consistent := ConsistentAck.normalized
    { sentHasId := fun h => by cases h
      deliveredIsFinal := fun h => by cases h
      attemptedCounts := fun h => absurd rfl h
      counts := le_rfl }
  notFinal _ := by
    constructor <;> intro h <;> cases h
  queued _ := rfl

/-- Under the condition every step writes a sound record and keeps a terminal acknowledgement. -/
lemma jobStep_sound (h : SoundTracked tracked) (hcondition : KeepsFinalState tracked event)
    (hstep : jobStep platform backend tracked event = some next) :
    SoundTracked next ∧ (isAckTerminalState tracked.job.ackLifecycleState = true →
      next.job.ackLifecycleState = tracked.job.ackLifecycleState) := by
  -- A write that keeps the job from being final may end in any later phase.
  have hwrite : ∀ (written : ConversationJob) (phase : JobPhase), phase ≠ .queued →
      GoodWrite tracked.job written → (phase ≠ .done → NotFinal tracked.job ∧ NotFinal written) →
        SoundTracked (tracked.write backend written phase) ∧
          (isAckTerminalState tracked.job.ackLifecycleState = true →
            (tracked.write backend written phase).job.ackLifecycleState =
              tracked.job.ackLifecycleState) := by
    intro written phase hphase hgood hnotFinal
    have hpersisted : GoodWrite tracked.job (persistJob backend tracked.job written) :=
      hgood.persisted h.consistent
    refine ⟨⟨hpersisted.consistent, fun hdone => ?_, fun hqueued => absurd hqueued hphase⟩,
      hpersisted.keeps⟩
    exact notFinal_persisted (hnotFinal hdone).1 (hnotFinal hdone).2
  have hnotSent : tracked.phase = .queued →
      isAckTerminalState tracked.job.ackLifecycleState = false := by
    intro hqueued
    rw [h.queued hqueued]
    rfl
  cases event with
  | start readings =>
      simp only [jobStep] at hstep
      split_ifs at hstep with hqueued
      cases hstep
      have hnotFinal := h.notFinal (by simp [hqueued])
      refine ⟨⟨(startedJob_consistent (h.queued hqueued) readings).normalized,
        fun _ => hnotFinal, fun hphase => by cases hphase⟩, fun hterminal => ?_⟩
      rw [hnotSent hqueued] at hterminal
      cases hterminal
  | ackTimerFire timerRecord nowIso canUseAckTimer delivery =>
      simp only [jobStep] at hstep
      split_ifs at hstep with hqueued
      unfold ackTimerWrite at hstep
      by_cases hguard : tracked.job.status = .running ∧
          tracked.job.ackTimerGeneration = timerRecord.generation
      · rw [if_pos hguard] at hstep
        cases hdecision : runningJobDecision platform tracked.job nowIso canUseAckTimer with
        | ignore =>
            rw [hdecision] at hstep
            cases hstep
            exact ⟨h, fun _ => rfl⟩
        | record written =>
            rw [hdecision] at hstep
            cases hstep
            obtain ⟨code, rfl⟩ := runningJobDecision_record hdecision
            refine hwrite _ _ hqueued ⟨⟨h.consistent.sentHasId, h.consistent.deliveredIsFinal,
              h.consistent.attemptedCounts, h.consistent.counts⟩, fun _ => rfl⟩ fun hdone => ?_
            exact ⟨h.notFinal hdone, h.notFinal hdone⟩
        | send sending =>
            rw [hdecision] at hstep
            cases hstep
            obtain ⟨rfl, hopen, hattempted⟩ := runningJobDecision_send hdecision
            obtain ⟨hgood, hafter⟩ :=
              acknowledgedJob_good h.consistent hopen hattempted delivery nowIso
            exact hwrite _ _ hqueued hgood fun hdone => ⟨h.notFinal hdone, hafter⟩
      · rw [if_neg hguard] at hstep
        cases hstep
        exact ⟨h, fun _ => rfl⟩
  | executionOutcome ending completedAt texts persistenceFails =>
      simp only [jobStep] at hstep
      split at hstep
      · rename_i taken hrunning
        cases hstep
        have hnotFinal := h.notFinal (by simp [hrunning])
        cases persistenceFails with
        | true =>
            exact hwrite _ _ (by simp) (recoveredTerminalJob_good h.consistent _ ending)
              fun _ => ⟨hnotFinal, hnotFinal⟩
        | false =>
            refine hwrite _ _ (by simp) (settledJob_good h.consistent _ texts) fun _ =>
              ⟨hnotFinal, ?_⟩
            rw [NotFinal, if_neg (by simp), settledJob_ack]
            exact hnotFinal
      · cases hstep
  | suppressedOutcome =>
      simp only [jobStep] at hstep
      split_ifs at hstep with hsuppressed
      exact absurd hsuppressed hcondition
  | finalDelivery delivery =>
      simp only [jobStep] at hstep
      split_ifs at hstep with hsettled hattempted
      · cases hstep
        exact ⟨⟨h.consistent, fun hdone => absurd rfl hdone, fun hphase => by cases hphase⟩,
          fun _ => rfl⟩
      · cases hstep
        have hnone : tracked.job.finalDeliveryOutcome = .notAttempted := by
          cases houtcome : tracked.job.finalDeliveryOutcome <;> simp_all [isFinalDeliveryTerminal]
        exact hwrite _ _ (by simp) (deliveredJob_good h.consistent (h.notFinal (by simp [hsettled]))
          delivery fun hsend => hcondition ⟨hsettled, hsend.1, hnone, hsend.2⟩)
          fun hdone => absurd rfl hdone
  | recoverQueued nowIso =>
      simp only [jobStep] at hstep
      split_ifs at hstep with hqueued
      cases hstep
      refine ⟨⟨(buildRecoveredStaleQueuedJob_consistent nowIso).normalized,
        fun hdone => absurd rfl hdone, fun hphase => by cases hphase⟩, fun hterminal => ?_⟩
      rw [hnotSent hqueued] at hterminal
      cases hterminal
  | recoverRunning nowIso =>
      simp only [jobStep] at hstep
      split_ifs at hstep with hguard
      cases hstep
      refine hwrite _ _ hguard.1 (recoveredRunningJob_good h.consistent nowIso) fun hdone =>
        ⟨h.notFinal hdone, ?_⟩
      obtain ⟨hreplaced, hfinal⟩ := h.notFinal hdone
      simp only [NotFinal, recoveredRunningJob]
      split_ifs
      · simp
      · exact ⟨hreplaced, hfinal⟩

/-! ### Steps that break the invariants -/

lemma assertAckInvariants_ne_none {job : ConversationJob} (hsent : job.finalDeliveryOutcome = .sent)
    (hnotFinal : NotFinal job) : assertAckInvariants job ≠ none := by
  unfold assertAckInvariants
  split_ifs with hmissing hnonTerminal
  · simp
  · simp
  · exact absurd ⟨hsent, hnotFinal⟩ hnonTerminal
  · exact absurd ⟨hsent, hnotFinal⟩ hnonTerminal

/-- A record that was delivered wins over the same one before. -/
lemma preferredSide_of_attempted {stored written : ConversationJob}
    (hterminal : stored.isTerminal = written.isTerminal)
    (hstored : stored.finalDeliveryOutcome = .notAttempted)
    (hwritten : written.finalDeliveryOutcome ≠ .notAttempted) :
    preferredSide stored written = .incoming := by
  simp [preferredSide, preferWhere, hterminal, hstored, hwritten]

lemma preferredSide_suppressed (job : ConversationJob) :
    preferredSide job (suppressedJob job) = .incoming := by
  have hterminal : job.isTerminal = (suppressedJob job).isTerminal := rfl
  by_cases hattempted : job.finalDeliveryOutcome = .notAttempted
  · exact preferredSide_of_attempted hterminal hattempted (by simp [suppressedJob])
  · cases htrace : job.recoveryTrace <;>
      simp [preferredSide, preferWhere, preferNewerTrace, suppressedJob, ConversationJob.isTerminal,
        ConversationJob.timestamp, hattempted, htrace]

/-- Where the written version is preferred, both backends persist it. -/
lemma persistJob_of_incoming {stored written : ConversationJob}
    (h : preferredSide (normalizeConversationJob stored) (normalizeConversationJob written) =
      .incoming) :
    (persistJob backend stored written).finalDeliveryOutcome = written.finalDeliveryOutcome ∧
      (persistJob backend stored written).ackLifecycleState = written.ackLifecycleState := by
  cases backend with
  | sqlite => exact ⟨rfl, rfl⟩
  | json =>
      unfold persistJob choosePreferredConversationJob
      dsimp only
      rw [h]
      exact ⟨rfl, rfl⟩

lemma not_persistsValidJob {written : ConversationJob} {phase : JobPhase}
    (hstep : jobStep platform backend tracked event = some (tracked.write backend written phase))
    (hincoming : preferredSide (normalizeConversationJob tracked.job)
      (normalizeConversationJob written) = .incoming)
    (hsent : written.finalDeliveryOutcome = .sent) (hnotFinal : NotFinal written) :
    ¬ PersistsValidJob platform backend tracked event := by
  intro hvalid
  obtain ⟨houtcome, hack⟩ := @persistJob_of_incoming backend _ _ hincoming
  refine assertAckInvariants_ne_none (houtcome.trans hsent) ?_ (hvalid _ hstep).1
  exact ⟨hack ▸ hnotFinal.1, hack ▸ hnotFinal.2⟩

/-- A message that is sent after the acknowledgement was cancelled leaves it cancelled. -/
lemma sentJob_of_cancelled {job : ConversationJob} {delivery : FinalDelivery}
    (hcancelled : job.ackLifecycleState = .cancelled) (hok : delivery.send.ok = true) :
    (sentJob job delivery false).finalDeliveryOutcome = .sent ∧
      (sentJob job delivery false).ackLifecycleState = .cancelled ∧
      (sentJob job delivery false).isTerminal = job.isTerminal := by
  unfold sentJob
  dsimp only
  rw [if_pos hok]
  obtain ⟨code, hset⟩ := setConversationAckLifecycleState_eq
    { job with
      finalDeliveryAttemptCount := job.finalDeliveryAttemptCount + 1
      finalDeliveryLastAttemptAt := some delivery.sendAttemptAt
      finalDeliveryOutcome := .sent
      finalDeliveryLastErrorCode := none }
    .finalSentNoEdit "ACK_FINAL_NO_EDIT_STATE_TRANSITION_BLOCKED"
  rw [hset]
  refine ⟨rfl, ?_, rfl⟩
  dsimp only
  rw [hcancelled]
  rfl

/-- A sound record keeps its invariants in exactly the steps that meet the condition. -/
lemma keepsFinalState_iff (h : SoundTracked tracked) :
    KeepsFinalState tracked event ↔ PersistsValidJob platform backend tracked event := by
  constructor
  · intro hcondition next hnext
    obtain ⟨hsound, hkeeps⟩ := jobStep_sound h hcondition hnext
    exact ⟨hsound.consistent.assertAckInvariants, hkeeps⟩
  · intro hvalid
    cases event with
    | suppressedOutcome =>
        intro hsuppressed
        have hstep : jobStep platform backend tracked .suppressedOutcome =
            some (tracked.write backend (suppressedJob tracked.job) .done) := by
          simp only [jobStep]
          rw [if_pos hsuppressed]
        have hincoming := preferredSide_suppressed (normalizeConversationJob tracked.job)
        exact not_persistsValidJob hstep hincoming rfl (h.notFinal (by simp [hsuppressed.1])) hvalid
    | finalDelivery delivery =>
        rintro ⟨hsettled, hcancelled, hnone, hok⟩
        have hedits : editsAck delivery tracked.job = false := by
          simp [editsAck, canEditAckMessage, hcancelled]
        have hstep : jobStep platform backend tracked (.finalDelivery delivery) =
            some (tracked.write backend (sentJob tracked.job delivery false) .done) := by
          simp only [jobStep]
          rw [if_pos hsettled, if_neg (by simp [hnone, isFinalDeliveryTerminal]), deliveredJob,
            if_neg (by simp [hedits])]
        obtain ⟨hsent, hack, hterminal⟩ := sentJob_of_cancelled hcancelled hok
        refine not_persistsValidJob hstep (preferredSide_of_attempted hterminal.symm hnone ?_) hsent
          ?_ hvalid
        · change (sentJob tracked.job delivery false).finalDeliveryOutcome ≠ .notAttempted
          rw [hsent]
          simp
        · rw [NotFinal, hack]
          simp
    | _ => exact trivial

end Runs

/-- Over every run of a job from its enqueue on, on either backend: all versions that are
persisted pass the assertions and no terminal acknowledgement state is left, exactly if no step
suppresses a result or sends the final message after the acknowledgement was cancelled. -/
theorem persistsValidJob_along_iff (platform : Platform) (backend : SessionBackend)
    (principalSnapshotOf : Option Json → ConversationJobPrincipalSnapshot)
    (session : ConversationSession) (input : EnqueueInput) (events : List JobEvent) :
    Along (jobStep platform backend) (PersistsValidJob platform backend)
        (enqueuedJob principalSnapshotOf session input) events ↔
      Along (jobStep platform backend) KeepsFinalState
        (enqueuedJob principalSnapshotOf session input) events :=
  (along_iff_along (fun _ _ _ h hcondition hstep => (jobStep_sound h hcondition hstep).1)
    (fun _ _ h => keepsFinalState_iff h)
    (soundTracked_enqueuedJob principalSnapshotOf session input)).symm

/-! ## A final message after a failed acknowledgement -/

def sampleDelivery (ok : Bool) : ConversationDeliveryResult where
  ok := ok
  messageId := if ok then some "message-1" else none
  errorCode := none
  errorDetail := none

/-- The acknowledgement cannot be sent; the final message can. -/
def failedAckEvents : List JobEvent :=
  [.start sampleStart,
    .ackTimerFire { jobId := "job-1", generation := 0 } "2026-01-01T00:02:00.000Z" true
      (sampleDelivery false),
    .executionOutcome (.completed "done") "2026-01-01T00:02:00.000Z" .keep false,
    .finalDelivery
      { canUseAckTimer := true
        canEdit := true
        previewDeliveredFullText := false
        edit := sampleDelivery false
        send := sampleDelivery true
        baseNowIso := "2026-01-01T00:02:00.000Z"
        sendAttemptAt := "2026-01-01T00:02:00.000Z" }]

def sampleEnqueuedJob : TrackedJob :=
  enqueuedJob (fun _ => sampleVerifiedSnapshot) sampleSession
    (sampleRequest "job-1" "2026-01-01T00:00:00.000Z")

/-- The job is stored as sent with a cancelled acknowledgement. -/
theorem sent_after_cancelled_ack :
    (run (jobStep samplePlatform .json) sampleEnqueuedJob failedAckEvents).map (fun tracked =>
        (tracked.job.finalDeliveryOutcome, tracked.job.ackLifecycleState,
          assertAckInvariants tracked.job)) =
      some (.sent, .cancelled, some .finalSentWithNonTerminalAckState) ∧
    ¬ Along (jobStep samplePlatform .json) (PersistsValidJob samplePlatform .json)
      sampleEnqueuedJob failedAckEvents := by
  decide

end AgentBigBrain.Interfaces
