import AgentBigBrain.Interfaces.BoundedLedgers
import AgentBigBrain.Interfaces.QueueLedgers

/-!
# Updates of the ledgers

The writes of the worker to a session that enqueue nothing and record no new turn. A list is cut
to its cap by a write; the updates here are those that drop no record.
-/
namespace AgentBigBrain.Interfaces

open AgentBigBrain.Js AgentBigBrain.Core AgentBigBrain.Lib

inductive LedgerUpdate where
  | jobStarted (readings : StartReadings)
  | ackTimer (timerRecord : AckTimerRecord) (nowIso : String) (canUseAckTimer : Bool)
      (delivery : ConversationDeliveryResult)
  | jobSettled (taken : ConversationJob) (ending : ExecutionEnd) (completedAt updatedAt : String)
      (texts : OutcomeTexts)
  | jobRecovered (taken : ConversationJob) (ending : ExecutionEnd) (completedAt : String)
  | deliverySuppressed (jobId : String)
  | finalDelivered (jobId : String) (delivery : FinalDelivery)
  | recentAction (action : ConversationRecentActionRecord)
  | browserSession (record : ConversationBrowserSessionRecord)
  | pathDestination (destination : ConversationPathDestinationRecord)
  | assistantTurnText (previousText : Option String) (nextText : String)

/-- The last turn of the assistant, which the search from the end finds. -/
def latestAssistantTurn (session : ConversationSession) : Option ConversationTurn :=
  session.conversationTurns.reverse.find? fun turn => turn.role = .assistant

def replaceLatestAssistantTurnText (session : ConversationSession) (previousText : Option String)
    (nextText : String) : ConversationSession :=
  match previousText.filter (· ≠ "") with
  | none => session
  | some previous =>
      { session with
        conversationTurns :=
          (updateFirst (fun turn => decide (turn.role = .assistant))
            (fun turn => if turn.text = previous then { turn with text := nextText } else turn)
            session.conversationTurns.reverse).reverse }

variable (platform : Platform) (caps : LedgerCaps)

/-- The record that an acknowledgement timer writes. -/
def writtenAckJob (session : ConversationSession) (timerRecord : AckTimerRecord) (nowIso : String)
    (canUseAckTimer : Bool) (delivery : ConversationDeliveryResult) : Option ConversationJob :=
  match ackTimerDecision platform session timerRecord nowIso canUseAckTimer with
  | .ignore => none
  | .record written => some written
  | .send runningJob => some (acknowledgedJob runningJob delivery nowIso)

/-- The record that an update writes to the recent jobs. -/
def LedgerUpdate.writtenJob (session : ConversationSession) :
    LedgerUpdate → Option ConversationJob
  | .jobStarted readings => (takeNextJob session readings caps.maxRecentJobs).map Prod.fst
  | .ackTimer timerRecord nowIso canUseAckTimer delivery =>
      writtenAckJob platform session timerRecord nowIso canUseAckTimer delivery
  | .jobSettled taken ending completedAt _ texts =>
      (findRecentJob session taken.id).map fun persisted =>
        settledJob persisted (executedJob taken ending completedAt) texts
  | .jobRecovered taken ending completedAt =>
      (findRecentJob session taken.id).map fun persisted =>
        recoveredTerminalJob persisted (executedJob taken ending completedAt) ending
  | .deliverySuppressed jobId => (findRecentJob session jobId).map suppressedJob
  | .finalDelivered jobId delivery =>
      (finalDeliveryJob session jobId).map (deliveredJob · delivery)
  | _ => none

/-- The session an update leaves; `none` where there is nothing to update. -/
def LedgerUpdate.apply (session : ConversationSession) :
    LedgerUpdate → Option ConversationSession
  | .jobStarted readings => (takeNextJob session readings caps.maxRecentJobs).map Prod.snd
  | .ackTimer timerRecord nowIso canUseAckTimer delivery =>
      (writtenAckJob platform session timerRecord nowIso canUseAckTimer delivery).map fun job =>
        writeJob session job nowIso caps.maxRecentJobs
  | .jobSettled taken ending completedAt updatedAt texts =>
      (findRecentJob session taken.id).map fun persisted =>
        { writeJob session (settledJob persisted (executedJob taken ending completedAt) texts)
            updatedAt caps.maxRecentJobs with
          runningJobId := none }
  | .jobRecovered taken ending completedAt =>
      (findRecentJob session taken.id).map fun _ =>
        settleTerminalRecovery caps.maxRecentJobs session taken ending completedAt
  | .deliverySuppressed jobId =>
      (findRecentJob session jobId).map fun job =>
        upsertRecentJob session (suppressedJob job) caps.maxRecentJobs
  | .finalDelivered jobId delivery =>
      deliverFinalMessage session jobId delivery caps.maxRecentJobs
  | .recentAction action =>
      some (upsertRecentAction platform session action caps.maxRecentActions)
  | .browserSession record =>
      some (upsertBrowserSession platform session record caps.maxBrowserSessions)
  | .pathDestination destination =>
      some (upsertPathDestination platform session destination caps.maxPathDestinations)
  | .assistantTurnText previousText nextText =>
      some (replaceLatestAssistantTurnText session previousText nextText)

/-- The update has room for what it writes, so that it drops nothing. -/
def LedgerUpdate.Fits (session : ConversationSession) (update : LedgerUpdate) : Prop :=
  (∀ job ∈ update.writtenJob platform caps session,
    (replaceById ConversationJob.id job session.recentJobs).length ≤ caps.maxRecentJobs) ∧
  match update with
  | .recentAction action =>
      (replaceById ConversationRecentActionRecord.id action session.recentActions).length ≤
        caps.maxRecentActions
  | .browserSession record =>
      (replaceById ConversationBrowserSessionRecord.id record
        session.browserSessions).length ≤ caps.maxBrowserSessions
  | .pathDestination destination =>
      (replaceById ConversationPathDestinationRecord.id destination
        session.pathDestinations).length ≤ caps.maxPathDestinations
  | _ => True

instance (session : ConversationSession) (update : LedgerUpdate) :
    Decidable (update.Fits platform caps session) := by
  unfold LedgerUpdate.Fits
  cases update <;> infer_instance

def ledgerStep (session : ConversationSession) (update : LedgerUpdate) :
    Option ConversationSession :=
  if update.Fits platform caps session then update.apply platform caps session else none

/-! ## What an update writes -/

/-- The record is of the same job, from the same origin, and not back in the queue. -/
structure Continues (job held : ConversationJob) : Prop where
  id : job.id = held.id
  principalSnapshot : job.principalSnapshot = held.principalSnapshot
  status : held.status ≠ .queued → job.status ≠ .queued

lemma continues_setConversationAckLifecycleState (job : ConversationJob)
    (nextState : ConversationAckLifecycleState) (code : String) :
    Continues (setConversationAckLifecycleState job nextState code) job := by
  have hstatus := setConversationAckLifecycleState_status job nextState code
  refine ⟨?_, ?_, fun h => hstatus ▸ h⟩
  all_goals
    unfold setConversationAckLifecycleState
    split_ifs <;> rfl

lemma continues_acknowledgedJob (job : ConversationJob) (delivery : ConversationDeliveryResult)
    (nowIso : String) : Continues (acknowledgedJob job delivery nowIso) job := by
  have hset := continues_setConversationAckLifecycleState
  unfold acknowledgedJob
  dsimp only
  split_ifs
  · exact ⟨(hset _ _ _).id, (hset _ _ _).principalSnapshot, (hset _ _ _).status⟩
  · split
    · exact ⟨(hset _ _ _).id, (hset _ _ _).principalSnapshot, (hset _ _ _).status⟩
    · split
      · exact ⟨(hset _ _ _).id, (hset _ _ _).principalSnapshot, (hset _ _ _).status⟩
      · exact ⟨(hset _ .cancelled _).id.trans (hset _ .sent _).id,
          (hset _ .cancelled _).principalSnapshot.trans (hset _ .sent _).principalSnapshot,
          (hset _ .cancelled _).status ∘ (hset _ .sent _).status⟩

lemma continues_settledJob (persisted taken : ConversationJob) (ending : ExecutionEnd)
    (completedAt : String) (texts : OutcomeTexts) :
    Continues (settledJob persisted (executedJob taken ending completedAt) texts) persisted := by
  have hstatus := settledJob_status persisted (executedJob taken ending completedAt) texts
  refine ⟨?_, ?_, fun _ => hstatus ▸ executedJob_status taken ending completedAt⟩
  all_goals
    unfold settledJob
    dsimp only
    split <;> rfl

lemma continues_sentJob (job : ConversationJob) (delivery : FinalDelivery)
    (editAttempted : Bool) : Continues (sentJob job delivery editAttempted) job := by
  have hset := continues_setConversationAckLifecycleState
  refine ⟨?_, ?_, fun h => sentJob_status h delivery editAttempted⟩
  all_goals
    unfold sentJob
    dsimp only
    by_cases hok : delivery.send.ok = true
  · rw [if_pos hok]
    exact (hset _ _ _).id
  · rw [if_neg hok]
    exact (hset _ .cancelled _).id
  · rw [if_pos hok]
    exact (hset _ _ _).principalSnapshot
  · rw [if_neg hok]
    exact (hset _ .cancelled _).principalSnapshot

lemma continues_deliveredJob (job : ConversationJob) (delivery : FinalDelivery) :
    Continues (deliveredJob job delivery) job := by
  have hset := continues_setConversationAckLifecycleState (attemptedEdit job delivery) .replaced
    "ACK_REPLACE_STATE_TRANSITION_BLOCKED"
  unfold deliveredJob
  dsimp only
  split_ifs
  · exact ⟨hset.id, hset.principalSnapshot, hset.status⟩
  · have hsent := continues_sentJob
      { attemptedEdit job delivery with
        ackLastErrorCode := some (delivery.edit.errorCode.getD "ACK_EDIT_FAILED")
        finalDeliveryLastErrorCode := some (delivery.edit.errorCode.getD "ACK_EDIT_FAILED") }
      delivery true
    exact ⟨hsent.id, hsent.principalSnapshot, hsent.status⟩
  · exact continues_sentJob job delivery false

variable {platform caps} {session next : ConversationSession} {update : LedgerUpdate}

/-- The first element that fits stands between others that stay. -/
lemma updateFirst_of_find {α : Type*} {p : α → Bool} {x : α} {xs : List α}
    (h : xs.find? p = some x) (f : α → α) :
    ∃ before after, xs = before ++ x :: after ∧ updateFirst p f xs = before ++ f x :: after := by
  induction xs with
  | nil => cases h
  | cons y ys ih =>
      cases hp : p y with
      | true =>
          rw [List.find?_cons_of_pos hp] at h
          cases h
          exact ⟨[], ys, rfl, by simp [updateFirst, hp]⟩
      | false =>
          rw [List.find?_cons_of_neg (by simp [hp])] at h
          obtain ⟨before, after, hxs, hupdated⟩ := ih h
          exact ⟨y :: before, after, by rw [hxs, List.cons_append],
            by simp [updateFirst, hp, hupdated]⟩

lemma updateFirst_of_find_none {α : Type*} {p : α → Bool} {xs : List α}
    (h : xs.find? p = none) (f : α → α) : updateFirst p f xs = xs := by
  induction xs with
  | nil => rfl
  | cons y ys ih =>
      have hnone := List.find?_eq_none.mp h
      have hys : ys.find? p = none :=
        List.find?_eq_none.mpr fun x hx => hnone x (List.mem_cons_of_mem y hx)
      simp [updateFirst, hnone y List.mem_cons_self, ih hys]

lemma mem_of_findRecentJob {jobId : String} {job : ConversationJob}
    (h : findRecentJob session jobId = some job) : job ∈ session.recentJobs :=
  List.mem_of_find?_eq_some h

lemma continues_ackJob {timerRecord : AckTimerRecord} {nowIso : String}
    {canUseAckTimer : Bool} {delivery : ConversationDeliveryResult} {job : ConversationJob}
    (h : writtenAckJob platform session timerRecord nowIso canUseAckTimer delivery = some job) :
    ∃ held ∈ session.recentJobs, Continues job held := by
  unfold writtenAckJob ackTimerDecision at h
  cases htimer : ackTimerJob session timerRecord with
  | none => simp [htimer] at h
  | some held =>
      have hheld : held ∈ session.recentJobs := by
        unfold ackTimerJob at htimer
        split_ifs at htimer
        exact mem_of_findRecentJob (Option.filter_eq_some_iff.mp htimer).1
      refine ⟨held, hheld, ?_⟩
      simp only [htimer, runningJobDecision] at h
      cases hreason : deriveAckEligibility platform held nowIso canUseAckTimer with
      | none =>
          simp only [hreason, Option.some.injEq] at h
          rw [← h]
          exact continues_acknowledgedJob held delivery nowIso
      | some reason =>
          simp only [hreason] at h
          cases reason <;> simp only [Option.some.injEq, reduceCtorEq] at h
          all_goals
            rw [← h]
            exact ⟨rfl, rfl, fun h => h⟩

/-- The record that an update other than a start writes continues one of the recent jobs. -/
lemma continues_writtenJob {job : ConversationJob}
    (hstart : ∀ readings, update ≠ .jobStarted readings)
    (h : update.writtenJob platform caps session = some job) :
    ∃ held ∈ session.recentJobs, Continues job held := by
  cases update with
  | jobStarted readings => exact absurd rfl (hstart readings)
  | ackTimer timerRecord nowIso canUseAckTimer delivery => exact continues_ackJob h
  | jobSettled taken ending completedAt updatedAt texts =>
      obtain ⟨held, hheld, rfl⟩ := Option.map_eq_some_iff.mp h
      exact ⟨held, mem_of_findRecentJob hheld,
        continues_settledJob held taken ending completedAt texts⟩
  | jobRecovered taken ending completedAt =>
      obtain ⟨held, hheld, rfl⟩ := Option.map_eq_some_iff.mp h
      exact ⟨held, mem_of_findRecentJob hheld, rfl, rfl,
        fun _ => executedJob_status taken ending completedAt⟩
  | deliverySuppressed jobId =>
      obtain ⟨held, hheld, rfl⟩ := Option.map_eq_some_iff.mp h
      exact ⟨held, mem_of_findRecentJob hheld, rfl, rfl, fun h => h⟩
  | finalDelivered jobId delivery =>
      obtain ⟨held, hheld, rfl⟩ := Option.map_eq_some_iff.mp h
      exact ⟨held, mem_of_findRecentJob (Option.filter_eq_some_iff.mp hheld).1,
        continues_deliveredJob held delivery⟩
  | _ => cases h

/-- The ledgers that are not about jobs stay. -/
structure KeepsOtherLedgers (session next : ConversationSession) : Prop where
  recentActions : next.recentActions = session.recentActions
  browserSessions : next.browserSessions = session.browserSessions
  pathDestinations : next.pathDestinations = session.pathDestinations
  conversationTurns : next.conversationTurns = session.conversationTurns

/-- A job record is written, and an update other than a start leaves the queue. -/
lemma apply_of_writtenJob {job : ConversationJob}
    (hjob : update.writtenJob platform caps session = some job)
    (h : update.apply platform caps session = some next) :
    next.recentJobs = (upsertRecentJob session job caps.maxRecentJobs).recentJobs ∧
      KeepsOtherLedgers session next ∧
      ((∀ readings, update ≠ .jobStarted readings) → next.queuedJobs = session.queuedJobs) := by
  cases update with
  | jobStarted readings =>
      obtain ⟨taken, htaken, rfl⟩ := Option.map_eq_some_iff.mp hjob
      simp only [LedgerUpdate.apply, htaken, Option.map_some, Option.some.injEq] at h
      subst h
      unfold takeNextJob at htaken
      split_ifs at htaken
      split at htaken
      · cases htaken
      · cases htaken
        exact ⟨rfl, ⟨rfl, rfl, rfl, rfl⟩, fun hstart => absurd rfl (hstart readings)⟩
  | ackTimer timerRecord nowIso canUseAckTimer delivery =>
      have hwritten : writtenAckJob platform session timerRecord nowIso canUseAckTimer delivery =
          some job := hjob
      simp only [LedgerUpdate.apply, hwritten, Option.map_some, Option.some.injEq] at h
      subst h
      exact ⟨rfl, ⟨rfl, rfl, rfl, rfl⟩, fun _ => rfl⟩
  | jobSettled taken ending completedAt updatedAt texts =>
      obtain ⟨held, hheld, rfl⟩ := Option.map_eq_some_iff.mp hjob
      simp only [LedgerUpdate.apply, hheld, Option.map_some, Option.some.injEq] at h
      subst h
      exact ⟨rfl, ⟨rfl, rfl, rfl, rfl⟩, fun _ => rfl⟩
  | jobRecovered taken ending completedAt =>
      obtain ⟨held, hheld, rfl⟩ := Option.map_eq_some_iff.mp hjob
      have hid : (executedJob taken ending completedAt).id = taken.id := by cases ending <;> rfl
      simp only [LedgerUpdate.apply, hheld, Option.map_some, Option.some.injEq] at h
      subst h
      unfold settleTerminalRecovery
      dsimp only
      rw [hid, hheld]
      exact ⟨rfl, ⟨rfl, rfl, rfl, rfl⟩, fun _ => rfl⟩
  | deliverySuppressed jobId =>
      obtain ⟨held, hheld, rfl⟩ := Option.map_eq_some_iff.mp hjob
      simp only [LedgerUpdate.apply, hheld, Option.map_some, Option.some.injEq] at h
      subst h
      exact ⟨rfl, ⟨rfl, rfl, rfl, rfl⟩, fun _ => rfl⟩
  | finalDelivered jobId delivery =>
      obtain ⟨held, hheld, rfl⟩ := Option.map_eq_some_iff.mp hjob
      simp only [LedgerUpdate.apply, deliverFinalMessage, hheld, Option.map_some,
        Option.some.injEq] at h
      subst h
      exact ⟨rfl, ⟨rfl, rfl, rfl, rfl⟩, fun _ => rfl⟩
  | _ => cases hjob

/-- An update that has room writes its record and drops none. -/
lemma recentJobs_of_step {job : ConversationJob}
    (hjob : update.writtenJob platform caps session = some job)
    (h : ledgerStep platform caps session update = some next) :
    next.recentJobs = replaceById ConversationJob.id job session.recentJobs ∧
      KeepsOtherLedgers session next ∧
      ((∀ readings, update ≠ .jobStarted readings) → next.queuedJobs = session.queuedJobs) := by
  unfold ledgerStep at h
  split_ifs at h with hfits
  obtain ⟨hrecent, hothers, hqueue⟩ := apply_of_writtenJob hjob h
  refine ⟨hrecent.trans ?_, hothers, hqueue⟩
  exact List.take_of_length_le (hfits.1 job hjob)

/-- The update is about a job. -/
def LedgerUpdate.IsJobUpdate : LedgerUpdate → Prop
  | .recentAction _ | .browserSession _ | .pathDestination _ | .assistantTurnText .. => False
  | _ => True

/-- An update about a job happens only where it has a record to write. -/
lemma exists_writtenJob (hkind : update.IsJobUpdate)
    (h : ledgerStep platform caps session update = some next) :
    ∃ job, update.writtenJob platform caps session = some job := by
  unfold ledgerStep at h
  split_ifs at h
  by_contra hwritten
  have hjob : update.writtenJob platform caps session = none :=
    Option.eq_none_iff_forall_ne_some.mpr fun job hjob => hwritten ⟨job, hjob⟩
  cases update with
  | jobStarted readings =>
      rw [LedgerUpdate.apply, Option.map_eq_none_iff.mp hjob] at h
      cases h
  | ackTimer timerRecord nowIso canUseAckTimer delivery =>
      have hnone : writtenAckJob platform session timerRecord nowIso canUseAckTimer delivery =
          none := hjob
      rw [LedgerUpdate.apply, hnone] at h
      cases h
  | jobSettled taken ending completedAt updatedAt texts =>
      rw [LedgerUpdate.apply, Option.map_eq_none_iff.mp hjob] at h
      cases h
  | jobRecovered taken ending completedAt =>
      rw [LedgerUpdate.apply, Option.map_eq_none_iff.mp hjob] at h
      cases h
  | deliverySuppressed jobId =>
      rw [LedgerUpdate.apply, Option.map_eq_none_iff.mp hjob] at h
      cases h
  | finalDelivered jobId delivery =>
      rw [LedgerUpdate.apply, deliverFinalMessage, Option.map_eq_none_iff.mp hjob] at h
      cases h
  | _ => exact hkind

/-- An update that writes no job record leaves the jobs alone. -/
lemma jobs_of_step (hkind : ¬ update.IsJobUpdate)
    (h : ledgerStep platform caps session update = some next) :
    next.queuedJobs = session.queuedJobs ∧ next.recentJobs = session.recentJobs := by
  unfold ledgerStep at h
  split_ifs at h
  cases update with
  | recentAction action | browserSession record | pathDestination destination =>
      cases h
      exact ⟨rfl, rfl⟩
  | assistantTurnText previousText nextText =>
      cases h
      unfold replaceLatestAssistantTurnText
      split <;> exact ⟨rfl, rfl⟩
  | _ => exact absurd trivial hkind

/-- A start moves the head of the queue to the recent jobs. -/
lemma queue_of_start {readings : StartReadings}
    (h : ledgerStep platform caps session (.jobStarted readings) = some next) :
    ∃ queued, session.queuedJobs = queued :: next.queuedJobs ∧
      LedgerUpdate.writtenJob platform caps session (.jobStarted readings) =
        some (startedJob queued readings) := by
  unfold ledgerStep at h
  split_ifs at h
  obtain ⟨taken, htaken, rfl⟩ := Option.map_eq_some_iff.mp h
  unfold takeNextJob at htaken
  split_ifs at htaken with hrunning
  split at htaken
  · cases htaken
  next queued rest hqueue =>
    cases htaken
    refine ⟨queued, hqueue, ?_⟩
    simp [LedgerUpdate.writtenJob, takeNextJob, hrunning, hqueue]

lemma mem_replaceById {α : Type*} {id : α → String} {record other : α} {records : List α} :
    other ∈ replaceById id record records ↔
      other = record ∨ other ∈ records ∧ id other ≠ id record := by
  simp [replaceById]

end AgentBigBrain.Interfaces
