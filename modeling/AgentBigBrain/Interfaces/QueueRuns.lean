import AgentBigBrain.Interfaces.JobQueue
import AgentBigBrain.Lib.Runs

/-!
# Runs of the JSON store

Messages that enqueue jobs, saves of any snapshot, worker turns and restarts, one after another,
and what holds of every session stored on the way.
-/
namespace AgentBigBrain.Interfaces

open AgentBigBrain.Js AgentBigBrain.Core AgentBigBrain.Lib

variable (platform : Platform) (sha : Sha256)
  (principalSnapshotOf : Option Json → ConversationJobPrincipalSnapshot)

/-! ## Events -/

/-- The first session of a conversation: nothing has run yet, and at most one job waits. -/
structure OpensConversation (session : ConversationSession) : Prop where
  recentJobs : session.recentJobs = []
  runningJobId : session.runningJobId = none
  queuedJobs : session.queuedJobs.length ≤ 1

instance (session : ConversationSession) : Decidable (OpensConversation session) :=
  decidable_of_iff
    (session.recentJobs = [] ∧ session.runningJobId = none ∧ session.queuedJobs.length ≤ 1)
    ⟨fun h => ⟨h.1, h.2.1, h.2.2⟩, fun h => ⟨h.recentJobs, h.runningJobId, h.queuedJobs⟩⟩

inductive QueueEvent where
  /-- A message that enqueues a job; the first one opens the conversation. -/
  | enqueue (message : ConversationKeySeedInput) (input : EnqueueInput)
  /-- A save of any snapshot of a stored conversation, or of the first session of a new one. -/
  | save (session : ConversationSession)
  /-- One turn of the worker loop. -/
  | dequeue (sessionKey : String) (readings : StartReadings) (maxRecentJobs : ℕ)
  /-- A new process, which has not read the file. -/
  | restart

def enqueueAndSave (store : JsonStore platform) (message : ConversationKeySeedInput)
    (input : EnqueueInput) : JsonStore platform :=
  let session := (store.getSession sha (buildConversationKey message)).getD (buildSessionSeed message)
  store.setSession sha (enqueueConversationJob principalSnapshotOf session input).1

def dequeueAndSave (store : JsonStore platform) (sessionKey : String) (readings : StartReadings)
    (maxRecentJobs : ℕ) : JsonStore platform :=
  match (store.getSession sha sessionKey).bind (takeNextJob · readings maxRecentJobs) with
  | none => store
  | some (_, session) => store.setSession sha session

def queueStep (store : JsonStore platform) : QueueEvent → Option (JsonStore platform)
  | .enqueue message input =>
      some (enqueueAndSave platform sha principalSnapshotOf store message input)
  | .save session =>
      if (store.getSession sha session.conversationId).isSome ∨ OpensConversation session then
        some (store.setSession sha session)
      else
        none
  | .dequeue sessionKey readings maxRecentJobs =>
      some (dequeueAndSave platform sha store sessionKey readings maxRecentJobs)
  | .restart => some { store with loaded := none }

/-! ## What holds of every stored session -/

/-- A property of the first sessions that reading and merging keep. -/
structure KeptByStore (P : ConversationSession → Prop) : Prop where
  opening : ∀ session, OpensConversation session → P session
  normalized : ∀ session, P session → P (normalizedSession platform sha session)
  merged : ∀ existing incoming, P (mergedSession platform sha existing incoming)

/-- Every stored session is under its own id and has the property, and what is loaded is what is
stored. -/
structure EveryStored (P : ConversationSession → Prop) (store : JsonStore platform) : Prop where
  synced : store.loaded = none ∨ store.loaded = some store.file
  keyed : ∀ sessionKey session, store.file.find sessionKey = some session →
    session.conversationId = sessionKey
  holds : ∀ sessionKey session, store.file.find sessionKey = some session → P session

namespace EveryStored

variable {platform} {P : ConversationSession → Prop} {store : JsonStore platform}

lemma new : EveryStored platform P JsonStore.new where
  synced := Or.inl rfl
  keyed _ _ h := by cases h
  holds _ _ h := by cases h

variable {sha}

/-- What is read is what is stored, normalized once more where the file is read. -/
lemma getSession_cases (h : EveryStored platform P store) {sessionKey : String}
    {session : ConversationSession} (hget : store.getSession sha sessionKey = some session) :
    ∃ stored, store.file.find sessionKey = some stored ∧
      (session = stored ∨ session = normalizedSession platform sha stored) := by
  rcases h.synced with hloaded | hloaded
  · rw [JsonStore.getSession, JsonStore.state, hloaded, Option.getD_none,
      Conversations.find_reload] at hget
    obtain ⟨stored, hstored, rfl⟩ := Option.map_eq_some_iff.mp hget
    exact ⟨stored, hstored, Or.inr rfl⟩
  · rw [JsonStore.getSession, JsonStore.state, hloaded, Option.getD_some] at hget
    exact ⟨session, hget, Or.inl rfl⟩

lemma getSession_eq_none_iff (h : EveryStored platform P store) {sessionKey : String} :
    store.getSession sha sessionKey = none ↔ store.file.find sessionKey = none := by
  rcases h.synced with hloaded | hloaded
  · rw [JsonStore.getSession, JsonStore.state, hloaded, Option.getD_none,
      Conversations.find_reload, Option.map_eq_none_iff]
  · rw [JsonStore.getSession, JsonStore.state, hloaded, Option.getD_some]

lemma conversationId_eq (h : EveryStored platform P store) {sessionKey : String}
    {session : ConversationSession} (hget : store.getSession sha sessionKey = some session) :
    session.conversationId = sessionKey := by
  obtain ⟨stored, hstored, rfl | rfl⟩ := h.getSession_cases hget
  · exact h.keyed sessionKey session hstored
  · exact h.keyed sessionKey stored hstored

lemma of_getSession (h : EveryStored platform P store) (hkept : KeptByStore platform sha P)
    {sessionKey : String} {session : ConversationSession}
    (hget : store.getSession sha sessionKey = some session) : P session := by
  obtain ⟨stored, hstored, rfl | rfl⟩ := h.getSession_cases hget
  · exact h.holds sessionKey session hstored
  · exact hkept.normalized _ (h.holds sessionKey stored hstored)

/-- A save into a stored conversation, or of a first session that has the property. -/
lemma setSession (h : EveryStored platform P store) (hkept : KeptByStore platform sha P)
    {session : ConversationSession}
    (hsession : (store.getSession sha session.conversationId).isSome = true ∨ P session) :
    EveryStored platform P (store.setSession sha session) := by
  unfold JsonStore.setSession
  split_ifs with hdate
  · dsimp only
    have hput : ∀ (written : ConversationSession) (hwritten : isDate platform written.updatedAt = true),
        P written →
          EveryStored platform P (JsonStore.persist ((store.file.reload sha).put written hwritten)) := by
      intro written hwritten hP
      have hcases : ∀ sessionKey found,
          ((store.file.reload sha).put written hwritten).find sessionKey = some found →
            (found = written ∧ sessionKey = written.conversationId) ∨
              ∃ stored, store.file.find sessionKey = some stored ∧
                found = normalizedSession platform sha stored := by
        intro sessionKey found hfound
        rw [Conversations.find_put] at hfound
        split_ifs at hfound with hkey
        · cases hfound
          exact Or.inl ⟨rfl, hkey⟩
        · rw [Conversations.find_reload] at hfound
          obtain ⟨stored, hstored, rfl⟩ := Option.map_eq_some_iff.mp hfound
          exact Or.inr ⟨stored, hstored, rfl⟩
      refine ⟨Or.inr rfl, fun sessionKey found hfound => ?_, fun sessionKey found hfound => ?_⟩
      · rcases hcases sessionKey found hfound with ⟨rfl, hkey⟩ | ⟨stored, hstored, rfl⟩
        · exact hkey.symm
        · exact h.keyed sessionKey stored hstored
      · rcases hcases sessionKey found hfound with ⟨rfl, -⟩ | ⟨stored, hstored, rfl⟩
        · exact hP
        · exact hkept.normalized stored (h.holds sessionKey stored hstored)
    split
    · rename_i hnone
      refine hput _ _ (hkept.normalized session ?_)
      rcases hsession with hstored | hsession
      · rw [Conversations.find_reload, Option.map_eq_none_iff] at hnone
        have hget : store.getSession sha (normalizedSession platform sha session).conversationId =
          none := h.getSession_eq_none_iff.mpr hnone
        have hid : (normalizedSession platform sha session).conversationId =
          session.conversationId := rfl
        rw [hid] at hget
        rw [hget] at hstored
        cases hstored
      · exact hsession
    · exact hput _ _ (hkept.merged _ _)
  · exact h

lemma queueStep (h : EveryStored platform P store) (hkept : KeptByStore platform sha P)
    {event : QueueEvent} {next : JsonStore platform}
    (hstep : queueStep platform sha principalSnapshotOf store event = some next) :
    EveryStored platform P next := by
  cases event with
  | enqueue message input =>
      cases hstep
      unfold enqueueAndSave
      dsimp only
      cases hget : store.getSession sha (buildConversationKey message) with
      | none =>
          refine h.setSession hkept (Or.inr (hkept.opening _ ?_))
          rw [Option.getD_none]
          unfold enqueueConversationJob
          dsimp only
          split_ifs
          · exact ⟨rfl, rfl, le_rfl⟩
          · exact ⟨rfl, rfl, le_rfl⟩
      | some session =>
          refine h.setSession hkept (Or.inl ?_)
          have hid : (enqueueConversationJob principalSnapshotOf session input).1.conversationId =
              buildConversationKey message := by
            rw [← h.conversationId_eq hget]
            unfold enqueueConversationJob
            dsimp only
            split_ifs <;> rfl
          rw [Option.getD_some, hid, hget]
          rfl
  | save session =>
      unfold AgentBigBrain.Interfaces.queueStep at hstep
      dsimp only at hstep
      split_ifs at hstep with hstored
      cases hstep
      exact h.setSession hkept (hstored.imp_right (hkept.opening session))
  | dequeue sessionKey readings maxRecentJobs =>
      cases hstep
      unfold dequeueAndSave
      cases hget : store.getSession sha sessionKey with
      | none => exact h
      | some session =>
          rw [Option.bind_some]
          cases htake : takeNextJob session readings maxRecentJobs with
          | none => exact h
          | some taken =>
              refine h.setSession hkept (Or.inl ?_)
              have hid : taken.2.conversationId = sessionKey := by
                rw [← h.conversationId_eq hget]
                unfold takeNextJob at htake
                split_ifs at htake
                split at htake
                · cases htake
                · cases htake
                  rfl
              rw [hid, hget]
              rfl
  | restart =>
      cases hstep
      exact ⟨Or.inl rfl, h.keyed, h.holds⟩

end EveryStored

/-! ## Sample events -/

def sampleMessage : ConversationKeySeedInput where
  provider := .telegram
  conversationId := "chat-1"
  userId := "user-1"
  username := "user"
  transportIdentity := none
  conversationVisibility := .isPrivate
  receivedAt := "2026-01-01T00:00:00.000Z"

def sampleRequest (jobId receivedAt : String) : EnqueueInput where
  jobId := jobId
  input := "build it"
  receivedAt := receivedAt
  executionInput := none
  isSystemJob := false
  pulseMetadata := none

def sampleStart : StartReadings where
  startedAt := "2026-01-01T00:02:00.000Z"
  ackEligibleAt := "2026-01-01T00:02:00.000Z"
  progressMessage := "working"

def sampleStep : JsonStore samplePlatform → QueueEvent → Option (JsonStore samplePlatform) :=
  queueStep samplePlatform sampleSha fun _ => sampleVerifiedSnapshot

def firstRequest : QueueEvent :=
  .enqueue sampleMessage (sampleRequest "job-1" "2026-01-01T00:00:00.000Z")

def secondRequest : QueueEvent :=
  .enqueue sampleMessage (sampleRequest "job-2" "2026-01-01T00:01:00.000Z")

def workerTurn : QueueEvent :=
  .dequeue "telegram:chat-1:user-1" sampleStart 10

end AgentBigBrain.Interfaces
