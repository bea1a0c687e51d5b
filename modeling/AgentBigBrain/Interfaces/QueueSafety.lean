import AgentBigBrain.Interfaces.QueueLedgers

/-!
# Jobs run at most once and stay listed

Whatever the parties of a conversation do and in whatever order they save: no job id is handed to
`executeTask` twice, and a job whose enqueue was saved stays in the queue or among the recent jobs
of the stored session. A job is handed over after the save that makes it a recent job, and from
then on it is in no queue that the worker can read.
-/
namespace AgentBigBrain.Interfaces

open AgentBigBrain.Js AgentBigBrain.Core AgentBigBrain.Lib

namespace QueueMachine

variable {platform : Platform} (config : QueueConfig) (machine : QueueMachine platform)

/-- The job is queued or recent in the stored session. -/
def Lists (jobId : String) : Prop :=
  ∃ session ∈ machine.stored config, session.Lists jobId

def ListsRecent (jobId : String) : Prop :=
  ∃ session ∈ machine.stored config, session.ListsRecent jobId

/-- What the store and the copies keep. -/
structure Sound : Prop where
  store : EveryStored platform (fun _ => True) machine.store
  ledgers : ∀ session ∈ machine.stored config,
    SoundLedgers config.sessionKey session ∧ Separate session
  copies : ∀ copy ∈ machine.copies, SoundLedgers config.sessionKey copy
  /-- Before the first save the parties know of no job. -/
  fresh : machine.stored config = none →
    ∀ copy ∈ machine.copies,
      copy.recentJobs = [] ∧ copy.queuedJobs = [] ∧ copy.runningJobId = none
  handedOnce : machine.handed.Nodup
  handed : ∀ jobId ∈ machine.handed, machine.ListsRecent config jobId
  enqueued : ∀ jobId ∈ machine.enqueued, machine.Lists config jobId

/-- A worker past the head of its loop read a stored session. The job it works on has not been
handed over before `executeTask` is called, and cannot be taken again once the mark is saved. -/
def WorkerSound : Prop :=
  match machine.worker with
  | .idle | .turning => True
  | .looking copy =>
      SoundLedgers config.sessionKey copy ∧ (machine.stored config).isSome = true ∧
        ∀ queued ∈ copy.queuedJobs, queued.id ∉ machine.handed
  | .taken job copy =>
      SoundLedgers config.sessionKey copy ∧ (machine.stored config).isSome = true ∧
        copy.ListsRecent job.id ∧ job.id ∉ machine.handed
  | .started job copy =>
      SoundLedgers config.sessionKey copy ∧ machine.ListsRecent config job.id ∧
        job.id ∉ machine.handed
  | .working _ copy =>
      SoundLedgers config.sessionKey copy ∧ (machine.stored config).isSome = true

variable {config machine} {sha : Sha256} {next : QueueMachine platform}

lemma sound_new : (QueueMachine.new : QueueMachine platform).Sound config where
  store := EveryStored.new
  ledgers _ h := by cases h
  copies _ h := by cases h
  fresh _ _ h := by cases h
  handedOnce := List.nodup_nil
  handed _ h := by cases h
  enqueued _ h := by cases h

/-- A read of the stored session. -/
lemma Sound.read (h : machine.Sound config) {copy : ConversationSession}
    (hget : machine.store.getSession sha config.sessionKey = some copy) :
    SoundLedgers config.sessionKey copy ∧ (machine.stored config).isSome = true ∧
      ∀ queued ∈ copy.queuedJobs, queued.id ∉ machine.handed := by
  obtain ⟨stored, hstored, hcopy⟩ := h.store.getSession_cases hget
  obtain ⟨hsound, hseparate⟩ := h.ledgers stored hstored
  have hboth : SoundLedgers config.sessionKey copy ∧ Separate copy ∧
      ∀ jobId, copy.ListsRecent jobId ↔ stored.ListsRecent jobId := by
    rcases hcopy with rfl | rfl
    · exact ⟨hsound, hseparate, fun _ => Iff.rfl⟩
    · exact ⟨hsound.normalized, hseparate.normalized, fun _ => listsRecent_normalizedSession⟩
  refine ⟨hboth.1, Option.isSome_iff_exists.mpr ⟨stored, hstored⟩, fun queued hqueued hhanded => ?_⟩
  obtain ⟨other, hother, hlists⟩ := h.handed queued.id hhanded
  rw [Option.some.inj (hother.symm.trans hstored)] at hlists
  obtain ⟨recent, hrecent, hid⟩ := (hboth.2.2 queued.id).mpr hlists
  exact hboth.2.1 queued hqueued recent hrecent hid

lemma save_fields {written : ConversationSession} {jobId : Option String}
    (hsave : machine.save sha written jobId = some next) :
    next.copies = machine.copies ∧ next.worker = machine.worker ∧ next.handed = machine.handed ∧
      next.enqueued = machine.enqueued ++ jobId.toList := by
  unfold QueueMachine.save at hsave
  split_ifs at hsave
  cases hsave
  exact ⟨rfl, rfl, rfl, rfl⟩

section Saves

variable (h : machine.Sound config) {written : ConversationSession} {jobId : Option String}
  (hwritten : SoundLedgers config.sessionKey written)
  (hfirst : machine.stored config = none → written.recentJobs = [])
  (hsave : machine.save sha written jobId = some next)

include h hwritten hfirst hsave

lemma Sound.storedOver : ∃ stored, next.stored config = some stored ∧
    StoredOver config.sessionKey (machine.stored config) written stored :=
  storedOver_of_save h.store (fun session hsession => (h.ledgers session hsession).1) hwritten hfirst
    hsave

lemma Sound.listsRecent_saved {id : String}
    (hlists : written.ListsRecent id ∨ machine.ListsRecent config id) :
    next.ListsRecent config id := by
  obtain ⟨stored, hstored, hover⟩ := h.storedOver hwritten hfirst hsave
  exact ⟨stored, hstored, hover.listsRecent id hlists⟩

/-- A save by any of the parties. -/
lemma Sound.saved (hlists : ∀ id ∈ jobId, written.Lists id) : next.Sound config := by
  obtain ⟨stored, hstored, hover⟩ := h.storedOver hwritten hfirst hsave
  obtain ⟨hcopies, -, hhanded, henqueued⟩ := save_fields hsave
  refine ⟨h.store.save hsave, fun session hsession => ?_, fun copy hcopy => ?_, fun hnone => ?_, ?_,
    fun id hid => ?_, fun id hid => ?_⟩
  · rw [Option.some.inj (hsession.symm.trans hstored)]
    exact ⟨hover.sound, hover.separate⟩
  · exact h.copies copy (hcopies ▸ hcopy)
  · rw [hstored] at hnone
    cases hnone
  · rw [hhanded]
    exact h.handedOnce
  · rw [hhanded] at hid
    exact h.listsRecent_saved hwritten hfirst hsave (Or.inr (h.handed id hid))
  · rw [henqueued, List.mem_append] at hid
    refine ⟨stored, hstored, hover.lists id ?_⟩
    rcases hid with hold | hnew
    · exact Or.inr (h.enqueued id hold)
    · exact Or.inl (hlists id (Option.mem_toList.mp hnew))

/-- A save beside the worker leaves its phase sound. -/
lemma WorkerSound.saved (hworker : machine.WorkerSound config) : next.WorkerSound config := by
  obtain ⟨stored, hstored, -⟩ := h.storedOver hwritten hfirst hsave
  obtain ⟨-, hphase, hhanded, -⟩ := save_fields hsave
  have hsome : (next.stored config).isSome = true := by rw [hstored]; rfl
  unfold WorkerSound at hworker ⊢
  rw [hphase, hhanded]
  cases hcase : machine.worker with
  | idle => trivial
  | turning => trivial
  | looking copy =>
      rw [hcase] at hworker
      exact ⟨hworker.1, hsome, hworker.2.2⟩
  | taken job copy =>
      rw [hcase] at hworker
      exact ⟨hworker.1, hsome, hworker.2.2⟩
  | started job copy =>
      rw [hcase] at hworker
      exact ⟨hworker.1, h.listsRecent_saved hwritten hfirst hsave (Or.inr hworker.2.1), hworker.2.2⟩
  | working job copy =>
      rw [hcase] at hworker
      exact ⟨hworker.1, hsome⟩

end Saves

lemma Sound.of_fields (h : machine.Sound config) {other : QueueMachine platform}
    (hstore : other.store = machine.store) (hcopies : other.copies ⊆ machine.copies)
    (hhanded : other.handed = machine.handed) (henqueued : other.enqueued = machine.enqueued) :
    other.Sound config where
  store := hstore ▸ h.store
  ledgers := by
    unfold stored
    rw [hstore]
    exact h.ledgers
  copies copy hcopy := h.copies copy (hcopies hcopy)
  fresh := by
    unfold stored
    rw [hstore]
    exact fun hnone copy hcopy => h.fresh hnone copy (hcopies hcopy)
  handedOnce := hhanded ▸ h.handedOnce
  handed := by
    unfold ListsRecent stored
    rw [hstore, hhanded]
    exact h.handed
  enqueued := by
    unfold Lists stored
    rw [hstore, henqueued]
    exact h.enqueued

lemma sound_seed (receivedAt : String) :
    SoundLedgers config.sessionKey
      (buildSessionSeed { config.seed with receivedAt := receivedAt }) where
  keyed := rfl
  recent _ hjob := by cases hjob
  queued _ hjob := by cases hjob

variable {principalSnapshotOf : Option Json → ConversationJobPrincipalSnapshot}

lemma sound_read (h : machine.Sound config) (receivedAt : String)
    (hstep : machine.step sha principalSnapshotOf config (.read receivedAt) = some next) :
    next.Sound config := by
  cases hstep
  have hcopy : ∀ copy ∈ machine.copies ++ [(machine.store.getSession sha config.sessionKey).getD
      (buildSessionSeed { config.seed with receivedAt := receivedAt })],
      SoundLedgers config.sessionKey copy ∧ (machine.stored config = none →
        copy.recentJobs = [] ∧ copy.queuedJobs = [] ∧ copy.runningJobId = none) := by
    intro copy hcopy
    rcases List.mem_append.mp hcopy with hold | hnew
    · exact ⟨h.copies copy hold, fun hnone => h.fresh hnone copy hold⟩
    · rw [List.mem_singleton.mp hnew]
      cases hget : machine.store.getSession sha config.sessionKey with
      | none => exact ⟨sound_seed receivedAt, fun _ => ⟨rfl, rfl, rfl⟩⟩
      | some session =>
          obtain ⟨hsound, hsome, -⟩ := h.read hget
          refine ⟨hsound, fun hnone => ?_⟩
          rw [hnone] at hsome
          cases hsome
  exact ⟨h.store, h.ledgers, fun copy hmem => (hcopy copy hmem).1,
    fun hnone copy hmem => (hcopy copy hmem).2 hnone, h.handedOnce, h.handed, h.enqueued⟩

/-- What every event keeps. -/
lemma sound_step (h : machine.Sound config) (hworker : machine.WorkerSound config)
    {event : MachineEvent}
    (hstep : machine.step sha principalSnapshotOf config event = some next) :
    next.Sound config ∧ next.WorkerSound config := by
  cases event with
  | read receivedAt =>
      refine ⟨sound_read h receivedAt hstep, ?_⟩
      cases hstep
      exact hworker
  | write index write =>
      obtain ⟨copy, hcopy, hrest⟩ := Option.bind_eq_some_iff.mp hstep
      obtain ⟨written, hwrite, hsave⟩ := Option.bind_eq_some_iff.mp hrest
      have hmem : copy ∈ machine.copies := List.mem_of_getElem? hcopy
      have hwritten := partyWrite_sound (h.copies copy hmem) hwrite
      have hother : ({ machine with copies := machine.copies.eraseIdx index } :
          QueueMachine platform).Sound config :=
        h.of_fields rfl (List.eraseIdx_subset) rfl rfl
      have hfirst : machine.stored config = none → written.recentJobs = [] := fun hnone => by
        obtain ⟨hrecent, hqueued, hrunning⟩ := h.fresh hnone copy hmem
        exact partyWrite_of_empty hrecent hqueued hrunning hwrite
      exact ⟨hother.saved hwritten hfirst hsave (partyWrite_lists hwrite),
        WorkerSound.saved hother hwritten hfirst hsave hworker⟩
  | startWorker =>
      simp only [step] at hstep
      split at hstep
      · cases hstep
        exact ⟨h.of_fields rfl (List.Subset.refl _) rfl rfl, trivial⟩
      · cases hstep
  | look =>
      simp only [step] at hstep
      split at hstep
      · obtain ⟨copy, hget, rfl⟩ := Option.map_eq_some_iff.mp hstep
        exact ⟨h.of_fields rfl (List.Subset.refl _) rfl rfl, h.read hget⟩
      · cases hstep
  | take readings =>
      simp only [step] at hstep
      split at hstep
      · rename_i copy hphase
        obtain ⟨taken, htake, rfl⟩ := Option.map_eq_some_iff.mp hstep
        simp only [WorkerSound, hphase] at hworker
        obtain ⟨hsound, hlists, queued, hqueued, hid⟩ :=
          takeNextJob_sound hworker.1 config.positive htake
        exact ⟨h.of_fields rfl (List.Subset.refl _) rfl rfl, hsound, hworker.2.1, hlists,
          hid ▸ hworker.2.2 queued hqueued⟩
      · cases hstep
  | saveTaken =>
      simp only [step] at hstep
      split at hstep
      · rename_i job copy hphase
        simp only [WorkerSound, hphase] at hworker
        obtain ⟨hsound, hsome, hlists, hnot⟩ := hworker
        have hother : ({ machine with worker := .started job copy } :
            QueueMachine platform).Sound config :=
          h.of_fields rfl (List.Subset.refl _) rfl rfl
        have hfirst : machine.stored config = none → copy.recentJobs = [] := fun hnone => by
          rw [hnone] at hsome
          cases hsome
        obtain ⟨-, hnextPhase, hhanded, -⟩ := save_fields hstep
        refine ⟨hother.saved hsound hfirst hstep (fun _ hid => by cases hid), ?_⟩
        simp only [WorkerSound, hnextPhase, hhanded]
        exact ⟨hsound, hother.listsRecent_saved hsound hfirst hstep (Or.inl hlists), hnot⟩
      · cases hstep
  | execute =>
      simp only [step] at hstep
      split at hstep
      · rename_i job copy hphase
        cases hstep
        simp only [WorkerSound, hphase] at hworker
        obtain ⟨hsound, hlists, hnot⟩ := hworker
        refine ⟨⟨h.store, h.ledgers, h.copies, h.fresh, ?_, fun id hid => ?_, h.enqueued⟩, hsound, ?_⟩
        · exact h.handedOnce.append (List.nodup_singleton _) (List.disjoint_singleton.mpr hnot)
        · rcases List.mem_append.mp hid with hold | hnew
          · exact h.handed id hold
          · rw [List.mem_singleton.mp hnew]
            exact hlists
        · obtain ⟨session, hsession, -⟩ := hlists
          exact Option.isSome_iff_exists.mpr ⟨session, hsession⟩
      · cases hstep
  | workerRead =>
      simp only [step] at hstep
      split at hstep
      · rename_i job copy hphase
        cases hstep
        simp only [WorkerSound, hphase] at hworker
        refine ⟨h.of_fields rfl (List.Subset.refl _) rfl rfl, ?_, hworker.2⟩
        cases hget : machine.store.getSession sha config.sessionKey with
        | none => exact hworker.1
        | some session => exact (h.read hget).1
      · cases hstep
  | workerWrite write =>
      simp only [step] at hstep
      split at hstep
      · rename_i job copy hphase
        obtain ⟨written, hwrite, hsave⟩ := Option.bind_eq_some_iff.mp hstep
        simp only [WorkerSound, hphase] at hworker
        have hwritten := workerWrite_sound hworker.1 hwrite
        have hother : ({ machine with worker := .working job written } :
            QueueMachine platform).Sound config :=
          h.of_fields rfl (List.Subset.refl _) rfl rfl
        have hfirst : machine.stored config = none → written.recentJobs = [] := fun hnone => by
          rw [hnone] at hworker
          cases hworker.2
        exact ⟨hother.saved hwritten hfirst hsave (workerWrite_lists hwrite),
          WorkerSound.saved hother hwritten hfirst hsave ⟨hwritten, hworker.2⟩⟩
      · cases hstep
  | nextTurn =>
      simp only [step] at hstep
      split at hstep
      · cases hstep
        exact ⟨h.of_fields rfl (List.Subset.refl _) rfl rfl, trivial⟩
      · cases hstep
  | stopWorker =>
      cases hstep
      exact ⟨h.of_fields rfl (List.Subset.refl _) rfl rfl, trivial⟩
  | restart =>
      cases hstep
      refine ⟨⟨⟨Or.inl rfl, h.store.keyed, h.store.holds⟩, h.ledgers, ?_, ?_, h.handedOnce,
        h.handed, h.enqueued⟩, trivial⟩
      · exact fun _ hcopy => by cases hcopy
      · exact fun _ _ hcopy => by cases hcopy

/-! ## Runs -/

section Runs

variable {before after : List MachineEvent}

lemma sound_run (hrun : run (step sha principalSnapshotOf config) QueueMachine.new before =
    some machine) : machine.Sound config ∧ machine.WorkerSound config :=
  invariant_of_run (fun _ _ _ hmachine hstep => sound_step hmachine.1 hmachine.2 hstep)
    (⟨sound_new, trivial⟩ : QueueMachine.new.Sound config ∧ QueueMachine.new.WorkerSound config)
    hrun

lemma enqueued_save {written : ConversationSession} {jobId : Option String}
    (hsave : machine.save sha written jobId = some next) : machine.enqueued ⊆ next.enqueued := by
  rw [(save_fields hsave).2.2.2]
  exact List.subset_append_left _ _

lemma enqueued_step {event : MachineEvent}
    (hstep : machine.step sha principalSnapshotOf config event = some next) :
    machine.enqueued ⊆ next.enqueued := by
  cases event with
  | write index write =>
      obtain ⟨copy, -, hrest⟩ := Option.bind_eq_some_iff.mp hstep
      obtain ⟨written, -, hsave⟩ := Option.bind_eq_some_iff.mp hrest
      have hgrows := enqueued_save hsave
      exact hgrows
  | saveTaken =>
      simp only [step] at hstep
      split at hstep
      · have hgrows := enqueued_save hstep
        exact hgrows
      · cases hstep
  | workerWrite write =>
      simp only [step] at hstep
      split at hstep
      · obtain ⟨written, -, hsave⟩ := Option.bind_eq_some_iff.mp hstep
        have hgrows := enqueued_save hsave
        exact hgrows
      · cases hstep
  | look =>
      simp only [step] at hstep
      split at hstep
      · obtain ⟨copy, -, rfl⟩ := Option.map_eq_some_iff.mp hstep
        exact List.Subset.refl _
      · cases hstep
  | take readings =>
      simp only [step] at hstep
      split at hstep
      · obtain ⟨taken, -, rfl⟩ := Option.map_eq_some_iff.mp hstep
        exact List.Subset.refl _
      · cases hstep
  | startWorker | execute | workerRead | nextTurn =>
      simp only [step] at hstep
      split at hstep
      · cases hstep
        exact List.Subset.refl _
      · cases hstep
  | read receivedAt | stopWorker | restart =>
      cases hstep
      exact List.Subset.refl _

/-- In every run no job is handed to `executeTask` twice, and at every later moment the stored
session lists each job whose enqueue was saved. -/
theorem jobs_run_once_and_stay_listed
    (hbefore : run (step sha principalSnapshotOf config) QueueMachine.new before = some machine)
    (hafter : run (step sha principalSnapshotOf config) machine after = some next) :
    next.handed.Nodup ∧ ∀ jobId ∈ machine.enqueued, next.Lists config jobId := by
  have hsound : next.Sound config := by
    have hrun : run (step sha principalSnapshotOf config) QueueMachine.new (before ++ after) =
        some next := by
      rw [run_append, hbefore]
      exact hafter
    exact (sound_run hrun).1
  have hgrows : machine.enqueued ⊆ next.enqueued :=
    invariant_of_run (fun _ _ _ hsub hstep => List.Subset.trans hsub (enqueued_step hstep))
      (List.Subset.refl machine.enqueued) hafter
  exact ⟨hsound.handedOnce, fun jobId hid => hsound.enqueued jobId (hgrows hid)⟩

def sampleQueue : QueueConfig where
  seed := sampleMessage
  maxRecentJobs := 10
  positive := by decide

def sampleQueueStep : QueueMachine samplePlatform → MachineEvent →
    Option (QueueMachine samplePlatform) :=
  step sampleSha (fun _ => sampleVerifiedSnapshot) sampleQueue

/-- Two messages are read before either is saved. -/
def crossingMessages : List MachineEvent :=
  [.read "2026-01-01T00:00:00.000Z", .read "2026-01-01T00:00:00.000Z",
    .write 1 (.message sampleRecoveryDeps (sampleInboundMessage "job-1" "2026-01-01T00:00:00.000Z")),
    .write 0 (.message sampleRecoveryDeps (sampleInboundMessage "job-2" "2026-01-01T00:01:00.000Z"))]

/-- Another message reads while the worker takes a job, and saves its copy after the job
was handed over. -/
def workerTurnUnderMessage : List MachineEvent :=
  [.startWorker, .look, .read "2026-01-01T00:02:00.000Z", .take sampleStart, .saveTaken, .execute,
    .write 0 (.message sampleRecoveryDeps (sampleInboundMessage "job-3" "2026-01-01T00:02:00.000Z"))]

/-- Both enqueued jobs are still listed, and the one handed over was handed over once. -/
theorem crossing_messages_stay_listed :
    ∃ machine next, run sampleQueueStep QueueMachine.new crossingMessages = some machine ∧
      run sampleQueueStep machine workerTurnUnderMessage = some next ∧
      machine.enqueued = ["job-1", "job-2"] ∧ next.handed = ["job-2"] ∧
      next.handed.Nodup ∧ ∀ jobId ∈ machine.enqueued, next.Lists sampleQueue jobId := by
  have henqueued : (run sampleQueueStep QueueMachine.new crossingMessages).map enqueued =
      some ["job-1", "job-2"] := by decide
  have hhanded : ((run sampleQueueStep QueueMachine.new crossingMessages).bind fun machine =>
      run sampleQueueStep machine workerTurnUnderMessage).map QueueMachine.handed =
        some ["job-2"] := by decide
  obtain ⟨machine, hbefore, hmachine⟩ := Option.map_eq_some_iff.mp henqueued
  obtain ⟨next, hnext, hjobs⟩ := Option.map_eq_some_iff.mp hhanded
  have hafter : run sampleQueueStep machine workerTurnUnderMessage = some next := by
    rw [hbefore] at hnext
    exact hnext
  exact ⟨machine, next, hbefore, hafter, hmachine, hjobs,
    jobs_run_once_and_stay_listed hbefore hafter⟩

end Runs

end QueueMachine

end AgentBigBrain.Interfaces
