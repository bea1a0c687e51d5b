import AgentBigBrain.Interfaces.FederatedPersistence

/-!
# One outcome for a task

In a run in which a finished task gets no further outcome, a server starts on a file that holds all
results with none of them pending, and `stop` does not come to flush after a failed persist, a task
keeps its first outcome until it is evicted, and `stop` leaves every result in the file.
-/
namespace AgentBigBrain.Interfaces

open AgentBigBrain.Js AgentBigBrain.Core AgentBigBrain.Lib

variable (sha : Sha256) (contracts : List FederatedAgentContract)
  (parse : String → Option ℤ) (resultTtlMs : ℤ) (locale : Core.Locale)

/-! ## What a step keeps -/

/-- The result of a pending task after the outcome. -/
def SubmittedOutcome.settled (outcome : SubmittedOutcome) (result : FederatedTaskResult) :
    FederatedTaskResult :=
  { result with
    status := outcomeStatus outcome.error
    output := outcome.output
    error := outcome.error
    completedAt := some outcome.nowIso }

def ServerEvent.accepted : ServerEvent → Option (FederatedTaskRequest × String)
  | .results event => event.accepted sha contracts
  | _ => none

def ServerEvent.outcome (results : List FederatedTaskResult) :
    ServerEvent → Option SubmittedOutcome
  | .results event => event.outcome results
  | _ => none

/-- The time of the sweep that the event makes. -/
def ServerEvent.sweep : ServerEvent → Option ℤ
  | .results (.evict now) => some now
  | .restarted now => some now
  | _ => none

/-- What a step does to the results: an accepted task is pending until its first outcome, which it
keeps until a sweep finds it older than its time to live. -/
structure OutcomesKept (state : FederatedServerState) (event : ServerEvent)
    (next : FederatedServerState) : Prop where
  accepted : ∀ task nowIso, event.accepted sha contracts = some (task, nowIso) →
    getResult next.results task.id = some (acceptedResult task.id nowIso)
  submitted : ∀ outcome, event.outcome state.results = some outcome →
    ∀ result, getResult state.results outcome.taskId = some result → result.status = .pending →
      getResult next.results outcome.taskId = some (outcome.settled result)
  kept : ∀ taskId result, getResult state.results taskId = some result →
    getResult next.results taskId = some result ∨
      (result.status = .pending ∧ ∃ outcome, event.outcome state.results = some outcome ∧
        outcome.taskId = taskId) ∨
      ∃ now, event.sweep = some now ∧ isExpired parse resultTtlMs now result = true ∧
        getResult next.results taskId = none

/-- A pending task is being worked on. -/
def FederatedServerState.NoOrphans (state : FederatedServerState) : Prop :=
  ∀ result ∈ state.results, result.status = .pending →
    result.taskId ∈ state.pendingAcceptedTasks

/-- A start would read from the file what the server holds. -/
def FederatedServerState.Saved (state : FederatedServerState) : Prop :=
  ∀ taskId, getResult (loadedResults state.resultStore) taskId = getResult state.results taskId

/-- All that is asked of a step. -/
def Lawful (state : FederatedServerState) (event : ServerEvent) : Prop :=
  ∀ next, serverStep sha contracts parse resultTtlMs locale state event = some next →
    OutcomesKept sha contracts parse resultTtlMs state event next ∧ next.NoOrphans ∧
      (event = .stopReturned → next.latePersistFailed = false → next.Saved)

/-- The steps that do not meet a defect. -/
def Orderly (state : FederatedServerState) : ServerEvent → Prop
  | .results event =>
      (∀ accepted ∈ event.accepted sha contracts, getResult state.results accepted.1.id = none) ∧
        ∀ outcome ∈ event.outcome state.results,
          ∀ result ∈ getResult state.results outcome.taskId,
            result.status = .pending ∨ outcome.settled result = result
  | .persistSettled false =>
      state.phase = .flushing → state.persistRequested = true ∨
        ∀ write ∈ state.persistInFlight, write.issuedAfterStop = true
  | .tasksSettled =>
      state.persistInFlight = none → state.latePersistFailed = false →
        state.lastPersistFailed = false
  | .restarted _ =>
      (∀ result ∈ state.results,
        getResult (loadedResults state.resultStore) result.taskId = some result) ∧
      ∀ result ∈ loadedResults state.resultStore, result.status ≠ .pending
  | _ => True

/-! ## Lookups -/

variable {sha contracts parse resultTtlMs locale}

lemma getResult_setResult (results : List FederatedTaskResult) (result : FederatedTaskResult)
    (taskId : String) :
    getResult (setResult results result) taskId =
      if result.taskId = taskId then some result else getResult results taskId := by
  have hlast : resultMap.combine (resultMap.find taskId results) result = some result := by
    cases resultMap.find taskId results <;> rfl
  unfold getResult setResult
  rw [resultMap.find_upsert, hlast]
  rfl

lemma distinct_setResult {results : List FederatedTaskResult} (result : FederatedTaskResult)
    (h : resultMap.Distinct results) : resultMap.Distinct (setResult results result) :=
  resultMap.distinct_upsert h

lemma distinct_evictExpiredResults {results : List FederatedTaskResult} (now : ℤ)
    (h : resultMap.Distinct results) :
    resultMap.Distinct (evictExpiredResults parse resultTtlMs now results) :=
  List.Nodup.sublist (List.Sublist.map _ List.filter_sublist) h

lemma getResult_evictExpiredResults {results : List FederatedTaskResult} (now : ℤ)
    (h : resultMap.Distinct results) {taskId : String} {result : FederatedTaskResult}
    (hfound : getResult results taskId = some result) :
    getResult (evictExpiredResults parse resultTtlMs now results) taskId =
      if isExpired parse resultTtlMs now result then none else some result := by
  obtain ⟨hmem, hkey⟩ := resultMap.mem_of_find hfound
  by_cases hexpired : isExpired parse resultTtlMs now result = true
  · rw [if_pos hexpired]
    refine resultMap.find_eq_none_iff.mpr fun hin => ?_
    obtain ⟨other, hother, hotherKey⟩ := List.mem_map.mp hin
    obtain ⟨hotherMem, hkept⟩ := List.mem_filter.mp hother
    have hsame : other = result :=
      resultMap.eq_of_distinct h hotherMem hmem (hotherKey.trans hkey.symm)
    rw [hsame, hexpired] at hkept
    exact Bool.noConfusion hkept
  · rw [if_neg hexpired]
    refine (resultMap.find_eq_some_iff (distinct_evictExpiredResults now h)).mpr ⟨?_, hkey⟩
    exact List.mem_filter.mpr ⟨hmem, by simpa using hexpired⟩

lemma evictExpiredResults_of_none {results : List FederatedTaskResult} {now : ℤ}
    (h : results.any (isExpired parse resultTtlMs now) = false) :
    evictExpiredResults parse resultTtlMs now results = results := by
  refine List.filter_eq_self.mpr fun result hresult => ?_
  have hnot := List.any_eq_false.mp h result hresult
  simpa using hnot

lemma getResult_submitResult {results : List FederatedTaskResult} {outcome : SubmittedOutcome}
    {result : FederatedTaskResult} (h : getResult results outcome.taskId = some result)
    (taskId : String) :
    getResult (submitResult results outcome.taskId outcome.output outcome.error outcome.nowIso)
        taskId =
      if outcome.taskId = taskId then some (outcome.settled result)
      else getResult results taskId := by
  have hkey : result.taskId = outcome.taskId := (resultMap.mem_of_find h).2
  unfold submitResult
  rw [h]
  dsimp only
  rw [getResult_setResult]
  exact if_congr (by rw [hkey]) rfl rfl

/-- A submission leaves the results of other tasks alone. -/
lemma getResult_submitResult_other {results : List FederatedTaskResult}
    {outcome : SubmittedOutcome} {taskId : String} (h : outcome.taskId ≠ taskId) :
    getResult (submitResult results outcome.taskId outcome.output outcome.error outcome.nowIso)
        taskId = getResult results taskId := by
  cases hfound : getResult results outcome.taskId with
  | some result => rw [getResult_submitResult hfound, if_neg h]
  | none =>
      unfold submitResult
      rw [hfound]
      dsimp only
      rw [getResult_setResult, if_neg h]

lemma distinct_submitResult {results : List FederatedTaskResult} (taskId : String)
    (output error : Option String) (nowIso : String) (h : resultMap.Distinct results) :
    resultMap.Distinct (submitResult results taskId output error nowIso) := by
  unfold submitResult
  split
  · exact distinct_setResult _ h
  · exact distinct_setResult _ h

lemma outcomeStatus_ne_pending (error : Option String) : outcomeStatus error ≠ .pending := by
  unfold outcomeStatus
  split_ifs <;> simp

lemma distinct_loadedResults (resultStore : Option (List FederatedTaskResult)) :
    resultMap.Distinct (loadedResults resultStore) :=
  resultMap.distinct_collect List.nodup_nil

/-! ## What an event does to the results -/

lemma resultsStep_of_accepted {event : FederatedEvent} {task : FederatedTaskRequest}
    {nowIso : String} (h : event.accepted sha contracts = some (task, nowIso))
    (results : List FederatedTaskResult) :
    resultsStep sha contracts parse resultTtlMs results event =
      setResult results (acceptedResult task.id nowIso) := by
  cases event with
  | delegate credentials body taskId stamp =>
      obtain ⟨found, hfound, hpair⟩ := Option.map_eq_some_iff.mp h
      cases hpair
      simp only [resultsStep, hfound]
  | _ => cases h

lemma resultsStep_of_outcome {event : FederatedEvent} {results : List FederatedTaskResult}
    {outcome : SubmittedOutcome} (h : event.outcome results = some outcome) :
    resultsStep sha contracts parse resultTtlMs results event =
      submitResult results outcome.taskId outcome.output outcome.error outcome.nowIso := by
  cases event with
  | submit => cases h; rfl
  | callbackThrew => cases h; rfl
  | callbackReturned taskId nowIso =>
      simp only [FederatedEvent.outcome] at h
      split_ifs at h with hpending
      cases h
      simp only [resultsStep, hpending, if_true]
  | _ => cases h

lemma accepted_none_of_outcome {event : FederatedEvent} {results : List FederatedTaskResult}
    {outcome : SubmittedOutcome} (h : event.outcome results = some outcome) :
    event.accepted sha contracts = none := by
  cases event with
  | delegate => cases h
  | _ => rfl

lemma resultsStep_of_quiet {event : FederatedEvent} {results : List FederatedTaskResult}
    (haccepted : event.accepted sha contracts = none) (houtcome : event.outcome results = none)
    (hsweep : ∀ now, event ≠ .evict now) :
    resultsStep sha contracts parse resultTtlMs results event = results := by
  cases event with
  | delegate credentials body taskId nowIso =>
      have hnone : acceptedTask sha contracts credentials body taskId = none := by
        simpa [FederatedEvent.accepted] using haccepted
      simp only [resultsStep, hnone]
  | poll => rfl
  | pendingList => rfl
  | submit => cases houtcome
  | callbackReturned taskId nowIso =>
      simp only [FederatedEvent.outcome] at houtcome
      split_ifs at houtcome with hpending
      simp only [resultsStep, hpending]
      rfl
  | callbackThrew => cases houtcome
  | evict now => exact absurd rfl (hsweep now)

/-- What an event can do to the results: accept a task, submit an outcome, sweep, or nothing. -/
lemma resultsStep_cases (event : FederatedEvent) (results : List FederatedTaskResult) :
    (∃ task nowIso, event.accepted sha contracts = some (task, nowIso) ∧
      event.outcome results = none ∧
      resultsStep sha contracts parse resultTtlMs results event =
        setResult results (acceptedResult task.id nowIso)) ∨
    (∃ outcome, event.accepted sha contracts = none ∧ event.outcome results = some outcome ∧
      resultsStep sha contracts parse resultTtlMs results event =
        submitResult results outcome.taskId outcome.output outcome.error outcome.nowIso) ∨
    (∃ now, event = .evict now) ∨
    (event.accepted sha contracts = none ∧ event.outcome results = none ∧
      (∀ now, event ≠ .evict now) ∧
      resultsStep sha contracts parse resultTtlMs results event = results) := by
  cases houtcome : event.outcome results with
  | some outcome =>
      exact Or.inr (Or.inl ⟨outcome, accepted_none_of_outcome houtcome, rfl,
        resultsStep_of_outcome houtcome⟩)
  | none =>
      cases haccepted : event.accepted sha contracts with
      | some pair =>
          exact Or.inl ⟨pair.1, pair.2, rfl, rfl, resultsStep_of_accepted haccepted results⟩
      | none =>
          by_cases hsweep : ∃ now, event = .evict now
          · exact Or.inr (Or.inr (Or.inl hsweep))
          · have hno : ∀ now, event ≠ .evict now := fun now h => hsweep ⟨now, h⟩
            exact Or.inr (Or.inr (Or.inr ⟨rfl, rfl, hno,
              resultsStep_of_quiet haccepted houtcome hno⟩))

lemma distinct_resultsStep {results : List FederatedTaskResult} (event : FederatedEvent)
    (h : resultMap.Distinct results) :
    resultMap.Distinct (resultsStep sha contracts parse resultTtlMs results event) := by
  rcases @resultsStep_cases sha contracts parse resultTtlMs event results with
    ⟨task, nowIso, -, -, hstep⟩ | ⟨outcome, -, -, hstep⟩ | ⟨now, rfl⟩ | ⟨-, -, -, hstep⟩
  · rw [hstep]
    exact distinct_setResult _ h
  · rw [hstep]
    exact distinct_submitResult _ _ _ _ h
  · exact distinct_evictExpiredResults now h
  · rwa [hstep]

/-! ## Bookkeeping -/

/-- The document is of these results. -/
def PersistStage.Holds (results : List FederatedTaskResult) : PersistStage → Prop
  | .issued document =>
      document.Perm (results.map fun result => CapturedResult.live result.taskId)
  | .writing document => document.Perm results

/-- What a server knows of its file in any run. -/
structure FederatedServerState.Bookkeeping (state : FederatedServerState) : Prop where
  distinct : resultMap.Distinct state.results
  inFlight_of_requested : state.persistRequested = true → state.persistInFlight ≠ none
  holds_of_inFlight : state.persistRequested = false →
    ∀ write, state.persistInFlight = some write → write.stage.Holds state.results
  saved_of_idle : state.persistInFlight = none → state.lastPersistFailed = false → state.Saved

@[simp] lemma schedulePersist_results (state : FederatedServerState) :
    (schedulePersist locale state).results = state.results := by
  unfold schedulePersist
  split <;> rfl

@[simp] lemma schedulePersist_pendingAcceptedTasks (state : FederatedServerState) :
    (schedulePersist locale state).pendingAcceptedTasks = state.pendingAcceptedTasks := by
  unfold schedulePersist
  split <;> rfl

lemma schedulePersist_inFlight (state : FederatedServerState) :
    (schedulePersist locale state).persistInFlight ≠ none := by
  unfold schedulePersist
  split
  · rename_i write hwrite
    simp [hwrite]
  · simp

lemma bookkeeping_schedulePersist {state : FederatedServerState}
    (h : resultMap.Distinct state.results) : (schedulePersist locale state).Bookkeeping where
  distinct := by simpa using h
  inFlight_of_requested _ := schedulePersist_inFlight state
  holds_of_inFlight := by
    unfold schedulePersist
    split
    · intro hrequested
      cases hrequested
    · intro _ write hwrite
      cases hwrite
      exact (Comparator.sort_perm _ _).map _
  saved_of_idle hidle := absurd hidle (schedulePersist_inFlight state)

/-- An event that schedules nothing changes nothing that a document holds. -/
lemma quiet_of_schedulesPersist {event : FederatedEvent} {results : List FederatedTaskResult}
    (h : event.schedulesPersist sha contracts parse resultTtlMs results = false) :
    event.accepted sha contracts = none ∧ event.outcome results = none ∧
      resultsStep sha contracts parse resultTtlMs results event = results ∧
      ∀ taskId, event.releases sha contracts parse resultTtlMs results taskId = false := by
  unfold FederatedEvent.schedulesPersist at h
  rw [Bool.or_eq_false_iff, Bool.or_eq_false_iff] at h
  obtain ⟨⟨haccepted, houtcome⟩, hsweep⟩ := h
  have haccepted' : event.accepted sha contracts = none := by simpa using haccepted
  have houtcome' : event.outcome results = none := by simpa using houtcome
  refine ⟨haccepted', houtcome', ?_, fun taskId => ?_⟩
  · by_cases hevict : ∃ now, event = .evict now
    · obtain ⟨now, rfl⟩ := hevict
      exact evictExpiredResults_of_none hsweep
    · exact resultsStep_of_quiet haccepted' houtcome' fun now hnow => hevict ⟨now, hnow⟩
  · unfold FederatedEvent.releases
    rw [haccepted']
    cases event with
    | evict now =>
        cases hfound : getResult results taskId with
        | none => rfl
        | some result =>
            have hmem := (resultMap.mem_of_find hfound).1
            simpa using List.any_eq_false.mp hsweep result hmem
    | _ => rfl

lemma persistWrite_after_of_quiet {event : FederatedEvent} {results : List FederatedTaskResult}
    (h : ∀ taskId, event.releases sha contracts parse resultTtlMs results taskId = false)
    (write : PersistWrite) : write.after sha contracts parse resultTtlMs results event = write := by
  have hcaptured : ∀ captured : CapturedResult,
      captured.after sha contracts parse resultTtlMs results event = captured := by
    intro captured
    cases captured with
    | live taskId => simp [CapturedResult.after, h taskId]
    | released result => rfl
  obtain ⟨stage, late⟩ := write
  cases stage with
  | issued document => simp [PersistWrite.after, hcaptured]
  | writing document => rfl

lemma bookkeeping_resultsServerStep {state : FederatedServerState} (h : state.Bookkeeping)
    (event : FederatedEvent) :
    (resultsServerStep sha contracts parse resultTtlMs locale state event).Bookkeeping := by
  unfold resultsServerStep
  dsimp only
  split_ifs with hschedules
  · exact bookkeeping_schedulePersist (distinct_resultsStep event h.distinct)
  · obtain ⟨-, -, hstep, hreleases⟩ := quiet_of_schedulesPersist (by simpa using hschedules)
    have hsame : state.persistInFlight.map
        (·.after sha contracts parse resultTtlMs state.results event) = state.persistInFlight := by
      cases state.persistInFlight with
      | none => rfl
      | some write => exact congrArg some (persistWrite_after_of_quiet hreleases write)
    rw [hstep, hsame]
    exact ⟨h.distinct, h.inFlight_of_requested, h.holds_of_inFlight, h.saved_of_idle⟩

/-- A document of the results, once it is the file, gives them back. -/
lemma saved_of_perm {results document : List FederatedTaskResult}
    (hdistinct : resultMap.Distinct results) (hperm : document.Perm results) (taskId : String) :
    getResult (loadedResults (some document)) taskId = getResult results taskId := by
  have hdocument : resultMap.Distinct document :=
    ((hperm.map resultMap.key).nodup_iff).mpr hdistinct
  have hloaded : loadedResults (some document) = document :=
    resultMap.collect_nil_of_distinct hdocument
  rw [hloaded]
  cases hfound : getResult results taskId with
  | none =>
      refine resultMap.find_eq_none_iff.mpr fun hmem => ?_
      exact resultMap.find_eq_none_iff.mp hfound ((hperm.map _).mem_iff.mp hmem)
  | some result =>
      obtain ⟨hmem, hkey⟩ := resultMap.mem_of_find hfound
      exact (resultMap.find_eq_some_iff hdocument).mpr ⟨hperm.mem_iff.mpr hmem, hkey⟩

lemma bookkeeping_settlePersist {state : FederatedServerState} (h : state.Bookkeeping)
    {write : PersistWrite} (hwrite : state.persistInFlight = some write)
    {stored : Option (List FederatedTaskResult)}
    (hstored : ∀ document ∈ stored, write.stage = .writing document) :
    (settlePersist locale state write stored).Bookkeeping := by
  unfold settlePersist
  dsimp only
  split_ifs with hrequested
  · exact bookkeeping_schedulePersist h.distinct
  · have hrequested' : state.persistRequested = false := by simpa using hrequested
    refine ⟨h.distinct, fun habsurd => absurd habsurd hrequested,
      fun _ other hother => ?_, fun _ hfailed => ?_⟩
    · cases hother
    · cases stored with
      | none => cases hfailed
      | some document =>
          have hholds := h.holds_of_inFlight hrequested' write hwrite
          rw [hstored document rfl] at hholds
          exact saved_of_perm h.distinct hholds

/-- Serialized before a further change, a document holds the results. -/
lemma serializeDocument_perm {results : List FederatedTaskResult}
    (hdistinct : resultMap.Distinct results) {document : List CapturedResult}
    (h : document.Perm (results.map fun result => CapturedResult.live result.taskId)) :
    (serializeDocument results document).Perm results := by
  have hback : (results.map fun result => CapturedResult.live result.taskId).filterMap
      (·.current results) = results := by
    rw [List.filterMap_map]
    have hfound : ∀ result ∈ results,
        ((fun captured : CapturedResult => captured.current results) ∘
          fun result => CapturedResult.live result.taskId) result = some result :=
      fun result hresult => resultMap.find_eq_some_of_mem hdistinct hresult
    rw [List.filterMap_congr hfound, List.filterMap_some]
  exact (h.filterMap _).trans (List.Perm.of_eq hback)

lemma bookkeeping_startServer (now : ℤ) (resultStore : Option (List FederatedTaskResult)) :
    (startServer parse resultTtlMs locale now resultStore).Bookkeeping := by
  have hdistinct := @distinct_evictExpiredResults parse resultTtlMs _ now
    (distinct_loadedResults resultStore)
  unfold startServer
  dsimp only
  split_ifs with hexpired
  · exact bookkeeping_schedulePersist hdistinct
  · refine ⟨hdistinct, fun habsurd => Bool.noConfusion habsurd, fun _ write hwrite => ?_,
      fun _ _ taskId => ?_⟩
    · cases hwrite
    · exact congrArg (getResult · taskId)
        (evictExpiredResults_of_none (by simpa using hexpired)).symm

/-- In any run the server keeps its books. -/
theorem bookkeeping_serverStep {state next : FederatedServerState} {event : ServerEvent}
    (h : state.Bookkeeping)
    (hstep : serverStep sha contracts parse resultTtlMs locale state event = some next) :
    next.Bookkeeping := by
  cases event with
  | results event =>
      simp only [serverStep] at hstep
      split_ifs at hstep
      cases hstep
      exact bookkeeping_resultsServerStep h event
  | serialized =>
      simp only [serverStep] at hstep
      split at hstep
      · rename_i document late hwrite
        cases hstep
        refine ⟨h.distinct, fun _ => by simp, fun hrequested write hnext => ?_, fun hidle => ?_⟩
        · cases hnext
          exact serializeDocument_perm h.distinct (h.holds_of_inFlight hrequested _ hwrite)
        · cases hidle
      · cases hstep
  | persistSettled ok =>
      cases ok with
      | true =>
          simp only [serverStep] at hstep
          split at hstep
          · rename_i document late hwrite
            cases hstep
            exact bookkeeping_settlePersist h hwrite fun other hother => by cases hother; rfl
          · cases hstep
      | false =>
          obtain ⟨write, hwrite, hnext⟩ := Option.map_eq_some_iff.mp hstep
          cases hnext
          exact bookkeeping_settlePersist h hwrite fun other hother => by cases hother
  | restarted now =>
      cases hstep
      exact bookkeeping_startServer now state.resultStore
  | _ =>
      simp only [serverStep] at hstep
      split_ifs at hstep
      cases hstep
      exact ⟨h.distinct, h.inFlight_of_requested, h.holds_of_inFlight, h.saved_of_idle⟩

/-! ## Outcomes -/

lemma outcomesKept_results {state next : FederatedServerState} {event : FederatedEvent}
    (hbooks : state.Bookkeeping)
    (horderly : Orderly sha contracts state (.results event))
    (hnext : next.results = resultsStep sha contracts parse resultTtlMs state.results event) :
    OutcomesKept sha contracts parse resultTtlMs state (.results event) next := by
  obtain ⟨hfresh, honce⟩ := horderly
  rcases @resultsStep_cases sha contracts parse resultTtlMs event state.results with
    ⟨task, nowIso, haccepted, houtcome, hstep⟩ | ⟨outcome, haccepted, houtcome, hstep⟩ |
    ⟨now, rfl⟩ | ⟨haccepted, houtcome, -, hstep⟩
  · have hnew : getResult state.results task.id = none := hfresh (task, nowIso) haccepted
    refine ⟨fun other stamp hother => ?_, fun other hother => ?_, fun taskId result hfound => ?_⟩
    · rw [ServerEvent.accepted, haccepted] at hother
      cases hother
      rw [hnext, hstep, getResult_setResult]
      exact if_pos rfl
    · rw [ServerEvent.outcome, houtcome] at hother
      cases hother
    · have hne : task.id ≠ taskId := fun hsame => by
        rw [← hsame, hnew] at hfound
        cases hfound
      left
      rw [hnext, hstep, getResult_setResult, if_neg (by exact hne)]
      exact hfound
  · refine ⟨fun other stamp hother => ?_, fun other hother => ?_, fun taskId result hfound => ?_⟩
    · rw [ServerEvent.accepted, haccepted] at hother
      cases hother
    · rw [ServerEvent.outcome, houtcome] at hother
      cases hother
      intro result hfound _
      rw [hnext, hstep, getResult_submitResult hfound]
      exact if_pos rfl
    · by_cases htask : outcome.taskId = taskId
      · subst htask
        rcases honce outcome houtcome result hfound with hpending | hsame
        · exact Or.inr (Or.inl ⟨hpending, outcome, houtcome, rfl⟩)
        · left
          rw [hnext, hstep, getResult_submitResult hfound, if_pos rfl, hsame]
      · left
        rw [hnext, hstep, getResult_submitResult_other htask]
        exact hfound
  · refine ⟨fun other stamp hother => ?_, fun other hother => ?_, fun taskId result hfound => ?_⟩
    · cases hother
    · cases hother
    · have hafter := @getResult_evictExpiredResults parse resultTtlMs _
        now hbooks.distinct _ _ hfound
      rw [show evictExpiredResults parse resultTtlMs now state.results = next.results from
        hnext.symm] at hafter
      by_cases hexpired : isExpired parse resultTtlMs now result = true
      · rw [if_pos hexpired] at hafter
        exact Or.inr (Or.inr ⟨now, rfl, hexpired, hafter⟩)
      · rw [if_neg hexpired] at hafter
        exact Or.inl hafter
  · refine ⟨fun other stamp hother => ?_, fun other hother => ?_, fun taskId result hfound => ?_⟩
    · rw [ServerEvent.accepted, haccepted] at hother
      cases hother
    · rw [ServerEvent.outcome, houtcome] at hother
      cases hother
    · left
      rw [hnext, hstep]
      exact hfound

/-- A step that leaves the results alone keeps the outcomes. -/
lemma outcomesKept_of_results_eq {state next : FederatedServerState} {event : ServerEvent}
    (haccepted : event.accepted sha contracts = none)
    (houtcome : event.outcome state.results = none) (hnext : next.results = state.results) :
    OutcomesKept sha contracts parse resultTtlMs state event next where
  accepted task nowIso h := by
    rw [haccepted] at h
    cases h
  submitted outcome h := by
    rw [houtcome] at h
    cases h
  kept taskId result hfound := Or.inl (by rw [hnext]; exact hfound)

@[simp] lemma startServer_results (now : ℤ) (resultStore : Option (List FederatedTaskResult)) :
    (startServer parse resultTtlMs locale now resultStore).results =
      evictExpiredResults parse resultTtlMs now (loadedResults resultStore) := by
  unfold startServer
  dsimp only
  split_ifs <;> simp

@[simp] lemma resultsServerStep_results (state : FederatedServerState) (event : FederatedEvent) :
    (resultsServerStep sha contracts parse resultTtlMs locale state event).results =
      resultsStep sha contracts parse resultTtlMs state.results event := by
  unfold resultsServerStep
  dsimp only
  split_ifs <;> simp

@[simp] lemma settlePersist_results (state : FederatedServerState) (write : PersistWrite)
    (stored : Option (List FederatedTaskResult)) :
    (settlePersist locale state write stored).results = state.results := by
  unfold settlePersist
  dsimp only
  split_ifs <;> simp

lemma outcomesKept_restarted {state next : FederatedServerState} {now : ℤ}
    (hheld : ∀ result ∈ state.results,
      getResult (loadedResults state.resultStore) result.taskId = some result)
    (hnext : next = startServer parse resultTtlMs locale now state.resultStore) :
    OutcomesKept sha contracts parse resultTtlMs state (.restarted now) next where
  accepted _ _ h := by cases h
  submitted _ h := by cases h
  kept taskId result hfound := by
    obtain ⟨hmem, hkey⟩ := resultMap.mem_of_find hfound
    have hloaded : getResult (loadedResults state.resultStore) taskId = some result :=
      hkey ▸ hheld result hmem
    have hafter := @getResult_evictExpiredResults parse resultTtlMs _ now
      (distinct_loadedResults state.resultStore) _ _ hloaded
    rw [hnext, startServer_results]
    by_cases hexpired : isExpired parse resultTtlMs now result = true
    · rw [if_pos hexpired] at hafter
      exact Or.inr (Or.inr ⟨now, rfl, hexpired, hafter⟩)
    · rw [if_neg hexpired] at hafter
      exact Or.inl hafter

theorem outcomesKept_serverStep {state next : FederatedServerState} {event : ServerEvent}
    (hbooks : state.Bookkeeping) (horderly : Orderly sha contracts state event)
    (hstep : serverStep sha contracts parse resultTtlMs locale state event = some next) :
    OutcomesKept sha contracts parse resultTtlMs state event next := by
  cases event with
  | results event =>
      simp only [serverStep] at hstep
      split_ifs at hstep
      cases hstep
      exact outcomesKept_results hbooks horderly (by simp)
  | serialized =>
      simp only [serverStep] at hstep
      split at hstep
      · cases hstep
        exact outcomesKept_of_results_eq rfl rfl rfl
      · cases hstep
  | persistSettled ok =>
      refine outcomesKept_of_results_eq rfl rfl ?_
      cases ok with
      | true =>
          simp only [serverStep] at hstep
          split at hstep
          · cases hstep
            simp
          · cases hstep
      | false =>
          obtain ⟨write, -, hnext⟩ := Option.map_eq_some_iff.mp hstep
          cases hnext
          simp
  | restarted now =>
      cases hstep
      exact outcomesKept_restarted horderly.1 rfl
  | _ =>
      simp only [serverStep] at hstep
      split_ifs at hstep
      cases hstep
      exact outcomesKept_of_results_eq rfl rfl rfl

/-! ## Workers -/

@[simp] lemma resultsServerStep_pendingAcceptedTasks (state : FederatedServerState)
    (event : FederatedEvent) :
    (resultsServerStep sha contracts parse resultTtlMs locale state event).pendingAcceptedTasks =
      workersAfter sha contracts event state.pendingAcceptedTasks := by
  unfold resultsServerStep
  dsimp only
  split_ifs <;> simp

@[simp] lemma settlePersist_pendingAcceptedTasks (state : FederatedServerState)
    (write : PersistWrite) (stored : Option (List FederatedTaskResult)) :
    (settlePersist locale state write stored).pendingAcceptedTasks =
      state.pendingAcceptedTasks := by
  unfold settlePersist
  dsimp only
  split_ifs <;> simp

/-- A worker leaves only when its task is no longer pending. -/
lemma mem_workersAfter {event : FederatedEvent} {workers : List String} {taskId : String}
    (h : taskId ∈ workers)
    (hleft : ∀ nowIso message, event ≠ .callbackReturned taskId nowIso ∧
      event ≠ .callbackThrew taskId message nowIso) :
    taskId ∈ workersAfter sha contracts event workers := by
  cases event with
  | callbackReturned other nowIso =>
      have hne : taskId ≠ other := fun hsame => (hleft nowIso "").1 (by rw [hsame])
      exact (List.mem_erase_of_ne hne).mpr h
  | callbackThrew other message nowIso =>
      have hne : taskId ≠ other := fun hsame => (hleft nowIso message).2 (by rw [hsame])
      exact (List.mem_erase_of_ne hne).mpr h
  | _ => exact List.mem_append_right _ h

/-- A submitted outcome leaves no result of the task pending. -/
lemma status_of_submitted {results : List FederatedTaskResult} {outcome : SubmittedOutcome}
    (hdistinct : resultMap.Distinct results) {result : FederatedTaskResult}
    (h : result ∈ submitResult results outcome.taskId outcome.output outcome.error outcome.nowIso)
    (htask : result.taskId = outcome.taskId) : result.status ≠ .pending := by
  have hfound : getResult (submitResult results outcome.taskId outcome.output outcome.error
      outcome.nowIso) outcome.taskId = some result :=
    (resultMap.find_eq_some_iff (distinct_submitResult _ _ _ _ hdistinct)).mpr ⟨h, htask⟩
  cases hbefore : getResult results outcome.taskId with
  | some before =>
      rw [getResult_submitResult hbefore, if_pos rfl] at hfound
      cases hfound
      exact outcomeStatus_ne_pending _
  | none =>
      unfold submitResult at hfound
      rw [hbefore] at hfound
      dsimp only at hfound
      rw [getResult_setResult, if_pos rfl] at hfound
      cases hfound
      exact outcomeStatus_ne_pending _

/-- A result that is pending after an event was pending before it, or is of the task accepted. -/
lemma pending_before {event : FederatedEvent} {results : List FederatedTaskResult}
    (hdistinct : resultMap.Distinct results) {result : FederatedTaskResult}
    (h : result ∈ resultsStep sha contracts parse resultTtlMs results event)
    (hpending : result.status = .pending) :
    (∃ task nowIso, event.accepted sha contracts = some (task, nowIso) ∧
      task.id = result.taskId) ∨
    (result ∈ results ∧ ∀ outcome, event.outcome results = some outcome →
      outcome.taskId ≠ result.taskId) := by
  rcases @resultsStep_cases sha contracts parse resultTtlMs event results with
    ⟨task, nowIso, haccepted, houtcome, hstep⟩ | ⟨outcome, -, houtcome, hstep⟩ |
    ⟨now, rfl⟩ | ⟨-, houtcome, -, hstep⟩
  · by_cases htask : task.id = result.taskId
    · exact Or.inl ⟨task, nowIso, haccepted, htask⟩
    · have hfound := (resultMap.find_eq_some_iff (distinct_resultsStep event hdistinct)).mpr
        ⟨h, rfl⟩
      rw [hstep] at hfound
      have hbefore := (getResult_setResult results _ _).symm.trans hfound
      rw [if_neg (by exact htask)] at hbefore
      refine Or.inr ⟨(resultMap.mem_of_find hbefore).1, fun other hother => ?_⟩
      rw [houtcome] at hother
      cases hother
  · rw [hstep] at h
    have hne : outcome.taskId ≠ result.taskId := fun hsame =>
      status_of_submitted hdistinct h hsame.symm hpending
    have hfound := (resultMap.find_eq_some_iff
      (distinct_submitResult outcome.taskId outcome.output outcome.error outcome.nowIso
        hdistinct)).mpr ⟨h, rfl⟩
    have hbefore := (getResult_submitResult_other hne).symm.trans hfound
    refine Or.inr ⟨(resultMap.mem_of_find hbefore).1, fun other hother => ?_⟩
    rw [houtcome] at hother
    cases hother
    exact hne
  · exact Or.inr ⟨(List.mem_filter.mp h).1, fun other hother => by cases hother⟩
  · rw [hstep] at h
    refine Or.inr ⟨h, fun other hother => ?_⟩
    rw [houtcome] at hother
    cases hother

lemma noOrphans_resultsServerStep {state : FederatedServerState} (hbooks : state.Bookkeeping)
    (h : state.NoOrphans) (event : FederatedEvent) :
    (resultsServerStep sha contracts parse resultTtlMs locale state event).NoOrphans := by
  intro result hresult hpending
  rw [resultsServerStep_results] at hresult
  rw [resultsServerStep_pendingAcceptedTasks]
  rcases pending_before hbooks.distinct hresult hpending with
    ⟨task, nowIso, haccepted, htask⟩ | ⟨hbefore, hother⟩
  · cases event with
    | delegate =>
        refine List.mem_append_left _ ?_
        rw [haccepted]
        simpa using htask.symm
    | _ => cases haccepted
  · refine mem_workersAfter (h result hbefore hpending) fun nowIso message => ⟨?_, ?_⟩
    · rintro rfl
      have hfound : getResult state.results result.taskId = some result :=
        (resultMap.find_eq_some_iff hbooks.distinct).mpr ⟨hbefore, rfl⟩
      refine hother ⟨result.taskId, none,
        some "Accepted task completed without explicit result payload.", nowIso⟩ ?_ rfl
      simp [FederatedEvent.outcome, hfound, hpending]
    · rintro rfl
      exact hother _ rfl rfl

theorem noOrphans_serverStep {state next : FederatedServerState} {event : ServerEvent}
    (hbooks : state.Bookkeeping) (h : state.NoOrphans)
    (horderly : Orderly sha contracts state event)
    (hstep : serverStep sha contracts parse resultTtlMs locale state event = some next) :
    next.NoOrphans := by
  cases event with
  | results event =>
      simp only [serverStep] at hstep
      split_ifs at hstep
      cases hstep
      exact noOrphans_resultsServerStep hbooks h event
  | serialized =>
      simp only [serverStep] at hstep
      split at hstep
      · cases hstep
        exact h
      · cases hstep
  | persistSettled ok =>
      cases ok with
      | true =>
          simp only [serverStep] at hstep
          split at hstep
          · cases hstep
            simpa [FederatedServerState.NoOrphans] using h
          · cases hstep
      | false =>
          obtain ⟨write, -, hnext⟩ := Option.map_eq_some_iff.mp hstep
          cases hnext
          simpa [FederatedServerState.NoOrphans] using h
  | restarted now =>
      cases hstep
      intro result hresult hpending
      rw [startServer_results] at hresult
      exact absurd hpending (horderly.2 result (List.mem_filter.mp hresult).1)
  | _ =>
      simp only [serverStep] at hstep
      split_ifs at hstep
      cases hstep
      exact h

/-! ## The flush -/

/-- Where `stop` waits for the file and nothing is in flight, the last persist has not failed, as
far as no persist issued since failed. -/
def FederatedServerState.Flushed (state : FederatedServerState) : Prop :=
  state.phase = .flushing → state.latePersistFailed = false → state.persistInFlight = none →
    state.lastPersistFailed = false

lemma flushed_of_inFlight {state : FederatedServerState} (h : state.persistInFlight ≠ none) :
    state.Flushed :=
  fun _ _ hidle => absurd hidle h

lemma flushed_resultsServerStep {state : FederatedServerState} (h : state.Flushed)
    (event : FederatedEvent) :
    (resultsServerStep sha contracts parse resultTtlMs locale state event).Flushed := by
  unfold resultsServerStep
  dsimp only
  split_ifs
  · exact flushed_of_inFlight (schedulePersist_inFlight _)
  · intro hphase hlate hidle
    exact h hphase hlate (Option.map_eq_none_iff.mp hidle)

lemma flushed_settlePersist {state : FederatedServerState} {write : PersistWrite}
    (stored : Option (List FederatedTaskResult))
    (h : stored = none → state.phase = .flushing → state.persistRequested = true ∨
      write.issuedAfterStop = true) : (settlePersist locale state write stored).Flushed := by
  unfold settlePersist
  dsimp only
  split_ifs with hrequested
  · exact flushed_of_inFlight (schedulePersist_inFlight _)
  · intro hphase hlate _
    cases stored with
    | some document => rfl
    | none =>
        rcases h rfl hphase with hagain | hissued
        · exact absurd hagain hrequested
        · simp [hissued] at hlate

theorem flushed_serverStep {state next : FederatedServerState} {event : ServerEvent}
    (h : state.Flushed) (horderly : Orderly sha contracts state event)
    (hstep : serverStep sha contracts parse resultTtlMs locale state event = some next) :
    next.Flushed := by
  cases event with
  | results event =>
      simp only [serverStep] at hstep
      split_ifs at hstep
      cases hstep
      exact flushed_resultsServerStep h event
  | serialized =>
      simp only [serverStep] at hstep
      split at hstep
      · cases hstep
        exact flushed_of_inFlight (by simp)
      · cases hstep
  | persistSettled ok =>
      cases ok with
      | true =>
          simp only [serverStep] at hstep
          split at hstep
          · cases hstep
            exact flushed_settlePersist _ fun habsurd => by cases habsurd
          · cases hstep
      | false =>
          obtain ⟨write, hwrite, hnext⟩ := Option.map_eq_some_iff.mp hstep
          cases hnext
          refine flushed_settlePersist _ fun _ hphase => ?_
          exact (horderly hphase).imp id fun hissued => hissued write hwrite
  | restarted now =>
      cases hstep
      intro hphase
      unfold startServer schedulePersist at hphase
      dsimp only at hphase
      split_ifs at hphase
  | tasksSettled =>
      simp only [serverStep] at hstep
      split_ifs at hstep
      cases hstep
      exact fun _ hlate hidle => horderly hidle hlate
  | _ =>
      simp only [serverStep] at hstep
      split_ifs at hstep
      cases hstep
      intro hphase
      cases hphase

/-! ## Runs -/

/-- What holds of a server along an orderly run. -/
structure FederatedServerState.InOrder (state : FederatedServerState) : Prop where
  bookkeeping : state.Bookkeeping
  noOrphans : state.NoOrphans
  flushed : state.Flushed

lemma inOrder_newServer : newServer.InOrder where
  bookkeeping :=
    { distinct := List.nodup_nil
      inFlight_of_requested := fun h => by cases h
      holds_of_inFlight := fun _ write h => by cases h
      saved_of_idle := fun _ _ _ => rfl }
  noOrphans := fun result h => by cases h
  flushed := fun h => by cases h

lemma inOrder_serverStep {state next : FederatedServerState} {event : ServerEvent}
    (h : state.InOrder) (horderly : Orderly sha contracts state event)
    (hstep : serverStep sha contracts parse resultTtlMs locale state event = some next) :
    next.InOrder where
  bookkeeping := bookkeeping_serverStep h.bookkeeping hstep
  noOrphans := noOrphans_serverStep h.bookkeeping h.noOrphans horderly hstep
  flushed := flushed_serverStep h.flushed horderly hstep

/-- When `stop` returns, the file holds every result. -/
lemma saved_of_stopReturned {state next : FederatedServerState} (h : state.InOrder)
    (hstep : serverStep sha contracts parse resultTtlMs locale state .stopReturned = some next)
    (hlate : next.latePersistFailed = false) : next.Saved := by
  simp only [serverStep] at hstep
  split_ifs at hstep with hdone
  cases hstep
  exact h.bookkeeping.saved_of_idle hdone.2.1 (h.flushed hdone.1 hlate hdone.2.1)

lemma lawful_of_orderly {state : FederatedServerState} {event : ServerEvent} (h : state.InOrder)
    (horderly : Orderly sha contracts state event) :
    Lawful sha contracts parse resultTtlMs locale state event := by
  intro next hstep
  refine ⟨outcomesKept_serverStep h.bookkeeping horderly hstep,
    noOrphans_serverStep h.bookkeeping h.noOrphans horderly hstep, ?_⟩
  rintro rfl
  exact saved_of_stopReturned h hstep

/-- Along an orderly run every task keeps its first outcome until it is evicted, only finished
results older than their time to live are evicted, what is pending is worked on, and `stop` leaves
all results in the file. -/
theorem outcomes_kept_along {events : List ServerEvent}
    (h : Along (serverStep sha contracts parse resultTtlMs locale) (Orderly sha contracts)
      newServer events) :
    Along (serverStep sha contracts parse resultTtlMs locale)
      (Lawful sha contracts parse resultTtlMs locale) newServer events :=
  along_of_along (fun _ _ _ => inOrder_serverStep) (fun _ _ => lawful_of_orderly)
    inOrder_newServer h

/-! ## Runs of one task -/

instance decidableOrderly (state : FederatedServerState) :
    ∀ event, Decidable (Orderly sha contracts state event)
  | .results _ => inferInstanceAs (Decidable (_ ∧ _))
  | .persistSettled false => inferInstanceAs (Decidable (_ → _))
  | .tasksSettled => inferInstanceAs (Decidable (_ → _))
  | .restarted _ => inferInstanceAs (Decidable (_ ∧ _))
  | .persistSettled true | .serialized | .stopCalled | .connectionsClosed | .stopReturned =>
      inferInstanceAs (Decidable True)

def delegateAlpha : ServerEvent :=
  .results (.delegate alphaCredentials (some (quotedTask "quote-1" "Summarize the log.")) "task-a"
    "2026-03-01T10:00:00.000Z")

def submitAlpha : ServerEvent :=
  .results (.submit "task-a" (some "The log is short.") none "2026-03-01T10:01:00.000Z")

/-- The server steps with the contracts of the two agents. -/
def federatedStep : FederatedServerState → ServerEvent → Option FederatedServerState :=
  serverStep federationSha twoAgents (fun _ => none) 3600000 codeUnitOrder

def finishedRun : List ServerEvent :=
  [delegateAlpha, .serialized, .persistSettled true, submitAlpha,
    .results (.callbackReturned "task-a" "2026-03-01T10:01:01.000Z"),
    .stopCalled, .connectionsClosed, .tasksSettled, .serialized, .persistSettled true,
    .stopReturned, .restarted 1772362900000]

theorem outcomes_kept_along_finished :
    (run federatedStep newServer finishedRun).isSome = true ∧
      Along federatedStep (Orderly federationSha twoAgents) newServer finishedRun ∧
      Along federatedStep (Lawful federationSha twoAgents (fun _ => none) 3600000 codeUnitOrder)
        newServer finishedRun := by
  have horderly : Along federatedStep (Orderly federationSha twoAgents) newServer finishedRun := by
    decide
  exact ⟨by decide, horderly, outcomes_kept_along horderly⟩

/-! ## Runs that meet a defect -/

def federatedLawful : FederatedServerState → ServerEvent → Prop :=
  Lawful federationSha twoAgents (fun _ => none) 3600000 codeUnitOrder

/-- The callback submits its result and throws afterwards. -/
def throwingRun : List ServerEvent := [delegateAlpha, submitAlpha]

def thrownLate : ServerEvent :=
  .results (.callbackThrew "task-a" "connection reset" "2026-03-01T10:02:00.000Z")

/-- The process dies while the task is pending, which is in the file. -/
def crashedRun : List ServerEvent := [delegateAlpha, .serialized, .persistSettled true]

/-- The write of the outcome fails, and the server is stopped. -/
def unsavedRun : List ServerEvent :=
  [delegateAlpha, .serialized, .persistSettled true, submitAlpha,
    .results (.callbackReturned "task-a" "2026-03-01T10:01:01.000Z"), .serialized,
    .persistSettled false, .stopCalled, .connectionsClosed, .tasksSettled]

/-- What a lawful run does in its last step, seen through what can be computed of the states. -/
lemma lawful_last {before : List ServerEvent} {event : ServerEvent}
    (h : Along federatedStep federatedLawful newServer (before ++ [event])) {α β : Type}
    (f : FederatedServerState → α) (g : FederatedServerState → β) {x : α} {y : β}
    (hf : (run federatedStep newServer before).map f = some x)
    (hg : (run federatedStep newServer (before ++ [event])).map g = some y) :
    ∃ state next, f state = x ∧ g next = y ∧
      OutcomesKept federationSha twoAgents (fun _ => none) 3600000 state event next ∧
      next.NoOrphans ∧ (event = .stopReturned → next.latePersistFailed = false → next.Saved) := by
  obtain ⟨state, hstate, hx⟩ := Option.map_eq_some_iff.mp hf
  obtain ⟨next, hnext, hy⟩ := Option.map_eq_some_iff.mp hg
  rw [run_append, hstate] at hnext
  have hstep : federatedStep state event = some next := by
    simpa using hnext
  exact ⟨state, next, hx, hy, (h.of_run federatedStep hstate).1 next hstep⟩

theorem outcome_not_kept :
    ¬ Along federatedStep federatedLawful newServer (throwingRun ++ [thrownLate]) ∧
      ¬ Along federatedStep federatedLawful newServer (crashedRun ++ [.restarted 1772362900000]) ∧
      ¬ Along federatedStep federatedLawful newServer (unsavedRun ++ [.stopReturned]) := by
  refine ⟨fun h => ?_, fun h => ?_, fun h => ?_⟩
  · -- The failure takes the place of the result that was submitted.
    obtain ⟨state, next, hbefore, hafter, hkept, -⟩ := lawful_last h
      (fun state => getResult state.results "task-a")
      (fun state => (getResult state.results "task-a").map (·.status))
      (x := some ⟨"task-a", .completed, some "The log is short.", none,
        "2026-03-01T10:00:00.000Z", some "2026-03-01T10:01:00.000Z"⟩) (y := some .failed)
      (by decide) (by decide)
    rcases hkept.kept _ _ hbefore with hsame | ⟨hpending, -⟩ | ⟨now, -, -, hnone⟩
    · rw [hsame] at hafter
      cases hafter
    · cases hpending
    · rw [hnone] at hafter
      cases hafter
  · -- The task is pending again, and nobody works on it.
    obtain ⟨state, next, -, hafter, -, horphans, -⟩ := lawful_last h (fun _ => ())
      (fun state => (state.results, state.pendingAcceptedTasks))
      (x := ()) (y := ([acceptedResult "task-a" "2026-03-01T10:00:00.000Z"], []))
      (by decide) (by decide)
    obtain ⟨hresults, hworkers⟩ := Prod.mk.inj hafter
    have hmem := horphans (acceptedResult "task-a" "2026-03-01T10:00:00.000Z")
      (by rw [hresults]; exact List.mem_singleton_self _) rfl
    rw [hworkers] at hmem
    cases hmem
  · -- The file still says that the task is pending.
    obtain ⟨state, next, -, hafter, -, -, hsaved⟩ := lawful_last h (fun _ => ())
      (fun state => (state.latePersistFailed,
        decide (getResult (loadedResults state.resultStore) "task-a" =
          getResult state.results "task-a")))
      (x := ()) (y := (false, false)) (by decide) (by decide)
    obtain ⟨hlate, hfile⟩ := Prod.mk.inj hafter
    exact of_decide_eq_false hfile (hsaved rfl hlate "task-a")

end AgentBigBrain.Interfaces
