import AgentBigBrain.Interfaces.FederatedServer
import AgentBigBrain.Lib.KeyedViews

/-!
# What an agent learns of the others

The read endpoints ask who is there, not whose task it is. So an agent that knows the id of a task
reads its result, and every agent sees the ids of all pending tasks. What is said of an agent's own
tasks, however, does not depend on the others.
-/
namespace AgentBigBrain.Interfaces

open AgentBigBrain.Js AgentBigBrain.Core AgentBigBrain.Lib

variable (sha : Sha256) (contracts : List FederatedAgentContract)
  (parse : String → Option ℤ) (resultTtlMs : ℤ)

/-! ## Runs -/

/-- A request that the gateway authenticates as the agent's. -/
def isFromAgent (agent : String) (credentials : FederatedCredentials) : Bool :=
  decide (trim credentials.agentId = agent) && (authAnswer sha contracts credentials).isNone

/-- The task that an event is accepted as, and the agent it is accepted from. -/
def FederatedEvent.acceptance : FederatedEvent → Option (String × String)
  | .delegate credentials body taskId _ =>
      (acceptedTask sha contracts credentials body taskId).map fun task => (task.agentId, task.id)
  | _ => none

/-- The ids of the tasks accepted from the agent. -/
def tasksOf (agent : String) (events : List FederatedEvent) : List String :=
  events.filterMap fun event => match event.acceptance sha contracts with
    | some (other, taskId) => if other = agent then some taskId else none
    | none => none

/-- No id is given to two tasks. -/
def UniqueTaskIds (events : List FederatedEvent) : Prop :=
  ((events.filterMap (·.acceptance sha contracts)).map (·.2)).Nodup

/-- A request of the agent, an outcome of one of its tasks, or a sweep. -/
def FederatedEvent.concerns (agent : String) (own : List String) : FederatedEvent → Bool
  | .delegate credentials _ _ _ | .poll credentials _ | .pendingList credentials =>
      isFromAgent sha contracts agent credentials
  | .submit taskId _ _ _ | .callbackReturned taskId _ | .callbackThrew taskId _ _ =>
      decide (taskId ∈ own)
  | .evict _ => true

/-- Two runs agree on the agent's requests, on the outcomes of its tasks and on the sweeps. -/
def AgreeFor (agent : String) (events others : List FederatedEvent) : Prop :=
  let own := tasksOf sha contracts agent events
  events.filter (·.concerns sha contracts agent own) =
    others.filter (·.concerns sha contracts agent own)

/-- What of the answer to an event the agent is shown; all of it in `reveal`. -/
def answersTo (agent : String)
    (reveal : FederatedEvent → FederatedAnswer → Option FederatedAnswer) :
    List FederatedTaskResult → List FederatedEvent → List FederatedAnswer
  | _, [] => []
  | results, event :: events =>
      let shown := match event with
        | .poll credentials _ | .pendingList credentials =>
            if isFromAgent sha contracts agent credentials then
              ((readAnswer sha contracts results event).bind (reveal event)).toList
            else []
        | _ => []
      shown ++ answersTo agent reveal
        (resultsStep sha contracts parse resultTtlMs results event) events

def revealAll (_ : FederatedEvent) (answer : FederatedAnswer) : Option FederatedAnswer :=
  some answer

/-- The part of an answer that is about the tasks of the agent. -/
def revealOwn (own : List String) : FederatedEvent → FederatedAnswer → Option FederatedAnswer
  | .poll _ taskId, answer => if taskId ∈ own then some answer else none
  | .pendingList _, .pendingTaskIds ids =>
      some (.pendingTaskIds (ids.filter fun taskId => decide (taskId ∈ own)))
  | _, answer => some answer

/-! ## The view of an agent -/

variable {sha contracts parse resultTtlMs}

def ownView (own : List String) (results : List FederatedTaskResult) : List FederatedTaskResult :=
  resultMap.view (fun taskId => decide (taskId ∈ own)) results

lemma ownView_setResult {own : List String} {result : FederatedTaskResult}
    (h : result.taskId ∈ own) (results : List FederatedTaskResult) :
    ownView own (setResult results result) = setResult (ownView own results) result :=
  resultMap.view_upsert_of_known _ (decide_eq_true h) results

lemma ownView_setResult_other {own : List String} {result : FederatedTaskResult}
    (h : result.taskId ∉ own) (results : List FederatedTaskResult) :
    ownView own (setResult results result) = ownView own results :=
  resultMap.view_upsert_of_unknown _ (decide_eq_false h) results

lemma getResult_ownView {own : List String} {taskId : String} (h : taskId ∈ own)
    (results : List FederatedTaskResult) :
    getResult (ownView own results) taskId = getResult results taskId :=
  resultMap.find_view _ (decide_eq_true h) results

lemma getResult_taskId {results : List FederatedTaskResult} {taskId : String}
    {result : FederatedTaskResult} (h : getResult results taskId = some result) :
    result.taskId = taskId :=
  (resultMap.mem_of_find h).2

lemma ownView_submitResult {own : List String} {taskId : String} (h : taskId ∈ own)
    (results : List FederatedTaskResult) (output error : Option String) (nowIso : String) :
    ownView own (submitResult results taskId output error nowIso) =
      submitResult (ownView own results) taskId output error nowIso := by
  unfold submitResult
  rw [getResult_ownView h]
  cases hfound : getResult results taskId with
  | none => exact ownView_setResult h results
  | some existing =>
      have hid : existing.taskId ∈ own := (getResult_taskId hfound).symm ▸ h
      exact ownView_setResult (by exact hid) results

lemma ownView_submitResult_other {own : List String} {taskId : String} (h : taskId ∉ own)
    (results : List FederatedTaskResult) (output error : Option String) (nowIso : String) :
    ownView own (submitResult results taskId output error nowIso) = ownView own results := by
  unfold submitResult
  cases hfound : getResult results taskId with
  | none => exact ownView_setResult_other h results
  | some existing =>
      have hid : existing.taskId ∉ own := (getResult_taskId hfound).symm ▸ h
      exact ownView_setResult_other (by exact hid) results

lemma getPendingTaskIds_ownView (own : List String) (results : List FederatedTaskResult) :
    (getPendingTaskIds results).filter (fun taskId => decide (taskId ∈ own)) =
      getPendingTaskIds (ownView own results) := by
  unfold getPendingTaskIds ownView KeyedMerge.view
  rw [List.filter_map, List.filter_filter, List.filter_filter]
  congr 2
  funext result
  exact Bool.and_comm _ _

/-! ## Steps in the view -/

/-- The tasks accepted by an event are in `own` exactly if the agent handed them in. -/
def OwnAccepted (sha : Sha256) (contracts : List FederatedAgentContract) (agent : String)
    (own : List String) (event : FederatedEvent) : Prop :=
  ∀ other taskId, event.acceptance sha contracts = some (other, taskId) →
    (other = agent ↔ taskId ∈ own)

lemma authenticate_trim (agentId secret : String) :
    authenticateInboundAgent sha contracts (trim agentId) secret =
      authenticateInboundAgent sha contracts agentId secret := by
  simp only [authenticateInboundAgent, trim_trim]

/-- A task is accepted from the agent that is authenticated. -/
lemma acceptedTask_agent {credentials : FederatedCredentials}
    {body : Option FederatedInboundTask} {taskId : String} {task : FederatedTaskRequest}
    (h : acceptedTask sha contracts credentials body taskId = some task) :
    task.agentId = trim credentials.agentId ∧ authAnswer sha contracts credentials = none := by
  unfold acceptedTask at h
  split_ifs at h with hheaders
  obtain ⟨input, -, hroute⟩ := Option.bind_eq_some_iff.mp h
  unfold routeInboundRequest at hroute
  dsimp only at hroute
  rw [authenticate_trim] at hroute
  by_cases hauth : (authenticateInboundAgent sha contracts (trim credentials.agentId)
      credentials.secret).authenticated = false
  · rw [if_pos hauth] at hroute
    cases hroute
  rw [if_neg hauth] at hroute
  have hauthenticated : (authenticateInboundAgent sha contracts (trim credentials.agentId)
      credentials.secret).authenticated = true := by simpa using hauth
  refine ⟨?_, by simp [authAnswer, hheaders, hauthenticated]⟩
  split at hroute
  · cases hroute
  · split_ifs at hroute
    cases hroute
    exact trim_trim _

lemma isFromAgent_of_accepted {agent : String} {credentials : FederatedCredentials}
    {body : Option FederatedInboundTask} {taskId : String} {task : FederatedTaskRequest}
    (h : acceptedTask sha contracts credentials body taskId = some task) :
    isFromAgent sha contracts agent credentials = decide (task.agentId = agent) := by
  obtain ⟨hagent, hauth⟩ := acceptedTask_agent h
  simp [isFromAgent, hagent, hauth]

variable {agent : String} {own : List String}

/-- What concerns the agent happens in its view as it happens to all results. -/
lemma ownView_step {event : FederatedEvent}
    (hown : OwnAccepted sha contracts agent own event)
    (h : event.concerns sha contracts agent own = true) (results : List FederatedTaskResult) :
    ownView own (resultsStep sha contracts parse resultTtlMs results event) =
      resultsStep sha contracts parse resultTtlMs (ownView own results) event := by
  cases event with
  | delegate credentials body taskId nowIso =>
      simp only [resultsStep]
      cases htask : acceptedTask sha contracts credentials body taskId with
      | none => rfl
      | some task =>
          have hagent : task.agentId = agent := by
            simpa [FederatedEvent.concerns, isFromAgent_of_accepted htask] using h
          have hmem : task.id ∈ own :=
            (hown task.agentId task.id (by simp [FederatedEvent.acceptance, htask])).mp hagent
          exact @ownView_setResult own (acceptedResult task.id nowIso) hmem results
  | poll => rfl
  | pendingList => rfl
  | submit taskId output error nowIso =>
      exact ownView_submitResult (of_decide_eq_true h) results output error nowIso
  | callbackReturned taskId nowIso =>
      have hmem : taskId ∈ own := of_decide_eq_true h
      simp only [resultsStep]
      rw [getResult_ownView hmem]
      split_ifs
      · exact ownView_submitResult hmem results _ _ _
      · rfl
  | callbackThrew taskId message nowIso =>
      exact ownView_submitResult (of_decide_eq_true h) results _ _ _
  | evict now => exact resultMap.view_filter _ _ results

/-- What does not concern the agent does not show in its view. -/
lemma ownView_step_other {event : FederatedEvent}
    (hown : OwnAccepted sha contracts agent own event)
    (h : event.concerns sha contracts agent own = false) (results : List FederatedTaskResult) :
    ownView own (resultsStep sha contracts parse resultTtlMs results event) =
      ownView own results := by
  cases event with
  | delegate credentials body taskId nowIso =>
      simp only [resultsStep]
      cases htask : acceptedTask sha contracts credentials body taskId with
      | none => rfl
      | some task =>
          have hagent : task.agentId ≠ agent := by
            simpa [FederatedEvent.concerns, isFromAgent_of_accepted htask] using h
          have hmem : task.id ∉ own := fun hmem => hagent
            ((hown task.agentId task.id (by simp [FederatedEvent.acceptance, htask])).mpr hmem)
          exact @ownView_setResult_other own (acceptedResult task.id nowIso) hmem results
  | poll => rfl
  | pendingList => rfl
  | submit taskId output error nowIso =>
      exact ownView_submitResult_other (of_decide_eq_false h) results output error nowIso
  | callbackReturned taskId nowIso =>
      simp only [resultsStep]
      split_ifs
      · exact ownView_submitResult_other (of_decide_eq_false h) results _ _ _
      · rfl
  | callbackThrew taskId message nowIso =>
      exact ownView_submitResult_other (of_decide_eq_false h) results _ _ _
  | evict now => cases h

/-- What is shown of an answer is the same whether it is read off the view. -/
lemma readAnswer_ownView (event : FederatedEvent) (results : List FederatedTaskResult) :
    (readAnswer sha contracts results event).bind (revealOwn own event) =
      (readAnswer sha contracts (ownView own results) event).bind (revealOwn own event) := by
  cases event with
  | poll credentials taskId =>
      by_cases hmem : taskId ∈ own
      · simp only [readAnswer, handleResultPoll, getResult_ownView hmem]
      · simp [readAnswer, revealOwn, hmem]
  | pendingList credentials =>
      simp only [readAnswer, handlePendingList, Option.bind_some]
      cases hauth : authAnswer sha contracts credentials with
      | some answer => rfl
      | none =>
          have hview : ownView own (ownView own results) = ownView own results := by
            simp [ownView, KeyedMerge.view, List.filter_filter]
          simp only [Option.getD_none, revealOwn, getPendingTaskIds_ownView, hview]
  | _ => rfl

/-! ## Two runs -/

/-- What an agent is shown of its own tasks is decided by what concerns it. -/
lemma answersTo_own {events : List FederatedEvent}
    (hown : ∀ event ∈ events, OwnAccepted sha contracts agent own event)
    (results : List FederatedTaskResult) :
    answersTo sha contracts parse resultTtlMs agent (revealOwn own) results events =
      answersTo sha contracts parse resultTtlMs agent (revealOwn own) (ownView own results)
        (events.filter (·.concerns sha contracts agent own)) := by
  induction events generalizing results with
  | nil => rfl
  | cons event events ih =>
      have hevent := hown event List.mem_cons_self
      have hrest := ih (fun other hother => hown other (List.mem_cons_of_mem _ hother))
        (resultsStep sha contracts parse resultTtlMs results event)
      by_cases hconcerns : event.concerns sha contracts agent own = true
      · rw [List.filter_cons_of_pos hconcerns]
        simp only [answersTo]
        rw [hrest, ownView_step hevent hconcerns, readAnswer_ownView]
      · have hother : event.concerns sha contracts agent own = false := by simpa using hconcerns
        rw [List.filter_cons_of_neg hconcerns]
        simp only [answersTo]
        rw [hrest, ownView_step_other hevent hother]
        -- An event that does not concern the agent is no request of it.
        cases event with
        | poll credentials taskId =>
            have hfrom : isFromAgent sha contracts agent credentials = false := hother
            simp [hfrom]
        | pendingList credentials =>
            have hfrom : isFromAgent sha contracts agent credentials = false := hother
            simp [hfrom]
        | _ => rfl

lemma mem_tasksOf {events : List FederatedEvent} {taskId : String} :
    taskId ∈ tasksOf sha contracts agent events ↔
      ∃ event ∈ events, event.acceptance sha contracts = some (agent, taskId) := by
  unfold tasksOf
  rw [List.mem_filterMap]
  refine exists_congr fun event => and_congr_right fun _ => ?_
  cases hacceptance : event.acceptance sha contracts with
  | none => simp
  | some pair =>
      obtain ⟨other, id⟩ := pair
      by_cases hagent : other = agent
      · simp [hagent]
      · simp [hagent]

/-- With unique ids the tasks of the agent are those accepted from it. -/
lemma ownAccepted_of_unique {events : List FederatedEvent}
    (hunique : UniqueTaskIds sha contracts events) {event : FederatedEvent}
    (hevent : event ∈ events) :
    OwnAccepted sha contracts agent (tasksOf sha contracts agent events) event := by
  intro other taskId hacceptance
  constructor
  · rintro rfl
    exact mem_tasksOf.mpr ⟨event, hevent, hacceptance⟩
  · intro hmem
    obtain ⟨first, hfirst, hfirstAcceptance⟩ := mem_tasksOf.mp hmem
    have hpairs := List.inj_on_of_nodup_map hunique
      (List.mem_filterMap.mpr ⟨event, hevent, hacceptance⟩)
      (List.mem_filterMap.mpr ⟨first, hfirst, hfirstAcceptance⟩) rfl
    exact congrArg Prod.fst hpairs

lemma concerns_of_acceptance {event : FederatedEvent} {taskId : String}
    (h : event.acceptance sha contracts = some (agent, taskId)) (own : List String) :
    event.concerns sha contracts agent own = true := by
  cases event with
  | delegate credentials body id nowIso =>
      obtain ⟨task, htask, hpair⟩ := Option.map_eq_some_iff.mp h
      have hagent : task.agentId = agent := congrArg Prod.fst hpair
      simp [FederatedEvent.concerns, isFromAgent_of_accepted htask, hagent]
  | _ => cases h

/-- Runs that agree for the agent accept the same tasks from it. -/
lemma mem_tasksOf_of_agree {events others : List FederatedEvent}
    (hagree : AgreeFor sha contracts agent events others) {taskId : String} :
    taskId ∈ tasksOf sha contracts agent others ↔
      taskId ∈ tasksOf sha contracts agent events := by
  have hsame : ∀ run : List FederatedEvent, taskId ∈ tasksOf sha contracts agent run ↔
      taskId ∈ tasksOf sha contracts agent (run.filter
        (·.concerns sha contracts agent (tasksOf sha contracts agent events))) := by
    intro run
    rw [mem_tasksOf, mem_tasksOf]
    constructor
    · rintro ⟨event, hevent, hacceptance⟩
      exact ⟨event, List.mem_filter.mpr ⟨hevent, concerns_of_acceptance hacceptance _⟩, hacceptance⟩
    · rintro ⟨event, hevent, hacceptance⟩
      exact ⟨event, (List.mem_filter.mp hevent).1, hacceptance⟩
  rw [hsame others, hsame events, ← hagree]

def alphaRun : List FederatedEvent :=
  [.delegate alphaCredentials (some (quotedTask "quote-1" "Summarize the log.")) "task-a"
      "2026-03-01T10:00:00.000Z",
    .submit "task-a" (some "The log is short.") none "2026-03-01T10:01:00.000Z",
    .poll alphaCredentials "task-a",
    .pendingList alphaCredentials]

/-- The same run with a task of the other agent in it. -/
def alphaRunBesideBeta : List FederatedEvent :=
  .delegate betaCredentials (some (quotedTask "quote-2" "Read the mail.")) "task-b"
    "2026-03-01T09:59:00.000Z" :: alphaRun

end AgentBigBrain.Interfaces
