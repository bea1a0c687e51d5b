import AgentBigBrain.Core.Sha256
import AgentBigBrain.Lib.KeyedMerge

/-!
# The federated server

External agents hand tasks in and poll for their results. The gateway checks the contract of an
agent; the server keeps one result for each accepted task, in one map for all agents, and an answer
to a poll is what the map holds.
-/
namespace AgentBigBrain.Interfaces

open AgentBigBrain.Js AgentBigBrain.Core AgentBigBrain.Lib

/-! ## The gateway -/

structure FederatedAgentContract where
  externalAgentId : String
  sharedSecretHash : String
  /-- `none` where the number is not finite. -/
  maxQuotedCostUsd : Option ℚ
  deriving DecidableEq

structure FederatedInboundTask where
  quoteId : String
  /-- `none` where the number is not finite. -/
  quotedCostUsd : Option ℚ
  goal : String
  userInput : String
  requestedAt : Option String
  deriving DecidableEq

inductive FederatedBlockCode where
  | agentNotAllowlisted
  | authFailed
  | quoteExceeded
  | requestInvalid
  deriving DecidableEq

structure FederatedAuthenticationDecision where
  authenticated : Bool
  blockedBy : Option FederatedBlockCode
  contractId : String
  deriving DecidableEq

/-- The part of the task request that comes from the inbound task. -/
structure FederatedTaskRequest where
  id : String
  agentId : String
  goal : String
  userInput : String
  deriving DecidableEq

structure FederatedDelegationDecision where
  blockedBy : Option FederatedBlockCode
  contractId : String
  taskRequest : Option FederatedTaskRequest
  deriving DecidableEq

def FederatedDelegationDecision.accepted (decision : FederatedDelegationDecision) : Bool :=
  decision.taskRequest.isSome

def clampNonNegative (value : Option ℚ) : ℚ := max 0 (value.getD 0)

/-- The contract of the agent; of two contracts for one agent the last. -/
def contractByAgentId (contracts : List FederatedAgentContract) (agentId : String) :
    Option FederatedAgentContract :=
  contracts.reverse.find? fun contract => decide (trim contract.externalAgentId = agentId)

variable (sha : Sha256) (contracts : List FederatedAgentContract)

def authenticateInboundAgent (externalAgentId sharedSecret : String) :
    FederatedAuthenticationDecision :=
  let normalizedAgentId := trim externalAgentId
  let contractId := normalizedAgentId ++ ":auth"
  match contractByAgentId contracts normalizedAgentId with
  | none =>
      { authenticated := false, blockedBy := some .agentNotAllowlisted, contractId := contractId }
  | some contract =>
      if sha.digest sharedSecret ≠ contract.sharedSecretHash then
        { authenticated := false, blockedBy := some .authFailed, contractId := contractId }
      else { authenticated := true, blockedBy := none, contractId := contractId }

/-- `taskId` is the id that `makeId` would give. -/
def routeInboundRequest (input : FederatedInboundTask) (externalAgentId sharedSecret : String)
    (taskId : String) : FederatedDelegationDecision :=
  let normalizedAgentId := trim externalAgentId
  let contractId := normalizedAgentId ++ ":" ++ trim input.quoteId
  let authentication := authenticateInboundAgent sha contracts normalizedAgentId sharedSecret
  let refused (code : Option FederatedBlockCode) : FederatedDelegationDecision :=
    { blockedBy := code, contractId := contractId, taskRequest := none }
  if authentication.authenticated = false then refused authentication.blockedBy
  else
    match contractByAgentId contracts normalizedAgentId with
    | none => refused (some .agentNotAllowlisted)
    | some contract =>
        if clampNonNegative contract.maxQuotedCostUsd < clampNonNegative input.quotedCostUsd then
          refused (some .quoteExceeded)
        else if trim input.goal = "" ∨ trim input.userInput = "" then
          refused (some .requestInvalid)
        else
          { blockedBy := none
            contractId := contractId
            taskRequest := some
              { id := taskId
                agentId := normalizedAgentId
                goal := "[FederatedContract " ++ contractId ++ "] " ++ trim input.goal
                userInput := trim input.userInput } }

/-! ## Results -/

inductive FederatedTaskStatus where
  | pending
  | completed
  | failed
  deriving DecidableEq

structure FederatedTaskResult where
  taskId : String
  status : FederatedTaskStatus
  output : Option String
  error : Option String
  acceptedAt : String
  completedAt : Option String
  deriving DecidableEq

/-- The map of results, in the order in which its keys were first written. -/
def resultMap : KeyedMerge FederatedTaskResult String where
  key := FederatedTaskResult.taskId
  choose _ incoming := incoming
  key_choose _ _ _ := rfl

def getResult (results : List FederatedTaskResult) (taskId : String) :
    Option FederatedTaskResult :=
  resultMap.find taskId results

def setResult (results : List FederatedTaskResult) (result : FederatedTaskResult) :
    List FederatedTaskResult :=
  resultMap.upsert result results

def acceptedResult (taskId nowIso : String) : FederatedTaskResult where
  taskId := taskId
  status := .pending
  output := none
  error := none
  acceptedAt := nowIso
  completedAt := none

/-- `error ? "failed" : "completed"`. -/
def outcomeStatus (error : Option String) : FederatedTaskStatus :=
  if error.any (fun text => decide (text ≠ "")) then .failed else .completed

def submitResult (results : List FederatedTaskResult) (taskId : String)
    (output error : Option String) (nowIso : String) : List FederatedTaskResult :=
  match getResult results taskId with
  | none =>
      setResult results
        { taskId := taskId
          status := outcomeStatus error
          output := output
          error := error
          acceptedAt := nowIso
          completedAt := some nowIso }
  | some existing =>
      setResult results
        { existing with
          status := outcomeStatus error
          output := output
          error := error
          completedAt := some nowIso }

def getPendingTaskIds (results : List FederatedTaskResult) : List String :=
  (results.filter fun result => decide (result.status = .pending)).map (·.taskId)

/-- A result that the sweep at `now` removes; `parse` reads a stamp as `Date.parse` does. -/
def isExpired (parse : String → Option ℤ) (resultTtlMs now : ℤ) (result : FederatedTaskResult) :
    Bool :=
  decide (result.status ≠ .pending) &&
    (result.completedAt.bind parse).any fun completedAtMs =>
      decide (completedAtMs < now - resultTtlMs)

def evictExpiredResults (parse : String → Option ℤ) (resultTtlMs now : ℤ)
    (results : List FederatedTaskResult) : List FederatedTaskResult :=
  results.filter fun result => !isExpired parse resultTtlMs now result

/-! ## Requests -/

structure FederatedCredentials where
  agentId : String
  secret : String
  deriving DecidableEq

inductive FederatedAnswer where
  | missingHeaders
  | refused (blockedBy : Option FederatedBlockCode)
  | result (result : FederatedTaskResult)
  | noTask (taskId : String)
  | pendingTaskIds (ids : List String)
  deriving DecidableEq

/-- `extractAuthDecision`, with the answer that a request without it gets. -/
def authAnswer (credentials : FederatedCredentials) : Option FederatedAnswer :=
  if trim credentials.agentId = "" ∨ credentials.secret = "" then some .missingHeaders
  else
    let decision :=
      authenticateInboundAgent sha contracts (trim credentials.agentId) credentials.secret
    if decision.authenticated then none else some (.refused decision.blockedBy)

def handleResultPoll (results : List FederatedTaskResult) (credentials : FederatedCredentials)
    (taskId : String) : FederatedAnswer :=
  (authAnswer sha contracts credentials).getD
    (match getResult results taskId with
    | none => .noTask taskId
    | some result => .result result)

def handlePendingList (results : List FederatedTaskResult) (credentials : FederatedCredentials) :
    FederatedAnswer :=
  (authAnswer sha contracts credentials).getD (.pendingTaskIds (getPendingTaskIds results))

/-- The task that a request to delegate is accepted as. -/
def acceptedTask (credentials : FederatedCredentials) (body : Option FederatedInboundTask)
    (taskId : String) : Option FederatedTaskRequest :=
  if trim credentials.agentId = "" ∨ credentials.secret = "" then none
  else
    body.bind fun input =>
      (routeInboundRequest sha contracts input (trim credentials.agentId) credentials.secret
        taskId).taskRequest

/-- What happens to the results. -/
inductive FederatedEvent where
  /-- A request to delegate; `none` where its body is no task. -/
  | delegate (credentials : FederatedCredentials) (body : Option FederatedInboundTask)
    (taskId nowIso : String)
  | poll (credentials : FederatedCredentials) (taskId : String)
  | pendingList (credentials : FederatedCredentials)
  | submit (taskId : String) (output error : Option String) (nowIso : String)
  /-- `onTaskAccepted` returned for the task. -/
  | callbackReturned (taskId nowIso : String)
  /-- `onTaskAccepted` threw for the task. -/
  | callbackThrew (taskId message nowIso : String)
  | evict (now : ℤ)
  deriving DecidableEq

/-- The results after an event. -/
def resultsStep (parse : String → Option ℤ) (resultTtlMs : ℤ)
    (results : List FederatedTaskResult) : FederatedEvent → List FederatedTaskResult
  | .delegate credentials body taskId nowIso =>
      match acceptedTask sha contracts credentials body taskId with
      | some task => setResult results (acceptedResult task.id nowIso)
      | none => results
  | .poll _ _ | .pendingList _ => results
  | .submit taskId output error nowIso => submitResult results taskId output error nowIso
  | .callbackReturned taskId nowIso =>
      if (getResult results taskId).any (fun current => decide (current.status = .pending)) then
        submitResult results taskId none
          (some "Accepted task completed without explicit result payload.") nowIso
      else results
  | .callbackThrew taskId message nowIso =>
      submitResult results taskId none (some ("Task acceptance callback failed: " ++ message))
        nowIso
  | .evict now => evictExpiredResults parse resultTtlMs now results

/-- The answer of the result endpoint or of the pending endpoint. -/
def readAnswer (results : List FederatedTaskResult) : FederatedEvent → Option FederatedAnswer
  | .poll credentials taskId => some (handleResultPoll sha contracts results credentials taskId)
  | .pendingList credentials => some (handlePendingList sha contracts results credentials)
  | _ => none

/-! ## Two agents -/

def federationSha : Sha256 :=
  Sha256.ofTable
    [("", "e3b0c44298fc1c149afbf4c8996fb92427ae41e4649b934ca495991b7852b855"),
      ("alpha-secret", "3f8ad42d6dc52445378196cb2e49281f812253eaea7830fe46f4756f2ca0a3d4"),
      ("beta-secret", "d40ab4efae8afe82f0fda0f0fc785ff61bec7b5f329c6070c453594397e03568")]
    (((validTable_nil.cons (by decide) (by decide)).cons (by decide) (by decide)).cons
      (by decide) (by decide))

def twoAgents : List FederatedAgentContract :=
  [{ externalAgentId := "alpha"
     sharedSecretHash := "3f8ad42d6dc52445378196cb2e49281f812253eaea7830fe46f4756f2ca0a3d4"
     maxQuotedCostUsd := some 5 },
    { externalAgentId := "beta"
      sharedSecretHash := "d40ab4efae8afe82f0fda0f0fc785ff61bec7b5f329c6070c453594397e03568"
      maxQuotedCostUsd := some 5 }]

def alphaCredentials : FederatedCredentials where
  agentId := "alpha"
  secret := "alpha-secret"

def betaCredentials : FederatedCredentials where
  agentId := "beta"
  secret := "beta-secret"

def quotedTask (quoteId goal : String) : FederatedInboundTask where
  quoteId := quoteId
  quotedCostUsd := some 1
  goal := goal
  userInput := goal
  requestedAt := none

end AgentBigBrain.Interfaces
