import AgentBigBrain.Core.Canonicalization
import AgentBigBrain.Interfaces.FederatedServer
import AgentBigBrain.Lib.Runs

/-!
# The result file of the federated server

Every change of the results schedules a persist. One persist is in flight at a time; what is asked
for meanwhile is done when it has settled. A persist that fails is not repeated. The server is
modelled with a callback for accepted tasks, from its start to its stop and over restarts, of which
each begins with the results of the file alone.
-/
namespace AgentBigBrain.Interfaces

open AgentBigBrain.Js AgentBigBrain.Core AgentBigBrain.Lib

/-! ## Documents -/

/-- A result in a document that is not yet serialized. The document holds the objects of the map:
what is written into one until then is in the document, and what replaces it in the map is not. -/
inductive CapturedResult where
  | live (taskId : String)
  | released (result : FederatedTaskResult)
  deriving DecidableEq

def CapturedResult.current (results : List FederatedTaskResult) :
    CapturedResult → Option FederatedTaskResult
  | .live taskId => getResult results taskId
  | .released result => some result

inductive PersistStage where
  /-- The document is built, and the directory is being made. -/
  | issued (document : List CapturedResult)
  /-- The serialized document is being written. -/
  | writing (document : List FederatedTaskResult)
  deriving DecidableEq

structure PersistWrite where
  stage : PersistStage
  issuedAfterStop : Bool
  deriving DecidableEq

/-- How far `stop` has come. -/
inductive ServerPhase where
  | running
  /-- The server takes no new connections. -/
  | closing
  | settlingTasks
  | flushing
  | stopped
  deriving DecidableEq

structure FederatedServerState where
  results : List FederatedTaskResult
  persistInFlight : Option PersistWrite
  persistRequested : Bool
  /-- The tasks for which `handleAcceptedTask` runs. -/
  pendingAcceptedTasks : List String
  phase : ServerPhase
  /-- The results in the file; `none` where there is no file. -/
  resultStore : Option (List FederatedTaskResult)
  /-- The last persist has failed, and none was issued since. -/
  lastPersistFailed : Bool
  /-- A persist issued after `stop` was called has failed. -/
  latePersistFailed : Bool
  deriving DecidableEq

inductive ServerEvent where
  | results (event : FederatedEvent)
  | serialized
  | persistSettled (ok : Bool)
  | stopCalled
  | connectionsClosed
  | tasksSettled
  | stopReturned
  /-- A new server starts on the file, whatever became of the one before. -/
  | restarted (now : ℤ)
  deriving DecidableEq

/-! ## Changes of the results -/

structure SubmittedOutcome where
  taskId : String
  output : Option String
  error : Option String
  nowIso : String
  deriving DecidableEq

/-- The outcome that an event submits. -/
def FederatedEvent.outcome (results : List FederatedTaskResult) :
    FederatedEvent → Option SubmittedOutcome
  | .submit taskId output error nowIso => some ⟨taskId, output, error, nowIso⟩
  | .callbackReturned taskId nowIso =>
      if (getResult results taskId).any (fun current => decide (current.status = .pending)) then
        some ⟨taskId, none, some "Accepted task completed without explicit result payload.", nowIso⟩
      else none
  | .callbackThrew taskId message nowIso =>
      some ⟨taskId, none, some ("Task acceptance callback failed: " ++ message), nowIso⟩
  | _ => none

variable (sha : Sha256) (contracts : List FederatedAgentContract)
  (parse : String → Option ℤ) (resultTtlMs : ℤ) (locale : Core.Locale)

/-- The task that an event is accepted as, and when. -/
def FederatedEvent.accepted : FederatedEvent → Option (FederatedTaskRequest × String)
  | .delegate credentials body taskId nowIso =>
      (acceptedTask sha contracts credentials body taskId).map fun task => (task, nowIso)
  | _ => none

/-- The event calls `schedulePersist`. -/
def FederatedEvent.schedulesPersist (results : List FederatedTaskResult) (event : FederatedEvent) :
    Bool :=
  (event.accepted sha contracts).isSome || (event.outcome results).isSome ||
    match event with
    | .evict now => results.any (isExpired parse resultTtlMs now)
    | _ => false

/-- The event takes the object under the id out of the map. -/
def FederatedEvent.releases (results : List FederatedTaskResult) (event : FederatedEvent)
    (taskId : String) : Bool :=
  (event.accepted sha contracts).any (fun accepted => decide (accepted.1.id = taskId)) ||
    match event with
    | .evict now => (getResult results taskId).any (isExpired parse resultTtlMs now)
    | _ => false

def CapturedResult.after (results : List FederatedTaskResult) (event : FederatedEvent) :
    CapturedResult → CapturedResult
  | .live taskId =>
      if event.releases sha contracts parse resultTtlMs results taskId then
        (getResult results taskId).elim (.live taskId) .released
      else .live taskId
  | captured => captured

def PersistWrite.after (results : List FederatedTaskResult) (event : FederatedEvent)
    (write : PersistWrite) : PersistWrite :=
  match write.stage with
  | .issued document =>
      { write with
        stage := .issued (document.map (·.after sha contracts parse resultTtlMs results event)) }
  | .writing _ => write

/-! ## Steps -/

/-- `left.acceptedAt.localeCompare(right.acceptedAt)`. -/
def acceptedAtOrder : Comparator FederatedTaskResult :=
  locale.byKey FederatedTaskResult.acceptedAt

/-- The start of `persistNow`. -/
def issueDocument (results : List FederatedTaskResult) : List CapturedResult :=
  ((acceptedAtOrder locale).sort results).map fun result => .live result.taskId

def serializeDocument (results : List FederatedTaskResult) (document : List CapturedResult) :
    List FederatedTaskResult :=
  document.filterMap (·.current results)

def schedulePersist (state : FederatedServerState) : FederatedServerState :=
  match state.persistInFlight with
  | some _ => { state with persistRequested := true }
  | none =>
      { state with
        persistInFlight := some
          { stage := .issued (issueDocument locale state.results)
            issuedAfterStop := decide (state.phase ≠ .running) }
        lastPersistFailed := false }

/-- What follows a persist that settled: `catch` and `finally` of `schedulePersist`. -/
def settlePersist (state : FederatedServerState) (write : PersistWrite)
    (stored : Option (List FederatedTaskResult)) : FederatedServerState :=
  let settled : FederatedServerState :=
    { state with
      persistInFlight := none
      resultStore := stored.or state.resultStore
      lastPersistFailed := stored.isNone
      latePersistFailed :=
        state.latePersistFailed || (stored.isNone && write.issuedAfterStop) }
  if state.persistRequested then
    schedulePersist locale { settled with persistRequested := false }
  else settled

/-- The results that a start reads from the file. -/
def loadedResults (resultStore : Option (List FederatedTaskResult)) : List FederatedTaskResult :=
  (resultStore.getD []).foldl setResult []

/-- The server that `start` leaves. -/
def startServer (now : ℤ) (resultStore : Option (List FederatedTaskResult)) :
    FederatedServerState :=
  let loaded := loadedResults resultStore
  let started : FederatedServerState :=
    { results := evictExpiredResults parse resultTtlMs now loaded
      persistInFlight := none
      persistRequested := false
      pendingAcceptedTasks := []
      phase := .running
      resultStore := resultStore
      lastPersistFailed := false
      latePersistFailed := false }
  if loaded.any (isExpired parse resultTtlMs now) then schedulePersist locale started else started

/-- The server can see the event. -/
def FederatedEvent.enabled (state : FederatedServerState) : FederatedEvent → Bool
  | .delegate .. | .poll .. | .pendingList .. =>
      decide (state.phase = .running ∨ state.phase = .closing)
  | .callbackReturned taskId _ | .callbackThrew taskId _ _ =>
      decide (taskId ∈ state.pendingAcceptedTasks)
  | .submit .. | .evict _ => true

/-- The tasks with a running `handleAcceptedTask` after the event. -/
def workersAfter (event : FederatedEvent) (workers : List String) : List String :=
  match event with
  | .callbackReturned taskId _ | .callbackThrew taskId _ _ => workers.erase taskId
  | _ => ((event.accepted sha contracts).map (·.1.id)).toList ++ workers

def resultsServerStep (state : FederatedServerState) (event : FederatedEvent) :
    FederatedServerState :=
  let next : FederatedServerState :=
    { state with
      results := resultsStep sha contracts parse resultTtlMs state.results event
      persistInFlight :=
        state.persistInFlight.map (·.after sha contracts parse resultTtlMs state.results event)
      pendingAcceptedTasks := workersAfter sha contracts event state.pendingAcceptedTasks }
  if event.schedulesPersist sha contracts parse resultTtlMs state.results then
    schedulePersist locale next
  else next

def serverStep (state : FederatedServerState) : ServerEvent → Option FederatedServerState
  | .results event =>
      if event.enabled state then
        some (resultsServerStep sha contracts parse resultTtlMs locale state event)
      else none
  | .serialized =>
      match state.persistInFlight with
      | some ⟨.issued document, late⟩ =>
          some { state with
            persistInFlight := some ⟨.writing (serializeDocument state.results document), late⟩ }
      | _ => none
  | .persistSettled true =>
      match state.persistInFlight with
      | some ⟨.writing document, late⟩ =>
          some (settlePersist locale state ⟨.writing document, late⟩ (some document))
      | _ => none
  | .persistSettled false =>
      state.persistInFlight.map fun write => settlePersist locale state write none
  | .stopCalled => if state.phase = .running then some { state with phase := .closing } else none
  | .connectionsClosed =>
      if state.phase = .closing then some { state with phase := .settlingTasks } else none
  | .tasksSettled =>
      if state.phase = .settlingTasks ∧ state.pendingAcceptedTasks = [] then
        some { state with phase := .flushing }
      else none
  | .stopReturned =>
      -- The loop of `flushPersistIfNeeded` writes itself where a persist is requested and none is
      -- in flight. That never is, so it only waits.
      if state.phase = .flushing ∧ state.persistInFlight = none ∧
          state.persistRequested = false then
        some { state with phase := .stopped }
      else none
  | .restarted now => some (startServer parse resultTtlMs locale now state.resultStore)

/-- The first server, before there is a file. -/
def newServer : FederatedServerState where
  results := []
  persistInFlight := none
  persistRequested := false
  pendingAcceptedTasks := []
  phase := .running
  resultStore := none
  lastPersistFailed := false
  latePersistFailed := false

end AgentBigBrain.Interfaces
