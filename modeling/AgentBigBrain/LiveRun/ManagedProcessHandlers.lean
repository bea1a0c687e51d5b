import AgentBigBrain.LiveRun.ManagedProcessRegistry
import AgentBigBrain.Lib.Runs
import AgentBigBrain.Lib.Sightings

/-!
# Starting, checking and stopping managed processes

A handler runs up to its next `await`; what it waits for there is part of the state. The sightings
are not: they log which process a lease stands for, and what the runtime was told of it.
-/
namespace AgentBigBrain.LiveRun

open AgentBigBrain.Lib

/-- What `executeStopProcess` and `executeCheckProcess` report: their failure codes, and the
lifecycle status and the snapshot in their metadata. -/
inductive ProcessReport where
  | blocked (failureCode : String)
  | failed (failureCode : String)
  | success (lifecycleStatus : ManagedProcessLifecycleCode)
      (snapshot : Option ManagedProcessSnapshot)
  deriving DecidableEq

/-! ## Stopping -/

inductive KillTarget where
  | child (child : ChildProcess)
  | pid (pid : ℕ)
  deriving DecidableEq

/-- What `executeStopProcess` kills: the child of the lease before the given pid before the pid of
the lease. -/
def killTarget (child : Option ChildProcess) (recoveredPid : Option ℕ)
    (snapshot : ManagedProcessSnapshot) : Option KillTarget :=
  match child with
  | some child => some (.child child)
  | none => (recoveredPid.or snapshot.pid).map .pid

/-- A stop that waits for its kill. -/
structure StopInFlight where
  leaseId : Option String
  target : KillTarget
  deriving DecidableEq

inductive StopProgress where
  | reported (report : ProcessReport)
  | killing (stop : StopInFlight)
  /-- `waitForClosed` races the close promise of the lease against its timeout. -/
  | racing (leaseId : String)
  deriving DecidableEq

/-- `executeStopProcess` up to the kill. The arguments are normalized. -/
def executeStopProcess (registry : ManagedProcessRegistry) (leaseId : Option String)
    (recoveredPid : Option ℕ) : ManagedProcessRegistry × StopProgress :=
  match leaseId, recoveredPid with
  | none, none => (registry, .reported (.blocked "PROCESS_MISSING_LEASE_ID"))
  | none, some pid => (registry, .killing ⟨none, .pid pid⟩)
  | some leaseId, recoveredPid =>
      let marked := registry.markStopRequested leaseId
      match marked.peekSnapshot leaseId with
      | none => (marked, .reported (.blocked "PROCESS_LEASE_NOT_FOUND"))
      | some snapshot =>
          if snapshot.statusCode = .PROCESS_STOPPED ∧ recoveredPid = none then
            (marked, .reported (.success .PROCESS_STOPPED (some snapshot)))
          else
            match killTarget (marked.getChild leaseId) recoveredPid snapshot with
            | none => (marked, .reported (.failed "PROCESS_STOP_FAILED"))
            | some target => (marked, .killing ⟨some leaseId, target⟩)

/-- What `waitForClosed` answers at once. -/
inductive WaitAnswer where
  | answered (closed : Option ManagedProcessSnapshot)
  | racing
  deriving DecidableEq

def waitForClosed (registry : ManagedProcessRegistry) (leaseId : String) : WaitAnswer :=
  match registry.getRecord leaseId with
  | none => .answered none
  | some record =>
      if record.snapshot.statusCode = .PROCESS_STOPPED then .answered (some record.snapshot)
      else .racing

/-- What the race of `waitForClosed` ends with: the timeout wins where the promise is open. -/
def raceClosed (registry : ManagedProcessRegistry) (leaseId : String) :
    Option ManagedProcessSnapshot :=
  (registry.getRecord leaseId).bind (·.closePromise)

/-- The report of a stop whose wait has ended. -/
def stopReport (closedSnapshot : Option ManagedProcessSnapshot) : ProcessReport :=
  match closedSnapshot with
  | none => .failed "PROCESS_STOP_FAILED"
  | some closed => .success .PROCESS_STOPPED (some closed)

/-- A stop by pid marks its lease stopped. -/
def StopInFlight.marked (stop : StopInFlight) (registry : ManagedProcessRegistry)
    (leaseId : String) : ManagedProcessRegistry :=
  match stop.target with
  | .child _ => registry
  | .pid _ => registry.markRecoveredStopped leaseId none (some "SIGTERM")

/-- `executeStopProcess` from the answer of the kill on. -/
def StopInFlight.resume (stop : StopInFlight) (registry : ManagedProcessRegistry)
    (killAccepted : Bool) : ManagedProcessRegistry × StopProgress :=
  if killAccepted then
    match stop.leaseId with
    | none => (registry, .reported (.success .PROCESS_STOPPED none))
    | some leaseId =>
        match waitForClosed (stop.marked registry leaseId) leaseId with
        | .answered closed => (stop.marked registry leaseId, .reported (stopReport closed))
        | .racing => (stop.marked registry leaseId, .racing leaseId)
  else (registry, .reported (.failed "PROCESS_STOP_FAILED"))

/-! ## Checking -/

/-- A check that waits for the inspection of the workspace. -/
structure CheckInFlight where
  leaseId : String
  persistedSnapshot : ManagedProcessSnapshot
  deriving DecidableEq

/-- A preview server that was found to serve the workspace and to answer. -/
structure UntrackedHolderCandidate where
  pid : ℕ
  port : ℕ
  deriving DecidableEq

def buildLoopbackRequestedUrl (host : String) (port : ℕ) : String :=
  "http://" ++ (if host = "::1" then "[::1]" else host) ++ ":" ++ toString port

def UntrackedHolderCandidate.details (candidate : UntrackedHolderCandidate) (host : String) :
    RecoveredPreview where
  pid := candidate.pid
  requestedHost := some host
  requestedPort := some candidate.port
  requestedUrl := some (buildLoopbackRequestedUrl host candidate.port)

/-- `executeCheckProcess` asks for the pid it has read, and it is not running. -/
def CheckInFlight.FindsDead (check : CheckInFlight) (registry : ManagedProcessRegistry)
    (isProcessRunning : ℕ → Bool) : Prop :=
  check.persistedSnapshot.statusCode ≠ .PROCESS_STOPPED ∧
    registry.getChild check.leaseId = none ∧
    ∃ pid ∈ check.persistedSnapshot.pid, isProcessRunning pid = false

instance (check : CheckInFlight) (registry : ManagedProcessRegistry)
    (isProcessRunning : ℕ → Bool) : Decidable (check.FindsDead registry isProcessRunning) :=
  inferInstanceAs (Decidable (_ ∧ _ ∧ _))

/-- The check may look for another process of the workspace. -/
def CheckInFlight.CanRecover (check : CheckInFlight) (registry : ManagedProcessRegistry)
    (isProcessRunning : ℕ → Bool) : Prop :=
  registry.getChild check.leaseId = none ∧
    ∀ pid ∈ check.persistedSnapshot.pid, isProcessRunning pid = false

instance (check : CheckInFlight) (registry : ManagedProcessRegistry)
    (isProcessRunning : ℕ → Bool) : Decidable (check.CanRecover registry isProcessRunning) :=
  inferInstanceAs (Decidable (_ ∧ _))

/-- The registry that a check leaves which has recovered nothing. -/
def CheckInFlight.marked (check : CheckInFlight) (registry : ManagedProcessRegistry)
    (isProcessRunning : ℕ → Bool) : ManagedProcessRegistry :=
  (if check.FindsDead registry isProcessRunning then
    registry.markRecoveredStopped check.leaseId none none
  else registry).markObservedRunning check.leaseId

/-- The report of a check that has recovered nothing. -/
def checkReport (snapshot : Option ManagedProcessSnapshot) : ProcessReport :=
  match snapshot with
  | none => .blocked "PROCESS_LEASE_NOT_FOUND"
  | some snapshot =>
      if snapshot.statusCode = .PROCESS_STOPPED then .success .PROCESS_STOPPED (some snapshot)
      else .success .PROCESS_STILL_RUNNING (some snapshot)

/-! ## The runtime -/

/-- What a lease can stand for. A pid is absent where the child never got one. -/
inductive ProcessThing where
  | child (child : ChildProcess)
  | pid (pid : Option ℕ)
  deriving DecidableEq

structure LiveRunState where
  registry : ManagedProcessRegistry
  /-- The close listeners that have not been called, with the lease they were made for. -/
  listeners : List (ChildProcess × String)
  /-- The leases whose start still looks for the process behind the wrapper it spawned. -/
  promotions : List String
  checks : List CheckInFlight
  stops : List StopInFlight
  waits : List String
  sightings : List (Sighting String ProcessThing)
  deriving DecidableEq

inductive LiveRunEvent where
  | started (leaseId startedAt : String) (input : ManagedProcessRegistry.LeaseInput)
      (child : ChildProcess)
  | adopted (leaseId startedAt : String) (input : ManagedProcessRegistry.LeaseInput) (pid : ℕ)
  | promoted (leaseId host : String) (candidate : UntrackedHolderCandidate)
  | aborted (leaseId : String)
  | checkCalled (leaseId : Option String) (isProcessRunning isRunningAfter : ℕ → Bool)
  | checkInspected (check : CheckInFlight) (recovered : Option UntrackedHolderCandidate)
      (isProcessRunning : ℕ → Bool)
  | stopCalled (leaseId : Option String) (recoveredPid : Option ℕ)
  | killAnswered (stop : StopInFlight) (accepted : Bool)
  | waitSettled (leaseId : String)
  | childClosed (child : ChildProcess) (leaseId : String) (exitCode : Option ℤ)
      (signal : Option String)
  | snapshotRead (leaseId : String) (isProcessAlive : Option ℕ → Bool)
  | snapshotsListed (isProcessAlive : Option ℕ → Bool)
  | restarted (isProcessAlive : Option ℕ → Bool)

/-- A runtime before its first lease. -/
def newRuntime (hasSnapshotPath : Bool) : LiveRunState where
  registry := { records := [], hasSnapshotPath := hasSnapshotPath, persisted := [] }
  listeners := []
  promotions := []
  checks := []
  stops := []
  waits := []
  sightings := []

/-- The pids that a reconciliation of the records finds not alive. -/
def deadPids (isProcessAlive : Option ℕ → Bool) (records : List ManagedProcessRuntimeRecord) :
    List ProcessThing :=
  (records.filter fun record => record.FoundDead isProcessAlive).map fun record =>
    .pid record.snapshot.pid

namespace LiveRunState

def saw (state : LiveRunState) (things : List ProcessThing) : LiveRunState :=
  { state with sightings := things.map .gone ++ state.sightings }

/-- `markRecoveredRunning`, from when on the lease stands for the process found. -/
def recover (state : LiveRunState) (leaseId : String) (details : RecoveredPreview) :
    LiveRunState :=
  match state.registry.getRecord leaseId with
  | none => state
  | some _ =>
      { state with
        registry := state.registry.markRecoveredRunning leaseId details
        sightings := .stands leaseId [.pid (some details.pid)] :: state.sightings }

/-- A check that has recovered nothing. -/
def finishCheck (state : LiveRunState) (check : CheckInFlight) (isProcessRunning : ℕ → Bool) :
    LiveRunState :=
  { state.saw (if check.FindsDead state.registry isProcessRunning then
      [.pid check.persistedSnapshot.pid] else []) with
    registry := check.marked state.registry isProcessRunning }

/-- The check of a known lease, up to the inspection where it makes one. -/
def beginCheck (state : LiveRunState) (check : CheckInFlight)
    (isProcessRunning isRunningAfter : ℕ → Bool) : LiveRunState :=
  if check.CanRecover state.registry isProcessRunning then
    { state.saw (check.persistedSnapshot.pid.toList.map fun pid => .pid (some pid)) with
      checks := check :: state.checks }
  else state.finishCheck check isRunningAfter

/-- Takes the registry and the progress of a stop into the state. -/
def stopProgress (state : LiveRunState) (result : ManagedProcessRegistry × StopProgress) :
    LiveRunState :=
  match result.2 with
  | .reported _ => { state with registry := result.1 }
  | .killing stop => { state with registry := result.1, stops := stop :: state.stops }
  | .racing leaseId => { state with registry := result.1, waits := leaseId :: state.waits }

end LiveRunState

def liveRunStep (state : LiveRunState) : LiveRunEvent → Option LiveRunState
  | .started leaseId startedAt input child =>
      some { state with
        registry := state.registry.registerStarted leaseId startedAt input child
        listeners := (child, leaseId) :: state.listeners
        promotions := leaseId :: state.promotions
        sightings := .stands leaseId [.child child, .pid child.pid] :: state.sightings }
  | .adopted leaseId startedAt input pid =>
      some { state with
        registry := state.registry.registerRecoveredRunningLease leaseId startedAt input pid
        sightings := .stands leaseId [.pid (some pid)] :: state.sightings }
  | .promoted leaseId host candidate =>
      if leaseId ∈ state.promotions then
        some { state.recover leaseId (candidate.details host) with
          promotions := state.promotions.erase leaseId }
      else none
  | .aborted leaseId =>
      some { state with registry := state.registry.markStopRequested leaseId }
  | .checkCalled none _ _ => some state
  | .checkCalled (some leaseId) isProcessRunning isRunningAfter =>
      match state.registry.peekSnapshot leaseId with
      | none => some state
      | some snapshot =>
          some (state.beginCheck ⟨leaseId, snapshot⟩ isProcessRunning isRunningAfter)
  | .checkInspected check recovered isProcessRunning =>
      if check ∈ state.checks then
        match recovered with
        | some candidate =>
            some { state.recover check.leaseId
                (candidate.details (check.persistedSnapshot.requestedHost.getD "127.0.0.1")) with
              checks := state.checks.erase check }
        | none =>
            some { state.finishCheck check isProcessRunning with
              checks := state.checks.erase check }
      else none
  | .stopCalled leaseId recoveredPid =>
      some (state.stopProgress (executeStopProcess state.registry leaseId recoveredPid))
  | .killAnswered stop accepted =>
      if stop ∈ state.stops then
        some ({ state with stops := state.stops.erase stop }.stopProgress
          (stop.resume state.registry accepted))
      else none
  | .waitSettled leaseId =>
      if leaseId ∈ state.waits then some { state with waits := state.waits.erase leaseId }
      else none
  | .childClosed child leaseId exitCode signal =>
      if (child, leaseId) ∈ state.listeners then
        some { state.saw [.child child] with
          registry := state.registry.markClosed leaseId exitCode signal
          listeners := state.listeners.erase (child, leaseId) }
      else none
  | .snapshotRead leaseId isProcessAlive =>
      some { state.saw (deadPids isProcessAlive (state.registry.getRecord leaseId).toList) with
        registry := state.registry.reconcileSnapshot isProcessAlive leaseId }
  | .snapshotsListed isProcessAlive =>
      some { state.saw (deadPids isProcessAlive state.registry.records) with
        registry := state.registry.reconcilePersistedSnapshots isProcessAlive }
  | .restarted isProcessAlive =>
      let hydrated := state.registry.hydratePersistedSnapshots
      some
        { registry := hydrated.reconcilePersistedSnapshots isProcessAlive
          listeners := []
          promotions := []
          checks := []
          stops := []
          waits := []
          sightings :=
            (deadPids isProcessAlive hydrated.records).map .gone ++ state.sightings }

/-! ## Answers -/

/-- What `waitForClosed` gives a stop in the step. -/
def LiveRunEvent.waitAnswer (state : LiveRunState) : LiveRunEvent → Option ManagedProcessSnapshot
  | .killAnswered stop true =>
      stop.leaseId.bind fun leaseId =>
        match waitForClosed (stop.marked state.registry leaseId) leaseId with
        | .answered closed => closed
        | .racing => none
  | .waitSettled leaseId => raceClosed state.registry leaseId
  | _ => none

def StopProgress.report : StopProgress → Option ProcessReport
  | .reported report => some report
  | .killing _ | .racing _ => none

/-- The report of a check or a stop that ends with the step. -/
def LiveRunEvent.report (state : LiveRunState) : LiveRunEvent → Option ProcessReport
  | .checkCalled none _ _ => some (.blocked "PROCESS_MISSING_LEASE_ID")
  | .checkCalled (some leaseId) isProcessRunning isRunningAfter =>
      match state.registry.peekSnapshot leaseId with
      | none => some (.blocked "PROCESS_LEASE_NOT_FOUND")
      | some snapshot =>
          let check : CheckInFlight := ⟨leaseId, snapshot⟩
          if check.CanRecover state.registry isProcessRunning then none
          else
            some (checkReport ((check.marked state.registry isRunningAfter).peekSnapshot leaseId))
  | .checkInspected check none isProcessRunning =>
      some (checkReport
        ((check.marked state.registry isProcessRunning).peekSnapshot check.leaseId))
  | .checkInspected check (some candidate) _ =>
      some (.success .PROCESS_STILL_RUNNING
        ((state.registry.markRecoveredRunning check.leaseId
          (candidate.details (check.persistedSnapshot.requestedHost.getD "127.0.0.1"))).peekSnapshot
          check.leaseId))
  | .stopCalled leaseId recoveredPid =>
      (executeStopProcess state.registry leaseId recoveredPid).2.report
  | .killAnswered stop accepted => (stop.resume state.registry accepted).2.report
  | .waitSettled leaseId => some (stopReport (raceClosed state.registry leaseId))
  | _ => none

end AgentBigBrain.LiveRun
