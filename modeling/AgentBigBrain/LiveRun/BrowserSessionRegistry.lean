import AgentBigBrain.Js.Host
import AgentBigBrain.Lib.KeyedMerge
import AgentBigBrain.Lib.Runs

/-!
# The registry of browser sessions

A session is a window that the runtime opened: through Playwright, with a handle to control it,
or through the default browser of the desktop, without one. Status, handle, control flag, pid and
close time are written by each operation on its own. The file of the registry keeps no handles.
-/
namespace AgentBigBrain.LiveRun

open AgentBigBrain.Js AgentBigBrain.Lib

inductive BrowserSessionControllerKind where
  | playwrightManaged
  | osDefault
  deriving DecidableEq

inductive BrowserSessionVisibility where
  | visible
  | headless
  deriving DecidableEq

inductive BrowserSessionStatus where
  | isOpen
  | isClosed
  deriving DecidableEq

structure BrowserSessionSnapshot where
  sessionId : String
  url : String
  status : BrowserSessionStatus
  openedAt : String
  closedAt : Option String
  visibility : BrowserSessionVisibility
  controllerKind : BrowserSessionControllerKind
  controlAvailable : Bool
  browserProcessPid : Option ℤ
  workspaceRootPath : Option String
  linkedProcessLeaseId : Option String
  linkedProcessCwd : Option String
  linkedProcessPid : Option ℤ
  deriving DecidableEq

variable {η : Type}

/-- `η` is the type of the handles that Playwright gives for a browser, its context and page. -/
structure BrowserSessionRecord (η : Type) extends BrowserSessionSnapshot where
  handle : Option η
  deriving DecidableEq

/-- A reading of the clock. All records of a loop are looked at in one moment. -/
structure ClockTime where
  iso : String
  ms : ℤ
  deriving DecidableEq

def STALE_UNCONTROLLED_MANAGED_SESSION_MAX_AGE_MS : ℤ := 10 * 60 * 1000

/-- The sessions in the order of the map. -/
structure BrowserSessionRegistry (η : Type) where
  sessions : List (BrowserSessionRecord η)
  /-- The registry was given a `snapshotPath`. -/
  hasSnapshotPath : Bool
  /-- The sessions in the file at that path. -/
  persisted : List BrowserSessionSnapshot
  deriving DecidableEq

/-- The map of sessions, in the order in which their ids were first written. -/
def sessionMap (η : Type) : KeyedMerge (BrowserSessionRecord η) String where
  key record := record.sessionId
  choose _ incoming := incoming
  key_choose _ _ _ := rfl

/-- `new URL(url).toString()`; `none` when it throws. -/
def normalizeSessionUrl (host : Host) (url : String) : Option String :=
  (host.parseUrl url).map (·.href)

/-! ## Updates of one record -/

namespace BrowserSessionRecord

/-- The ownership metadata of an annotation; `none` leaves a field as it is. -/
structure Ownership where
  workspaceRootPath : Option String
  linkedProcessLeaseId : Option String
  linkedProcessCwd : Option String
  linkedProcessPid : Option ℤ
  deriving DecidableEq

def annotated (record : BrowserSessionRecord η) (details : Ownership) : BrowserSessionRecord η :=
  { record with
    workspaceRootPath := details.workspaceRootPath.or record.workspaceRootPath
    linkedProcessLeaseId := details.linkedProcessLeaseId.or record.linkedProcessLeaseId
    linkedProcessCwd := details.linkedProcessCwd.or record.linkedProcessCwd
    linkedProcessPid := details.linkedProcessPid.or record.linkedProcessPid }

/-- The session is refreshed only while it is open and controlled through its handle. -/
def Reusable (record : BrowserSessionRecord η) : Prop :=
  record.status = .isOpen ∧ record.controlAvailable = true ∧ record.handle.isSome

instance (record : BrowserSessionRecord η) : Decidable record.Reusable :=
  inferInstanceAs (Decidable (_ ∧ _))

/-- The record after its refresh failed. The control flag is not written. -/
def reuseFailed (record : BrowserSessionRecord η) (nowIso : String) : BrowserSessionRecord η :=
  { record with status := .isClosed, closedAt := some nowIso, handle := none }

/-- What `closeSession` did before it marks a session closed. -/
inductive Teardown (η : Type) where
  | handleClosed (handle : η)
  /-- The terminator was asked, and says whether the process is terminated. -/
  | askedTerminator (pid : ℤ) (closedByPid : Bool)
  | nothing
  deriving DecidableEq

/-- The teardown of an open session; errors of the handle's own `close` are swallowed. -/
def teardown (record : BrowserSessionRecord η) (closeProcessByPid : Option (ℤ → Bool)) :
    Teardown η :=
  match record.handle with
  | some handle => .handleClosed handle
  | none =>
      match record.controllerKind, record.browserProcessPid, closeProcessByPid with
      | .playwrightManaged, some pid, some close => .askedTerminator pid (close pid)
      | _, _, _ => .nothing

def markClosed (record : BrowserSessionRecord η) (nowIso : String) : BrowserSessionRecord η :=
  { record with
    status := .isClosed
    closedAt := some nowIso
    controlAvailable := false
    handle := none }

/-- A terminator that did not terminate the process leaves the session as it is. -/
def closeAfter (record : BrowserSessionRecord η) (nowIso : String) :
    Teardown η → Option (BrowserSessionRecord η)
  | .askedTerminator _ false => none
  | _ => some (record.markClosed nowIso)

/-- `closedAt ??= now`. -/
def closedFromLinkedResourceShutdown (record : BrowserSessionRecord η) (nowIso : String) :
    BrowserSessionRecord η :=
  { record with
    status := .isClosed
    closedAt := record.closedAt.or (some nowIso)
    controlAvailable := false
    handle := none
    browserProcessPid := none }

end BrowserSessionRecord

def isOlderThanStaleManagedSessionThreshold (host : Host) (now : ClockTime) (openedAt : String) :
    Bool :=
  match host.dateParse openedAt with
  | none => true
  | some openedAtMs =>
      decide (STALE_UNCONTROLLED_MANAGED_SESSION_MAX_AGE_MS ≤ now.ms - openedAtMs)

namespace BrowserSessionRecord

variable (host : Host) (isProcessAlive : Option ℤ → Bool) (now : ClockTime)

/-- `shouldCloseRecord`. -/
def ShouldClose (record : BrowserSessionRecord η) : Prop :=
  (record.browserProcessPid.isSome ∧ isProcessAlive record.browserProcessPid = false) ∨
    (record.browserProcessPid = none ∧ record.linkedProcessPid.isSome ∧
      isProcessAlive record.linkedProcessPid = false ∧ record.controlAvailable = false) ∨
    (record.controllerKind = .playwrightManaged ∧ record.controlAvailable = false ∧
      record.browserProcessPid = none ∧ record.linkedProcessPid = none ∧
      record.linkedProcessLeaseId = none ∧
      isOlderThanStaleManagedSessionThreshold host now record.openedAt = true)

instance (record : BrowserSessionRecord η) :
    Decidable (record.ShouldClose host isProcessAlive now) :=
  inferInstanceAs (Decidable (_ ∨ _ ∨ _))

/-- The record is open and has no handle. -/
def Unattended (record : BrowserSessionRecord η) : Prop :=
  record.status = .isOpen ∧ record.handle = none

instance (record : BrowserSessionRecord η) : Decidable record.Unattended :=
  inferInstanceAs (Decidable (_ ∧ record.handle = none))

/-- `reconcileBrowserSessionRecord`. -/
def reconciled (record : BrowserSessionRecord η) : BrowserSessionRecord η :=
  if record.Unattended then
    if record.ShouldClose host isProcessAlive now then
      { record with
        status := .isClosed
        closedAt := record.closedAt.or (some now.iso)
        controlAvailable := false }
    else
      { record with
        controlAvailable := decide (record.controllerKind = .playwrightManaged ∧
          record.browserProcessPid.isSome ∧ isProcessAlive record.browserProcessPid = true) }
  else record

/-- What `reconcileBrowserSessionRecord` returns. -/
def ClosedByReconcile (record : BrowserSessionRecord η) : Prop :=
  record.Unattended ∧ record.ShouldClose host isProcessAlive now

instance (record : BrowserSessionRecord η) :
    Decidable (record.ClosedByReconcile host isProcessAlive now) :=
  inferInstanceAs (Decidable (_ ∧ _))

end BrowserSessionRecord

/-! ## The file -/

namespace BrowserSessionSnapshot

/-- The control flag of a session whose handle is gone. -/
def pidControl (snapshot : BrowserSessionSnapshot) : Bool :=
  decide (snapshot.status = .isOpen ∧ snapshot.controllerKind = .playwrightManaged ∧
    snapshot.browserProcessPid.isSome)

/-- What `persistSessions` writes of a record. -/
def persistedForm (snapshot : BrowserSessionSnapshot) : BrowserSessionSnapshot :=
  { snapshot with controlAvailable := snapshot.pidControl }

/-- `normalizePersistedBrowserSession` of a written record; `none` when its URL throws. -/
def normalizePersistedBrowserSession (host : Host) (snapshot : BrowserSessionSnapshot) :
    Option BrowserSessionSnapshot :=
  (normalizeSessionUrl host snapshot.url).map fun url =>
    { snapshot with url := url, controlAvailable := snapshot.pidControl }

/-- The record that `hydratePersistedSessions` makes. -/
def hydratedRecord (snapshot : BrowserSessionSnapshot) : BrowserSessionRecord η where
  toBrowserSessionSnapshot := { snapshot with controlAvailable := snapshot.pidControl }
  handle := none

end BrowserSessionSnapshot

/-! ## The operations of the registry -/

namespace BrowserSessionRegistry

def getRecord (registry : BrowserSessionRegistry η) (sessionId : String) :
    Option (BrowserSessionRecord η) :=
  (sessionMap η).find sessionId registry.sessions

def persistSessions (registry : BrowserSessionRegistry η) : BrowserSessionRegistry η :=
  if registry.hasSnapshotPath then
    { registry with
      persisted := registry.sessions.map fun record =>
        record.toBrowserSessionSnapshot.persistedForm }
  else registry

def setRecord (registry : BrowserSessionRegistry η) (record : BrowserSessionRecord η) :
    BrowserSessionRegistry η :=
  { registry with sessions := (sessionMap η).upsert record registry.sessions }

/-- Changes the record of a session and persists it, where there is one to change. -/
def updateRecord (registry : BrowserSessionRegistry η) (sessionId : String)
    (update : BrowserSessionRecord η → Option (BrowserSessionRecord η)) :
    BrowserSessionRegistry η :=
  match (registry.getRecord sessionId).bind update with
  | none => registry
  | some record => (registry.setRecord record).persistSessions

/-- What is given for a new session, `null` for what is missing or has another type. -/
structure SessionDetails where
  sessionId : String
  url : String
  visibility : BrowserSessionVisibility
  openedAt : String
  browserProcessPid : Option ℤ
  ownership : BrowserSessionRecord.Ownership
  deriving DecidableEq

/-- The record of a new session. -/
def SessionDetails.record (details : SessionDetails) (url : String)
    (controllerKind : BrowserSessionControllerKind) (handle : Option η) :
    BrowserSessionRecord η where
  sessionId := details.sessionId
  url := url
  status := .isOpen
  openedAt := details.openedAt
  closedAt := none
  visibility := details.visibility
  controllerKind := controllerKind
  controlAvailable := handle.isSome
  browserProcessPid := details.browserProcessPid
  workspaceRootPath := details.ownership.workspaceRootPath
  linkedProcessLeaseId := details.ownership.linkedProcessLeaseId
  linkedProcessCwd := details.ownership.linkedProcessCwd
  linkedProcessPid := details.ownership.linkedProcessPid
  handle := handle

variable (host : Host)

/-- Where the URL of the details throws, nothing is registered. -/
def register (registry : BrowserSessionRegistry η) (details : SessionDetails)
    (controllerKind : BrowserSessionControllerKind) (handle : Option η) :
    BrowserSessionRegistry η :=
  match normalizeSessionUrl host details.url with
  | none => registry
  | some url => (registry.setRecord (details.record url controllerKind handle)).persistSessions

def registerManagedSession (registry : BrowserSessionRegistry η) (details : SessionDetails)
    (handle : η) : BrowserSessionRegistry η :=
  registry.register host details .playwrightManaged (some handle)

def registerDetachedSession (registry : BrowserSessionRegistry η) (details : SessionDetails) :
    BrowserSessionRegistry η :=
  registry.register host details .osDefault none

def annotateSessionOwnership (registry : BrowserSessionRegistry η) (sessionId : String)
    (details : BrowserSessionRecord.Ownership) : BrowserSessionRegistry η :=
  registry.updateRecord sessionId fun record => some (record.annotated details)

/-- How the refresh of a page ends. -/
inductive Refresh where
  | succeeded
  | aborted
  | failed
  deriving DecidableEq

def reuseOpenSession (registry : BrowserSessionRegistry η) (sessionId : String)
    (refresh : Refresh) (nowIso : String) : BrowserSessionRegistry η :=
  registry.updateRecord sessionId fun record =>
    if record.Reusable ∧ refresh = .failed then some (record.reuseFailed nowIso) else none

/-- An aborted call throws before it does anything to an open session. -/
def closeSession (registry : BrowserSessionRegistry η) (sessionId : String) (aborted : Bool)
    (closeProcessByPid : Option (ℤ → Bool)) (nowIso : String) : BrowserSessionRegistry η :=
  registry.updateRecord sessionId fun record =>
    if record.status = .isClosed ∨ aborted = true then none
    else record.closeAfter nowIso (record.teardown closeProcessByPid)

/-- What `closeSession` tears down. -/
def closeTeardown (registry : BrowserSessionRegistry η) (sessionId : String) (aborted : Bool)
    (closeProcessByPid : Option (ℤ → Bool)) : BrowserSessionRecord.Teardown η :=
  match registry.getRecord sessionId with
  | none => .nothing
  | some record =>
      if record.status = .isClosed ∨ aborted = true then .nothing
      else record.teardown closeProcessByPid

def markSessionClosedFromLinkedResourceShutdown (registry : BrowserSessionRegistry η)
    (sessionId : String) (nowIso : String) : BrowserSessionRegistry η :=
  registry.updateRecord sessionId fun record =>
    if record.status = .isClosed then none
    else some (record.closedFromLinkedResourceShutdown nowIso)

def reconcilePersistedSessions (registry : BrowserSessionRegistry η)
    (isProcessAlive : Option ℤ → Bool) (now : ClockTime) : BrowserSessionRegistry η :=
  let reconciled : BrowserSessionRegistry η :=
    { registry with sessions := registry.sessions.map (·.reconciled host isProcessAlive now) }
  if ∃ record ∈ registry.sessions, record.ClosedByReconcile host isProcessAlive now then
    reconciled.persistSessions
  else reconciled

/-- The registry that `getSnapshot` leaves; a record that stays open is not persisted. -/
def reconcileSnapshot (registry : BrowserSessionRegistry η) (sessionId : String)
    (isProcessAlive : Option ℤ → Bool) (now : ClockTime) : BrowserSessionRegistry η :=
  match registry.getRecord sessionId with
  | none => registry
  | some record =>
      let next := registry.setRecord (record.reconciled host isProcessAlive now)
      if record.ClosedByReconcile host isProcessAlive now then next.persistSessions else next

/-- `readBrowserSessionPersistedState`: one URL that throws makes the whole file unreadable. -/
def readBrowserSessionPersistedState (registry : BrowserSessionRegistry η) :
    List BrowserSessionSnapshot :=
  if registry.hasSnapshotPath then
    (registry.persisted.mapM (BrowserSessionSnapshot.normalizePersistedBrowserSession host)).getD []
  else []

/-- The registry of the next start of the runtime. -/
def rehydrated (registry : BrowserSessionRegistry η) (isProcessAlive : Option ℤ → Bool)
    (now : ClockTime) : BrowserSessionRegistry η :=
  let hydrated : BrowserSessionRegistry η :=
    { registry with
      sessions := (sessionMap η).collect []
        ((registry.readBrowserSessionPersistedState host).map (·.hydratedRecord)) }
  hydrated.reconcilePersistedSessions host isProcessAlive now

/-! ## Stopping a lease -/

/-- `shouldMarkStaleAfterLinkedShutdown`. -/
def ShouldMarkStale (openSnapshot : BrowserSessionSnapshot) : Prop :=
  openSnapshot.controllerKind = .playwrightManaged ∧ openSnapshot.controlAvailable = false ∧
    openSnapshot.browserProcessPid = none

instance (openSnapshot : BrowserSessionSnapshot) : Decidable (ShouldMarkStale openSnapshot) :=
  inferInstanceAs (Decidable (_ ∧ _))

/-- One turn of the loop in `closeLinkedBrowserSessionsForLease`. -/
def closeLinkedSession (terminate : ℤ → Bool) (nowIso : String)
    (registry : BrowserSessionRegistry η) (openSnapshot : BrowserSessionSnapshot) :
    BrowserSessionRegistry η :=
  if ShouldMarkStale openSnapshot then
    registry.markSessionClosedFromLinkedResourceShutdown openSnapshot.sessionId nowIso
  else
    let next := registry.closeSession openSnapshot.sessionId false (some terminate) nowIso
    if (next.getRecord openSnapshot.sessionId).any (fun record => record.status ≠ .isClosed) ∧
        openSnapshot.controllerKind = .playwrightManaged ∧
        openSnapshot.controlAvailable = false then
      next.markSessionClosedFromLinkedResourceShutdown openSnapshot.sessionId nowIso
    else next

def closeLinkedBrowserSessionsForLease (registry : BrowserSessionRegistry η) (leaseId : String)
    (terminate : ℤ → Bool) (isProcessAlive : Option ℤ → Bool) (now : ClockTime) :
    BrowserSessionRegistry η :=
  let listed := registry.reconcilePersistedSessions host isProcessAlive now
  let linkedOpenSessions := (listed.sessions.map (·.toBrowserSessionSnapshot)).filter
    fun snapshot => snapshot.status = .isOpen ∧ snapshot.linkedProcessLeaseId = some leaseId
  linkedOpenSessions.foldl (closeLinkedSession terminate now.iso) listed

end BrowserSessionRegistry

/-! ## Lookups -/

namespace BrowserSessionRegistry

variable {registry : BrowserSessionRegistry η}

lemma sessionId_of_getRecord {sessionId : String} {record : BrowserSessionRecord η}
    (h : registry.getRecord sessionId = some record) : record.sessionId = sessionId :=
  ((sessionMap η).mem_of_find h).2

lemma mem_of_getRecord {sessionId : String} {record : BrowserSessionRecord η}
    (h : registry.getRecord sessionId = some record) : record ∈ registry.sessions :=
  ((sessionMap η).mem_of_find h).1

@[simp] lemma getRecord_persistSessions (registry : BrowserSessionRegistry η)
    (sessionId : String) :
    registry.persistSessions.getRecord sessionId = registry.getRecord sessionId := by
  unfold persistSessions
  split <;> rfl

lemma getRecord_setRecord (registry : BrowserSessionRegistry η) (record : BrowserSessionRecord η)
    (sessionId : String) :
    (registry.setRecord record).getRecord sessionId =
      if record.sessionId = sessionId then some record else registry.getRecord sessionId := by
  have hlast : (sessionMap η).combine ((sessionMap η).find sessionId registry.sessions) record =
      some record := by
    cases (sessionMap η).find sessionId registry.sessions <;> rfl
  unfold getRecord setRecord
  rw [(sessionMap η).find_upsert, hlast]
  rfl

/-- The update changes no session id. -/
def KeepsSession (update : BrowserSessionRecord η → Option (BrowserSessionRecord η)) : Prop :=
  ∀ record next, update record = some next → next.sessionId = record.sessionId

lemma getRecord_updateRecord {update : BrowserSessionRecord η → Option (BrowserSessionRecord η)}
    (hupdate : KeepsSession update) (registry : BrowserSessionRegistry η)
    (updated sessionId : String) :
    (registry.updateRecord updated update).getRecord sessionId =
      if updated = sessionId then
        (registry.getRecord sessionId).map fun record => (update record).getD record
      else registry.getRecord sessionId := by
  unfold updateRecord
  cases hrecord : registry.getRecord updated with
  | none =>
      by_cases hsame : updated = sessionId
      · simp [← hsame, hrecord]
      · simp [hsame]
  | some record =>
      have hkey := sessionId_of_getRecord hrecord
      cases hnext : update record with
      | none =>
          by_cases hsame : updated = sessionId
          · simp [← hsame, hrecord, hnext]
          · simp [hsame, hnext]
      | some next =>
          have hid : next.sessionId = updated := (hupdate record next hnext).trans hkey
          by_cases hsame : updated = sessionId
          · simp [← hsame, hrecord, hnext, getRecord_setRecord, hid]
          · simp [hsame, hnext, getRecord_setRecord, hid]

end BrowserSessionRegistry

end AgentBigBrain.LiveRun
