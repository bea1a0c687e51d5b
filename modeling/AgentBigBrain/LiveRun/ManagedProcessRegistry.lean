import AgentBigBrain.Lib.KeyedMerge

/-!
# The registry of managed processes

A lease keeps its id while the process behind it changes: a child that the runtime started, the
same process after a restart without its handle, or another process that was found to serve the
same workspace. The record of a lease has one close promise for all of them.
-/
namespace AgentBigBrain.LiveRun

open AgentBigBrain.Lib

inductive ManagedProcessLifecycleCode where
  | PROCESS_STARTED
  | PROCESS_START_FAILED
  | PROCESS_NOT_READY
  | PROCESS_READY
  | PROCESS_STILL_RUNNING
  | PROCESS_STOPPED
  deriving DecidableEq

structure ManagedProcessSnapshot where
  leaseId : String
  taskId : Option String
  actionId : String
  pid : Option ℕ
  commandFingerprint : String
  cwd : String
  shellExecutable : String
  shellKind : String
  startedAt : String
  statusCode : ManagedProcessLifecycleCode
  requestedHost : Option String
  requestedPort : Option ℕ
  requestedUrl : Option String
  exitCode : Option ℤ
  signal : Option String
  stopRequested : Bool
  deriving DecidableEq

/-- A child handle. `handle` tells one spawned child from another that got its pid later. -/
structure ChildProcess where
  handle : ℕ
  pid : Option ℕ
  deriving DecidableEq

structure ManagedProcessRuntimeRecord where
  child : Option ChildProcess
  snapshot : ManagedProcessSnapshot
  /-- What the promise was resolved with. -/
  closePromise : Option ManagedProcessSnapshot
  deriving DecidableEq

/-- A promise keeps what it was first resolved with. -/
def ManagedProcessRuntimeRecord.resolveClose (record : ManagedProcessRuntimeRecord)
    (snapshot : ManagedProcessSnapshot) : ManagedProcessRuntimeRecord :=
  { record with closePromise := record.closePromise.or (some snapshot) }

structure ManagedProcessRegistry where
  records : List ManagedProcessRuntimeRecord
  /-- The registry was given a `snapshotPath`. -/
  hasSnapshotPath : Bool
  /-- The snapshots in the file at that path. -/
  persisted : List ManagedProcessSnapshot
  deriving DecidableEq

/-- The map of records, in the order in which their leases were first written. -/
def recordMap : KeyedMerge ManagedProcessRuntimeRecord String where
  key record := record.snapshot.leaseId
  choose _ incoming := incoming
  key_choose _ _ _ := rfl

namespace ManagedProcessRegistry

def getRecord (registry : ManagedProcessRegistry) (leaseId : String) :
    Option ManagedProcessRuntimeRecord :=
  recordMap.find leaseId registry.records

def persistSnapshots (registry : ManagedProcessRegistry) : ManagedProcessRegistry :=
  if registry.hasSnapshotPath then
    { registry with persisted := registry.records.map (·.snapshot) }
  else registry

def setRecord (registry : ManagedProcessRegistry) (record : ManagedProcessRuntimeRecord) :
    ManagedProcessRegistry :=
  { registry with records := recordMap.upsert record registry.records }

/-- What `start_process` gives the registry. -/
structure LeaseInput where
  actionId : String
  commandFingerprint : String
  cwd : String
  shellExecutable : String
  shellKind : String
  requestedHost : Option String
  requestedPort : Option ℕ
  requestedUrl : Option String
  taskId : Option String
  deriving DecidableEq

def LeaseInput.snapshot (input : LeaseInput) (leaseId startedAt : String) (pid : Option ℕ)
    (statusCode : ManagedProcessLifecycleCode) : ManagedProcessSnapshot where
  leaseId := leaseId
  taskId := input.taskId
  actionId := input.actionId
  pid := pid
  commandFingerprint := input.commandFingerprint
  cwd := input.cwd
  shellExecutable := input.shellExecutable
  shellKind := input.shellKind
  startedAt := startedAt
  statusCode := statusCode
  requestedHost := input.requestedHost
  requestedPort := input.requestedPort
  requestedUrl := input.requestedUrl
  exitCode := none
  signal := none
  stopRequested := false

/-- The lease id is the one that `makeId` draws. The close listener of the child is state of the
runtime, not of the registry. -/
def registerStarted (registry : ManagedProcessRegistry) (leaseId startedAt : String)
    (input : LeaseInput) (child : ChildProcess) : ManagedProcessRegistry :=
  (registry.setRecord
    { child := some child
      snapshot := input.snapshot leaseId startedAt child.pid .PROCESS_STARTED
      closePromise := none }).persistSnapshots

def registerRecoveredRunningLease (registry : ManagedProcessRegistry)
    (leaseId startedAt : String) (input : LeaseInput) (pid : ℕ) : ManagedProcessRegistry :=
  (registry.setRecord
    { child := none
      snapshot := input.snapshot leaseId startedAt (some pid) .PROCESS_STILL_RUNNING
      closePromise := none }).persistSnapshots

/-- Changes the record of a lease and persists it, where there is one to change. -/
def updateRecord (registry : ManagedProcessRegistry) (leaseId : String)
    (update : ManagedProcessRuntimeRecord → Option ManagedProcessRuntimeRecord) :
    ManagedProcessRegistry :=
  match (registry.getRecord leaseId).bind update with
  | none => registry
  | some record => (registry.setRecord record).persistSnapshots

end ManagedProcessRegistry

/-! ## Updates of one record

`none` where the record stays as it is. -/

namespace ManagedProcessRuntimeRecord

def observedRunning (record : ManagedProcessRuntimeRecord) : Option ManagedProcessRuntimeRecord :=
  if record.snapshot.statusCode = .PROCESS_STARTED then
    some { record with snapshot := { record.snapshot with statusCode := .PROCESS_STILL_RUNNING } }
  else none

def stopRequested (record : ManagedProcessRuntimeRecord) : Option ManagedProcessRuntimeRecord :=
  some { record with snapshot := { record.snapshot with stopRequested := true } }

/-- The record with a stopped snapshot and without a child, its promise resolved. -/
def stopped (record : ManagedProcessRuntimeRecord) (exitCode : Option ℤ)
    (signal : Option String) : ManagedProcessRuntimeRecord :=
  let snapshot :=
    { record.snapshot with
      statusCode := .PROCESS_STOPPED
      exitCode := exitCode
      signal := signal }
  ({ record with child := none, snapshot := snapshot }).resolveClose snapshot

def recoveredStopped (exitCode : Option ℤ) (signal : Option String)
    (record : ManagedProcessRuntimeRecord) : Option ManagedProcessRuntimeRecord :=
  if record.snapshot.statusCode = .PROCESS_STOPPED then none
  else some (record.stopped exitCode signal)

end ManagedProcessRuntimeRecord

/-- A process that was found to serve the workspace of a lease. -/
structure RecoveredPreview where
  pid : ℕ
  requestedHost : Option String
  requestedPort : Option ℕ
  requestedUrl : Option String
  deriving DecidableEq

namespace ManagedProcessRuntimeRecord

def recoveredRunning (details : RecoveredPreview) (record : ManagedProcessRuntimeRecord) :
    Option ManagedProcessRuntimeRecord :=
  some { record with
    child := none
    snapshot :=
      { record.snapshot with
        pid := some details.pid
        statusCode := .PROCESS_STILL_RUNNING
        requestedHost := details.requestedHost
        requestedPort := details.requestedPort
        requestedUrl := details.requestedUrl
        exitCode := none
        signal := none } }

def closed (exitCode : Option ℤ) (signal : Option String)
    (record : ManagedProcessRuntimeRecord) : Option ManagedProcessRuntimeRecord :=
  if record.snapshot.statusCode = .PROCESS_STOPPED ∨ record.child = none then none
  else some (record.stopped exitCode signal)

/-- `reconcileManagedProcessRecord` asks for the pid of the record, and it is not alive. -/
def FoundDead (isProcessAlive : Option ℕ → Bool) (record : ManagedProcessRuntimeRecord) : Prop :=
  record.snapshot.statusCode ≠ .PROCESS_STOPPED ∧ record.child = none ∧
    isProcessAlive record.snapshot.pid = false

instance (isProcessAlive : Option ℕ → Bool) (record : ManagedProcessRuntimeRecord) :
    Decidable (record.FoundDead isProcessAlive) :=
  inferInstanceAs (Decidable (_ ∧ _))

def reconciled (isProcessAlive : Option ℕ → Bool) (record : ManagedProcessRuntimeRecord) :
    Option ManagedProcessRuntimeRecord :=
  if record.FoundDead isProcessAlive then
    let snapshot := { record.snapshot with statusCode := .PROCESS_STOPPED }
    some (({ record with snapshot := snapshot }).resolveClose snapshot)
  else none

end ManagedProcessRuntimeRecord

/-! ## The operations of the registry -/

namespace ManagedProcessRegistry

def markObservedRunning (registry : ManagedProcessRegistry) (leaseId : String) :
    ManagedProcessRegistry :=
  registry.updateRecord leaseId (·.observedRunning)

def markStopRequested (registry : ManagedProcessRegistry) (leaseId : String) :
    ManagedProcessRegistry :=
  registry.updateRecord leaseId (·.stopRequested)

def markRecoveredStopped (registry : ManagedProcessRegistry) (leaseId : String)
    (exitCode : Option ℤ) (signal : Option String) : ManagedProcessRegistry :=
  registry.updateRecord leaseId (·.recoveredStopped exitCode signal)

def markRecoveredRunning (registry : ManagedProcessRegistry) (leaseId : String)
    (details : RecoveredPreview) : ManagedProcessRegistry :=
  registry.updateRecord leaseId (·.recoveredRunning details)

def markClosed (registry : ManagedProcessRegistry) (leaseId : String) (exitCode : Option ℤ)
    (signal : Option String) : ManagedProcessRegistry :=
  registry.updateRecord leaseId (·.closed exitCode signal)

def peekSnapshot (registry : ManagedProcessRegistry) (leaseId : String) :
    Option ManagedProcessSnapshot :=
  (registry.getRecord leaseId).map (·.snapshot)

def getChild (registry : ManagedProcessRegistry) (leaseId : String) : Option ChildProcess :=
  (registry.getRecord leaseId).bind (·.child)

/-- The registry that `getSnapshot` leaves. -/
def reconcileSnapshot (registry : ManagedProcessRegistry) (isProcessAlive : Option ℕ → Bool)
    (leaseId : String) : ManagedProcessRegistry :=
  registry.updateRecord leaseId (·.reconciled isProcessAlive)

def reconcilePersistedSnapshots (registry : ManagedProcessRegistry)
    (isProcessAlive : Option ℕ → Bool) : ManagedProcessRegistry :=
  let reconciled : ManagedProcessRegistry :=
    { registry with
      records := registry.records.map fun record =>
        (record.reconciled isProcessAlive).getD record }
  if ∃ record ∈ registry.records, record.FoundDead isProcessAlive then reconciled.persistSnapshots
  else reconciled

/-- A record without a child for every snapshot of the file. -/
def hydratedRecord (snapshot : ManagedProcessSnapshot) : ManagedProcessRuntimeRecord where
  child := none
  snapshot := snapshot
  closePromise := none

/-- The registry of the next start of the runtime, before its records are reconciled. -/
def hydratePersistedSnapshots (registry : ManagedProcessRegistry) : ManagedProcessRegistry :=
  { registry with records := recordMap.collect [] (registry.persisted.map hydratedRecord) }

/-! ## Lookups -/

variable {registry : ManagedProcessRegistry}

lemma leaseId_of_getRecord {leaseId : String} {record : ManagedProcessRuntimeRecord}
    (h : registry.getRecord leaseId = some record) : record.snapshot.leaseId = leaseId :=
  (recordMap.mem_of_find h).2

@[simp] lemma getRecord_persistSnapshots (registry : ManagedProcessRegistry) (leaseId : String) :
    registry.persistSnapshots.getRecord leaseId = registry.getRecord leaseId := by
  unfold persistSnapshots
  split <;> rfl

lemma getRecord_setRecord (registry : ManagedProcessRegistry)
    (record : ManagedProcessRuntimeRecord) (leaseId : String) :
    (registry.setRecord record).getRecord leaseId =
      if record.snapshot.leaseId = leaseId then some record else registry.getRecord leaseId := by
  have hlast : recordMap.combine (recordMap.find leaseId registry.records) record =
      some record := by
    cases recordMap.find leaseId registry.records <;> rfl
  unfold getRecord setRecord
  rw [recordMap.find_upsert, hlast]
  rfl

/-- The update changes no lease id. -/
def KeepsLease (update : ManagedProcessRuntimeRecord → Option ManagedProcessRuntimeRecord) :
    Prop :=
  ∀ record next, update record = some next → next.snapshot.leaseId = record.snapshot.leaseId

lemma getRecord_updateRecord
    {update : ManagedProcessRuntimeRecord → Option ManagedProcessRuntimeRecord}
    (hupdate : KeepsLease update) (registry : ManagedProcessRegistry) (updated leaseId : String) :
    (registry.updateRecord updated update).getRecord leaseId =
      if updated = leaseId then
        (registry.getRecord leaseId).map fun record => (update record).getD record
      else registry.getRecord leaseId := by
  unfold updateRecord
  cases hrecord : registry.getRecord updated with
  | none =>
      by_cases hsame : updated = leaseId
      · rw [if_pos hsame, ← hsame, hrecord]
        exact hrecord
      · rw [if_neg hsame]
        rfl
  | some record =>
      have hkey := leaseId_of_getRecord hrecord
      cases hnext : update record with
      | none =>
          simp only [Option.bind_some, hnext]
          by_cases hsame : updated = leaseId
          · rw [if_pos hsame, ← hsame, hrecord, Option.map_some, hnext, Option.getD_none]
          · rw [if_neg hsame]
      | some next =>
          simp only [Option.bind_some, hnext]
          rw [getRecord_persistSnapshots, getRecord_setRecord, hupdate record next hnext, hkey]
          by_cases hsame : updated = leaseId
          · rw [if_pos hsame, if_pos hsame, ← hsame, hrecord, Option.map_some, hnext,
              Option.getD_some]
          · rw [if_neg hsame, if_neg hsame]

/-- One lease is updated, the others stay. -/
lemma getRecord_of_updateRecord
    {update : ManagedProcessRuntimeRecord → Option ManagedProcessRuntimeRecord}
    (hupdate : KeepsLease update) {updated leaseId : String}
    {next : ManagedProcessRuntimeRecord}
    (h : (registry.updateRecord updated update).getRecord leaseId = some next) :
    ∃ record, registry.getRecord leaseId = some record ∧
      (next = record ∨ updated = leaseId ∧ update record = some next) := by
  rw [getRecord_updateRecord hupdate] at h
  split_ifs at h with hsame
  · obtain ⟨record, hrecord, hnext⟩ := Option.map_eq_some_iff.mp h
    refine ⟨record, hrecord, ?_⟩
    cases hupdated : update record with
    | none => exact .inl (by simpa [hupdated] using hnext.symm)
    | some other => exact .inr ⟨hsame, by simpa [hupdated] using hnext⟩
  · exact ⟨next, h, .inl rfl⟩

/-! ## The file -/

/-- The file holds what the registry holds. -/
structure Stored (registry : ManagedProcessRegistry) : Prop where
  distinct : recordMap.Distinct registry.records
  persisted : registry.persisted =
    if registry.hasSnapshotPath then registry.records.map (·.snapshot) else []

lemma Stored.persistSnapshots (hdistinct : recordMap.Distinct registry.records)
    (hempty : registry.hasSnapshotPath = false → registry.persisted = []) :
    registry.persistSnapshots.Stored := by
  unfold ManagedProcessRegistry.persistSnapshots
  by_cases hpath : registry.hasSnapshotPath = true
  · rw [if_pos hpath]
    exact ⟨hdistinct, (if_pos hpath).symm⟩
  · rw [if_neg hpath]
    exact ⟨hdistinct, by rw [if_neg hpath]; exact hempty (by simpa using hpath)⟩

lemma Stored.persisted_nil (h : registry.Stored) (hpath : registry.hasSnapshotPath = false) :
    registry.persisted = [] := by
  rw [h.persisted, hpath]
  rfl

lemma Stored.setRecord (h : registry.Stored) (record : ManagedProcessRuntimeRecord) :
    (registry.setRecord record).persistSnapshots.Stored :=
  Stored.persistSnapshots (recordMap.distinct_upsert h.distinct) h.persisted_nil

lemma Stored.updateRecord (h : registry.Stored) (leaseId : String)
    (update : ManagedProcessRuntimeRecord → Option ManagedProcessRuntimeRecord) :
    (registry.updateRecord leaseId update).Stored := by
  unfold ManagedProcessRegistry.updateRecord
  split
  · exact h
  · exact h.setRecord _

end ManagedProcessRegistry

/-! ## What the updates keep -/

namespace ManagedProcessRuntimeRecord

open ManagedProcessRegistry

lemma keepsLease_observedRunning : KeepsLease observedRunning := by
  intro record next h
  unfold observedRunning at h
  split_ifs at h
  cases h
  rfl

lemma keepsLease_stopRequested : KeepsLease stopRequested := by
  rintro record next ⟨⟩
  rfl

lemma keepsLease_recoveredStopped (exitCode : Option ℤ) (signal : Option String) :
    KeepsLease (recoveredStopped exitCode signal) := by
  intro record next h
  unfold recoveredStopped at h
  split_ifs at h
  cases h
  rfl

lemma keepsLease_recoveredRunning (details : RecoveredPreview) :
    KeepsLease (recoveredRunning details) := by
  rintro record next ⟨⟩
  rfl

lemma keepsLease_closed (exitCode : Option ℤ) (signal : Option String) :
    KeepsLease (closed exitCode signal) := by
  intro record next h
  unfold closed at h
  split_ifs at h
  cases h
  rfl

lemma keepsLease_reconciled (isProcessAlive : Option ℕ → Bool) :
    KeepsLease (reconciled isProcessAlive) := by
  intro record next h
  unfold reconciled at h
  split_ifs at h
  cases h
  rfl

end ManagedProcessRuntimeRecord

namespace ManagedProcessRegistry

variable {registry : ManagedProcessRegistry}

lemma key_reconciled (isProcessAlive : Option ℕ → Bool) (record : ManagedProcessRuntimeRecord) :
    recordMap.key ((record.reconciled isProcessAlive).getD record) = recordMap.key record := by
  cases hnext : record.reconciled isProcessAlive with
  | none => rfl
  | some next =>
      exact ManagedProcessRuntimeRecord.keepsLease_reconciled isProcessAlive record next hnext

/-- Reconciling all records reconciles each. -/
lemma getRecord_reconcilePersistedSnapshots (isProcessAlive : Option ℕ → Bool)
    (leaseId : String) :
    (registry.reconcilePersistedSnapshots isProcessAlive).getRecord leaseId =
      (registry.getRecord leaseId).map fun record =>
        (record.reconciled isProcessAlive).getD record := by
  have hkey := key_reconciled isProcessAlive
  unfold reconcilePersistedSnapshots
  dsimp only
  split_ifs
  · rw [getRecord_persistSnapshots]
    exact recordMap.find_map _ hkey leaseId registry.records
  · exact recordMap.find_map _ hkey leaseId registry.records

lemma Stored.reconcilePersistedSnapshots (h : registry.Stored)
    (isProcessAlive : Option ℕ → Bool) :
    (registry.reconcilePersistedSnapshots isProcessAlive).Stored := by
  unfold ManagedProcessRegistry.reconcilePersistedSnapshots
  dsimp only
  split_ifs with hdead
  · refine Stored.persistSnapshots ?_ h.persisted_nil
    have hkeys : (registry.records.map fun record =>
        (record.reconciled isProcessAlive).getD record).map recordMap.key =
        registry.records.map recordMap.key := by
      rw [List.map_map]
      exact List.map_congr_left fun record _ => key_reconciled isProcessAlive record
    exact (congrArg List.Nodup hkeys).mpr h.distinct
  · have hsame : (registry.records.map fun record =>
        (record.reconciled isProcessAlive).getD record) = registry.records := by
      refine (List.map_congr_left fun record hrecord => ?_).trans (List.map_id _)
      have hnone : record.reconciled isProcessAlive = none :=
        if_neg fun hfound => hdead ⟨record, hrecord, hfound⟩
      rw [hnone]
      rfl
    rw [hsame]
    exact h

lemma records_hydratePersistedSnapshots (h : registry.Stored) :
    registry.hydratePersistedSnapshots.records =
      if registry.hasSnapshotPath then
        registry.records.map fun record => hydratedRecord record.snapshot
      else [] := by
  unfold ManagedProcessRegistry.hydratePersistedSnapshots
  rw [h.persisted]
  split_ifs with hpath
  · rw [List.map_map]
    refine recordMap.collect_nil_of_distinct ?_
    have hkeys : (registry.records.map (hydratedRecord ∘ (·.snapshot))).map recordMap.key =
        registry.records.map recordMap.key := by
      rw [List.map_map]
      rfl
    exact (congrArg List.Nodup hkeys).mpr h.distinct
  · rfl

/-- A start reads back every record without its child. -/
lemma getRecord_hydratePersistedSnapshots (h : registry.Stored) (leaseId : String) :
    registry.hydratePersistedSnapshots.getRecord leaseId =
      if registry.hasSnapshotPath then
        (registry.getRecord leaseId).map fun record => hydratedRecord record.snapshot
      else none := by
  unfold getRecord
  rw [records_hydratePersistedSnapshots h]
  split_ifs
  · exact recordMap.find_map (fun record => hydratedRecord record.snapshot) (fun _ => rfl)
      leaseId registry.records
  · rfl

lemma Stored.hydratePersistedSnapshots (h : registry.Stored) :
    registry.hydratePersistedSnapshots.Stored := by
  refine ⟨recordMap.distinct_collect List.nodup_nil, ?_⟩
  rw [records_hydratePersistedSnapshots h]
  refine h.persisted.trans ?_
  by_cases hpath : registry.hasSnapshotPath = true
  · have hkept : registry.hydratePersistedSnapshots.hasSnapshotPath = true := hpath
    rw [if_pos hpath, if_pos hkept, if_pos hpath, List.map_map]
    rfl
  · have hkept : ¬ registry.hydratePersistedSnapshots.hasSnapshotPath = true := hpath
    rw [if_neg hpath, if_neg hkept]

end ManagedProcessRegistry

end AgentBigBrain.LiveRun
