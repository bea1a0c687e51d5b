import AgentBigBrain.Autonomy.MissionEvidence

/-!
# Managed-process leases

An action result may report the lease of a managed process and where the process is in its life.
The loop remembers one lease, which start and check results set and stop results clear.
-/
namespace AgentBigBrain.Autonomy

open AgentBigBrain.Js AgentBigBrain.Core

structure ApprovedManagedProcessStartContext where
  leaseId : String
  command : Option String
  cwd : Option String
  deriving DecidableEq

structure ApprovedManagedProcessCheckResult where
  leaseId : String
  lifecycleStatus : String
  deriving DecidableEq

/-- A text of the metadata that is not blank, as it stands. -/
def readMetadataText (entry : ActionRunResult) (key : String) : Option String :=
  match metadataOf entry key with
  | some (.str value) => if isPresent value then some value else none
  | _ => none

def readManagedProcessLeaseId (entry : ActionRunResult) : Option String :=
  readMetadataText entry "processLeaseId"

def readManagedProcessLifecycleStatus (entry : ActionRunResult) : Option String :=
  readMetadataText entry "processLifecycleStatus"

def readActionCommand (entry : ActionRunResult) : Option String :=
  normalizeOptionalString (entry.action.params.get "command")

def readActionCwd (entry : ActionRunResult) : Option String :=
  normalizeOptionalString (entry.action.params.get "cwd") <|>
    normalizeOptionalString (entry.action.params.get "workdir") <|>
      normalizeOptionalString (metadataOf entry "processCwd")

/-- One result of `resolveTrackedManagedProcessStartContext`. -/
def trackStartContext (tracked : Option ApprovedManagedProcessStartContext)
    (entry : ActionRunResult) : Option ApprovedManagedProcessStartContext :=
  match entry.approved, readManagedProcessLeaseId entry with
  | true, some leaseId =>
      if entry.action.type = .startProcess then
        some { leaseId := leaseId, command := readActionCommand entry, cwd := readActionCwd entry }
      else if tracked.isSome then tracked
      else
        (readActionCwd entry).map fun cwd =>
          { leaseId := leaseId, command := readActionCommand entry, cwd := some cwd }
  | _, _ => tracked

def resolveTrackedManagedProcessStartContext
    (previous : Option ApprovedManagedProcessStartContext) (result : TaskRunResult) :
    Option ApprovedManagedProcessStartContext :=
  result.actionResults.foldl trackStartContext previous

def findApprovedManagedProcessCheckResult (result : TaskRunResult) :
    Option ApprovedManagedProcessCheckResult :=
  result.actionResults.findSome? fun entry =>
    if entry.approved && decide (entry.action.type = .checkProcess) then
      match readManagedProcessLeaseId entry, readManagedProcessLifecycleStatus entry with
      | some leaseId, some lifecycleStatus =>
          some { leaseId := leaseId, lifecycleStatus := lifecycleStatus }
      | _, _ => none
    else none

/-- One result of `resolveTrackedManagedProcessLeaseId`. -/
def trackLease (tracked : Option String) (entry : ActionRunResult) : Option String :=
  match entry.approved, readManagedProcessLeaseId entry with
  | true, some leaseId =>
      let seen := if entry.action.type = .startProcess ∨ entry.action.type = .checkProcess then
        some leaseId else tracked
      if (entry.action.type = .stopProcess ∨
          readManagedProcessLifecycleStatus entry = some "PROCESS_STOPPED") ∧
          seen = some leaseId then none
      else seen
  | _, _ => tracked

def resolveTrackedManagedProcessLeaseId (previous : Option String) (result : TaskRunResult) :
    Option String :=
  result.actionResults.foldl trackLease previous

end AgentBigBrain.Autonomy
