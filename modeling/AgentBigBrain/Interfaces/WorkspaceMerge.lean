import AgentBigBrain.Core.CrossPlatformPath
import AgentBigBrain.Interfaces.JobMerging

/-!
# Merging the active workspace

The workspace that is not older is kept. It inherits what it lacks from the other one if
the two belong together: by owner, job, browser session, path or root.
-/
namespace AgentBigBrain.Interfaces

open AgentBigBrain.Js AgentBigBrain.Core

def resourceOwnersMatch (left right : ConversationResourceOwnerMetadata) : Bool :=
  if truthy left.providerUserIdHash && truthy right.providerUserIdHash then
    decide (left.providerUserIdHash = right.providerUserIdHash)
  else
    decide (left.principalRole = right.principalRole) && left.sourceJobId.isSome &&
      decide (left.sourceJobId = right.sourceJobId)

variable (platform : Platform)

def GENERIC_WORKSPACE_CONTAINER_NAMES : List String :=
  ["desktop", "documents", "downloads", "onedrive", "pictures", "videos", "music"]

def toComparablePath (candidatePath : Option String) : Option String :=
  match candidatePath with
  | none => none
  | some path =>
      let normalized := normalizeCrossPlatformPath platform path
      if path = "" ∨ normalized = "" then none
      else some (platform.toLowerCase (forwardSlashes normalized))

def isSameOrNestedComparablePath (candidatePath rootPath : String) : Bool :=
  decide (candidatePath ≠ "") && decide (rootPath ≠ "") &&
    (decide (candidatePath = rootPath) || startsWith candidatePath (rootPath ++ "/"))

def hasReliableWorkspaceRoot (workspace : ConversationActiveWorkspaceRecord) : Bool :=
  match workspace.rootPath.filter (· ≠ "") with
  | none => false
  | some rootPath =>
      let basename := platform.toLowerCase (basenameCrossPlatformPath platform rootPath)
      !GENERIC_WORKSPACE_CONTAINER_NAMES.contains basename ||
        workspace.lastChangedPaths.any fun entry =>
          let parent := dirnameCrossPlatformPath platform entry
          decide (parent ≠ "") &&
            decide (normalizeCrossPlatformPath platform parent ≠
              normalizeCrossPlatformPath platform rootPath)

def buildStrongWorkspaceIdentityPaths (workspace : ConversationActiveWorkspaceRecord) :
    List String :=
  ([workspace.primaryArtifactPath] ++ workspace.lastChangedPaths.map some ++
    [localFileUrlToAbsolutePath platform (workspace.previewUrl.getD "")]).filterMap
      (toComparablePath platform)

def ownersDiffer (preferred fallback : ConversationActiveWorkspaceRecord) : Bool :=
  match preferred.resourceOwner, fallback.resourceOwner with
  | some preferredOwner, some fallbackOwner => !resourceOwnersMatch preferredOwner fallbackOwner
  | _, _ => false

/-- The roots of both are reliable, and equal or one of them holds a path of the other. -/
def rootsBelongTogether (preferred fallback : ConversationActiveWorkspaceRecord) : Bool :=
  hasReliableWorkspaceRoot platform preferred && hasReliableWorkspaceRoot platform fallback &&
    match toComparablePath platform preferred.rootPath,
      toComparablePath platform fallback.rootPath with
    | some preferredRoot, some fallbackRoot =>
        decide (preferredRoot ≠ "") && decide (fallbackRoot ≠ "") &&
          (decide (preferredRoot = fallbackRoot) ||
            (buildStrongWorkspaceIdentityPaths platform preferred).any
              (isSameOrNestedComparablePath · fallbackRoot) ||
            (buildStrongWorkspaceIdentityPaths platform fallback).any
              (isSameOrNestedComparablePath · preferredRoot))
    | _, _ => false

def shouldBackfillWorkspaceContinuity (preferred fallback : ConversationActiveWorkspaceRecord) :
    Bool :=
  !ownersDiffer preferred fallback &&
    (!truthy preferred.sourceJobId || decide (preferred.sourceJobId = fallback.sourceJobId) ||
      preferred.browserSessionId.any (fun id =>
        decide (id ≠ "") && fallback.browserSessionIds.contains id) ||
      (buildStrongWorkspaceIdentityPaths platform preferred).any
        (buildStrongWorkspaceIdentityPaths platform fallback).contains ||
      rootsBelongTogether platform preferred fallback)

/-- A list, or the other one when it is empty. -/
def orNonempty (preferred fallback : List String) : List String :=
  if preferred.isEmpty then fallback else preferred

def backfillWorkspace (preferred fallback : ConversationActiveWorkspaceRecord) :
    ConversationActiveWorkspaceRecord :=
  { preferred with
    rootPath := preferred.rootPath.or fallback.rootPath
    primaryArtifactPath := preferred.primaryArtifactPath.or fallback.primaryArtifactPath
    previewUrl := preferred.previewUrl.or fallback.previewUrl
    browserSessionId := preferred.browserSessionId.or fallback.browserSessionId
    browserSessionIds := orNonempty preferred.browserSessionIds fallback.browserSessionIds
    browserSessionStatus := preferred.browserSessionStatus.or fallback.browserSessionStatus
    browserProcessPid := preferred.browserProcessPid.or fallback.browserProcessPid
    previewProcessLeaseId := preferred.previewProcessLeaseId.or fallback.previewProcessLeaseId
    previewProcessLeaseIds :=
      orNonempty preferred.previewProcessLeaseIds fallback.previewProcessLeaseIds
    previewProcessCwd := preferred.previewProcessCwd.or fallback.previewProcessCwd
    lastKnownPreviewProcessPid :=
      preferred.lastKnownPreviewProcessPid.or fallback.lastKnownPreviewProcessPid
    domainSnapshotLane := preferred.domainSnapshotLane.or fallback.domainSnapshotLane
    domainSnapshotRecordedAt :=
      preferred.domainSnapshotRecordedAt.or fallback.domainSnapshotRecordedAt
    resourceOwner := preferred.resourceOwner.or fallback.resourceOwner
    lastChangedPaths := orNonempty preferred.lastChangedPaths fallback.lastChangedPaths }

def mergeWorkspaces (preferred fallback : ConversationActiveWorkspaceRecord) :
    ConversationActiveWorkspaceRecord :=
  if shouldBackfillWorkspaceContinuity platform preferred fallback then
    backfillWorkspace preferred fallback
  else
    preferred

def selectActiveWorkspace (existing incoming : Option ConversationActiveWorkspaceRecord) :
    Option ConversationActiveWorkspaceRecord :=
  match existing, incoming with
  | none, incoming => incoming
  | existing, none => existing
  | some e, some i =>
      if textLe e.updatedAt i.updatedAt then some (mergeWorkspaces platform i e)
      else some (mergeWorkspaces platform e i)

@[simp] lemma backfillWorkspace_self (workspace : ConversationActiveWorkspaceRecord) :
    backfillWorkspace workspace workspace = workspace := by
  simp [backfillWorkspace, orNonempty]

@[simp] lemma selectActiveWorkspace_none_right
    (existing : Option ConversationActiveWorkspaceRecord) :
    selectActiveWorkspace platform existing none = existing := by
  cases existing <;> rfl

@[simp] lemma selectActiveWorkspace_self (workspace : Option ConversationActiveWorkspaceRecord) :
    selectActiveWorkspace platform workspace workspace = workspace := by
  cases workspace <;> simp [selectActiveWorkspace, mergeWorkspaces]

end AgentBigBrain.Interfaces
