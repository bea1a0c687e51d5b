import AgentBigBrain.Core.ProfileFactLifecycle
import AgentBigBrain.Js.HostSort

/-!
# Episodes of the profile

An episode is a situation that was told, with a status that says whether it is over. Candidates
update the episode of their title and entities or open a new one, resolutions move the status of
the episode they name, and a load folds together the episodes that share a title and entities.
-/
namespace AgentBigBrain.Core

open AgentBigBrain.Js AgentBigBrain.Lib

/-! ## Records -/

inductive ProfileEpisodeStatus where
  | unresolved
  | partiallyResolved
  | resolved
  | outcomeUnknown
  | noLongerRelevant
  deriving DecidableEq

inductive ProfileEpisodeSourceKind where
  | explicitUserStatement
  | assistantInference
  deriving DecidableEq

structure ProfileEpisodeRecord where
  id : String
  title : String
  summary : String
  status : ProfileEpisodeStatus
  sourceTaskId : String
  source : String
  sourceKind : ProfileEpisodeSourceKind
  sensitive : Bool
  confidence : ℚ
  observedAt : String
  lastMentionedAt : String
  lastUpdatedAt : String
  resolvedAt : Option String
  entityRefs : List String
  openLoopRefs : List String
  tags : List String
  deriving DecidableEq

attribute [ext] ProfileEpisodeRecord

/-- A list that is left out reads as an empty one. -/
structure CreateProfileEpisodeRecordInput where
  title : String
  summary : String
  sourceTaskId : String
  source : String
  sourceKind : ProfileEpisodeSourceKind
  sensitive : Bool
  observedAt : String
  confidence : Option ℚ
  status : Option ProfileEpisodeStatus
  lastMentionedAt : Option String
  lastUpdatedAt : Option String
  resolvedAt : Option String
  entityRefs : List String
  openLoopRefs : List String
  tags : List String

structure ProfileEpisodeResolutionInput where
  episodeId : String
  status : ProfileEpisodeStatus
  status_ne : status ≠ .unresolved
  sourceTaskId : String
  source : String
  observedAt : String
  confidence : Option ℚ
  summary : Option String
  entityRefs : List String
  openLoopRefs : List String
  tags : List String

def isTerminalProfileEpisodeStatus : ProfileEpisodeStatus → Bool
  | .resolved | .noLongerRelevant => true
  | _ => false

def ProfileEpisodeRecord.isTerminal (episode : ProfileEpisodeRecord) : Bool :=
  isTerminalProfileEpisodeStatus episode.status

def clampProfileEpisodeConfidence : Option ℚ → ℚ
  | none => 1 / 2
  | some value => roundTo 4 (min 1 (max 0 value))

variable (platform : BridgePlatform) (hostSort : HostSort)

/-- A time that parses is in range, so `toISOString` does not throw on it. -/
def toIsoOrNow (now value : String) : String :=
  ((platform.dateParse value).bind platform.isoString).getD now

/-- Texts that are not empty, each once, in order. -/
def canonicalStringList (normalize : String → String) (values : List String) : List String :=
  platform.locale.sort (uniqueValues ((values.map normalize).filter (· ≠ "")))

def createProfileEpisodeRecord (id now : String) (input : CreateProfileEpisodeRecordInput) :
    ProfileEpisodeRecord :=
  let observedAt := toIsoOrNow platform now input.observedAt
  { id
    title := trim input.title
    summary := trim input.summary
    status := input.status.getD .unresolved
    sourceTaskId := input.sourceTaskId
    source := input.source
    sourceKind := input.sourceKind
    sensitive := input.sensitive
    confidence := clampProfileEpisodeConfidence input.confidence
    observedAt
    lastMentionedAt := toIsoOrNow platform now (input.lastMentionedAt.getD observedAt)
    lastUpdatedAt := toIsoOrNow platform now (input.lastUpdatedAt.getD observedAt)
    resolvedAt := (input.resolvedAt.filter (· ≠ "")).map (toIsoOrNow platform now)
    entityRefs := canonicalStringList platform trim input.entityRefs
    openLoopRefs := canonicalStringList platform trim input.openLoopRefs
    tags := canonicalStringList platform trim input.tags }

/-- What reading the file makes of a stored episode. -/
def normalizeProfileMemoryEpisode (now : String) (episode : ProfileEpisodeRecord) :
    ProfileEpisodeRecord :=
  { episode with
    title := trim episode.title
    summary := trim episode.summary
    confidence := clampProfileEpisodeConfidence (some episode.confidence)
    observedAt := toIsoOrNow platform now episode.observedAt
    lastMentionedAt := toIsoOrNow platform now episode.lastMentionedAt
    lastUpdatedAt := toIsoOrNow platform now episode.lastUpdatedAt
    resolvedAt := (episode.resolvedAt.filter (· ≠ "")).map (toIsoOrNow platform now)
    entityRefs := canonicalStringList platform trim episode.entityRefs
    openLoopRefs := canonicalStringList platform trim episode.openLoopRefs
    tags := canonicalStringList platform trim episode.tags }

/-! ## Mutations -/

def TERMINAL_STATUS_WEIGHT : ProfileEpisodeStatus → ℕ
  | .unresolved => 0
  | .outcomeUnknown => 1
  | .partiallyResolved => 2
  | .resolved => 3
  | .noLongerRelevant => 4

def mergeEpisodeStatus (existing incoming : ProfileEpisodeStatus) : ProfileEpisodeStatus :=
  if TERMINAL_STATUS_WEIGHT existing ≤ TERMINAL_STATUS_WEIGHT incoming then incoming else existing

def mergeStringLists (left right : List String) : List String :=
  canonicalStringList platform normalizeProfileValue (left ++ right)

def buildEpisodeMatchKey (title : String) (entityRefs : List String) : String :=
  "|".intercalate entityRefs ++ "::" ++ platform.toLowerCase (normalizeProfileValue title)

def chooseEpisodeSummary (existing incoming : String) : String :=
  let normalizedExisting := normalizeProfileValue existing
  let normalizedIncoming := normalizeProfileValue incoming
  if normalizedIncoming = "" then normalizedExisting
  else if normalizedExisting = "" then normalizedIncoming
  else if utf16Length normalizedExisting ≤ utf16Length normalizedIncoming then normalizedIncoming
  else normalizedExisting

/-- `Date.parse(left) >= Date.parse(right)`; a time that does not parse is neither later nor
earlier. -/
def isNoEarlier (left right : String) : Bool :=
  match platform.dateParse left, platform.dateParse right with
  | some leftMs, some rightMs => decide (rightMs ≤ leftMs)
  | _, _ => false

def maxIso (left right : String) : String :=
  if isNoEarlier platform left right then left else right

def mergeEpisodeRecord (now : String) (existing : ProfileEpisodeRecord)
    (candidate : CreateProfileEpisodeRecordInput) : ProfileEpisodeRecord :=
  let nextStatus := mergeEpisodeStatus existing.status (candidate.status.getD .unresolved)
  let observedAt := toIsoOrNow platform now candidate.observedAt
  let nextResolvedAt :=
    if isTerminalProfileEpisodeStatus nextStatus then
      some (((candidate.resolvedAt.filter (· ≠ "")).map (toIsoOrNow platform now)).getD
        (existing.resolvedAt.getD observedAt))
    else
      none
  { existing with
    title := normalizeProfileValue candidate.title
    summary := chooseEpisodeSummary existing.summary candidate.summary
    status := nextStatus
    sourceTaskId := candidate.sourceTaskId
    source := candidate.source
    sourceKind := candidate.sourceKind
    sensitive := existing.sensitive || candidate.sensitive
    confidence := max existing.confidence (clampProfileEpisodeConfidence candidate.confidence)
    lastMentionedAt := maxIso platform existing.lastMentionedAt observedAt
    lastUpdatedAt := observedAt
    resolvedAt := nextResolvedAt
    entityRefs := mergeStringLists platform existing.entityRefs candidate.entityRefs
    openLoopRefs := mergeStringLists platform existing.openLoopRefs candidate.openLoopRefs
    tags := mergeStringLists platform existing.tags candidate.tags }

/-- The same record where nothing changes. -/
def applyEpisodeResolution (now : String) (episode : ProfileEpisodeRecord)
    (resolution : ProfileEpisodeResolutionInput) : ProfileEpisodeRecord :=
  let observedAt := toIsoOrNow platform now resolution.observedAt
  let nextStatus := mergeEpisodeStatus episode.status resolution.status
  let nextResolvedAt :=
    if isTerminalProfileEpisodeStatus nextStatus then some (episode.resolvedAt.getD observedAt)
    else episode.resolvedAt
  { episode with
    status := nextStatus
    summary :=
      ((resolution.summary.filter (· ≠ "")).map (chooseEpisodeSummary episode.summary)).getD
        episode.summary
    sourceTaskId := resolution.sourceTaskId
    source := resolution.source
    confidence := max episode.confidence (clampProfileEpisodeConfidence resolution.confidence)
    lastMentionedAt := maxIso platform episode.lastMentionedAt observedAt
    lastUpdatedAt := observedAt
    resolvedAt := nextResolvedAt
    entityRefs := mergeStringLists platform episode.entityRefs resolution.entityRefs
    openLoopRefs := mergeStringLists platform episode.openLoopRefs resolution.openLoopRefs
    tags := mergeStringLists platform episode.tags resolution.tags }

def normalizeEpisodeCandidate (now : String) (candidate : CreateProfileEpisodeRecordInput) :
    Option CreateProfileEpisodeRecordInput :=
  let title := normalizeProfileValue candidate.title
  let summary := normalizeProfileValue candidate.summary
  let entityRefs := mergeStringLists platform [] candidate.entityRefs
  if title = "" ∨ summary = "" ∨ entityRefs = [] then
    none
  else
    some
      { candidate with
        title, summary, entityRefs
        observedAt := toIsoOrNow platform now candidate.observedAt
        openLoopRefs := mergeStringLists platform [] candidate.openLoopRefs
        tags := mergeStringLists platform [] candidate.tags }

def candidateMatchKey (candidate : CreateProfileEpisodeRecordInput) : String :=
  buildEpisodeMatchKey platform candidate.title
    (mergeStringLists platform [] candidate.entityRefs)

/-- The first candidate of each match key. -/
def firstCandidates : KeyedMerge CreateProfileEpisodeRecordInput String where
  key := candidateMatchKey platform
  choose current _ := current
  key_choose _ _ h := h

def dedupeEpisodeCandidates (now : String) (candidates : List CreateProfileEpisodeRecordInput) :
    List CreateProfileEpisodeRecordInput :=
  (firstCandidates platform).collect []
    (candidates.filterMap (normalizeEpisodeCandidate platform now))

/-- The most terminal resolution of each episode, the last one of those. -/
def resolutionsByEpisode : KeyedMerge ProfileEpisodeResolutionInput String where
  key := ProfileEpisodeResolutionInput.episodeId
  choose existing resolution :=
    if TERMINAL_STATUS_WEIGHT existing.status ≤ TERMINAL_STATUS_WEIGHT resolution.status then
      resolution
    else
      existing
  key_choose existing resolution h := by
    split_ifs
    · rfl
    · exact h

def dedupeEpisodeResolutions (resolutions : List ProfileEpisodeResolutionInput) :
    List ProfileEpisodeResolutionInput :=
  resolutionsByEpisode.collect []
    (resolutions.filter fun resolution => isPresent resolution.episodeId)

/-- `left` comes no later than `right` in a stored list. -/
def compareStoredEpisodes (left right : ProfileEpisodeRecord) : Bool :=
  if left.lastMentionedAt = right.lastMentionedAt then platform.locale.le left.id right.id
  else platform.locale.le right.lastMentionedAt left.lastMentionedAt

def sortEpisodes (episodes : List ProfileEpisodeRecord) : List ProfileEpisodeRecord :=
  hostSort.sort (compareStoredEpisodes platform) episodes

lemma sortEpisodes_perm (episodes : List ProfileEpisodeRecord) :
    (sortEpisodes platform hostSort episodes).Perm episodes :=
  hostSort.perm _ _

/-- What an operation reads from the clock and from the id generator. -/
structure EpisodeReadings where
  now : String
  newId : String

/-- The episodes while candidates are applied, and how many were created and updated. -/
structure EpisodeChanges where
  episodes : List ProfileEpisodeRecord
  created : ℕ
  updated : ℕ
  deriving DecidableEq

/-- One turn of the loop over the candidates. -/
def applyEpisodeCandidate (readings : EpisodeReadings) (changes : EpisodeChanges)
    (candidate : CreateProfileEpisodeRecordInput) : EpisodeChanges :=
  let existingIndex := changes.episodes.findIdx fun episode =>
    decide (buildEpisodeMatchKey platform episode.title episode.entityRefs =
      candidateMatchKey platform candidate)
  match changes.episodes[existingIndex]? with
  | none =>
      { episodes := changes.episodes ++
          [createProfileEpisodeRecord platform readings.newId readings.now candidate]
        created := changes.created + 1
        updated := changes.updated }
  | some existing =>
      { episodes := changes.episodes.set existingIndex
          (mergeEpisodeRecord platform readings.now existing candidate)
        created := changes.created
        updated := changes.updated + 1 }

/-- The candidates one after another, each with its own readings. -/
def applyEpisodeCandidateList (readings : ℕ → EpisodeReadings) (changes : EpisodeChanges)
    (candidates : List CreateProfileEpisodeRecordInput) : EpisodeChanges :=
  candidates.zipIdx.foldl
    (fun changes entry => applyEpisodeCandidate platform (readings entry.2) changes entry.1) changes

/-- Candidates that are all refused change nothing. -/
def applyProfileEpisodeCandidates (now : String) (readings : ℕ → EpisodeReadings)
    (episodes : List ProfileEpisodeRecord) (candidates : List CreateProfileEpisodeRecordInput) :
    EpisodeChanges :=
  let dedupedCandidates := dedupeEpisodeCandidates platform now candidates
  if dedupedCandidates = [] then
    { episodes, created := 0, updated := 0 }
  else
    let changes := applyEpisodeCandidateList platform readings ⟨episodes, 0, 0⟩ dedupedCandidates
    { changes with episodes := sortEpisodes platform hostSort changes.episodes }

/-- One turn of the loop over the resolutions; `updated` counts the resolved episodes. -/
def resolveEpisode (now : String) (changes : EpisodeChanges)
    (resolution : ProfileEpisodeResolutionInput) : EpisodeChanges :=
  let episodeIndex := changes.episodes.findIdx fun episode =>
    decide (episode.id = resolution.episodeId)
  match changes.episodes[episodeIndex]? with
  | none => changes
  | some episode =>
      let nextEpisode := applyEpisodeResolution platform now episode resolution
      if nextEpisode = episode then changes
      else
        { changes with
          episodes := changes.episodes.set episodeIndex nextEpisode
          updated := changes.updated + 1 }

def applyProfileEpisodeResolutions (now : String) (episodes : List ProfileEpisodeRecord)
    (resolutions : List ProfileEpisodeResolutionInput) : EpisodeChanges :=
  let changes := (dedupeEpisodeResolutions resolutions).foldl (resolveEpisode platform now)
    ⟨episodes, 0, 0⟩
  if changes.updated = 0 then { episodes, created := 0, updated := 0 }
  else { changes with episodes := sortEpisodes platform hostSort changes.episodes }

/-! ## Consolidation -/

def EPISODE_STATUS_PRIORITY : ProfileEpisodeStatus → ℕ
  | .unresolved => 5
  | .partiallyResolved => 4
  | .outcomeUnknown => 3
  | .resolved => 2
  | .noLongerRelevant => 1

def buildProfileEpisodeConsolidationKey (episode : ProfileEpisodeRecord) : String :=
  "|".intercalate (canonicalStringList platform normalizeProfileValue episode.entityRefs) ++ "::" ++
    platform.toLowerCase (normalizeProfileValue episode.title)

def chooseLongerValue (left right : String) : String :=
  let normalizedLeft := normalizeProfileValue left
  let normalizedRight := normalizeProfileValue right
  if normalizedLeft = "" then normalizedRight
  else if normalizedRight = "" then normalizedLeft
  else if utf16Length normalizedLeft ≤ utf16Length normalizedRight then normalizedRight
  else normalizedLeft

def earlierIso (left right : String) : String :=
  if isNoEarlier platform right left then left else right

def latestNonNullIso (left right : Option String) (fallback : String) : String :=
  match left.filter (· ≠ ""), right.filter (· ≠ "") with
  | some left, some right => maxIso platform left right
  | _, _ => (left.or right).getD fallback

def mergeConsolidatedEpisodeRecords (left right : ProfileEpisodeRecord) : ProfileEpisodeRecord :=
  let laterRecord :=
    if isNoEarlier platform left.lastUpdatedAt right.lastUpdatedAt then left else right
  let nextStatus :=
    if EPISODE_STATUS_PRIORITY right.status ≤ EPISODE_STATUS_PRIORITY left.status then left.status
    else right.status
  { id := laterRecord.id
    title := chooseLongerValue left.title right.title
    summary := chooseLongerValue left.summary right.summary
    status := nextStatus
    sourceTaskId := laterRecord.sourceTaskId
    source := laterRecord.source
    sourceKind := laterRecord.sourceKind
    sensitive := left.sensitive || right.sensitive
    confidence := max left.confidence right.confidence
    observedAt := earlierIso platform left.observedAt right.observedAt
    lastMentionedAt := maxIso platform left.lastMentionedAt right.lastMentionedAt
    lastUpdatedAt := maxIso platform left.lastUpdatedAt right.lastUpdatedAt
    resolvedAt :=
      if isTerminalProfileEpisodeStatus nextStatus then
        some (latestNonNullIso platform left.resolvedAt right.resolvedAt laterRecord.lastUpdatedAt)
      else
        none
    entityRefs := canonicalStringList platform normalizeProfileValue
      (left.entityRefs ++ right.entityRefs)
    openLoopRefs := canonicalStringList platform normalizeProfileValue
      (left.openLoopRefs ++ right.openLoopRefs)
    tags := canonicalStringList platform normalizeProfileValue (left.tags ++ right.tags) }

/-- The map of a consolidation, by the key a record was put under. -/
def episodesByConsolidationKey : KeyedMerge (String × ProfileEpisodeRecord) String where
  key := Prod.fst
  choose existing entry := (entry.1, mergeConsolidatedEpisodeRecords platform existing.2 entry.2)
  key_choose _ _ _ := rfl

def consolidatedByKey (episodes : List ProfileEpisodeRecord) :
    List (String × ProfileEpisodeRecord) :=
  (episodesByConsolidationKey platform).collect []
    (episodes.map fun episode => (buildProfileEpisodeConsolidationKey platform episode, episode))

def consolidateProfileEpisodes (episodes : List ProfileEpisodeRecord) :
    List ProfileEpisodeRecord :=
  if episodes.length ≤ 1 then episodes
  else sortEpisodes platform hostSort ((consolidatedByKey platform episodes).map Prod.snd)

/-- The episodes of a loaded state. A list without duplicates stays in its order. -/
def loadEpisodes (now : String) (stored : List ProfileEpisodeRecord) : List ProfileEpisodeRecord :=
  let episodes := stored.map (normalizeProfileMemoryEpisode platform now)
  let consolidated := consolidateProfileEpisodes platform hostSort episodes
  if consolidated.length < episodes.length then consolidated else episodes

end AgentBigBrain.Core
