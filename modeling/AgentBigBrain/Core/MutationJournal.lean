import AgentBigBrain.Core.Sha256
import AgentBigBrain.Core.Canonicalization
import AgentBigBrain.Js.HostSort
import AgentBigBrain.Js.Persisted
import AgentBigBrain.Js.Platform

/-!
# The mutation journal of the profile graph

Each graph mutation leaves an entry in a bounded journal. An entry is stamped with the next
watermark; a load reads the stored entries back, repairs their order and clamps the counter to
what is retained; compaction drops the oldest entries and remembers the last watermark dropped.
Watermarks are counted exactly, as the runtime does below 2^53.
-/
namespace AgentBigBrain.Core

open AgentBigBrain.Js AgentBigBrain.Lib

/-- What the journal uses of the platform. -/
structure JournalPlatform extends Host where
  sha : Sha256
  hostSort : HostSort
  /-- `new Date(ms).toISOString()` of a time that `Date.parse` returned, and so in range. -/
  toISOString : ℤ → String

inductive JournalRedactionState where
  | notRequested
  | requested
  | redacted
  deriving DecidableEq

def JournalRedactionState.text : JournalRedactionState → String
  | .notRequested => "not_requested"
  | .requested => "requested"
  | .redacted => "redacted"

structure ProfileMemoryMutationJournalEntry where
  journalEntryId : String
  watermark : ℕ
  recordedAt : String
  sourceTaskId : Option String
  sourceFingerprint : Option String
  mutationEnvelopeHash : Option String
  observationIds : List String
  claimIds : List String
  eventIds : List String
  redactionState : JournalRedactionState
  deriving DecidableEq

structure ProfileMemoryMutationJournalState where
  nextWatermark : ℕ
  entries : List ProfileMemoryMutationJournalEntry
  deriving DecidableEq

structure ProfileMemoryGraphCompactionState where
  snapshotWatermark : ℕ
  lastCompactedAt : Option String
  maxObservationCount : ℕ
  maxClaimCount : ℕ
  maxEventCount : ℕ
  maxJournalEntries : ℕ
  deriving DecidableEq

def createEmptyProfileMemoryMutationJournalState : ProfileMemoryMutationJournalState where
  nextWatermark := 1
  entries := []

def createDefaultProfileMemoryGraphCompactionState : ProfileMemoryGraphCompactionState where
  snapshotWatermark := 0
  lastCompactedAt := none
  maxObservationCount := 2048
  maxClaimCount := 2048
  maxEventCount := 1024
  maxJournalEntries := 4096

/-! ## Saved form -/

def textArray (texts : List String) : Json :=
  .arr (texts.map .str)

namespace ProfileMemoryMutationJournalEntry

def members (entry : ProfileMemoryMutationJournalEntry) : List (String × Json) :=
  [("journalEntryId", .str entry.journalEntryId), ("watermark", countJson entry.watermark),
    ("recordedAt", .str entry.recordedAt), ("sourceTaskId", textOrNull entry.sourceTaskId),
    ("sourceFingerprint", textOrNull entry.sourceFingerprint),
    ("mutationEnvelopeHash", textOrNull entry.mutationEnvelopeHash),
    ("observationIds", textArray entry.observationIds), ("claimIds", textArray entry.claimIds),
    ("eventIds", textArray entry.eventIds), ("redactionState", .str entry.redactionState.text)]

def toJson (entry : ProfileMemoryMutationJournalEntry) : Json :=
  .obj entry.members

end ProfileMemoryMutationJournalEntry

def ProfileMemoryMutationJournalState.toJson (state : ProfileMemoryMutationJournalState) : Json :=
  .obj [("schemaVersion", .str "v1"), ("nextWatermark", countJson state.nextWatermark),
    ("entries", .arr (state.entries.map ProfileMemoryMutationJournalEntry.toJson))]

def ProfileMemoryGraphCompactionState.toJson (state : ProfileMemoryGraphCompactionState) : Json :=
  .obj [("schemaVersion", .str "v1"), ("snapshotWatermark", countJson state.snapshotWatermark),
    ("lastCompactedAt", textOrNull state.lastCompactedAt),
    ("maxObservationCount", countJson state.maxObservationCount),
    ("maxClaimCount", countJson state.maxClaimCount),
    ("maxEventCount", countJson state.maxEventCount),
    ("maxJournalEntries", countJson state.maxJournalEntries)]

/-! ## Fields -/

section Fields

variable (platform : JournalPlatform)

/-- A text trimmed, where something is left of it. -/
def trimmedText (text : String) : Option String :=
  if isPresent text then some (trim text) else none

def normalizeOptionalMetadataString (value : Option String) : Option String :=
  value.bind trimmedText

def normalizeRequiredMetadataString (value : Option Json) : Option String :=
  (textOf value).bind trimmedText

def normalizeJournalRedactionStateCandidate (value : Json) : Option JournalRedactionState :=
  match textOf (some value) with
  | none => none
  | some text =>
      if trim text = "not_requested" then some .notRequested
      else if trim text = "requested" then some .requested
      else if trim text = "redacted" then some .redacted
      else none

def normalizeRecordedAtForComparison (value : String) : String :=
  match platform.dateParse (trim value) with
  | some ms => platform.toISOString ms
  | none => trim value

def normalizeRequiredRecordedAt (value : Option Json) (fallbackRecordedAt : String) : String :=
  let fallback := normalizeRecordedAtForComparison platform fallbackRecordedAt
  match textOf value with
  | none => fallback
  | some text =>
      match platform.dateParse (trim text) with
      | some ms => platform.toISOString ms
      | none => fallback

/-- Trimmed, without blanks and repetitions, in locale order. -/
def dedupeSortedStrings (values : List String) : List String :=
  platform.locale.sort (uniqueValues (values.filterMap trimmedText))

/-- The texts among the elements of an array. -/
def textElements (value : Option Json) : List String :=
  (elementsOf value).filterMap fun x => textOf (some x)

end Fields

/-! ## Identity -/

section Identity

variable (platform : JournalPlatform)

def sha256HexFromCanonicalJson (x : Json) : String :=
  platform.sha.digest (canonicalJson platform.locale x)

/-- The id of what an entry records, whatever its watermark and its present id. -/
def buildProfileMemoryMutationJournalCanonicalEntryId
    (entry : ProfileMemoryMutationJournalEntry) : String :=
  "journal_" ++ sliceUnits 24 (sha256HexFromCanonicalJson platform (.obj
    [("recordedAt", .str entry.recordedAt), ("sourceTaskId", textOrNull entry.sourceTaskId),
      ("sourceFingerprint", textOrNull entry.sourceFingerprint),
      ("mutationEnvelopeHash", textOrNull entry.mutationEnvelopeHash),
      ("observationIds", textArray entry.observationIds), ("claimIds", textArray entry.claimIds),
      ("eventIds", textArray entry.eventIds),
      ("redactionState", .str entry.redactionState.text)]))

/-- An entry under the id of what it records. -/
def withCanonicalEntryId (entry : ProfileMemoryMutationJournalEntry) :
    ProfileMemoryMutationJournalEntry :=
  { entry with journalEntryId := buildProfileMemoryMutationJournalCanonicalEntryId platform entry }

end Identity

/-! ## Reading stored entries -/

/-- A stored entry, and whether its watermark was missing. -/
structure NormalizedJournalEntryCandidate where
  entry : ProfileMemoryMutationJournalEntry
  watermarkRecovered : Bool
  deriving DecidableEq

section Reading

variable (platform : JournalPlatform)

/-- `typedEntry.redactionState == null` holds of an absent member too. -/
def readRedactionState : Option Json → Option JournalRedactionState
  | none => some .notRequested
  | some .null => some .notRequested
  | some value => normalizeJournalRedactionStateCandidate value

def readJournalMembers (fallbackRecordedAt : String) (members : List (String × Json))
    (redactionState : JournalRedactionState) : NormalizedJournalEntryCandidate :=
  let textMember := fun key => normalizeOptionalMetadataString (textOf (members.lookup key))
  let idsMember := fun key => dedupeSortedStrings platform (textElements (members.lookup key))
  let watermark := positiveOf (members.lookup "watermark")
  let recovered := withCanonicalEntryId platform
    { journalEntryId := ""
      watermark := watermark.getD 0
      recordedAt :=
        normalizeRequiredRecordedAt platform (members.lookup "recordedAt") fallbackRecordedAt
      sourceTaskId := textMember "sourceTaskId"
      sourceFingerprint := textMember "sourceFingerprint"
      mutationEnvelopeHash := textMember "mutationEnvelopeHash"
      observationIds := idsMember "observationIds"
      claimIds := idsMember "claimIds"
      eventIds := idsMember "eventIds"
      redactionState := redactionState }
  { entry :=
      { recovered with
        journalEntryId :=
          (normalizeRequiredMetadataString (members.lookup "journalEntryId")).getD
            recovered.journalEntryId }
    watermarkRecovered := watermark.isNone }

def readJournalEntry (fallbackRecordedAt : String) (raw : Json) :
    Option NormalizedJournalEntryCandidate :=
  (membersOf (some raw)).bind fun members =>
    (readRedactionState (members.lookup "redactionState")).map
      (readJournalMembers platform fallbackRecordedAt members)

end Reading

/-! ## Order of stored entries -/

section Order

variable (platform : JournalPlatform)

/-- `left.localeCompare(right)` decides where the texts differ; else what comes next does. -/
def localeThen (left right : String) (next : Bool) : Bool :=
  if left = right then next else platform.locale.le left right

/-- Whether `left` is no fresher than `right`. -/
def compareJournalEntryFreshness (left right : ProfileMemoryMutationJournalEntry) : Bool :=
  if left.watermark ≠ right.watermark then
    decide (left.watermark ≤ right.watermark)
  else
    localeThen platform (normalizeRecordedAtForComparison platform left.recordedAt)
      (normalizeRecordedAtForComparison platform right.recordedAt)
      (if platform.locale.le left.journalEntryId right.journalEntryId &&
          platform.locale.le right.journalEntryId left.journalEntryId then
        platform.locale.le (buildProfileMemoryMutationJournalCanonicalEntryId platform left)
          (buildProfileMemoryMutationJournalCanonicalEntryId platform right)
      else
        platform.locale.le left.journalEntryId right.journalEntryId)

/-- `compareJournalEntryFreshness(existing, candidate) < 0`. -/
def isFresher (existing candidate : ProfileMemoryMutationJournalEntry) : Bool :=
  !compareJournalEntryFreshness platform candidate existing

def compareJournalEntryIds (left right : ProfileMemoryMutationJournalEntry) : Bool :=
  localeThen platform (buildProfileMemoryMutationJournalCanonicalEntryId platform left)
    (buildProfileMemoryMutationJournalCanonicalEntryId platform right)
    (platform.locale.le left.journalEntryId right.journalEntryId)

def compareJournalEntryReplayOrder (left right : ProfileMemoryMutationJournalEntry) : Bool :=
  if left.watermark ≠ right.watermark then
    decide (left.watermark ≤ right.watermark)
  else
    localeThen platform (normalizeRecordedAtForComparison platform left.recordedAt)
      (normalizeRecordedAtForComparison platform right.recordedAt)
      (compareJournalEntryIds platform left right)

/-- Stored watermarks decide between two entries that have one, times where one lacks it; so the
test need not be transitive. -/
def compareJournalEntryCandidateReplayOrder (left right : NormalizedJournalEntryCandidate) :
    Bool :=
  if !left.watermarkRecovered && !right.watermarkRecovered then
    compareJournalEntryReplayOrder platform left.entry right.entry
  else
    localeThen platform (normalizeRecordedAtForComparison platform left.entry.recordedAt)
      (normalizeRecordedAtForComparison platform right.entry.recordedAt)
      (if left.watermarkRecovered ≠ right.watermarkRecovered then
        right.watermarkRecovered
      else
        compareJournalEntryIds platform left.entry right.entry)

end Order

/-! ## Normalization -/

section Normalization

variable (platform : JournalPlatform)

/-- The map of stored entries under their ids; the freshest of an id is kept. -/
def candidatesById : KeyedMerge NormalizedJournalEntryCandidate String where
  key candidate := candidate.entry.journalEntryId
  choose existing candidate :=
    if isFresher platform existing.entry candidate.entry then candidate else existing
  key_choose _ _ h := by split_ifs <;> simp [h]

/-- The stored entries of one canonical id: the freshest of them, and how many there are. -/
structure CanonicalGroup where
  candidate : NormalizedJournalEntryCandidate
  duplicateCount : ℕ

def groupsByCanonicalPayload : KeyedMerge CanonicalGroup String where
  key group := buildProfileMemoryMutationJournalCanonicalEntryId platform group.candidate.entry
  choose existing group :=
    { candidate :=
        if isFresher platform existing.candidate.entry group.candidate.entry then group.candidate
        else existing.candidate
      duplicateCount := existing.duplicateCount + 1 }
  key_choose _ _ h := by split_ifs <;> simp [h]

/-- Duplicates are kept under their canonical id. -/
def representative (group : CanonicalGroup) : NormalizedJournalEntryCandidate :=
  if 1 < group.duplicateCount then
    { group.candidate with entry := withCanonicalEntryId platform group.candidate.entry }
  else
    group.candidate

/-- Each entry in turn is stamped above the one before it. -/
def restamp : ℕ → List NormalizedJournalEntryCandidate → List ProfileMemoryMutationJournalEntry
  | _, [] => []
  | previousWatermark, candidate :: rest =>
      let nextWatermark := max (previousWatermark + 1) candidate.entry.watermark
      { candidate.entry with watermark := nextWatermark } :: restamp nextWatermark rest

def dedupeJournalEntries (candidates : List NormalizedJournalEntryCandidate) :
    List NormalizedJournalEntryCandidate :=
  let deduped := (candidatesById platform).collect [] candidates
  ((groupsByCanonicalPayload platform).collect []
    (deduped.map fun candidate => ⟨candidate, 1⟩)).map (representative platform)

def normalizeJournalEntries (candidates : List NormalizedJournalEntryCandidate) :
    List ProfileMemoryMutationJournalEntry :=
  restamp 0 (platform.hostSort.sort (compareJournalEntryCandidateReplayOrder platform)
    (dedupeJournalEntries platform candidates))

def highestWatermark (entries : List ProfileMemoryMutationJournalEntry) : ℕ :=
  entries.foldl (fun highest entry => max highest entry.watermark) 0

def normalizeProfileMemoryMutationJournalState (raw : Option Json) (fallbackRecordedAt : String) :
    ProfileMemoryMutationJournalState :=
  match membersOf raw with
  | none => createEmptyProfileMemoryMutationJournalState
  | some members =>
      let entries := normalizeJournalEntries platform
        ((elementsOf (members.lookup "entries")).filterMap
          (readJournalEntry platform fallbackRecordedAt))
      let highest := highestWatermark entries
      { nextWatermark :=
          ((positiveOf (members.lookup "nextWatermark")).filter (highest < ·)).getD (highest + 1)
        entries := entries }

def normalizeLastCompactedAt (value : Option Json) : Option String :=
  (textOf value).bind fun text => (platform.dateParse (trim text)).map platform.toISOString

def normalizeProfileMemoryGraphCompactionState (raw : Option Json) :
    ProfileMemoryGraphCompactionState :=
  let empty := createDefaultProfileMemoryGraphCompactionState
  match membersOf raw with
  | none => empty
  | some members =>
      { snapshotWatermark :=
          (naturalOf (members.lookup "snapshotWatermark")).getD empty.snapshotWatermark
        lastCompactedAt := normalizeLastCompactedAt platform (members.lookup "lastCompactedAt")
        maxObservationCount :=
          (positiveOf (members.lookup "maxObservationCount")).getD empty.maxObservationCount
        maxClaimCount := (positiveOf (members.lookup "maxClaimCount")).getD empty.maxClaimCount
        maxEventCount := (positiveOf (members.lookup "maxEventCount")).getD empty.maxEventCount
        maxJournalEntries :=
          (positiveOf (members.lookup "maxJournalEntries")).getD empty.maxJournalEntries }

end Normalization

/-! ## Appending -/

structure JournalEntryInput where
  recordedAt : String
  sourceTaskId : Option String
  sourceFingerprint : Option String
  mutationEnvelopeHash : Option String
  observationIds : List String
  claimIds : List String
  eventIds : List String
  redactionState : JournalRedactionState

section Appending

variable (platform : JournalPlatform)

/-- The entry an append would add. -/
def journalEntryOf (state : ProfileMemoryMutationJournalState) (input : JournalEntryInput) :
    ProfileMemoryMutationJournalEntry :=
  withCanonicalEntryId platform
    { journalEntryId := ""
      watermark := state.nextWatermark
      recordedAt := input.recordedAt
      sourceTaskId := normalizeOptionalMetadataString input.sourceTaskId
      sourceFingerprint := normalizeOptionalMetadataString input.sourceFingerprint
      mutationEnvelopeHash := normalizeOptionalMetadataString input.mutationEnvelopeHash
      observationIds := dedupeSortedStrings platform input.observationIds
      claimIds := dedupeSortedStrings platform input.claimIds
      eventIds := dedupeSortedStrings platform input.eventIds
      redactionState := input.redactionState }

def hasNoReferences (entry : ProfileMemoryMutationJournalEntry) : Bool :=
  entry.observationIds.isEmpty && entry.claimIds.isEmpty && entry.eventIds.isEmpty

def appendProfileMemoryMutationJournalEntry (state : ProfileMemoryMutationJournalState)
    (input : JournalEntryInput) : ProfileMemoryMutationJournalState :=
  let entry := journalEntryOf platform state input
  if hasNoReferences entry then
    state
  else if entry.journalEntryId ∈
      state.entries.map (buildProfileMemoryMutationJournalCanonicalEntryId platform) then
    state
  else
    { nextWatermark := state.nextWatermark + 1
      entries := state.entries ++ [entry] }

/-- The records that a load finds without replay coverage. -/
structure ReplayBackfillIds where
  observationIds : List String
  claimIds : List String
  eventIds : List String

def buildReplayBackfillFingerprint (lane : String) (ids : List String) : String :=
  lane ++ sliceUnits 24 (sha256HexFromCanonicalJson platform (textArray (codeUnitOrder.sort ids)))

/-- An entry for one lane of missing records, where there are any. -/
def appendReplayBackfillEntry (state : ProfileMemoryMutationJournalState) (recordedAt lane : String)
    (ids : List String) (input : JournalEntryInput) : ProfileMemoryMutationJournalState :=
  if ids.isEmpty then
    state
  else
    appendProfileMemoryMutationJournalEntry platform state
      { input with
        recordedAt := recordedAt
        sourceFingerprint := some (buildReplayBackfillFingerprint platform lane ids) }

def appendProfileMemoryGraphReplayBackfillEntries (state : ProfileMemoryMutationJournalState)
    (recordedAt : String) (ids : ReplayBackfillIds) : ProfileMemoryMutationJournalState :=
  let input : JournalEntryInput :=
    { recordedAt := recordedAt
      sourceTaskId := none
      sourceFingerprint := none
      mutationEnvelopeHash := none
      observationIds := []
      claimIds := []
      eventIds := []
      redactionState := .notRequested }
  let events := appendReplayBackfillEntry platform state recordedAt "graph_event_replay_backfill_"
    ids.eventIds { input with eventIds := ids.eventIds }
  let observations := appendReplayBackfillEntry platform events recordedAt
    "graph_observation_replay_backfill_" ids.observationIds
    { input with observationIds := ids.observationIds }
  appendReplayBackfillEntry platform observations recordedAt "graph_claim_replay_backfill_"
    ids.claimIds { input with claimIds := ids.claimIds }

end Appending

/-! ## Pruning, compaction and clamps -/

/-- The ids of the graph records that survive. -/
structure SurvivingRecordIds where
  observationIds : List String
  claimIds : List String
  eventIds : List String

section Window

variable (platform : JournalPlatform)

/-- An entry without the references that dangle; `none` where nothing is left. -/
def pruneJournalEntry (valid : SurvivingRecordIds) (entry : ProfileMemoryMutationJournalEntry) :
    Option ProfileMemoryMutationJournalEntry :=
  let pruned :=
    { entry with
      observationIds :=
        dedupeSortedStrings platform (entry.observationIds.filter (· ∈ valid.observationIds))
      claimIds := dedupeSortedStrings platform (entry.claimIds.filter (· ∈ valid.claimIds))
      eventIds := dedupeSortedStrings platform (entry.eventIds.filter (· ∈ valid.eventIds)) }
  if hasNoReferences pruned then none
  else if pruned = entry then some entry
  else some (withCanonicalEntryId platform pruned)

def EMPTY_MUTATION_JOURNAL_FALLBACK_RECORDED_AT : String := "1970-01-01T00:00:00.000Z"

/-- The journal is normalized again where an entry changed or went. -/
def pruneProfileMemoryMutationJournalReferences (state : ProfileMemoryMutationJournalState)
    (valid : SurvivingRecordIds) : ProfileMemoryMutationJournalState :=
  let nextEntries := state.entries.filterMap (pruneJournalEntry platform valid)
  if nextEntries = state.entries then
    state
  else
    normalizeProfileMemoryMutationJournalState platform
      (some (ProfileMemoryMutationJournalState.toJson ⟨state.nextWatermark, nextEntries⟩))
      (((nextEntries ++ state.entries).head?.map (·.recordedAt)).getD
        EMPTY_MUTATION_JOURNAL_FALLBACK_RECORDED_AT)

def byWatermark : Comparator ProfileMemoryMutationJournalEntry :=
  (numberOrder ℕ).byKey (·.watermark)

/-- The highest watermark a snapshot may claim: below what is retained. -/
def maxSnapshotWatermark (nextWatermark : ℕ) : Option ProfileMemoryMutationJournalEntry → ℕ
  | some first => first.watermark - 1
  | none => nextWatermark - 1

def compactProfileMemoryMutationJournalState (state : ProfileMemoryMutationJournalState)
    (compaction : ProfileMemoryGraphCompactionState) (recordedAt : String) :
    ProfileMemoryMutationJournalState × ProfileMemoryGraphCompactionState :=
  let entries := byWatermark.sort state.entries
  let snapshotWatermark :=
    min compaction.snapshotWatermark (maxSnapshotWatermark state.nextWatermark entries.head?)
  let overflowCount := entries.length - compaction.maxJournalEntries
  if overflowCount = 0 then
    ({ state with entries }, { compaction with snapshotWatermark })
  else
    let removedWatermark :=
      ((entries.take overflowCount).getLast?.map (·.watermark)).getD snapshotWatermark
    ({ state with entries := entries.drop overflowCount },
      { compaction with
        snapshotWatermark := max snapshotWatermark removedWatermark
        lastCompactedAt := some recordedAt })

/-- The first retained watermark is the lowest, whatever the order. -/
def lowestWatermark (entries : List ProfileMemoryMutationJournalEntry) : Option ℕ :=
  entries.foldl (fun lowest entry =>
    match lowest with
    | none => some entry.watermark
    | some least => some (if entry.watermark < least then entry.watermark else least)) none

def clampProfileMemoryGraphCompactionSnapshotWatermark
    (compaction : ProfileMemoryGraphCompactionState) (state : ProfileMemoryMutationJournalState) :
    ProfileMemoryGraphCompactionState :=
  { compaction with
    snapshotWatermark := min compaction.snapshotWatermark
      (((lowestWatermark state.entries).getD state.nextWatermark) - 1) }

def clampProfileMemoryGraphMutationJournalNextWatermark
    (compaction : ProfileMemoryGraphCompactionState) (state : ProfileMemoryMutationJournalState) :
    ProfileMemoryMutationJournalState :=
  { state with
    nextWatermark := max (highestWatermark state.entries) compaction.snapshotWatermark + 1 }

end Window
end AgentBigBrain.Core
