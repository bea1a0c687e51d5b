import AgentBigBrain.Core.ProfileEpisodes

/-!
# Workflow patterns

A pattern counts how often a workflow was observed to succeed, to fail and to be suppressed, and
carries a confidence that observations raise and lower and that time lets decay. Recording an
observation adapts all stored patterns and keeps the most recent of them.
-/
namespace AgentBigBrain.Core

open AgentBigBrain.Js

/-! ## Records -/

inductive WorkflowOutcome where
  | success
  | failure
  | suppressed
  deriving DecidableEq

inductive WorkflowPatternStatus where
  | active
  | superseded
  deriving DecidableEq

inductive WorkflowExecutionStyle where
  | respondOnly
  | singleAction
  | multiAction
  | liveRun
  | skillBased
  deriving DecidableEq

inductive WorkflowApprovalPosture where
  | none
  | fastPathOnly
  | escalationOnly
  | mixed
  | blockedOnly
  deriving DecidableEq

inductive WorkflowCostBand where
  | none
  | low
  | medium
  | high
  deriving DecidableEq

inductive WorkflowLatencyBand where
  | fast
  | moderate
  | slow
  deriving DecidableEq

inductive LinkedSkillVerificationStatus where
  | unverified
  | verified
  | failed
  deriving DecidableEq

/-- What an observation may add to a pattern; `none` is `undefined` and `some none` is `null`. -/
structure WorkflowMetadata where
  executionStyle : Option WorkflowExecutionStyle
  actionSequenceShape : Option String
  approvalPosture : Option WorkflowApprovalPosture
  verificationProofPresent : Option Bool
  costBand : Option WorkflowCostBand
  latencyBand : Option WorkflowLatencyBand
  dominantFailureMode : Option (Option String)
  recoveryPath : Option (Option String)
  linkedSkillName : Option (Option String)
  linkedSkillVerificationStatus : Option (Option LinkedSkillVerificationStatus)
  evidenceRefs : Option (List String)
  accessMetadata : Option Json
  deriving DecidableEq

structure WorkflowObservation where
  workflowKey : String
  outcome : WorkflowOutcome
  observedAt : String
  domainLane : String
  contextTags : List String
  supersedesKeys : Option (List String)
  metadata : WorkflowMetadata

structure WorkflowPattern where
  id : String
  workflowKey : String
  status : WorkflowPatternStatus
  confidence : ℚ
  firstSeenAt : String
  lastSeenAt : String
  supersededAt : Option String
  domainLane : String
  successCount : ℚ
  failureCount : ℚ
  suppressedCount : ℚ
  contextTags : List String
  metadata : WorkflowMetadata
  deriving DecidableEq

def WorkflowMetadata.empty : WorkflowMetadata where
  executionStyle := none
  actionSequenceShape := none
  approvalPosture := none
  verificationProofPresent := none
  costBand := none
  latencyBand := none
  dominantFailureMode := none
  recoveryPath := none
  linkedSkillName := none
  linkedSkillVerificationStatus := none
  evidenceRefs := none
  accessMetadata := none

/-! ## Adaptation -/

def DEFAULT_DECAY_INTERVAL_DAYS : ℚ := 7

def DEFAULT_DECAY_STEP : ℚ := 1 / 20

def DEFAULT_SUCCESS_BOOST : ℚ := 3 / 25

def DEFAULT_FAILURE_PENALTY : ℚ := 9 / 50

def DEFAULT_SUPPRESSED_PENALTY : ℚ := 2 / 25

def DEFAULT_BASE_CONFIDENCE : ℚ := 11 / 20

def normalizeLineItems (items : Option (List String)) : List String :=
  uniqueValues (((items.getD []).map trim).filter (· ≠ ""))

def clampConfidence (value : ℚ) : ℚ :=
  roundTo 4 (max 0 (min 1 value))

def nextConfidence (current : ℚ) : WorkflowOutcome → ℚ
  | .success => clampConfidence (current + DEFAULT_SUCCESS_BOOST)
  | .failure => clampConfidence (current - DEFAULT_FAILURE_PENALTY)
  | .suppressed => clampConfidence (current - DEFAULT_SUPPRESSED_PENALTY)

/-- One where the observation had this outcome. -/
def countOf (observed outcome : WorkflowOutcome) : ℚ :=
  if observed = outcome then 1 else 0

variable (platform : BridgePlatform) (hostSort : HostSort)

def normalizeWorkflowKey (value : String) : String :=
  platform.toLowerCase (trim value)

def daysBetween (fromIso toIso : String) : ℚ :=
  match platform.dateParse fromIso, platform.dateParse toIso with
  | some start, some stop => max 0 (stop - start) / (24 * 60 * 60 * 1000)
  | _, _ => 0

def toSortedUniqueTags (existing next : List String) : List String :=
  platform.locale.sort (uniqueValues (((existing ++ next).map trim).filter (· ≠ "")))

def decayPatternConfidence (pattern : WorkflowPattern) (observedAt : String) : WorkflowPattern :=
  let elapsedDays := daysBetween platform pattern.lastSeenAt observedAt
  let steps := ⌊elapsedDays / DEFAULT_DECAY_INTERVAL_DAYS⌋
  if pattern.status ≠ .active then pattern
  else if elapsedDays < DEFAULT_DECAY_INTERVAL_DAYS then pattern
  else if steps ≤ 0 then pattern
  else
    { pattern with
      confidence := clampConfidence (pattern.confidence - steps * DEFAULT_DECAY_STEP) }

/-- What a call reads besides the patterns: the clock, for a time that does not parse, and the id
that a new pattern would get. -/
structure ObservationReadings where
  nowIso : String
  newId : String

/-- The pattern of a workflow that is observed for the first time. -/
def firstPattern (observation : WorkflowObservation) (readings : ObservationReadings)
    (observedAt : String) : WorkflowPattern where
  id := readings.newId
  workflowKey := normalizeWorkflowKey platform observation.workflowKey
  status := .active
  confidence := nextConfidence (clampConfidence DEFAULT_BASE_CONFIDENCE) observation.outcome
  firstSeenAt := observedAt
  lastSeenAt := observedAt
  supersededAt := none
  domainLane := if trim observation.domainLane = "" then "unknown" else trim observation.domainLane
  successCount := countOf observation.outcome .success
  failureCount := countOf observation.outcome .failure
  suppressedCount := countOf observation.outcome .suppressed
  contextTags := normalizeLineItems (some observation.contextTags)
  metadata := .empty

/-- The pattern with one more observation. -/
def WorkflowPattern.observedAgain (current : WorkflowPattern) (observation : WorkflowObservation)
    (observedAt : String) : WorkflowPattern :=
  { current with
    lastSeenAt := observedAt
    confidence := nextConfidence current.confidence observation.outcome
    successCount := current.successCount + countOf observation.outcome .success
    failureCount := current.failureCount + countOf observation.outcome .failure
    suppressedCount := current.suppressedCount + countOf observation.outcome .suppressed
    contextTags := toSortedUniqueTags platform current.contextTags
      (normalizeLineItems (some observation.contextTags)) }

def supersede (keys : List String) (observedAt : String) (pattern : WorkflowPattern) :
    WorkflowPattern :=
  if pattern.status = .active ∧ normalizeWorkflowKey platform pattern.workflowKey ∈ keys then
    { pattern with
      status := .superseded
      supersededAt := some observedAt
      confidence := clampConfidence (min pattern.confidence (1 / 4)) }
  else pattern

structure WorkflowAdaptation where
  patterns : List WorkflowPattern
  updatedPattern : WorkflowPattern
  supersededPatternIds : List String

/-- The first element that passes the test is changed; `none` where none passes. -/
def updateFirst {α : Type*} (test : α → Bool) (change : α → α) : List α → Option (List α × α)
  | [] => none
  | x :: xs =>
      if test x then some (change x :: xs, change x)
      else (updateFirst test change xs).map fun found => (x :: found.1, found.2)

def adaptWorkflowPatterns (existingPatterns : List WorkflowPattern)
    (observation : WorkflowObservation) (readings : ObservationReadings) : WorkflowAdaptation :=
  let observedAt := toIsoOrNow platform readings.nowIso observation.observedAt
  let workflowKey := normalizeWorkflowKey platform observation.workflowKey
  let normalizedSupersedes :=
    (normalizeLineItems observation.supersedesKeys).map (normalizeWorkflowKey platform)
  let decayedPatterns := existingPatterns.map (decayPatternConfidence platform · observedAt)
  let supersededPatterns := decayedPatterns.filter fun pattern =>
    decide (pattern.status = .active) &&
      normalizedSupersedes.contains (normalizeWorkflowKey platform pattern.workflowKey)
  let mutatedPatterns := decayedPatterns.map (supersede platform normalizedSupersedes observedAt)
  let isObserved : WorkflowPattern → Bool := fun pattern =>
    decide (pattern.status = .active ∧
      normalizeWorkflowKey platform pattern.workflowKey = workflowKey)
  match updateFirst isObserved (·.observedAgain platform observation observedAt)
      mutatedPatterns with
  | some (patterns, updatedPattern) =>
      { patterns := patterns
        updatedPattern := updatedPattern
        supersededPatternIds := supersededPatterns.map (·.id) }
  | none =>
      let updatedPattern := firstPattern platform observation readings observedAt
      { patterns := mutatedPatterns ++ [updatedPattern]
        updatedPattern := updatedPattern
        supersededPatternIds := supersededPatterns.map (·.id) }

/-! ## Metadata of an observation -/

def toNullableString (value : Option String) : Option String :=
  value.filter isPresent

def WorkflowMetadata.mergeEvidenceRefs (existing next : Option (List String)) :
    Option (List String) :=
  let refs := ((existing.getD [] ++ next.getD []).map trim).filter (· ≠ "")
  if refs = [] then none else some (uniqueValues refs)

/-- A text that the observation overwrites unless it leaves it undefined. -/
def overwriteNullable (next existing : Option (Option String)) : Option (Option String) :=
  match next with
  | none => existing
  | some value => some (toNullableString value)

def WorkflowMetadata.applyObservation (metadata next : WorkflowMetadata) : WorkflowMetadata where
  executionStyle := next.executionStyle <|> metadata.executionStyle
  actionSequenceShape := next.actionSequenceShape <|> metadata.actionSequenceShape
  approvalPosture := next.approvalPosture <|> metadata.approvalPosture
  verificationProofPresent := next.verificationProofPresent <|> metadata.verificationProofPresent
  costBand := next.costBand <|> metadata.costBand
  latencyBand := next.latencyBand <|> metadata.latencyBand
  dominantFailureMode := overwriteNullable next.dominantFailureMode metadata.dominantFailureMode
  recoveryPath := overwriteNullable next.recoveryPath metadata.recoveryPath
  linkedSkillName := overwriteNullable next.linkedSkillName metadata.linkedSkillName
  -- `??` passes over `null` as over `undefined`.
  linkedSkillVerificationStatus :=
    if next.linkedSkillVerificationStatus.join.isSome then next.linkedSkillVerificationStatus
    else metadata.linkedSkillVerificationStatus
  evidenceRefs := WorkflowMetadata.mergeEvidenceRefs metadata.evidenceRefs next.evidenceRefs
  accessMetadata := next.accessMetadata <|> metadata.accessMetadata

def applyWorkflowObservationMetadata (pattern : WorkflowPattern)
    (observation : WorkflowObservation) : WorkflowPattern :=
  { pattern with metadata := pattern.metadata.applyObservation observation.metadata }

def applyObservationMetadataToAdaptation (adaptation : WorkflowAdaptation)
    (observation : WorkflowObservation) : WorkflowAdaptation :=
  let patterns := adaptation.patterns.map fun pattern =>
    if pattern.id = adaptation.updatedPattern.id then
      applyWorkflowObservationMetadata pattern observation
    else pattern
  { patterns := patterns
    updatedPattern := (patterns.find? (·.id = adaptation.updatedPattern.id)).getD
      (applyWorkflowObservationMetadata adaptation.updatedPattern observation)
    supersededPatternIds := adaptation.supersededPatternIds }

/-! ## Stored patterns -/

def MAX_WORKFLOW_PATTERNS : ℕ := 2000

/-- A stored text: blank ones are read as `null`. -/
def parseOptionalString (value : Option (Option String)) : Option (Option String) :=
  value.map toNullableString

def WorkflowMetadata.parsed (metadata : WorkflowMetadata) : WorkflowMetadata :=
  { metadata with
    actionSequenceShape := (parseOptionalString (metadata.actionSequenceShape.map some)).join
    dominantFailureMode := parseOptionalString metadata.dominantFailureMode
    recoveryPath := parseOptionalString metadata.recoveryPath
    linkedSkillName := parseOptionalString metadata.linkedSkillName
    -- `null` is not among the allowed values.
    linkedSkillVerificationStatus := metadata.linkedSkillVerificationStatus.join.map some }

/-- A stored pattern that has all its fields. -/
def parseWorkflowPattern (candidate : WorkflowPattern) : WorkflowPattern :=
  { candidate with
    workflowKey := trim candidate.workflowKey
    confidence :=
      if candidate.confidence < 0 then 0
      else if 1 < candidate.confidence then 1
      else roundTo 4 candidate.confidence
    supersededAt := toNullableString candidate.supersededAt
    domainLane := if trim candidate.domainLane = "" then "unknown" else trim candidate.domainLane
    metadata := candidate.metadata.parsed }

/-- `sortPatternsForRetention(left, right) <= 0`. -/
def sortPatternsForRetention (left right : WorkflowPattern) : Bool :=
  if left.lastSeenAt ≠ right.lastSeenAt then
    platform.locale.le right.lastSeenAt left.lastSeenAt
  else if left.confidence ≠ right.confidence then decide (right.confidence ≤ left.confidence)
  else platform.locale.le left.id right.id

def capWorkflowPatterns (patterns : List WorkflowPattern) : List WorkflowPattern :=
  (hostSort.sort (sortPatternsForRetention platform) patterns).take MAX_WORKFLOW_PATTERNS

/-- What `recordObservation` returns and stores, from the patterns it read. -/
def recordedAdaptation (patterns : List WorkflowPattern) (observation : WorkflowObservation)
    (readings : ObservationReadings) : WorkflowAdaptation :=
  let adaptation := applyObservationMetadataToAdaptation
    (adaptWorkflowPatterns platform (patterns.map parseWorkflowPattern) observation readings)
    observation
  let nextPatterns := capWorkflowPatterns platform hostSort adaptation.patterns
  { patterns := nextPatterns
    updatedPattern := (nextPatterns.find? (·.id = adaptation.updatedPattern.id)).getD
      adaptation.updatedPattern
    supersededPatternIds := adaptation.supersededPatternIds }

/-! ## Counting observations -/

def WorkflowPattern.observations (pattern : WorkflowPattern) : ℚ :=
  pattern.successCount + pattern.failureCount + pattern.suppressedCount

/-- The observations that the patterns count, over all of them. -/
def observationCount (patterns : List WorkflowPattern) : ℚ :=
  (patterns.map (·.observations)).sum

@[simp] lemma observationCount_append (first second : List WorkflowPattern) :
    observationCount (first ++ second) = observationCount first + observationCount second := by
  simp [observationCount]

@[simp] lemma observationCount_cons (pattern : WorkflowPattern) (patterns : List WorkflowPattern) :
    observationCount (pattern :: patterns) = pattern.observations + observationCount patterns := by
  simp [observationCount]

lemma observationCount_map {change : WorkflowPattern → WorkflowPattern}
    (h : ∀ pattern, (change pattern).observations = pattern.observations)
    (patterns : List WorkflowPattern) :
    observationCount (patterns.map change) = observationCount patterns := by
  induction patterns with
  | nil => rfl
  | cons pattern patterns ih => simp [h, ih]

lemma observationCount_perm {first second : List WorkflowPattern} (h : first.Perm second) :
    observationCount first = observationCount second :=
  (h.map _).sum_eq

lemma countOf_sum (outcome : WorkflowOutcome) :
    countOf outcome .success + countOf outcome .failure + countOf outcome .suppressed = 1 := by
  cases outcome <;> simp [countOf]

@[simp] lemma observations_parse (pattern : WorkflowPattern) :
    (parseWorkflowPattern pattern).observations = pattern.observations := rfl

@[simp] lemma observations_applyMetadata (pattern : WorkflowPattern)
    (observation : WorkflowObservation) :
    (applyWorkflowObservationMetadata pattern observation).observations = pattern.observations :=
  rfl

variable {platform hostSort}

@[simp] lemma observations_decay (pattern : WorkflowPattern) (observedAt : String) :
    (decayPatternConfidence platform pattern observedAt).observations = pattern.observations := by
  unfold decayPatternConfidence
  dsimp only
  split_ifs <;> rfl

@[simp] lemma observations_supersede (keys : List String) (observedAt : String)
    (pattern : WorkflowPattern) :
    (supersede platform keys observedAt pattern).observations = pattern.observations := by
  unfold supersede
  split_ifs <;> rfl

lemma observations_observedAgain (pattern : WorkflowPattern) (observation : WorkflowObservation)
    (observedAt : String) :
    (pattern.observedAgain platform observation observedAt).observations =
      pattern.observations + 1 := by
  have hsum := countOf_sum observation.outcome
  simp only [WorkflowPattern.observations, WorkflowPattern.observedAgain]
  linarith

lemma observations_first (observation : WorkflowObservation) (readings : ObservationReadings)
    (observedAt : String) :
    (firstPattern platform observation readings observedAt).observations = 1 :=
  countOf_sum observation.outcome

lemma updateFirst_spec {α : Type*} {test : α → Bool} {change : α → α} {xs ys : List α} {y : α}
    (h : updateFirst test change xs = some (ys, y)) :
    ∃ before x after, xs = before ++ x :: after ∧ test x = true ∧
      ys = before ++ change x :: after ∧ y = change x := by
  induction xs generalizing ys with
  | nil => cases h
  | cons x xs ih =>
      unfold updateFirst at h
      split_ifs at h with htest
      · cases h
        exact ⟨[], x, xs, rfl, htest, rfl, rfl⟩
      · obtain ⟨⟨rest, found⟩, hrest, heq⟩ := Option.map_eq_some_iff.mp h
        cases heq
        obtain ⟨before, z, after, hxs, hz, hys, hy⟩ := ih hrest
        exact ⟨x :: before, z, after, by simp [hxs], hz, by simp [hys], hy⟩

lemma updateFirst_eq_none {α : Type*} {test : α → Bool} {change : α → α} {xs : List α}
    (h : updateFirst test change xs = none) : ∀ x ∈ xs, test x = false := by
  induction xs with
  | nil => simp
  | cons x xs ih =>
      unfold updateFirst at h
      split_ifs at h with htest
      have hrest := ih (Option.map_eq_none_iff.mp h)
      intro y hy
      rcases List.mem_cons.mp hy with rfl | hy
      · simpa using htest
      · exact hrest y hy

/-- The adapted patterns count one observation more, in the pattern of its workflow or in one that
is added. -/
lemma adapt_counts (patterns : List WorkflowPattern) (observation : WorkflowObservation)
    (readings : ObservationReadings) :
    observationCount (adaptWorkflowPatterns platform patterns observation readings).patterns =
        observationCount patterns + 1 ∧
      (adaptWorkflowPatterns platform patterns observation readings).patterns.length ≤
        patterns.length + 1 := by
  unfold adaptWorkflowPatterns
  dsimp only
  generalize toIsoOrNow platform readings.nowIso observation.observedAt = observedAt
  generalize List.map (normalizeWorkflowKey platform)
    (normalizeLineItems observation.supersedesKeys) = keys
  generalize hmutated : List.map (supersede platform keys observedAt)
    (List.map (decayPatternConfidence platform · observedAt) patterns) = mutated
  have hcount : observationCount mutated = observationCount patterns := by
    rw [← hmutated, observationCount_map (observations_supersede keys observedAt),
      observationCount_map fun pattern => observations_decay pattern observedAt]
  have hlength : mutated.length = patterns.length := by simp [← hmutated]
  split
  · rename_i updated updatedPattern hupdate
    obtain ⟨before, pattern, after, hsplit, -, hupdated, -⟩ := updateFirst_spec hupdate
    subst hupdated
    rw [hsplit] at hcount hlength
    simp only [observationCount_append, observationCount_cons, observations_observedAgain,
      List.length_append, List.length_cons] at hcount hlength ⊢
    refine ⟨by linarith, by omega⟩
  · simp only [observationCount_append, observationCount_cons, observations_first, hcount,
      List.length_append, hlength]
    simp [observationCount]

lemma applyMetadata_counts (adaptation : WorkflowAdaptation) (observation : WorkflowObservation) :
    observationCount (applyObservationMetadataToAdaptation adaptation observation).patterns =
        observationCount adaptation.patterns ∧
      (applyObservationMetadataToAdaptation adaptation observation).patterns.length =
        adaptation.patterns.length := by
  refine ⟨observationCount_map (fun pattern => ?_) _, List.length_map _⟩
  split_ifs <;> simp

/-- Below the cap nothing is dropped. -/
lemma cap_perm {patterns : List WorkflowPattern} (h : patterns.length ≤ MAX_WORKFLOW_PATTERNS) :
    (capWorkflowPatterns platform hostSort patterns).Perm patterns := by
  have hsorted := hostSort.perm (sortPatternsForRetention platform) patterns
  unfold capWorkflowPatterns
  rw [List.take_of_length_le (by rw [hsorted.length_eq]; exact h)]
  exact hsorted

/-- While there is room, recording an observation makes the patterns count one more. -/
theorem recorded_counts {patterns : List WorkflowPattern}
    (hroom : patterns.length + 1 ≤ MAX_WORKFLOW_PATTERNS) (observation : WorkflowObservation)
    (readings : ObservationReadings) :
    observationCount
        (recordedAdaptation platform hostSort patterns observation readings).patterns =
        observationCount patterns + 1 ∧
      (recordedAdaptation platform hostSort patterns observation readings).patterns.length ≤
        patterns.length + 1 := by
  obtain ⟨hcount, hlength⟩ := @adapt_counts platform
    (patterns.map parseWorkflowPattern) observation readings
  obtain ⟨hkeptCount, hkeptLength⟩ := applyMetadata_counts
    (adaptWorkflowPatterns platform (patterns.map parseWorkflowPattern) observation readings)
    observation
  rw [observationCount_map observations_parse] at hcount
  rw [List.length_map] at hlength
  have hperm := @cap_perm platform hostSort _
    (hkeptLength.le.trans (hlength.trans hroom))
  simp only [recordedAdaptation]
  rw [observationCount_perm hperm, hperm.length_eq]
  exact ⟨hkeptCount.trans hcount, hkeptLength.le.trans hlength⟩

end AgentBigBrain.Core
