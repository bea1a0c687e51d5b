import AgentBigBrain.Core.ProfileFactGovernance

/-!
# Normalization of stored profile facts

On load each stored fact is made canonical and governed again, and five repairs bring the list
into a shape that upserts could have left: one fact for an id, one active fact for a value, one
active value where values replace each other, one confirmed value where the prior one is
preserved, and a replay of the active values of a key whose families differ.
-/
namespace AgentBigBrain.Core

open AgentBigBrain.Js AgentBigBrain.Lib

variable (platform : BridgePlatform)

/-! ## Records -/

/-- The outer `none` is the throw of the governance on a key that is not a text; the inner one
drops the fact. -/
def normalizeRetainedFactKey (value : String) : Option (Option String) :=
  if normalizeProfileKey platform value = "__proto__" then
    some none
  else
    (canonicalizeProfileKey platform value).map fun normalized =>
      if normalized = "" then none else some normalized

def nonEmptyText (text : String) : Option String :=
  if text = "" then none else some text

def normalizeRetainedFactValue (value : String) : Option String :=
  nonEmptyText (normalizeProfileValue value)

def normalizeRetainedFactSourceTaskId (value : String) : Option String :=
  nonEmptyText (trim value)

def normalizeRetainedFactSource (value : String) : Option String :=
  nonEmptyText (normalizedText platform value)

def normalizeRetainedFactId (value : String) : Option String :=
  nonEmptyText (trim value)

def normalizeRetainedFactConfidence (value : ℚ) : ℚ :=
  if 0 ≤ value ∧ value ≤ 1 then value else 0

def normalizeProfileMutationAuditMetadata (candidate : ProfileMutationAuditMetadataV1) :
    Option ProfileMutationAuditMetadataV1 := do
  let matchedRuleId ← nonEmptyText (trim candidate.matchedRuleId)
  let rulepackVersion ← nonEmptyText (trim candidate.rulepackVersion)
  some { candidate with matchedRuleId, rulepackVersion }

/-- `none` is the throw of `toISOString`. -/
def safeIsoOrFallback (value fallback : String) : Option String :=
  match platform.dateParse (trim value) with
  | some parsed => platform.isoString parsed
  | none => some fallback

/-- The outer `none` is the throw of `toISOString`. -/
def normalizeOptionalIsoTimestamp : Option String → Option (Option String)
  | none => some none
  | some value =>
      match platform.dateParse (trim value) with
      | some parsed => (platform.isoString parsed).map some
      | none => some none

/-- `none` where the governance throws. -/
def isRetainedFactSupportedByTruthGovernance (fact : ProfileFactRecord)
    (key value sourceTaskId source : String)
    (mutationAudit : Option ProfileMutationAuditMetadataV1) : Option Bool :=
  let candidate : ProfileFactUpsertInput := {
    key, value, sourceTaskId, source, mutationAudit
    sensitive := fact.sensitive
    observedAt := some fact.observedAt
    confidence := some fact.confidence }
  (governFactCandidate platform candidate).map fun governed =>
    decide (governed.decision.action ≠ .quarantine)

def normalizeProfileFactRecord (fact : ProfileFactRecord) (updatedAt : String)
    (mutationAudit : Option ProfileMutationAuditMetadataV1)
    (id key value sourceTaskId source : String) : Option ProfileFactRecord := do
  let lastUpdatedAt ← safeIsoOrFallback platform fact.lastUpdatedAt updatedAt
  let observedAt ← safeIsoOrFallback platform fact.observedAt lastUpdatedAt
  let confirmedAt ← normalizeOptionalIsoTimestamp platform fact.confirmedAt
  let supersededAt ← normalizeOptionalIsoTimestamp platform fact.supersededAt
  let sensitive ← isStoredProfileFactEffectivelySensitive platform key value fact.sensitive
  some {
    id, key, value, sensitive, sourceTaskId, source, observedAt, lastUpdatedAt, mutationAudit
    status := fact.status
    confidence := normalizeRetainedFactConfidence fact.confidence
    confirmedAt :=
      confirmedAt.orElse fun _ => if fact.status = .confirmed then some lastUpdatedAt else none
    supersededAt :=
      if fact.status = .superseded then some (supersededAt.getD lastUpdatedAt) else none }

/-- The facts that one stored fact becomes: itself in canonical form, or none. -/
def normalizeRetainedFact (updatedAt : String) (fact : ProfileFactRecord) :
    Option (List ProfileFactRecord) :=
  let mutationAudit := fact.mutationAudit.bind normalizeProfileMutationAuditMetadata
  match normalizeRetainedFactId fact.id, normalizeRetainedFactValue fact.value,
      normalizeRetainedFactSourceTaskId fact.sourceTaskId,
      normalizeRetainedFactSource platform fact.source with
  | some id, some value, some sourceTaskId, some source => do
      match ← normalizeRetainedFactKey platform fact.key with
      | none => some []
      | some key =>
          let supported ← isRetainedFactSupportedByTruthGovernance platform fact key value
            sourceTaskId source mutationAudit
          if supported then
            (normalizeProfileFactRecord platform fact updatedAt mutationAudit id key value
              sourceTaskId source).map ([·])
          else
            some []
  | _, _, _, _ => some []

/-! ## Orders of facts -/

/-- The time of a normalized text, which parses. -/
def timeOf (text : String) : ℤ :=
  (platform.dateParse text).getD 0

def factStatusPriority : ProfileFactStatus → ℕ
  | .confirmed => 3
  | .uncertain => 2
  | .superseded => 1

def byTime (text : ProfileFactRecord → String) : Comparator ProfileFactRecord :=
  (numberOrder ℤ).byKey fun fact => timeOf platform (text fact)

def byStatus : Comparator ProfileFactRecord :=
  (numberOrder ℕ).byKey fun fact => factStatusPriority fact.status

def byConfidence : Comparator ProfileFactRecord :=
  (numberOrder ℚ).byKey (·.confidence)

def byAudit : Comparator ProfileFactRecord :=
  (numberOrder ℕ).byKey fun fact => if fact.mutationAudit.isSome then 1 else 0

def byId : Comparator ProfileFactRecord :=
  platform.locale.byKey (·.id)

/-- The winner of a group: each later fact that compares greater takes its place. -/
def selectWinner (order : Comparator ProfileFactRecord) (winner : ProfileFactRecord)
    (facts : List ProfileFactRecord) : ProfileFactRecord :=
  facts.foldl (fun winner fact => if order.le fact winner then winner else fact) winner

def minIsoTimestamp (first : String) (values : List String) : String :=
  values.foldl (fun winner value =>
    if timeOf platform value < timeOf platform winner then value else winner) first

def maxIsoTimestamp (first : String) (values : List String) : String :=
  values.foldl (fun winner value =>
    if timeOf platform winner < timeOf platform value then value else winner) first

/-! ## Repairs of groups -/

def retainedFactOrder : Comparator ProfileFactRecord :=
  (((byTime platform (·.lastUpdatedAt)).thenBy (byTime platform (·.observedAt))).thenBy
    byStatus).thenBy (byConfidence.thenBy byAudit)

def shouldReplaceNormalizedRetainedFact (existing candidate : ProfileFactRecord) : Bool :=
  !(retainedFactOrder platform).le candidate existing

/-- A map of facts under their ids. -/
def retainedFactMap : KeyedMerge ProfileFactRecord String where
  key := (·.id)
  choose existing candidate :=
    if shouldReplaceNormalizedRetainedFact platform existing candidate then candidate
    else existing
  key_choose existing candidate h := by
    split_ifs
    exacts [rfl, h]

def dedupeNormalizedRetainedFacts (facts : List ProfileFactRecord) : List ProfileFactRecord :=
  (retainedFactMap platform).collect [] facts

/-- The values of a map from keys to buckets: each key where it first stands. -/
def bucketsBy {κ : Type*} [DecidableEq κ] (key : ProfileFactRecord → κ)
    (facts : List ProfileFactRecord) : List (List ProfileFactRecord) :=
  (uniqueValues (facts.map key)).map fun groupKey => facts.filter fun fact =>
    decide (key fact = groupKey)

/-- The facts with what was set in the map of repaired facts, group by group. -/
def repairGroups (groups : List (List ProfileFactRecord))
    (repair : List ProfileFactRecord → List ProfileFactRecord)
    (facts : List ProfileFactRecord) : List ProfileFactRecord :=
  if groups = [] then
    facts
  else
    let byFactId := (retainedFactMap platform).latest
    let repairedFacts := byFactId.collect (byFactId.collect [] facts) (groups.flatMap repair)
    facts.map fun fact => (byFactId.find fact.id repairedFacts).getD fact

/-- What the conflict repairs and the semantic repair share: the fact is closed behind the
winner of its group. -/
def closeRetainedConflictFact (winner fact : ProfileFactRecord) : ProfileFactRecord :=
  let closureBoundary :=
    maxIsoTimestamp platform fact.observedAt [fact.lastUpdatedAt, winner.lastUpdatedAt]
  { fact with
    status := .superseded
    supersededAt := some closureBoundary
    lastUpdatedAt := closureBoundary }

/-- The winner, and the other facts of the group closed behind it. -/
def closeBehind (winner : ProfileFactRecord) (group : List ProfileFactRecord) :
    List ProfileFactRecord :=
  winner :: (group.filter fun fact => decide (fact.id ≠ winner.id)).map
    (closeRetainedConflictFact platform winner)

/-! ## Semantic duplicates -/

/-- The texts of a group's map key are joined by a character that no canonical key has. -/
def collectSemanticDuplicateActiveFactGroups (facts : List ProfileFactRecord) :
    List (List ProfileFactRecord) :=
  (bucketsBy (fun fact => (fact.key, fact.value)) (facts.filter isActiveFact)).filter fun group =>
    decide (1 < group.length)

def semanticDuplicateFactOrder : Comparator ProfileFactRecord :=
  ((byStatus.thenBy byConfidence).thenBy
    ((byTime platform (·.observedAt)).thenBy (byTime platform (·.lastUpdatedAt)))).thenBy
      (byAudit.thenBy (byId platform))

def mergeSemanticDuplicateFactWinner (first : ProfileFactRecord)
    (rest : List ProfileFactRecord) (winner : ProfileFactRecord) : ProfileFactRecord :=
  let facts := first :: rest
  let confirmedTimes := (confirmedFacts facts).map fun fact =>
    fact.confirmedAt.getD fact.lastUpdatedAt
  { winner with
    sensitive := facts.any (·.sensitive)
    status := if confirmedTimes = [] then .uncertain else .confirmed
    confidence := rest.foldl (fun confidence fact => max confidence fact.confidence)
      first.confidence
    observedAt := minIsoTimestamp platform first.observedAt (rest.map (·.observedAt))
    confirmedAt := confirmedTimes.head?.map fun time =>
      minIsoTimestamp platform time confirmedTimes.tail
    supersededAt := none
    lastUpdatedAt := maxIsoTimestamp platform first.lastUpdatedAt (rest.map (·.lastUpdatedAt))
    mutationAudit := winner.mutationAudit.orElse fun _ => facts.findSome? (·.mutationAudit) }

def repairSemanticDuplicateGroup : List ProfileFactRecord → List ProfileFactRecord
  | [] => []
  | first :: rest =>
      let winner := selectWinner (semanticDuplicateFactOrder platform) first rest
      closeBehind platform (mergeSemanticDuplicateFactWinner platform first rest winner)
        (first :: rest)

def repairNormalizedRetainedSemanticDuplicateFacts (facts : List ProfileFactRecord) :
    List ProfileFactRecord :=
  repairGroups platform (collectSemanticDuplicateActiveFactGroups facts)
    (repairSemanticDuplicateGroup platform) facts

/-! ## Conflicts under one policy -/

def factFamily (fact : ProfileFactRecord) : ProfileMemoryGovernanceFamily :=
  inferGovernanceFamilyForNormalizedKey platform fact.key fact.value

/-- The active facts of each key that has several values. -/
def conflictingActiveFactGroups (facts : List ProfileFactRecord) :
    List (List ProfileFactRecord) :=
  (bucketsBy (·.key) (facts.filter isActiveFact)).filter fun group =>
    decide (1 < (uniqueValues (group.map (·.value))).length)

/-- The families of a group are one, and its policy passes the test. -/
def hasOnePolicy (test : ProfileMemoryDisplacementPolicy → Bool)
    (group : List ProfileFactRecord) : Bool :=
  match uniqueValues (group.map (factFamily platform)) with
  | [family] => test family.displacementPolicy
  | _ => false

def collectReplaceConflictActiveFactGroups (facts : List ProfileFactRecord) :
    List (List ProfileFactRecord) :=
  (conflictingActiveFactGroups facts).filter
    (hasOnePolicy platform fun displacementPolicy =>
      decide (displacementPolicy = .replaceAuthoritativeSuccessor ∨
        displacementPolicy = .resolutionOnly))

def retainedReplaceConflictOrder : Comparator ProfileFactRecord :=
  (retainedFactOrder platform).thenBy (byId platform)

def repairReplaceConflictGroup : List ProfileFactRecord → List ProfileFactRecord
  | [] => []
  | first :: rest =>
      closeBehind platform (selectWinner (retainedReplaceConflictOrder platform) first rest)
        (first :: rest)

def repairNormalizedRetainedReplaceConflictFacts (facts : List ProfileFactRecord) :
    List ProfileFactRecord :=
  repairGroups platform (collectReplaceConflictActiveFactGroups platform facts)
    (repairReplaceConflictGroup platform) facts

def collectPreserveConflictConfirmedGroups (facts : List ProfileFactRecord) :
    List (List ProfileFactRecord) :=
  (conflictingActiveFactGroups facts).filter fun group =>
    hasOnePolicy platform (fun displacementPolicy =>
      decide (displacementPolicy = .preservePriorOnConflict)) group &&
    decide (1 < (confirmedFacts group).length)

/-- The earliest confirmed fact compares greatest. -/
def retainedPreserveConflictOrder : Comparator ProfileFactRecord :=
  (((byTime platform fun fact => fact.confirmedAt.getD fact.lastUpdatedAt).thenBy
    (byTime platform (·.observedAt))).thenBy (byTime platform (·.lastUpdatedAt))).reverse.thenBy
      ((byConfidence.thenBy byAudit).thenBy (byId platform).reverse)

def downgradeRetainedPreserveConflictFact (fact : ProfileFactRecord) : ProfileFactRecord :=
  { fact with
    status := .uncertain
    confirmedAt := none
    supersededAt := none }

def repairPreserveConflictGroup (group : List ProfileFactRecord) : List ProfileFactRecord :=
  match confirmedFacts group with
  | [] => []
  | first :: rest =>
      let incumbent := selectWinner (retainedPreserveConflictOrder platform) first rest
      incumbent :: ((first :: rest).filter fun fact => decide (fact.id ≠ incumbent.id)).map
        downgradeRetainedPreserveConflictFact

def repairNormalizedRetainedPreserveConflictFacts (facts : List ProfileFactRecord) :
    List ProfileFactRecord :=
  repairGroups platform (collectPreserveConflictConfirmedGroups platform facts)
    (repairPreserveConflictGroup platform) facts

/-! ## Conflicts under several policies -/

def collectMixedPolicyConflictActiveFactGroups (facts : List ProfileFactRecord) :
    List (List ProfileFactRecord) :=
  (conflictingActiveFactGroups facts).filter fun group =>
    decide (1 < (uniqueValues (group.map (factFamily platform))).length)

def factDisposition (fact : ProfileFactRecord) : ProfileFactConflictDisposition :=
  resolveConflictDisposition platform (factFamily platform fact).displacementPolicy fact.source

def retainedMixedPolicyReplayOrder : Comparator ProfileFactRecord :=
  ((byTime platform (·.lastUpdatedAt)).thenBy (byTime platform (·.observedAt))).thenBy
    (byId platform)

/-- The facts that are active so far, and those set in the map of repaired facts, in turn. -/
structure MixedPolicyReplay where
  activeFacts : List ProfileFactRecord
  repairedFacts : List ProfileFactRecord

def conflictsWith (fact activeFact : ProfileFactRecord) : Bool :=
  decide (activeFact.key = fact.key ∧ activeFact.value ≠ fact.value)

def replayFact (replay : MixedPolicyReplay) (fact : ProfileFactRecord) : MixedPolicyReplay :=
  let conflictingActiveFacts := replay.activeFacts.filter (conflictsWith fact)
  if conflictingActiveFacts = [] then
    ⟨replay.activeFacts ++ [fact], replay.repairedFacts ++ [fact]⟩
  else
    match factDisposition platform fact with
    | .replace =>
        ⟨replay.activeFacts.filter (!conflictsWith fact ·) ++ [fact],
          replay.repairedFacts ++
            conflictingActiveFacts.map (closeRetainedConflictFact platform fact) ++ [fact]⟩
    | .preserve =>
        let challengerFact := downgradeRetainedPreserveConflictFact fact
        ⟨replay.activeFacts ++ [challengerFact], replay.repairedFacts ++ [challengerFact]⟩
    | .append => ⟨replay.activeFacts ++ [fact], replay.repairedFacts ++ [fact]⟩

def replayMixedPolicyConflictGroup (facts : List ProfileFactRecord) : List ProfileFactRecord :=
  (((retainedMixedPolicyReplayOrder platform).sort facts).foldl (replayFact platform)
    ⟨[], []⟩).repairedFacts

def repairMixedPolicyConflictGroup (group : List ProfileFactRecord) : List ProfileFactRecord :=
  let byFactId := (retainedFactMap platform).latest
  let repairedGroup := byFactId.collect [] (replayMixedPolicyConflictGroup platform group)
  group.map fun fact => (byFactId.find fact.id repairedGroup).getD fact

def repairNormalizedRetainedMixedPolicyConflictFacts (facts : List ProfileFactRecord) :
    List ProfileFactRecord :=
  repairGroups platform (collectMixedPolicyConflictActiveFactGroups platform facts)
    (repairMixedPolicyConflictGroup platform) facts

/-! ## States -/

def repairRetainedFacts (facts : List ProfileFactRecord) : List ProfileFactRecord :=
  repairNormalizedRetainedMixedPolicyConflictFacts platform
    (repairNormalizedRetainedPreserveConflictFacts platform
      (repairNormalizedRetainedReplaceConflictFacts platform
        (repairNormalizedRetainedSemanticDuplicateFacts platform
          (dedupeNormalizedRetainedFacts platform facts))))

/-- The facts of a state that is read back, each of them a well-typed record; `none` where the
load throws. -/
def normalizeProfileMemoryState (state : ProfileFactState) (now : String) :
    Option ProfileFactState := do
  let updatedAt ← safeIsoOrNow platform (some state.updatedAt) now
  let facts ← state.facts.mapM (normalizeRetainedFact platform updatedAt)
  some {
    schemaVersion := PROFILE_MEMORY_SCHEMA_VERSION
    updatedAt := updatedAt
    facts := repairRetainedFacts platform facts.flatten }

/-! ## Settled facts -/

/-- A text as `toISOString` writes it. -/
structure IsoText (text : String) : Prop where
  trimmed : trim text = text
  canonical : ∃ ms, platform.dateParse text = some ms ∧ platform.isoString ms = some text

@[mk_iff] structure CanonicalAudit (audit : ProfileMutationAuditMetadataV1) : Prop where
  matchedRuleId : trim audit.matchedRuleId = audit.matchedRuleId
  matchedRuleId_ne : audit.matchedRuleId ≠ ""
  rulepackVersion : trim audit.rulepackVersion = audit.rulepackVersion
  rulepackVersion_ne : audit.rulepackVersion ≠ ""

/-- The key, value and source of a fact are canonical and admitted as they stand. -/
@[mk_iff] structure Admitted (key value sourceTaskId source : String) (sensitive : Bool) : Prop where
  key_canonical : canonicalizeProfileKey platform key = some key
  key_ne : key ≠ ""
  value_canonical : normalizeProfileValue value = value
  value_ne : value ≠ ""
  sourceTaskId_trimmed : trim sourceTaskId = sourceTaskId
  sourceTaskId_ne : sourceTaskId ≠ ""
  source_canonical : normalizedText platform source = source
  source_ne : source ≠ ""
  governed : (buildFactGovernanceDecision platform key value source).action ≠ .quarantine
  sensitive_enough :
    isStoredProfileFactEffectivelySensitive platform key value sensitive = some sensitive

/-- A fact that the load of a record leaves as it is. -/
structure SettledFact (fact : ProfileFactRecord) : Prop where
  id_trimmed : trim fact.id = fact.id
  id_ne : fact.id ≠ ""
  admitted : Admitted platform fact.key fact.value fact.sourceTaskId fact.source fact.sensitive
  confidence_range : 0 ≤ fact.confidence ∧ fact.confidence ≤ 1
  observedAt : IsoText platform fact.observedAt
  lastUpdatedAt : IsoText platform fact.lastUpdatedAt
  confirmedAt : ∀ text ∈ fact.confirmedAt, IsoText platform text
  supersededAt : ∀ text ∈ fact.supersededAt, IsoText platform text
  confirmed : fact.status = .confirmed → fact.confirmedAt ≠ none
  superseded : fact.status = .superseded ↔ fact.supersededAt ≠ none
  audit : ∀ audit ∈ fact.mutationAudit, CanonicalAudit audit

/-- How an active fact stands behind an earlier one of its key: its value is another, it could
not have replaced the other, and it comes after one that closes a follow-up. -/
structure StandsBehind (earlier later : ProfileFactRecord) : Prop where
  value_ne : earlier.value ≠ later.value
  joins : factDisposition platform later ≠ .replace
  uncertain : factDisposition platform later = .preserve →
    later.status = .uncertain ∧ later.confirmedAt = none
  after_resolution : factFamily platform earlier = .followupResolution →
    timeOf platform earlier.lastUpdatedAt < timeOf platform later.lastUpdatedAt

/-- A list of facts that the load leaves as it is. -/
structure SettledFacts (facts : List ProfileFactRecord) : Prop where
  records : ∀ fact ∈ facts, SettledFact platform fact
  ids : (factIds facts).Nodup
  active : ∀ key, (activeFactsOf key facts).Pairwise (StandsBehind platform)

variable {platform}

lemma IsoText.fallback {text : String} (h : IsoText platform text) (fallback : String) :
    safeIsoOrFallback platform text fallback = some text := by
  obtain ⟨ms, hparse, hiso⟩ := h.canonical
  rw [safeIsoOrFallback, h.trimmed, hparse]
  exact hiso

lemma normalizeOptionalIsoTimestamp_of_iso {value : Option String}
    (h : ∀ text ∈ value, IsoText platform text) :
    normalizeOptionalIsoTimestamp platform value = some value := by
  cases value with
  | none => rfl
  | some text =>
      obtain ⟨ms, hparse, hiso⟩ := (h text rfl).canonical
      simp [normalizeOptionalIsoTimestamp, (h text rfl).trimmed, hparse, hiso]

lemma nonEmptyText_of_ne {text : String} (h : text ≠ "") : nonEmptyText text = some text :=
  if_neg h

lemma CanonicalAudit.normalize {audit : ProfileMutationAuditMetadataV1}
    (h : CanonicalAudit audit) : normalizeProfileMutationAuditMetadata audit = some audit := by
  rw [normalizeProfileMutationAuditMetadata, h.matchedRuleId, h.rulepackVersion,
    nonEmptyText_of_ne h.matchedRuleId_ne, nonEmptyText_of_ne h.rulepackVersion_ne]
  rfl

lemma normalizeAudit_of_canonical {audit : Option ProfileMutationAuditMetadataV1}
    (h : ∀ a ∈ audit, CanonicalAudit a) :
    audit.bind normalizeProfileMutationAuditMetadata = audit := by
  cases audit with
  | none => rfl
  | some a => exact (h a rfl).normalize

lemma normalizeRetainedFactKey_of_canonical {key : String}
    (hcanonical : canonicalizeProfileKey platform key = some key) (hne : key ≠ "") :
    normalizeRetainedFactKey platform key = some (some key) := by
  have hproto : normalizeProfileKey platform key ≠ "__proto__" := by
    intro h
    have hlookup : PROFILE_KEY_ALIASES.lookup "__proto__" = none := by decide
    rw [canonicalizeProfileKey, h, hlookup] at hcanonical
    exact absurd hcanonical (by simp [inheritedKeys])
  rw [normalizeRetainedFactKey, if_neg hproto, hcanonical]
  exact congrArg some (if_neg hne)

lemma floor_isSome {key : String} (hcanonical : canonicalizeProfileKey platform key = some key)
    (family : ProfileMemoryGovernanceFamily) (sensitive : Bool) :
    ∃ floored, applyProfileMemoryMinimumSensitivityFloor platform family sensitive key =
      some floored := by
  unfold applyProfileMemoryMinimumSensitivityFloor isSensitiveKey
  rw [hcanonical]
  split
  · exact ⟨true, rfl⟩
  · exact ⟨_, rfl⟩
  · exact ⟨sensitive, rfl⟩

lemma supported_of_admitted {fact : ProfileFactRecord} {audit : Option _}
    (h : Admitted platform fact.key fact.value fact.sourceTaskId fact.source fact.sensitive) :
    isRetainedFactSupportedByTruthGovernance platform fact fact.key fact.value
      fact.sourceTaskId fact.source audit = some true := by
  obtain ⟨floored, hfloored⟩ := floor_isSome h.key_canonical
    (buildFactGovernanceDecision platform fact.key fact.value fact.source).family fact.sensitive
  simp [isRetainedFactSupportedByTruthGovernance, governFactCandidate, hfloored, h.governed]

lemma normalizeProfileFactRecord_of_settled {fact : ProfileFactRecord}
    (h : SettledFact platform fact) (updatedAt : String) :
    normalizeProfileFactRecord platform fact updatedAt fact.mutationAudit fact.id fact.key
      fact.value fact.sourceTaskId fact.source = some fact := by
  have hconfirmed : (fact.confirmedAt.orElse fun _ =>
      if fact.status = .confirmed then some fact.lastUpdatedAt else none) = fact.confirmedAt := by
    cases hc : fact.confirmedAt with
    | none => exact if_neg fun hstatus => h.confirmed hstatus hc
    | some text => rfl
  have hsuperseded : (if fact.status = .superseded then
      some (fact.supersededAt.getD fact.lastUpdatedAt) else none) = fact.supersededAt := by
    split_ifs with hstatus
    · obtain ⟨text, htext⟩ := Option.ne_none_iff_exists'.mp (h.superseded.mp hstatus)
      rw [htext]
      rfl
    · by_contra hne
      exact hstatus (h.superseded.mpr (Ne.symm hne))
  simp only [normalizeProfileFactRecord, h.lastUpdatedAt.fallback, h.observedAt.fallback,
    normalizeOptionalIsoTimestamp_of_iso h.confirmedAt,
    normalizeOptionalIsoTimestamp_of_iso h.supersededAt, h.admitted.sensitive_enough,
    Option.bind_eq_bind, Option.bind_some]
  rw [hconfirmed, hsuperseded, normalizeRetainedFactConfidence, if_pos h.confidence_range]

/-- The load of a record leaves a settled fact as it is. -/
theorem normalizeRetainedFact_of_settled {fact : ProfileFactRecord}
    (h : SettledFact platform fact) (updatedAt : String) :
    normalizeRetainedFact platform updatedAt fact = some [fact] := by
  have hid : normalizeRetainedFactId fact.id = some fact.id := by
    rw [normalizeRetainedFactId, h.id_trimmed, nonEmptyText_of_ne h.id_ne]
  have hvalue : normalizeRetainedFactValue fact.value = some fact.value := by
    rw [normalizeRetainedFactValue, h.admitted.value_canonical,
      nonEmptyText_of_ne h.admitted.value_ne]
  have htask : normalizeRetainedFactSourceTaskId fact.sourceTaskId = some fact.sourceTaskId := by
    rw [normalizeRetainedFactSourceTaskId, h.admitted.sourceTaskId_trimmed,
      nonEmptyText_of_ne h.admitted.sourceTaskId_ne]
  have hsource : normalizeRetainedFactSource platform fact.source = some fact.source := by
    rw [normalizeRetainedFactSource, h.admitted.source_canonical,
      nonEmptyText_of_ne h.admitted.source_ne]
  have hkey := normalizeRetainedFactKey_of_canonical h.admitted.key_canonical h.admitted.key_ne
  rw [normalizeRetainedFact, hid, hvalue, htask, hsource, normalizeAudit_of_canonical h.audit]
  simp only [hkey, Option.bind_eq_bind, Option.bind_some, supported_of_admitted h.admitted,
    if_true, normalizeProfileFactRecord_of_settled h updatedAt, Option.map_some]

/-! ## Groups of settled facts -/

lemma repairGroups_nil (repair : List ProfileFactRecord → List ProfileFactRecord)
    (facts : List ProfileFactRecord) : repairGroups platform [] repair facts = facts :=
  if_pos rfl

lemma distinct_of_ids {facts : List ProfileFactRecord} (hids : (factIds facts).Nodup) :
    (retainedFactMap platform).latest.Distinct facts :=
  hids

lemma map_find_of_ids {facts : List ProfileFactRecord} (hids : (factIds facts).Nodup) :
    (facts.map fun fact =>
      ((retainedFactMap platform).latest.find fact.id facts).getD fact) = facts := by
  conv_rhs => rw [← List.map_id facts]
  refine List.map_congr_left fun fact hfact => ?_
  have hfind : (retainedFactMap platform).latest.find fact.id facts = some fact :=
    KeyedMerge.find_eq_some_of_mem _ (distinct_of_ids hids) hfact
  rw [hfind]
  rfl

/-- A repair that sets no fact anew leaves the list. -/
lemma repairGroups_of_subset {facts : List ProfileFactRecord} (hids : (factIds facts).Nodup)
    {groups : List (List ProfileFactRecord)}
    {repair : List ProfileFactRecord → List ProfileFactRecord}
    (hrepair : ∀ group ∈ groups, ∀ fact ∈ repair group, fact ∈ facts) :
    repairGroups platform groups repair facts = facts := by
  unfold repairGroups
  split_ifs with hgroups
  · rfl
  · have hdistinct : (retainedFactMap platform).latest.Distinct facts := distinct_of_ids hids
    have hsubset : ∀ fact ∈ groups.flatMap repair, fact ∈ facts := by
      intro fact hfact
      obtain ⟨group, hgroup, hmem⟩ := List.mem_flatMap.mp hfact
      exact hrepair group hgroup fact hmem
    dsimp only
    rw [KeyedMerge.collect_nil_of_distinct _ hdistinct,
      KeyedMerge.collect_of_subset _ hdistinct hsubset fun _ _ => rfl]
    exact map_find_of_ids hids

/-- A bucket of active facts under their keys holds the active facts of a key. -/
lemma mem_bucketsBy_key {facts group : List ProfileFactRecord}
    (hgroup : group ∈ bucketsBy (·.key) (facts.filter isActiveFact)) :
    ∃ key, group = activeFactsOf key facts := by
  obtain ⟨key, -, rfl⟩ := List.mem_map.mp hgroup
  refine ⟨key, ?_⟩
  rw [List.filter_filter, activeFactsOf]
  exact List.filter_congr fun fact _ => by rw [isActiveOf, Bool.and_comm]

lemma exists_pair_of_length {α : Type*} {xs : List α} (h : 1 < xs.length) :
    ∃ first second rest, xs = first :: second :: rest := by
  match xs, h with
  | first :: second :: rest, _ => exact ⟨first, second, rest, rfl⟩

lemma length_uniqueValues_le {α : Type*} [DecidableEq α] (xs : List α) :
    (uniqueValues xs).length ≤ xs.length := by
  have hsubset : uniqueValues xs ⊆ xs := fun x hx => mem_uniqueValues.mp hx
  exact (List.subperm_of_subset (nodup_uniqueValues xs) hsubset).length_le

/-- A group with several values has two facts of which one stands behind the other. -/
lemma SettledFacts.pair_of_group {facts group : List ProfileFactRecord}
    (h : SettledFacts platform facts) (hgroup : group ∈ conflictingActiveFactGroups facts) :
    ∃ first second, [first, second].Sublist group ∧ StandsBehind platform first second := by
  obtain ⟨hbucket, hvalues⟩ := List.mem_filter.mp hgroup
  obtain ⟨key, rfl⟩ := mem_bucketsBy_key hbucket
  have hlength : 1 < (activeFactsOf key facts).length := by
    have hle := length_uniqueValues_le ((activeFactsOf key facts).map (·.value))
    rw [List.length_map] at hle
    exact lt_of_lt_of_le (of_decide_eq_true hvalues) hle
  obtain ⟨first, second, rest, heq⟩ := exists_pair_of_length hlength
  have hactive := h.active key
  rw [heq] at hactive ⊢
  refine ⟨first, second, ?_, (List.pairwise_cons.mp hactive).1 second List.mem_cons_self⟩
  exact ((List.nil_sublist rest).cons_cons second).cons_cons first

lemma semanticDuplicateGroups_of_settled {facts : List ProfileFactRecord}
    (h : SettledFacts platform facts) : collectSemanticDuplicateActiveFactGroups facts = [] := by
  refine List.filter_eq_nil_iff.mpr fun group hgroup hlength => ?_
  obtain ⟨⟨key, value⟩, -, rfl⟩ := List.mem_map.mp hgroup
  obtain ⟨first, second, rest, heq⟩ := exists_pair_of_length (of_decide_eq_true hlength)
  have hsublist : (first :: second :: rest).Sublist (activeFactsOf key facts) := by
    rw [← heq, List.filter_filter, activeFactsOf]
    refine List.monotone_filter_right _ fun fact hfact => ?_
    simp only [Bool.and_eq_true, decide_eq_true_eq, Prod.mk.injEq] at hfact
    simp [isActiveOf, hfact.1.1, hfact.2]
  have hpair := (h.active key).sublist hsublist
  have hvalue : ∀ fact ∈ first :: second :: rest, fact.value = value := by
    intro fact hfact
    rw [← heq] at hfact
    have := (List.mem_filter.mp hfact).2
    simp only [decide_eq_true_eq, Prod.mk.injEq] at this
    exact this.2
  refine ((List.pairwise_cons.mp hpair).1 second List.mem_cons_self).value_ne ?_
  rw [hvalue first List.mem_cons_self, hvalue second (by simp)]

/-- All facts of a group with one policy have it. -/
lemma policy_of_hasOnePolicy {test : ProfileMemoryDisplacementPolicy → Bool}
    {group : List ProfileFactRecord} (hgroup : hasOnePolicy platform test group = true)
    {fact : ProfileFactRecord} (hfact : fact ∈ group) :
    test (factFamily platform fact).displacementPolicy = true := by
  unfold hasOnePolicy at hgroup
  split at hgroup
  · rename_i family hfamilies
    have hmem : factFamily platform fact ∈ uniqueValues (group.map (factFamily platform)) :=
      mem_uniqueValues.mpr (List.mem_map_of_mem hfact)
    rw [hfamilies, List.mem_singleton] at hmem
    rwa [hmem]
  · exact absurd hgroup (by simp)

lemma factDisposition_eq_replace {fact : ProfileFactRecord}
    (hpolicy : (factFamily platform fact).displacementPolicy = .replaceAuthoritativeSuccessor ∨
      (factFamily platform fact).displacementPolicy = .resolutionOnly) :
    factDisposition platform fact = .replace := by
  unfold factDisposition resolveConflictDisposition
  split_ifs
  · rfl
  · rcases hpolicy with h | h <;> rw [h]

lemma factDisposition_eq_preserve {fact : ProfileFactRecord}
    (hpolicy : (factFamily platform fact).displacementPolicy = .preservePriorOnConflict)
    (hjoins : factDisposition platform fact ≠ .replace) :
    factDisposition platform fact = .preserve := by
  unfold factDisposition resolveConflictDisposition at hjoins ⊢
  split_ifs at hjoins ⊢ with hreview
  · exact absurd rfl hjoins
  · rw [hpolicy]

lemma replaceConflictGroups_of_settled {facts : List ProfileFactRecord}
    (h : SettledFacts platform facts) :
    collectReplaceConflictActiveFactGroups platform facts = [] := by
  refine List.filter_eq_nil_iff.mpr fun group hgroup hpolicy => ?_
  obtain ⟨first, second, hsublist, hbehind⟩ := h.pair_of_group hgroup
  have hsecond := policy_of_hasOnePolicy hpolicy (hsublist.subset (by simp : second ∈ _))
  exact hbehind.joins (factDisposition_eq_replace (of_decide_eq_true hsecond))

lemma preserveConflictGroups_of_settled {facts : List ProfileFactRecord}
    (h : SettledFacts platform facts) :
    collectPreserveConflictConfirmedGroups platform facts = [] := by
  refine List.filter_eq_nil_iff.mpr fun group hgroup hpreserve => ?_
  rw [Bool.and_eq_true] at hpreserve
  obtain ⟨first, second, rest, heq⟩ := exists_pair_of_length (of_decide_eq_true hpreserve.2)
  obtain ⟨key, rfl⟩ := mem_bucketsBy_key (List.mem_filter.mp hgroup).1
  have hmem : second ∈ confirmedFacts (activeFactsOf key facts) := by
    rw [heq]
    simp
  have hpairwise : (confirmedFacts (activeFactsOf key facts)).Pairwise (StandsBehind platform) :=
    (h.active key).sublist List.filter_sublist
  have hpair : StandsBehind platform first second := by
    rw [heq] at hpairwise
    exact (List.pairwise_cons.mp hpairwise).1 second List.mem_cons_self
  have hpolicy := policy_of_hasOnePolicy hpreserve.1 (List.mem_of_mem_filter hmem)
  have hdisposition := factDisposition_eq_preserve (of_decide_eq_true hpolicy) hpair.joins
  have hconfirmed : second.status = .confirmed :=
    of_decide_eq_true (List.mem_filter.mp hmem).2
  rw [(hpair.uncertain hdisposition).1] at hconfirmed
  exact absurd hconfirmed (by simp)

/-! ## The replay of settled facts -/

variable (platform) in
/-- What the replay keeps of a fact that comes after another: it joins those before it. -/
structure Rejoins (fact : ProfileFactRecord) : Prop where
  joins : factDisposition platform fact ≠ .replace
  downgraded : factDisposition platform fact = .preserve →
    downgradeRetainedPreserveConflictFact fact = fact

lemma StandsBehind.rejoins {earlier later : ProfileFactRecord}
    (h : StandsBehind platform earlier later) (hactive : isActiveFact later = true) :
    Rejoins platform later where
  joins := h.joins
  downgraded hpreserve := by
    obtain ⟨hstatus, hconfirmedAt⟩ := h.uncertain hpreserve
    have hsupersededAt := (isActiveFact_iff.mp hactive).2
    cases later
    simp_all [downgradeRetainedPreserveConflictFact]

lemma replayFact_of_rejoins {fact : ProfileFactRecord} (h : Rejoins platform fact)
    (replay : MixedPolicyReplay) :
    replayFact platform replay fact =
      ⟨replay.activeFacts ++ [fact], replay.repairedFacts ++ [fact]⟩ := by
  unfold replayFact
  dsimp only
  split_ifs
  · rfl
  · split
    · rename_i hreplace
      exact absurd hreplace h.joins
    · rename_i hpreserve
      rw [h.downgraded hpreserve]
    · rfl

lemma foldl_replayFact {facts : List ProfileFactRecord}
    (h : ∀ fact ∈ facts, Rejoins platform fact) (replay : MixedPolicyReplay) :
    (facts.foldl (replayFact platform) replay).repairedFacts = replay.repairedFacts ++ facts := by
  induction facts generalizing replay with
  | nil => simp
  | cons fact facts ih =>
      rw [List.foldl_cons, replayFact_of_rejoins (h fact List.mem_cons_self),
        ih fun other hother => h other (List.mem_cons_of_mem fact hother)]
      simp

/-- Of the families of one key, when they differ, one closes a follow-up. -/
lemma followup_of_families_ne {fact other : ProfileFactRecord} (hkey : fact.key = other.key)
    (hne : factFamily platform fact ≠ factFamily platform other) :
    factFamily platform fact = .followupResolution ∨
      factFamily platform other = .followupResolution := by
  unfold factFamily inferGovernanceFamilyForNormalizedKey at hne ⊢
  rw [hkey] at hne ⊢
  split_ifs at hne ⊢ <;> simp_all

lemma disposition_of_followup {fact : ProfileFactRecord}
    (h : factFamily platform fact = .followupResolution) :
    factDisposition platform fact = .replace :=
  factDisposition_eq_replace (.inr (by rw [h]; rfl))

lemma timeOf_le_of_replayOrder {fact other : ProfileFactRecord}
    (h : (retainedMixedPolicyReplayOrder platform).le fact other = true) :
    timeOf platform fact.lastUpdatedAt ≤ timeOf platform other.lastUpdatedAt := by
  simp only [retainedMixedPolicyReplayOrder, Comparator.thenBy, byTime, Comparator.byKey_le,
    numberOrder, Bool.and_eq_true, decide_eq_true_eq] at h
  exact h.1.1

/-- The first fact of a group whose families differ closes a follow-up. -/
lemma first_of_mixedGroup {key : String} {first : ProfileFactRecord}
    {rest : List ProfileFactRecord} (hkeys : ∀ fact ∈ first :: rest, fact.key = key)
    (hpairs : (first :: rest).Pairwise (StandsBehind platform))
    (hmixed : 1 < (uniqueValues ((first :: rest).map (factFamily platform))).length) :
    factFamily platform first = .followupResolution := by
  by_contra hfirst
  have hsame : ∀ fact ∈ rest, factFamily platform fact = factFamily platform first := by
    intro fact hfact
    by_contra hne
    have hkey : first.key = fact.key :=
      (hkeys first List.mem_cons_self).trans (hkeys fact (List.mem_cons_of_mem first hfact)).symm
    rcases followup_of_families_ne hkey (Ne.symm hne) with h | h
    · exact hfirst h
    · exact ((List.pairwise_cons.mp hpairs).1 fact hfact).joins (disposition_of_followup h)
  have hle : uniqueValues ((first :: rest).map (factFamily platform)) ⊆
      [factFamily platform first] := by
    intro family hfamily
    obtain ⟨fact, hfact, rfl⟩ := List.mem_map.mp (mem_uniqueValues.mp hfamily)
    rcases List.mem_cons.mp hfact with rfl | hfact
    · exact List.mem_singleton_self _
    · rw [hsame fact hfact]
      exact List.mem_singleton_self _
  have hlength := (List.subperm_of_subset (nodup_uniqueValues _) hle).length_le
  rw [List.length_singleton] at hlength
  omega

/-- In the replay of a mixed group the fact that closes the follow-up comes first, and the
others join it as they did before. -/
lemma replay_of_mixedGroup {facts : List ProfileFactRecord} (h : SettledFacts platform facts)
    {group : List ProfileFactRecord}
    (hgroup : group ∈ collectMixedPolicyConflictActiveFactGroups platform facts) :
    replayMixedPolicyConflictGroup platform group =
      (retainedMixedPolicyReplayOrder platform).sort group := by
  obtain ⟨hconflict, hmixed⟩ := List.mem_filter.mp hgroup
  obtain ⟨key, rfl⟩ := mem_bucketsBy_key (List.mem_filter.mp hconflict).1
  have hmixed := of_decide_eq_true hmixed
  have hkeys : ∀ fact ∈ activeFactsOf key facts, fact.key = key :=
    fun fact hfact => (mem_activeFactsOf.mp hfact).2.2
  have hactive : ∀ fact ∈ activeFactsOf key facts, isActiveFact fact = true :=
    fun fact hfact => (mem_activeFactsOf.mp hfact).2.1
  have hpairs := h.active key
  generalize activeFactsOf key facts = group at hmixed hkeys hactive hpairs
  cases group with
  | nil => simp [uniqueValues] at hmixed
  | cons first rest =>
      have hfollowup := first_of_mixedGroup hkeys hpairs hmixed
      have hbehind := (List.pairwise_cons.mp hpairs).1
      set order := retainedMixedPolicyReplayOrder platform with horder
      have hperm := order.sort_perm (first :: rest)
      have hsorted := order.sorted_sort (first :: rest)
      rw [replayMixedPolicyConflictGroup, ← horder]
      cases hsort : order.sort (first :: rest) with
      | nil => simp [hsort] at hperm
      | cons head tail =>
          rw [hsort] at hperm hsorted
          have hhead : head = first := by
            by_contra hne
            have hheadRest : head ∈ rest :=
              List.mem_of_ne_of_mem hne (hperm.mem_iff.mp List.mem_cons_self)
            have hfirstTail : first ∈ tail :=
              List.mem_of_ne_of_mem (Ne.symm hne) (hperm.mem_iff.mpr List.mem_cons_self)
            have hle := timeOf_le_of_replayOrder ((List.pairwise_cons.mp hsorted).1 first hfirstTail)
            have hlt := (hbehind head hheadRest).after_resolution hfollowup
            omega
          subst hhead
          have htail := (List.perm_cons head).mp hperm
          have hrejoin : ∀ fact ∈ tail, Rejoins platform fact := fun fact hfact =>
            (hbehind fact (htail.mem_iff.mp hfact)).rejoins
              (hactive fact (List.mem_cons_of_mem head (htail.mem_iff.mp hfact)))
          rw [List.foldl_cons, foldl_replayFact hrejoin]
          rfl

lemma mixedPolicyRepair_of_settled {facts : List ProfileFactRecord}
    (h : SettledFacts platform facts) {group : List ProfileFactRecord}
    (hgroup : group ∈ collectMixedPolicyConflictActiveFactGroups platform facts) :
    repairMixedPolicyConflictGroup platform group = group := by
  have hreplay := replay_of_mixedGroup h hgroup
  obtain ⟨key, rfl⟩ := mem_bucketsBy_key (List.mem_filter.mp (List.mem_filter.mp hgroup).1).1
  have hids : (factIds (activeFactsOf key facts)).Nodup :=
    h.ids.sublist (List.filter_sublist.map _)
  rw [repairMixedPolicyConflictGroup, hreplay]
  set order := retainedMixedPolicyReplayOrder platform
  have hperm := order.sort_perm (activeFactsOf key facts)
  have hsortedIds : (factIds (order.sort (activeFactsOf key facts))).Nodup :=
    (hperm.map _).nodup_iff.mpr hids
  rw [KeyedMerge.collect_nil_of_distinct _ (distinct_of_ids hsortedIds)]
  conv_rhs => rw [← List.map_id (activeFactsOf key facts)]
  refine List.map_congr_left fun fact hfact => ?_
  have hfind : (retainedFactMap platform).latest.find fact.id
      (order.sort (activeFactsOf key facts)) = some fact :=
    KeyedMerge.find_eq_some_of_mem _ (distinct_of_ids hsortedIds) (hperm.mem_iff.mpr hfact)
  rw [hfind]
  rfl

/-! ## The load of settled facts -/

theorem repairRetainedFacts_of_settled {facts : List ProfileFactRecord}
    (h : SettledFacts platform facts) : repairRetainedFacts platform facts = facts := by
  have hdedupe : dedupeNormalizedRetainedFacts platform facts = facts :=
    KeyedMerge.collect_nil_of_distinct _ h.ids
  have hsemantic : repairNormalizedRetainedSemanticDuplicateFacts platform facts = facts := by
    rw [repairNormalizedRetainedSemanticDuplicateFacts, semanticDuplicateGroups_of_settled h,
      repairGroups_nil]
  have hreplace : repairNormalizedRetainedReplaceConflictFacts platform facts = facts := by
    rw [repairNormalizedRetainedReplaceConflictFacts, replaceConflictGroups_of_settled h,
      repairGroups_nil]
  have hpreserve : repairNormalizedRetainedPreserveConflictFacts platform facts = facts := by
    rw [repairNormalizedRetainedPreserveConflictFacts, preserveConflictGroups_of_settled h,
      repairGroups_nil]
  have hmixed : repairNormalizedRetainedMixedPolicyConflictFacts platform facts = facts := by
    refine repairGroups_of_subset h.ids fun group hgroup fact hfact => ?_
    rw [mixedPolicyRepair_of_settled h hgroup] at hfact
    obtain ⟨key, rfl⟩ := mem_bucketsBy_key (List.mem_filter.mp (List.mem_filter.mp hgroup).1).1
    exact (mem_activeFactsOf.mp hfact).1
  rw [repairRetainedFacts, hdedupe, hsemantic, hreplace, hpreserve, hmixed]

lemma mapM_normalizeRetainedFact {facts : List ProfileFactRecord}
    (h : ∀ fact ∈ facts, SettledFact platform fact) (updatedAt : String) :
    facts.mapM (normalizeRetainedFact platform updatedAt) = some (facts.map ([·])) := by
  induction facts with
  | nil => rfl
  | cons fact facts ih =>
      rw [List.mapM_cons, normalizeRetainedFact_of_settled (h fact List.mem_cons_self),
        ih fun other hother => h other (List.mem_cons_of_mem fact hother)]
      rfl

/-- The load gives settled facts back as they are. -/
theorem normalizeProfileMemoryState_of_settled {state : ProfileFactState}
    (h : SettledFacts platform state.facts) {now updatedAt : String}
    (hupdatedAt : safeIsoOrNow platform (some state.updatedAt) now = some updatedAt) :
    normalizeProfileMemoryState platform state now =
      some ⟨PROFILE_MEMORY_SCHEMA_VERSION, updatedAt, state.facts⟩ := by
  have hmap := mapM_normalizeRetainedFact h.records updatedAt
  rw [normalizeProfileMemoryState, hupdatedAt]
  simp only [Option.bind_eq_bind, Option.bind_some, hmap]
  have hflatten : (state.facts.map ([·])).flatten = state.facts := by
    rw [← List.flatMap_def]
    exact List.flatMap_singleton' state.facts
  rw [hflatten, repairRetainedFacts_of_settled h]

end AgentBigBrain.Core
