import AgentBigBrain.Core.WorkflowPatterns
import AgentBigBrain.Core.ActionCostPolicy

/-!
# The ledger of workflow patterns

Each observation ages all patterns, supersedes those it names and is counted in one pattern. From
the empty list on, a workflow has at most one active pattern, and a superseded pattern is history.
-/
namespace AgentBigBrain.Core

open AgentBigBrain.Js

/-! ## Bounds of a confidence -/

lemma clampConfidence_nonneg (value : ℚ) : 0 ≤ clampConfidence value :=
  roundTo_nonneg 4 (le_max_left 0 _)

lemma clampConfidence_le_one (value : ℚ) : clampConfidence value ≤ 1 := by
  have hle : max 0 (min 1 value) ≤ 1 := max_le zero_le_one (min_le_left 1 value)
  have hfloor : ⌊max 0 (min 1 value) * 10 ^ 4 + 1 / 2⌋ ≤ 10000 := by
    refine Int.floor_le_iff.mpr ?_
    norm_num
    linarith
  have hcast : ((⌊max 0 (min 1 value) * 10 ^ 4 + 1 / 2⌋ : ℤ) : ℚ) ≤ 10000 := by
    exact_mod_cast hfloor
  unfold clampConfidence roundTo
  rw [div_le_one (by norm_num)]
  norm_num at hcast ⊢
  exact hcast

/-- A confidence is a share. -/
def IsShare (value : ℚ) : Prop := 0 ≤ value ∧ value ≤ 1

lemma isShare_clamp (value : ℚ) : IsShare (clampConfidence value) :=
  ⟨clampConfidence_nonneg value, clampConfidence_le_one value⟩

lemma isShare_next (current : ℚ) (outcome : WorkflowOutcome) :
    IsShare (nextConfidence current outcome) := by
  cases outcome <;> exact isShare_clamp _

/-! ## One observation -/

variable (platform : BridgePlatform)

/-- What an observation does to every pattern before it is counted. -/
def agedPattern (keys : List String) (observedAt : String) (pattern : WorkflowPattern) :
    WorkflowPattern :=
  supersede platform keys observedAt (decayPatternConfidence platform pattern observedAt)

/-- The key that an active pattern holds. -/
def activeKey (pattern : WorkflowPattern) : Option String :=
  if pattern.status = .active then some (normalizeWorkflowKey platform pattern.workflowKey)
  else none

/-- The observations of an outcome that a pattern counts. -/
def WorkflowPattern.count (pattern : WorkflowPattern) : WorkflowOutcome → ℚ
  | .success => pattern.successCount
  | .failure => pattern.failureCount
  | .suppressed => pattern.suppressedCount

/-- The keys that an observation supersedes. -/
def supersededKeys (observation : WorkflowObservation) : List String :=
  (normalizeLineItems observation.supersedesKeys).map (normalizeWorkflowKey platform)

section Aged

variable {platform} (keys : List String) (observedAt : String) (pattern : WorkflowPattern)

lemma decay_of_superseded (h : pattern.status = .superseded) :
    decayPatternConfidence platform pattern observedAt = pattern := by
  simp [decayPatternConfidence, h]

lemma decay_fields : ∃ confidence, decayPatternConfidence platform pattern observedAt =
    { pattern with confidence := confidence } ∧
      (IsShare pattern.confidence → IsShare confidence) := by
  unfold decayPatternConfidence
  dsimp only
  split_ifs
  · exact ⟨pattern.confidence, rfl, id⟩
  · exact ⟨pattern.confidence, rfl, id⟩
  · exact ⟨pattern.confidence, rfl, id⟩
  · exact ⟨_, rfl, fun _ => isShare_clamp _⟩

/-- Ageing changes the confidence, and an active pattern may become superseded. -/
lemma aged_cases :
    (∃ confidence, agedPattern platform keys observedAt pattern =
        { pattern with confidence := confidence } ∧
      (IsShare pattern.confidence → IsShare confidence)) ∨
    (∃ confidence, pattern.status = .active ∧ agedPattern platform keys observedAt pattern =
        { pattern with
          status := .superseded
          supersededAt := some observedAt
          confidence := confidence } ∧ IsShare confidence) := by
  obtain ⟨confidence, hdecay, hshare⟩ := @decay_fields platform observedAt pattern
  unfold agedPattern
  rw [hdecay, supersede]
  split_ifs with hkeys
  · exact .inr ⟨_, hkeys.1, rfl, isShare_clamp _⟩
  · exact .inl ⟨confidence, rfl, hshare⟩

lemma aged_of_superseded (h : pattern.status = .superseded) :
    agedPattern platform keys observedAt pattern = pattern := by
  rw [agedPattern, decay_of_superseded observedAt pattern h, supersede,
    if_neg fun hactive => by simp [h] at hactive]

@[simp] lemma aged_id : (agedPattern platform keys observedAt pattern).id = pattern.id := by
  rcases @aged_cases platform keys observedAt pattern with
    ⟨_, heq, -⟩ | ⟨_, -, heq, -⟩ <;> rw [heq]

@[simp] lemma aged_count (outcome : WorkflowOutcome) :
    (agedPattern platform keys observedAt pattern).count outcome = pattern.count outcome := by
  rcases @aged_cases platform keys observedAt pattern with
    ⟨_, heq, -⟩ | ⟨_, -, heq, -⟩ <;> rw [heq] <;> cases outcome <;> rfl

lemma aged_share (h : IsShare pattern.confidence) :
    IsShare (agedPattern platform keys observedAt pattern).confidence := by
  rcases @aged_cases platform keys observedAt pattern with
    ⟨_, heq, hshare⟩ | ⟨_, -, heq, hshare⟩ <;> rw [heq]
  · exact hshare h
  · exact hshare

/-- Ageing gives no pattern a key that it did not hold. -/
lemma activeKey_of_aged {key : String}
    (h : activeKey platform (agedPattern platform keys observedAt pattern) = some key) :
    activeKey platform pattern = some key := by
  rcases @aged_cases platform keys observedAt pattern with
    ⟨_, heq, -⟩ | ⟨_, -, heq, -⟩
  · rwa [heq] at h
  · rw [heq] at h
    simp [activeKey] at h

end Aged

/-- The patterns after an observation: it is counted in the one active pattern of its key, or in a
new one where there is none. -/
lemma adapt_cases (patterns : List WorkflowPattern) (observation : WorkflowObservation)
    (readings : ObservationReadings) :
    let observedAt := toIsoOrNow platform readings.nowIso observation.observedAt
    let aged := patterns.map
      (agedPattern platform (supersededKeys platform observation) observedAt)
    let key := normalizeWorkflowKey platform observation.workflowKey
    let adaptation := adaptWorkflowPatterns platform patterns observation readings
    (∃ before pattern after, aged = before ++ pattern :: after ∧
      activeKey platform pattern = some key ∧
      adaptation.patterns =
        before ++ pattern.observedAgain platform observation observedAt :: after ∧
      adaptation.updatedPattern = pattern.observedAgain platform observation observedAt) ∨
    ((∀ pattern ∈ aged, activeKey platform pattern ≠ some key) ∧
      adaptation.patterns = aged ++ [firstPattern platform observation readings observedAt] ∧
      adaptation.updatedPattern = firstPattern platform observation readings observedAt) := by
  intro observedAt aged key adaptation
  have haged : (patterns.map (decayPatternConfidence platform · observedAt)).map
      (supersede platform (supersededKeys platform observation) observedAt) = aged := by
    simp only [aged, List.map_map]
    rfl
  simp only [adaptation, adaptWorkflowPatterns]
  rw [show (normalizeLineItems observation.supersedesKeys).map (normalizeWorkflowKey platform) =
    supersededKeys platform observation from rfl, haged]
  split
  · rename_i updated updatedPattern hupdate
    obtain ⟨before, pattern, after, hsplit, htest, hupdated, hpattern⟩ := updateFirst_spec hupdate
    rw [decide_eq_true_eq] at htest
    exact .inl ⟨before, pattern, after, hsplit, by rw [activeKey, if_pos htest.1, htest.2],
      hupdated, hpattern⟩
  · rename_i hnone
    refine .inr ⟨fun pattern hpattern hkey => ?_, rfl, rfl⟩
    have htest := updateFirst_eq_none hnone pattern hpattern
    unfold activeKey at hkey
    split_ifs at hkey with hactive
    rw [decide_eq_false_iff_not] at htest
    exact htest ⟨hactive, Option.some.inj hkey⟩

/-! ## Steps -/

/-- An observation as it is applied, alone or with its metadata as the store applies it. -/
structure PatternCall where
  observation : WorkflowObservation
  readings : ObservationReadings
  enriched : Bool

def patternStep (patterns : List WorkflowPattern) (call : PatternCall) : List WorkflowPattern :=
  let adaptation := adaptWorkflowPatterns platform patterns call.observation call.readings
  if call.enriched then
    (applyObservationMetadataToAdaptation adaptation call.observation).patterns
  else adaptation.patterns

/-- The patterns after these calls hold: one id each, one active pattern a key, and the counts of
the calls. -/
structure Ledger (patterns : List WorkflowPattern) (calls : List PatternCall) : Prop where
  ids : (patterns.map (·.id)).Nodup
  issued : ∀ pattern ∈ patterns, pattern.id ∈ calls.map (·.readings.newId)
  keys : (patterns.filterMap (activeKey platform)).Nodup
  shares : ∀ pattern ∈ patterns, IsShare pattern.confidence
  counts : ∀ outcome, (patterns.map (·.count outcome)).sum =
    (calls.filter (·.observation.outcome = outcome)).length

lemma ledger_nil : Ledger platform [] [] :=
  ⟨List.nodup_nil, by simp, List.nodup_nil, by simp, by simp⟩

lemma normalizeWorkflowKey_idem (value : String) :
    normalizeWorkflowKey platform (normalizeWorkflowKey platform value) =
      normalizeWorkflowKey platform value := by
  unfold normalizeWorkflowKey
  rw [platform.trim_toLowerCase, trim_trim, platform.toLowerCase_idem]

lemma activeKey_first (observation : WorkflowObservation) (readings : ObservationReadings)
    (observedAt : String) :
    activeKey platform (firstPattern platform observation readings observedAt) =
      some (normalizeWorkflowKey platform observation.workflowKey) := by
  simp [activeKey, firstPattern, normalizeWorkflowKey_idem]

lemma count_observedAgain (pattern : WorkflowPattern) (observation : WorkflowObservation)
    (observedAt : String) (outcome : WorkflowOutcome) :
    (pattern.observedAgain platform observation observedAt).count outcome =
      pattern.count outcome + countOf observation.outcome outcome := by
  cases outcome <;> rfl

lemma count_first (observation : WorkflowObservation) (readings : ObservationReadings)
    (observedAt : String) (outcome : WorkflowOutcome) :
    (firstPattern platform observation readings observedAt).count outcome =
      countOf observation.outcome outcome := by
  cases outcome <;> rfl

/-- The active keys after ageing are among those before. -/
lemma activeKeys_aged (keys : List String) (observedAt : String)
    (patterns : List WorkflowPattern) :
    List.Sublist ((patterns.map (agedPattern platform keys observedAt)).filterMap
      (activeKey platform)) (patterns.filterMap (activeKey platform)) := by
  induction patterns with
  | nil => exact List.Sublist.slnil
  | cons pattern patterns ih =>
      rw [List.map_cons, List.filterMap_cons, List.filterMap_cons]
      cases haged : activeKey platform (agedPattern platform keys observedAt pattern) with
      | some key =>
          rw [activeKey_of_aged keys observedAt pattern haged]
          exact ih.cons_cons key
      | none =>
          cases activeKey platform pattern with
          | none => exact ih
          | some key => exact ih.cons key

/-- Ageing keeps the ledger. -/
lemma Ledger.aged {patterns : List WorkflowPattern} {calls : List PatternCall}
    (h : Ledger platform patterns calls) (keys : List String) (observedAt : String) :
    Ledger platform (patterns.map (agedPattern platform keys observedAt)) calls where
  ids := by
    have hids : (patterns.map (agedPattern platform keys observedAt)).map (·.id) =
        patterns.map (·.id) := by simp [Function.comp_def]
    rw [hids]
    exact h.ids
  issued := by
    intro pattern hpattern
    obtain ⟨old, hold, rfl⟩ := List.mem_map.mp hpattern
    rw [aged_id]
    exact h.issued old hold
  keys := h.keys.sublist (activeKeys_aged platform keys observedAt patterns)
  shares := by
    intro pattern hpattern
    obtain ⟨old, hold, rfl⟩ := List.mem_map.mp hpattern
    exact aged_share keys observedAt old (h.shares old hold)
  counts := by
    intro outcome
    rw [← h.counts outcome]
    simp [Function.comp_def]

lemma outcome_count_append (calls : List PatternCall) (call : PatternCall)
    (outcome : WorkflowOutcome) :
    (((calls ++ [call]).filter (·.observation.outcome = outcome)).length : ℚ) =
      (calls.filter (·.observation.outcome = outcome)).length +
        countOf call.observation.outcome outcome := by
  by_cases houtcome : call.observation.outcome = outcome
  · simp [List.filter_append, houtcome, countOf]
  · simp [List.filter_append, houtcome, countOf]

/-- The observation is counted in a pattern of its key. -/
lemma Ledger.observedAgain {before after : List WorkflowPattern} {pattern : WorkflowPattern}
    {calls : List PatternCall} {call : PatternCall} {observedAt : String}
    (h : Ledger platform (before ++ pattern :: after) calls) :
    Ledger platform
      (before ++ pattern.observedAgain platform call.observation observedAt :: after)
      (calls ++ [call]) where
  ids := by
    have hids := h.ids
    rw [List.map_append, List.map_cons] at hids ⊢
    exact hids
  issued := by
    intro other hother
    rw [List.map_append]
    refine List.mem_append_left _ ?_
    rcases List.mem_append.mp hother with hmem | hmem
    · exact h.issued other (List.mem_append_left _ hmem)
    · rcases List.mem_cons.mp hmem with rfl | hmem
      · exact h.issued pattern (by simp)
      · exact h.issued other (by simp [hmem])
  keys := by
    have hkeys := h.keys
    rw [List.filterMap_append, List.filterMap_cons] at hkeys ⊢
    exact hkeys
  shares := by
    intro other hother
    rcases List.mem_append.mp hother with hmem | hmem
    · exact h.shares other (List.mem_append_left _ hmem)
    · rcases List.mem_cons.mp hmem with rfl | hmem
      · exact isShare_next _ _
      · exact h.shares other (by simp [hmem])
  counts := by
    intro outcome
    have hcounts := h.counts outcome
    rw [outcome_count_append, ← hcounts]
    simp only [List.map_append, List.map_cons, List.sum_append, List.sum_cons,
      count_observedAgain]
    ring

/-- The observation is counted in a new pattern. -/
lemma Ledger.first {patterns : List WorkflowPattern} {calls : List PatternCall}
    {call : PatternCall} {observedAt : String} (h : Ledger platform patterns calls)
    (hkey : ∀ pattern ∈ patterns, activeKey platform pattern ≠
      some (normalizeWorkflowKey platform call.observation.workflowKey))
    (hfresh : call.readings.newId ∉ calls.map (·.readings.newId)) :
    Ledger platform
      (patterns ++ [firstPattern platform call.observation call.readings observedAt])
      (calls ++ [call]) where
  ids := by
    rw [List.map_append, List.nodup_append]
    refine ⟨h.ids, List.nodup_singleton _, ?_⟩
    intro id hid other hother
    rw [List.map_singleton, List.mem_singleton] at hother
    obtain ⟨pattern, hpattern, rfl⟩ := List.mem_map.mp hid
    rintro rfl
    have hissued := h.issued pattern hpattern
    rw [hother] at hissued
    exact hfresh hissued
  issued := by
    intro other hother
    rw [List.map_append]
    rcases List.mem_append.mp hother with hmem | hmem
    · exact List.mem_append_left _ (h.issued other hmem)
    · rw [List.mem_singleton.mp hmem]
      exact List.mem_append_right _ (by simp [firstPattern])
  keys := by
    rw [List.filterMap_append, List.nodup_append]
    refine ⟨h.keys, ?_, ?_⟩
    · simp [activeKey_first]
    · intro key hmem other hother
      rw [List.filterMap_cons, activeKey_first, List.filterMap_nil, List.mem_singleton] at hother
      obtain ⟨pattern, hpattern, hactive⟩ := List.mem_filterMap.mp hmem
      rintro rfl
      exact hkey pattern hpattern (hother ▸ hactive)
  shares := by
    intro other hother
    rcases List.mem_append.mp hother with hmem | hmem
    · exact h.shares other hmem
    · rw [List.mem_singleton.mp hmem]
      exact isShare_next _ _
  counts := by
    intro outcome
    rw [outcome_count_append, ← h.counts outcome]
    simp [count_first]

/-- The ledger does not read the metadata. -/
lemma Ledger.map_metadata {patterns : List WorkflowPattern} {calls : List PatternCall}
    (h : Ledger platform patterns calls) (observation : WorkflowObservation)
    (applies : WorkflowPattern → Prop) [DecidablePred applies] :
    Ledger platform (patterns.map fun pattern =>
      if applies pattern then applyWorkflowObservationMetadata pattern observation else pattern)
      calls := by
  have hfield : ∀ {α : Type} (field : WorkflowPattern → α),
      (∀ pattern, field (applyWorkflowObservationMetadata pattern observation) = field pattern) →
      ∀ pattern, field (if applies pattern then
        applyWorkflowObservationMetadata pattern observation else pattern) = field pattern := by
    intro α field hsame pattern
    split_ifs
    · exact hsame pattern
    · rfl
  constructor
  · rw [List.map_map]
    have hids := hfield (·.id) fun _ => rfl
    simpa [Function.comp_def, hids] using h.ids
  · intro pattern hpattern
    obtain ⟨old, hold, rfl⟩ := List.mem_map.mp hpattern
    rw [hfield (·.id) fun _ => rfl]
    exact h.issued old hold
  · have hkeys := hfield (activeKey platform) fun _ => rfl
    rw [List.filterMap_map]
    simpa [Function.comp_def, hkeys] using h.keys
  · intro pattern hpattern
    obtain ⟨old, hold, rfl⟩ := List.mem_map.mp hpattern
    rw [hfield (·.confidence) fun _ => rfl]
    exact h.shares old hold
  · intro outcome
    have hcount := hfield (·.count outcome) fun _ => by cases outcome <;> rfl
    rw [List.map_map, ← h.counts outcome]
    simp [Function.comp_def, hcount]

/-- The patterns after the adaptation, before any metadata. -/
lemma Ledger.adapted {patterns : List WorkflowPattern} {calls : List PatternCall}
    (h : Ledger platform patterns calls) {call : PatternCall}
    (hfresh : call.readings.newId ∉ calls.map (·.readings.newId)) :
    Ledger platform
      (adaptWorkflowPatterns platform patterns call.observation call.readings).patterns
      (calls ++ [call]) := by
  rcases adapt_cases platform patterns call.observation call.readings with
    ⟨before, pattern, after, hsplit, -, hpatterns, -⟩ | ⟨hkey, hpatterns, -⟩
  · rw [hpatterns]
    refine Ledger.observedAgain platform ?_
    rw [← hsplit]
    exact h.aged platform _ _
  · rw [hpatterns]
    exact (h.aged platform _ _).first platform hkey hfresh

lemma Ledger.step {patterns : List WorkflowPattern} {calls : List PatternCall}
    (h : Ledger platform patterns calls) {call : PatternCall}
    (hfresh : call.readings.newId ∉ calls.map (·.readings.newId)) :
    Ledger platform (patternStep platform patterns call) (calls ++ [call]) := by
  unfold patternStep
  dsimp only
  split_ifs
  · exact (h.adapted platform hfresh).map_metadata platform call.observation _
  · exact h.adapted platform hfresh

/-! ## Superseded patterns -/

lemma updatedPattern_active (patterns : List WorkflowPattern) (call : PatternCall) :
    (adaptWorkflowPatterns platform patterns call.observation call.readings).updatedPattern ∈
        (adaptWorkflowPatterns platform patterns call.observation call.readings).patterns ∧
      (adaptWorkflowPatterns platform patterns call.observation
        call.readings).updatedPattern.status = .active := by
  rcases adapt_cases platform patterns call.observation call.readings with
    ⟨before, pattern, after, -, hactive, hpatterns, hupdated⟩ | ⟨-, hpatterns, hupdated⟩
  · rw [hpatterns, hupdated]
    unfold activeKey at hactive
    split_ifs at hactive with hstatus
    exact ⟨by simp, hstatus⟩
  · rw [hpatterns, hupdated]
    exact ⟨by simp, rfl⟩

/-- An adaptation leaves a superseded pattern where it is. -/
lemma superseded_mem_adapted {patterns : List WorkflowPattern} {pattern : WorkflowPattern}
    (hmem : pattern ∈ patterns) (hstatus : pattern.status = .superseded) (call : PatternCall) :
    pattern ∈ (adaptWorkflowPatterns platform patterns call.observation call.readings).patterns := by
  have haged : ∀ keys observedAt, pattern ∈ patterns.map (agedPattern platform keys observedAt) :=
    fun keys observedAt => List.mem_map.mpr
      ⟨pattern, hmem, aged_of_superseded keys observedAt pattern hstatus⟩
  rcases adapt_cases platform patterns call.observation call.readings with
    ⟨before, observed, after, hsplit, hactive, hpatterns, -⟩ | ⟨-, hpatterns, -⟩
  · have hne : pattern ≠ observed := by
      rintro rfl
      simp [activeKey, hstatus] at hactive
    have hin := haged (supersededKeys platform call.observation)
      (toIsoOrNow platform call.readings.nowIso call.observation.observedAt)
    rw [hsplit] at hin
    rw [hpatterns]
    rcases List.mem_append.mp hin with hfront | hback
    · exact List.mem_append_left _ hfront
    · exact List.mem_append_right _
        (List.mem_cons_of_mem _ ((List.mem_cons.mp hback).resolve_left hne))
  · rw [hpatterns]
    exact List.mem_append_left _ (haged _ _)

/-- With ids of its own, a superseded pattern gets no metadata either. -/
lemma superseded_mem_step {patterns : List WorkflowPattern} {calls : List PatternCall}
    (h : Ledger platform patterns calls) {call : PatternCall}
    (hfresh : call.readings.newId ∉ calls.map (·.readings.newId)) {pattern : WorkflowPattern}
    (hmem : pattern ∈ patterns) (hstatus : pattern.status = .superseded) :
    pattern ∈ patternStep platform patterns call := by
  have hin := superseded_mem_adapted platform hmem hstatus call
  obtain ⟨hupdated, hactive⟩ := updatedPattern_active platform patterns call
  unfold patternStep
  dsimp only
  split_ifs
  · refine List.mem_map.mpr ⟨pattern, hin, if_neg fun hid => ?_⟩
    have hsame := List.inj_on_of_nodup_map (h.adapted platform hfresh).ids hin hupdated hid
    rw [← hsame, hstatus] at hactive
    cases hactive
  · exact hin

/-! ## Runs -/

lemma ledger_of_calls {patterns : List WorkflowPattern} {seen : List PatternCall}
    (h : Ledger platform patterns seen) (calls : List PatternCall)
    (hids : ((seen ++ calls).map (·.readings.newId)).Nodup) :
    Ledger platform (calls.foldl (patternStep platform) patterns) (seen ++ calls) := by
  induction calls generalizing patterns seen with
  | nil => simpa using h
  | cons call calls ih =>
      have hfresh : call.readings.newId ∉ seen.map (·.readings.newId) := by
        intro hmem
        rw [List.map_append, List.nodup_append] at hids
        exact hids.2.2 _ hmem _ (by simp) rfl
      have hstep := h.step platform hfresh
      rw [List.append_cons] at hids ⊢
      exact ih hstep hids

lemma superseded_kept {patterns : List WorkflowPattern} {seen : List PatternCall}
    (h : Ledger platform patterns seen) (calls : List PatternCall)
    (hids : ((seen ++ calls).map (·.readings.newId)).Nodup) {pattern : WorkflowPattern}
    (hmem : pattern ∈ patterns) (hstatus : pattern.status = .superseded) :
    pattern ∈ calls.foldl (patternStep platform) patterns := by
  induction calls generalizing patterns seen with
  | nil => exact hmem
  | cons call calls ih =>
      have hfresh : call.readings.newId ∉ seen.map (·.readings.newId) := by
        intro hin
        rw [List.map_append, List.nodup_append] at hids
        exact hids.2.2 _ hin _ (by simp) rfl
      have hkept := superseded_mem_step platform h hfresh hmem hstatus
      rw [List.append_cons] at hids
      exact ih (h.step platform hfresh) hids hkept

/-- After any observations: at most one active pattern a key, distinct ids, confidences between
zero and one, the counts of the observations, and every pattern that was superseded on the way as
it was then. -/
theorem pattern_ledger_of_calls (calls : List PatternCall)
    (hids : (calls.map (·.readings.newId)).Nodup) :
    ((calls.foldl (patternStep platform) []).filterMap (activeKey platform)).Nodup ∧
    ((calls.foldl (patternStep platform) []).map (·.id)).Nodup ∧
    (∀ pattern ∈ calls.foldl (patternStep platform) [],
      0 ≤ pattern.confidence ∧ pattern.confidence ≤ 1) ∧
    (∀ outcome, ((calls.foldl (patternStep platform) []).map (·.count outcome)).sum =
      (calls.filter (·.observation.outcome = outcome)).length) ∧
    ∀ before after, calls = before ++ after →
      ∀ pattern ∈ before.foldl (patternStep platform) [], pattern.status = .superseded →
        pattern ∈ calls.foldl (patternStep platform) [] := by
  have hledger := ledger_of_calls platform (ledger_nil platform) calls (by simpa using hids)
  rw [List.nil_append] at hledger
  refine ⟨hledger.keys, hledger.ids, hledger.shares, hledger.counts, ?_⟩
  rintro before after rfl pattern hpattern hstatus
  have hbefore : (before.map (·.readings.newId)).Nodup := by
    rw [List.map_append] at hids
    exact hids.of_append_left
  have hmiddle := ledger_of_calls platform (ledger_nil platform) before (by simpa using hbefore)
  rw [List.nil_append] at hmiddle
  rw [List.foldl_append]
  exact superseded_kept platform hmiddle after hids hpattern hstatus

/-! ## A workflow that supersedes itself -/

def ledgerPlatform : BridgePlatform :=
  .ofDates
    [("2026-01-01T00:00:00.000Z", 1767225600000), ("2026-01-02T00:00:00.000Z", 1767312000000)]
    (by decide)

def vetCall : PatternCall where
  observation :=
    { workflowKey := "Vet Invoices"
      outcome := .success
      observedAt := "2026-01-01T00:00:00.000Z"
      domainLane := "workflow"
      contextTags := ["invoices"]
      supersedesKeys := none
      metadata := .empty }
  readings := { nowIso := "2026-01-02T00:00:00.000Z", newId := "workflow_pattern_1" }
  enriched := true

/-- The same workflow a day later, which supersedes what was learned of it before. -/
def vetAgainCall : PatternCall :=
  { vetCall with
    observation :=
      { vetCall.observation with
        outcome := .failure
        observedAt := "2026-01-02T00:00:00.000Z"
        supersedesKeys := some [" vet invoices "] }
    readings := { nowIso := "2026-01-02T00:00:00.000Z", newId := "workflow_pattern_2" } }

/-- Both observations are counted, each in a pattern of its own, one of which is active. -/
theorem pattern_ledger_of_calls_vetAgain :
    ([vetCall, vetAgainCall].foldl (patternStep ledgerPlatform) []).length = 2 ∧
    (([vetCall, vetAgainCall].foldl (patternStep ledgerPlatform) []).filterMap
      (activeKey ledgerPlatform)).Nodup ∧
    (([vetCall, vetAgainCall].foldl (patternStep ledgerPlatform) []).map
      (·.count .success)).sum = 1 := by
  have hledger := pattern_ledger_of_calls ledgerPlatform [vetCall, vetAgainCall] (by decide)
  refine ⟨by decide +kernel, hledger.1, ?_⟩
  rw [hledger.2.2.2.1 .success]
  decide

end AgentBigBrain.Core
