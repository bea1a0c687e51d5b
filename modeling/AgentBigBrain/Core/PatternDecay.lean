import AgentBigBrain.Core.PatternLedger

/-!
# Decay of unobserved patterns

Every observation lets all active patterns decay, by one step for each full interval since a
pattern was last seen. The decay is taken off the confidence that the observation before it left,
but counted from the time the pattern was last seen. So two observations after a full interval
take the first interval off twice.
-/
namespace AgentBigBrain.Core

open AgentBigBrain.Js

/-! ## Rounded shares -/

lemma roundTo_mono (digits : ℕ) {x y : ℚ} (h : x ≤ y) : roundTo digits x ≤ roundTo digits y := by
  unfold roundTo
  have hscaled : x * 10 ^ digits + 1 / 2 ≤ y * 10 ^ digits + 1 / 2 := by gcongr
  have hfloor : ((⌊x * 10 ^ digits + 1 / 2⌋ : ℤ) : ℚ) ≤ ⌊y * 10 ^ digits + 1 / 2⌋ := by
    exact_mod_cast Int.floor_mono hscaled
  gcongr

/-- Rounding moves a value by at most half a unit of the last digit. -/
lemma roundTo_four_bounds (x : ℚ) :
    roundTo 4 x ≤ x + 1 / 20000 ∧ x - 1 / 20000 < roundTo 4 x := by
  have hle := Int.floor_le (x * 10 ^ 4 + 1 / 2)
  have hlt := Int.lt_floor_add_one (x * 10 ^ 4 + 1 / 2)
  unfold roundTo
  constructor
  · rw [div_le_iff₀ (by norm_num)]
    linarith
  · rw [lt_div_iff₀ (by norm_num)]
    linarith

lemma clampConfidence_mono {x y : ℚ} (h : x ≤ y) : clampConfidence x ≤ clampConfidence y :=
  roundTo_mono 4 (max_le_max le_rfl (min_le_min le_rfl h))

lemma clampConfidence_le {x bound : ℚ} (hbound : 0 ≤ bound) (h : x ≤ bound) :
    clampConfidence x ≤ bound + 1 / 20000 := by
  have hinner : max 0 (min 1 x) ≤ bound := max_le hbound ((min_le_right 1 x).trans h)
  have hround := (roundTo_four_bounds (max 0 (min 1 x))).1
  unfold clampConfidence
  linarith

lemma lt_clampConfidence {x bound : ℚ} (hone : bound ≤ 1) (h : bound ≤ x) :
    bound - 1 / 20000 < clampConfidence x := by
  have hinner : bound ≤ max 0 (min 1 x) := (le_min hone h).trans (le_max_right 0 _)
  have hround := (roundTo_four_bounds (max 0 (min 1 x))).2
  unfold clampConfidence
  linarith

lemma clampConfidence_eq_zero_iff (x : ℚ) : clampConfidence x = 0 ↔ x < 1 / 20000 := by
  constructor
  · intro hzero
    by_contra hge
    have hgrid : clampConfidence (1 / 20000) ≤ clampConfidence x :=
      clampConfidence_mono (not_lt.mp hge)
    have hvalue : clampConfidence (1 / 20000) = 1 / 10000 := by decide +kernel
    rw [hzero, hvalue] at hgrid
    norm_num at hgrid
  · intro hlt
    have hnonneg := clampConfidence_nonneg x
    have hinner : max 0 (min 1 x) < 1 / 20000 :=
      max_lt (by norm_num) ((min_le_right 1 x).trans_lt hlt)
    have hfloor : ⌊max 0 (min 1 x) * 10 ^ 4 + 1 / 2⌋ ≤ 0 := by
      refine Int.lt_add_one_iff.mp (Int.floor_lt.mpr ?_)
      push_cast
      linarith
    have hcast : ((⌊max 0 (min 1 x) * 10 ^ 4 + 1 / 2⌋ : ℤ) : ℚ) ≤ 0 := by exact_mod_cast hfloor
    have hle : clampConfidence x ≤ 0 := by
      unfold clampConfidence roundTo
      exact div_nonpos_of_nonpos_of_nonneg hcast (by norm_num)
    exact le_antisymm hle hnonneg

/-! ## Decay by full intervals -/

/-- A confidence after one decay. -/
def decayed (confidence : ℚ) (intervals : ℤ) : ℚ :=
  if intervals ≤ 0 then confidence
  else clampConfidence (confidence - intervals * DEFAULT_DECAY_STEP)

lemma decayed_of_pos {intervals : ℤ} (h : 0 < intervals) (confidence : ℚ) :
    decayed confidence intervals =
      clampConfidence (confidence - intervals * DEFAULT_DECAY_STEP) :=
  if_neg (not_le.mpr h)

/-- What is taken off in one decay is a step at least. -/
lemma step_le {intervals : ℤ} (h : 0 < intervals) : 1 / 20 ≤ intervals * DEFAULT_DECAY_STEP := by
  have hone : (1 : ℚ) ≤ intervals := by exact_mod_cast h
  unfold DEFAULT_DECAY_STEP
  linarith

/-- Confidences on the grid of four digits are left alone by the clamp. -/
def OnGrid (confidence : ℚ) : Prop := clampConfidence confidence = confidence

lemma onGrid_clamp (x : ℚ) : OnGrid (clampConfidence x) := by
  have hnonneg := clampConfidence_nonneg x
  have hone := clampConfidence_le_one x
  unfold OnGrid
  rw [clampConfidence, min_eq_right hone, max_eq_right hnonneg]
  unfold clampConfidence roundTo
  rw [div_mul_cancel₀ _ (by norm_num)]
  congr 1
  rw [Int.cast_inj, Int.floor_intCast_add]
  norm_num

/-- Further decays do not raise a confidence on the grid. -/
lemma foldl_decayed_le {confidence : ℚ} (hgrid : OnGrid confidence) (intervals : List ℤ) :
    intervals.foldl decayed confidence ≤ confidence := by
  induction intervals generalizing confidence with
  | nil => exact le_rfl
  | cons first rest ih =>
      rw [List.foldl_cons]
      by_cases hfirst : first ≤ 0
      · rw [decayed, if_pos hfirst]
        exact ih hgrid
      · have hstep := step_le (not_le.mp hfirst)
        rw [decayed, if_neg hfirst]
        have hlower : clampConfidence (confidence - first * DEFAULT_DECAY_STEP) ≤ confidence := by
          refine (clampConfidence_mono ?_).trans (le_of_eq hgrid)
          linarith
        exact (ih (onGrid_clamp _)).trans hlower

/-- After a first full interval the confidence is a step lower, whatever follows. -/
lemma foldl_decayed_le_step (confidence : ℚ) {intervals : List ℤ} (h : ∃ n ∈ intervals, 0 < n) :
    intervals.foldl decayed confidence ≤ clampConfidence (confidence - 1 / 20) := by
  induction intervals generalizing confidence with
  | nil => simp at h
  | cons first rest ih =>
      rw [List.foldl_cons]
      by_cases hfirst : first ≤ 0
      · rw [decayed, if_pos hfirst]
        refine ih confidence ?_
        obtain ⟨n, hn, hpos⟩ := h
        rcases List.mem_cons.mp hn with rfl | hn
        · omega
        · exact ⟨n, hn, hpos⟩
      · have hstep := step_le (not_le.mp hfirst)
        rw [decayed, if_neg hfirst]
        refine (foldl_decayed_le (onGrid_clamp _) rest).trans (clampConfidence_mono ?_)
        linarith

lemma foldl_decayed_of_none {confidence : ℚ} {intervals : List ℤ} (h : ∀ n ∈ intervals, n ≤ 0) :
    intervals.foldl decayed confidence = confidence := by
  induction intervals with
  | nil => rfl
  | cons first rest ih =>
      rw [List.foldl_cons, decayed, if_pos (h first (by simp))]
      exact ih fun n hn => h n (by simp [hn])

/-- The decays of a sequence add up to the last one alone only where none comes before it, or
where that one leaves nothing. -/
theorem foldl_decayed_eq_last_iff {confidence : ℚ} {intervals : List ℤ} {last : ℤ}
    (hlast : ∀ n ∈ intervals, n ≤ last) :
    decayed (intervals.foldl decayed confidence) last = decayed confidence last ↔
      (∀ n ∈ intervals, n ≤ 0) ∨
        confidence - last * DEFAULT_DECAY_STEP < 1 / 20000 := by
  by_cases hnone : ∀ n ∈ intervals, n ≤ 0
  · simp only [foldl_decayed_of_none hnone, true_iff]
    exact .inl hnone
  · have hsome : ∃ n ∈ intervals, 0 < n := by
      push Not at hnone
      exact hnone
    have hpos : 0 < last := by
      obtain ⟨n, hn, hn0⟩ := hsome
      exact hn0.trans_le (hlast n hn)
    have hstep := step_le hpos
    have hbefore := foldl_decayed_le_step confidence hsome
    have hcap := clampConfidence_le_one (confidence - 1 / 20)
    rw [or_iff_right hnone, decayed_of_pos hpos, decayed_of_pos hpos,
      ← clampConfidence_eq_zero_iff]
    constructor
    · intro hsame
      by_contra hkept
      rw [clampConfidence_eq_zero_iff, not_lt] at hkept
      have hearlier : clampConfidence (confidence - 1 / 20) ≤ confidence - 1 / 20 + 1 / 20000 :=
        clampConfidence_le (by linarith) le_rfl
      by_cases hone : confidence - last * DEFAULT_DECAY_STEP ≤ 1
      · have hlower := lt_clampConfidence hone le_rfl
        by_cases hrest : confidence - 1 / 20 + 1 / 20000 - last * DEFAULT_DECAY_STEP ≤ 0
        · have hzero : clampConfidence (intervals.foldl decayed confidence -
              last * DEFAULT_DECAY_STEP) = 0 := by
            rw [clampConfidence_eq_zero_iff]
            linarith
          rw [hzero] at hsame
          have hnot := (clampConfidence_eq_zero_iff _).mp hsame.symm
          linarith
        · have hupper : clampConfidence (intervals.foldl decayed confidence -
              last * DEFAULT_DECAY_STEP) ≤
                confidence - 1 / 20 + 1 / 20000 - last * DEFAULT_DECAY_STEP + 1 / 20000 :=
            clampConfidence_le (not_le.mp hrest).le (by linarith)
          linarith
      · have hlower := lt_clampConfidence (le_refl (1 : ℚ)) (not_le.mp hone).le
        have hupper : clampConfidence (intervals.foldl decayed confidence -
            last * DEFAULT_DECAY_STEP) ≤ 19 / 20 + 1 / 20000 :=
          clampConfidence_le (by norm_num) (by linarith)
        linarith
    · intro hzero
      have hlow := (clampConfidence_eq_zero_iff _).mp hzero
      rw [hzero, clampConfidence_eq_zero_iff]
      by_cases hconfidence : confidence - 1 / 20 ≤ 0
      · have hearlier : clampConfidence (confidence - 1 / 20) ≤ 0 + 1 / 20000 :=
          clampConfidence_le le_rfl hconfidence
        linarith
      · have hearlier : clampConfidence (confidence - 1 / 20) ≤ confidence - 1 / 20 + 1 / 20000 :=
          clampConfidence_le (not_le.mp hconfidence).le le_rfl
        linarith

/-! ## One pattern among the others -/

variable (platform : BridgePlatform)

/-- The time of a call as the patterns take it. -/
def observedTime (call : PatternCall) : String :=
  toIsoOrNow platform call.readings.nowIso call.observation.observedAt

/-- The full intervals between the last time a pattern was seen and a call. -/
def fullIntervals (lastSeenAt : String) (call : PatternCall) : ℤ :=
  ⌊daysBetween platform lastSeenAt (observedTime platform call) / DEFAULT_DECAY_INTERVAL_DAYS⌋

/-- The call is about another workflow and does not supersede the pattern. -/
def Spares (pattern : WorkflowPattern) (call : PatternCall) : Prop :=
  normalizeWorkflowKey platform pattern.workflowKey ≠
      normalizeWorkflowKey platform call.observation.workflowKey ∧
    normalizeWorkflowKey platform pattern.workflowKey ∉
      supersededKeys platform call.observation

instance (pattern : WorkflowPattern) (call : PatternCall) :
    Decidable (Spares platform pattern call) :=
  inferInstanceAs (Decidable (_ ∧ _))

/-- No call is before an earlier one. -/
def InTimeOrder (calls : List PatternCall) : Prop :=
  calls.Pairwise fun earlier later =>
    ∃ start, platform.dateParse (observedTime platform earlier) = some start ∧
      ∃ stop, platform.dateParse (observedTime platform later) = some stop ∧ start ≤ stop

/-- A pattern that was only left to decay. -/
structure DecayedFrom (old new : WorkflowPattern) : Prop where
  status : new.status = old.status
  workflowKey : new.workflowKey = old.workflowKey
  lastSeenAt : new.lastSeenAt = old.lastSeenAt

lemma decayPatternConfidence_of_active {pattern : WorkflowPattern}
    (hactive : pattern.status = .active) (call : PatternCall) :
    decayPatternConfidence platform pattern (observedTime platform call) =
      { pattern with
        confidence :=
          decayed pattern.confidence (fullIntervals platform pattern.lastSeenAt call) } := by
  have hintervals : ⌊daysBetween platform pattern.lastSeenAt (observedTime platform call) /
      DEFAULT_DECAY_INTERVAL_DAYS⌋ = fullIntervals platform pattern.lastSeenAt call := rfl
  unfold decayPatternConfidence
  dsimp only
  rw [if_neg (by simpa using hactive), hintervals]
  by_cases hshort : daysBetween platform pattern.lastSeenAt (observedTime platform call) <
      DEFAULT_DECAY_INTERVAL_DAYS
  · have hzero : fullIntervals platform pattern.lastSeenAt call ≤ 0 := by
      refine Int.lt_add_one_iff.mp (Int.floor_lt.mpr ?_)
      rw [div_lt_iff₀ (by norm_num [DEFAULT_DECAY_INTERVAL_DAYS])]
      push_cast
      linarith
    rw [if_pos hshort, decayed, if_pos hzero]
  · rw [if_neg hshort]
    by_cases hzero : fullIntervals platform pattern.lastSeenAt call ≤ 0
    · rw [decayed, if_pos hzero, if_pos hzero]
    · rw [decayed, if_neg hzero, if_neg hzero]

/-- A spared pattern stays at its place and decays. -/
lemma patternStep_spared {patterns : List WorkflowPattern} {i : ℕ} {pattern : WorkflowPattern}
    (hplace : patterns[i]? = some pattern) (hactive : pattern.status = .active)
    {call : PatternCall} (hspares : Spares platform pattern call) :
    ∃ next, (patternStep platform patterns call)[i]? = some next ∧ DecayedFrom pattern next ∧
      next.confidence =
        decayed pattern.confidence (fullIntervals platform pattern.lastSeenAt call) := by
  have haged : (patterns.map (agedPattern platform (supersededKeys platform call.observation)
      (observedTime platform call)))[i]? = some
        { pattern with
          confidence :=
            decayed pattern.confidence (fullIntervals platform pattern.lastSeenAt call) } := by
    rw [List.getElem?_map, hplace, Option.map_some, agedPattern,
      decayPatternConfidence_of_active platform hactive, supersede,
      if_neg fun hkeys => hspares.2 hkeys.2]
  have hadapted : (adaptWorkflowPatterns platform patterns call.observation
      call.readings).patterns[i]? = some
        { pattern with
          confidence :=
            decayed pattern.confidence (fullIntervals platform pattern.lastSeenAt call) } := by
    rcases adapt_cases platform patterns call.observation call.readings with
      ⟨before, observed, after, hsplit, hkey, hpatterns, -⟩ | ⟨-, hpatterns, -⟩
    · have hne : i ≠ before.length := by
        rintro rfl
        have hobserved := haged
        rw [observedTime, hsplit, List.getElem?_append_right (le_refl _), Nat.sub_self,
          List.getElem?_cons_zero] at hobserved
        rw [Option.some.inj hobserved, activeKey, if_pos hactive] at hkey
        exact hspares.1 (Option.some.inj hkey)
      have hset : before ++ observed.observedAgain platform call.observation
          (toIsoOrNow platform call.readings.nowIso call.observation.observedAt) :: after =
            (before ++ observed :: after).set before.length
              (observed.observedAgain platform call.observation
                (toIsoOrNow platform call.readings.nowIso call.observation.observedAt)) := by
        simp
      rw [hpatterns, hset, List.getElem?_set_ne hne.symm, ← hsplit]
      exact haged
    · rw [hpatterns, List.getElem?_append_left]
      · exact haged
      · exact (List.getElem?_eq_some_iff.mp haged).1
  unfold patternStep
  dsimp only
  split_ifs
  · refine ⟨_, by rw [applyObservationMetadataToAdaptation, List.getElem?_map, hadapted,
      Option.map_some], ?_⟩
    split_ifs <;> exact ⟨⟨rfl, rfl, rfl⟩, rfl⟩
  · exact ⟨_, hadapted, ⟨rfl, rfl, rfl⟩, rfl⟩

/-- Observations of other workflows only let a pattern decay, each of them anew. -/
lemma patternSteps_spared {patterns : List WorkflowPattern} {i : ℕ} {pattern : WorkflowPattern}
    (hplace : patterns[i]? = some pattern) (hactive : pattern.status = .active)
    {calls : List PatternCall} (hspares : ∀ call ∈ calls, Spares platform pattern call) :
    ((calls.foldl (patternStep platform) patterns)[i]?).map (·.confidence) =
      some ((calls.map (fullIntervals platform pattern.lastSeenAt)).foldl decayed
        pattern.confidence) := by
  induction calls generalizing patterns pattern with
  | nil => simp [hplace]
  | cons call calls ih =>
      obtain ⟨next, hnext, hdecayed, hconfidence⟩ :=
        patternStep_spared platform hplace hactive (hspares call (by simp))
      have hrest := ih hnext (hdecayed.status.trans hactive) fun later hlater => by
        have hlaterSpares := hspares later (by simp [hlater])
        unfold Spares at hlaterSpares ⊢
        rw [hdecayed.workflowKey]
        exact hlaterSpares
      rw [List.foldl_cons, hrest, List.map_cons, List.foldl_cons, hconfidence,
        hdecayed.lastSeenAt]

/-- A later call is as many full intervals away or more. -/
lemma fullIntervals_mono {lastSeenAt : String} {earlier later : PatternCall} {start stop : ℤ}
    (hstart : platform.dateParse (observedTime platform earlier) = some start)
    (hstop : platform.dateParse (observedTime platform later) = some stop) (hle : start ≤ stop) :
    fullIntervals platform lastSeenAt earlier ≤ fullIntervals platform lastSeenAt later := by
  have hdays : daysBetween platform lastSeenAt (observedTime platform earlier) ≤
      daysBetween platform lastSeenAt (observedTime platform later) := by
    unfold daysBetween
    rw [hstart, hstop]
    cases platform.dateParse lastSeenAt with
    | none => exact le_rfl
    | some seen =>
        have hmax : ((max 0 (start - seen) : ℤ) : ℚ) ≤ (max 0 (stop - seen) : ℤ) := by
          exact_mod_cast max_le_max le_rfl (by omega)
        exact div_le_div_of_nonneg_right hmax (by norm_num)
  refine Int.floor_mono (div_le_div_of_nonneg_right hdays ?_)
  norm_num [DEFAULT_DECAY_INTERVAL_DAYS]

/-- The observations of other workflows count as their last one alone exactly where none before it
is a full interval after the pattern was last seen, or where the last one leaves no confidence. -/
theorem decay_of_calls_eq_last_iff {patterns : List WorkflowPattern} {i : ℕ}
    {pattern : WorkflowPattern} (hplace : patterns[i]? = some pattern)
    (hactive : pattern.status = .active) {calls : List PatternCall} {last : PatternCall}
    (hspares : ∀ call ∈ calls ++ [last], Spares platform pattern call)
    (htimes : InTimeOrder platform (calls ++ [last])) :
    (((calls ++ [last]).foldl (patternStep platform) patterns)[i]?).map (·.confidence) =
        ((patternStep platform patterns last)[i]?).map (·.confidence) ↔
      (∀ call ∈ calls, fullIntervals platform pattern.lastSeenAt call ≤ 0) ∨
        pattern.confidence -
          fullIntervals platform pattern.lastSeenAt last * DEFAULT_DECAY_STEP < 1 / 20000 := by
  have hlast : ∀ n ∈ calls.map (fullIntervals platform pattern.lastSeenAt),
      n ≤ fullIntervals platform pattern.lastSeenAt last := by
    intro n hn
    obtain ⟨call, hcall, rfl⟩ := List.mem_map.mp hn
    obtain ⟨start, hstart, stop, hstop, hle⟩ :=
      (List.pairwise_append.mp htimes).2.2 call hcall last (by simp)
    exact fullIntervals_mono platform hstart hstop hle
  have hlastSpares : ∀ call ∈ [last], Spares platform pattern call :=
    fun call hcall => hspares call (List.mem_append_right _ hcall)
  have hone := patternSteps_spared platform hplace hactive hlastSpares
  have hall := patternSteps_spared platform hplace hactive hspares
  have hsplit : ((calls ++ [last]).map (fullIntervals platform pattern.lastSeenAt)).foldl decayed
      pattern.confidence =
        decayed ((calls.map (fullIntervals platform pattern.lastSeenAt)).foldl decayed
          pattern.confidence) (fullIntervals platform pattern.lastSeenAt last) := by
    rw [List.map_append, List.foldl_append]
    rfl
  rw [hall, hsplit]
  change _ = (([last].foldl (patternStep platform) patterns)[i]?).map (·.confidence) ↔ _
  rw [hone, Option.some.injEq]
  simpa using foldl_decayed_eq_last_iff hlast

/-! ## Two weeks without an observation -/

def decayPlatform : BridgePlatform :=
  .ofDates
    [("2026-01-01T00:00:00.000Z", 1767225600000), ("2026-01-08T00:00:00.000Z", 1767830400000),
      ("2026-01-15T00:00:00.000Z", 1768435200000)]
    (by decide)

/-- What a first observation of the invoices leaves. -/
def vetPattern : WorkflowPattern :=
  firstPattern decayPlatform vetCall.observation vetCall.readings "2026-01-01T00:00:00.000Z"

/-- An observation of another workflow. -/
def backupAt (observedAt newId : String) : PatternCall where
  observation :=
    { vetCall.observation with
      workflowKey := "back up site"
      observedAt := observedAt }
  readings := { nowIso := observedAt, newId := newId }
  enriched := true

def backupAtOnce : PatternCall := backupAt "2026-01-01T00:00:00.000Z" "workflow_pattern_2"

def backupAfterWeek : PatternCall := backupAt "2026-01-08T00:00:00.000Z" "workflow_pattern_3"

def backupAfterTwoWeeks : PatternCall := backupAt "2026-01-15T00:00:00.000Z" "workflow_pattern_4"

lemma inTimeOrder_pair {earlier later : PatternCall} {start stop : ℤ}
    (hstart : platform.dateParse (observedTime platform earlier) = some start)
    (hstop : platform.dateParse (observedTime platform later) = some stop) (hle : start ≤ stop) :
    InTimeOrder platform ([earlier] ++ [later]) :=
  List.pairwise_pair.mpr ⟨start, hstart, stop, hstop, hle⟩

/-- Within the first week an observation in between does not matter. -/
theorem decay_of_calls_eq_last_iff_backupAtOnce :
    (([backupAtOnce] ++ [backupAfterTwoWeeks]).foldl (patternStep decayPlatform)
        [vetPattern])[0]?.map (·.confidence) =
      (patternStep decayPlatform [vetPattern] backupAfterTwoWeeks)[0]?.map (·.confidence) := by
  have hstart : decayPlatform.dateParse (observedTime decayPlatform backupAtOnce) =
      some 1767225600000 := by decide
  have hstop : decayPlatform.dateParse (observedTime decayPlatform backupAfterTwoWeeks) =
      some 1768435200000 := by decide
  have htimes := inTimeOrder_pair decayPlatform hstart hstop (by decide)
  exact (decay_of_calls_eq_last_iff decayPlatform rfl rfl (by decide) htimes).mpr
    (.inl (by decide +kernel))

/-- An observation after each of two weeks takes the first week off twice. -/
theorem first_week_decays_twice :
    ¬ ∀ (platform : BridgePlatform) (patterns : List WorkflowPattern) (i : ℕ)
      (pattern : WorkflowPattern) (calls : List PatternCall) (last : PatternCall),
      patterns[i]? = some pattern → pattern.status = .active →
      (∀ call ∈ calls ++ [last], Spares platform pattern call) →
      InTimeOrder platform (calls ++ [last]) →
      (((calls ++ [last]).foldl (patternStep platform) patterns)[i]?).map (·.confidence) =
        ((patternStep platform patterns last)[i]?).map (·.confidence) := by
  intro hclaim
  have hstart : decayPlatform.dateParse (observedTime decayPlatform backupAfterWeek) =
      some 1767830400000 := by decide
  have hstop : decayPlatform.dateParse (observedTime decayPlatform backupAfterTwoWeeks) =
      some 1768435200000 := by decide
  have htimes := inTimeOrder_pair decayPlatform hstart hstop (by decide)
  have hsame := hclaim decayPlatform [vetPattern] 0 vetPattern [backupAfterWeek]
    backupAfterTwoWeeks rfl rfl (by decide) htimes
  revert hsame
  decide +kernel

end AgentBigBrain.Core
