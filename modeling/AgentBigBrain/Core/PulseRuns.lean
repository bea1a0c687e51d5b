import AgentBigBrain.Core.PulseCandidates
import Mathlib.Tactic.Linarith

/-!
# Runs of pulse evaluations

Every emission of an evaluation is recorded and read by the evaluations after it. With a clock
that does not go back, the records are in the order of their times, and the two limits that an
evaluation reads off the records hold over the whole run.
-/
namespace AgentBigBrain.Core.Pulse

open AgentBigBrain.Js AgentBigBrain.Lib

variable (platform : PulsePlatform) (sha : Sha256)

/-! ## One evaluation -/

lemma candidates_decideCandidates (gate : PulseGate) (emitted : Bool)
    (candidates : List RankedCandidate) :
    (decideCandidates gate emitted candidates).map PulseCandidateDecisionV1.candidate =
      candidates := by
  induction candidates generalizing emitted with
  | nil => rfl
  | cons candidate rest ih =>
      rw [decideCandidates, List.map_cons, ih]

/-- The decisions that let their candidate through. -/
def emissions (decisions : List PulseCandidateDecisionV1) : List PulseCandidateDecisionV1 :=
  decisions.filter fun entry => entry.decision == .emit

lemma decide_of_emitted (gate : PulseGate) (candidate : RankedCandidate) :
    gate.decide true candidate ≠ .emit := by
  unfold PulseGate.decide
  dsimp only
  split
  · simp
  · split
    · simp
    · split
      · simp
      · simp

lemma emissions_of_emitted (gate : PulseGate) (candidates : List RankedCandidate) :
    emissions (decideCandidates gate true candidates) = [] := by
  induction candidates with
  | nil => rfl
  | cons candidate rest ih =>
      have hsuppressed : (gate.decide true candidate == PulseDecisionV1.emit) = false :=
        beq_eq_false_iff_ne.mpr (decide_of_emitted gate candidate)
      rw [decideCandidates, emissions, List.filter_cons_of_neg (by simpa using hsuppressed)]
      exact ih

theorem length_emissions_le (gate : PulseGate) (candidates : List RankedCandidate) :
    (emissions (decideCandidates gate false candidates)).length ≤ 1 := by
  induction candidates with
  | nil => exact Nat.zero_le 1
  | cons candidate rest ih =>
      rw [decideCandidates]
      by_cases hemit : gate.decide false candidate = .emit
      · have hrest := emissions_of_emitted gate rest
        simp only [hemit, Bool.false_or, beq_self_eq_true]
        rw [emissions, List.filter_cons_of_pos (by simp)]
        rw [emissions] at hrest
        rw [hrest]
        exact le_rfl
      · have hbeq : (gate.decide false candidate == PulseDecisionV1.emit) = false :=
          beq_eq_false_iff_ne.mpr hemit
        simp only [hbeq, Bool.or_false]
        rw [emissions, List.filter_cons_of_neg (by simpa using hemit)]
        exact ih

/-- What an emitted candidate has passed. -/
lemma passes_of_emit {gate : PulseGate} {emitted : Bool} {candidate : RankedCandidate}
    (h : gate.decide emitted candidate = .emit) :
    gate.hasPrivacyRisk candidate = false ∧ gate.dailyCapReached = false ∧
      gate.globalCooldownActive = false := by
  unfold PulseGate.decide at h
  dsimp only at h
  split at h
  · cases h
  · split at h
    · cases h
    · rename_i hrisk
      split at h
      · cases h
      · split at h
        · cases h
        · rename_i hcap
          split at h
          · cases h
          · rename_i hcooldown
            have hcaps := Bool.or_eq_false_iff.mp (Bool.not_eq_true _ ▸ hcap)
            exact ⟨Bool.not_eq_true _ ▸ hrisk, hcaps.1, Bool.not_eq_true _ ▸ hcooldown⟩

lemma passes_of_emission {gate : PulseGate} {emitted : Bool} {candidates : List RankedCandidate}
    {entry : PulseCandidateDecisionV1} (hentry : entry ∈ decideCandidates gate emitted candidates)
    (hemit : entry.decision = .emit) :
    gate.hasPrivacyRisk entry.candidate = false ∧ gate.dailyCapReached = false ∧
      gate.globalCooldownActive = false := by
  induction candidates generalizing emitted with
  | nil => cases hentry
  | cons candidate rest ih =>
      rw [decideCandidates] at hentry
      rcases List.mem_cons.mp hentry with rfl | hrest
      · exact passes_of_emit hemit
      · exact ih hrest

/-! ## Recorded emissions -/

/-- An evaluation at a reading of the clock, with all it reads but the emissions before it. -/
structure PulseEvaluation where
  nowMs : ℤ
  observedAt : String
  reads : platform.isoString nowMs = some observedAt
  inRange : 0 ≤ nowMs ∧ nowMs < YEAR_10000_MS
  graph : EntityGraphV1
  stack : ConversationStackV1
  activeMissionWorkExists : Bool
  privacyOptOutEntityKeys : List String

variable {platform}

def PulseEvaluation.input (evaluation : PulseEvaluation platform)
    (history : List PulseEmissionRecordV1) : EvaluatePulseCandidatesInputV1 where
  graph := evaluation.graph
  stack := evaluation.stack
  observedAt := evaluation.observedAt
  recentPulseHistory := history
  activeMissionWorkExists := evaluation.activeMissionWorkExists
  privacyOptOutEntityKeys := evaluation.privacyOptOutEntityKeys

def emissionRecord (observedAt : String) (candidate : RankedCandidate) : PulseEmissionRecordV1 where
  emittedAt := observedAt
  reasonCode := candidate.reasonCode
  candidateEntityRefs := candidate.entityRefs

/-- Every emission of an evaluation is recorded. -/
def recordEmissions (options : EvaluatePulseCandidatesOptionsV1)
    (history : List PulseEmissionRecordV1) (evaluation : PulseEvaluation platform) :
    List PulseEmissionRecordV1 :=
  match evaluatePulseCandidatesV1 platform sha options (evaluation.input history) with
  | none => history
  | some result => history ++ (emissions result.decisions).map fun entry =>
      emissionRecord evaluation.observedAt entry.candidate

def runPulses (options : EvaluatePulseCandidatesOptionsV1)
    (evaluations : List (PulseEvaluation platform)) : List PulseEmissionRecordV1 :=
  evaluations.foldl (recordEmissions sha options) []

variable (platform)

def emittedMs (entry : PulseEmissionRecordV1) : ℤ :=
  (platform.dateParse entry.emittedAt).getD 0

/-- The time of the record is a reading of the clock. -/
structure Clocked (entry : PulseEmissionRecordV1) : Prop where
  inRange : 0 ≤ emittedMs platform entry ∧ emittedMs platform entry < YEAR_10000_MS
  reads : platform.isoString (emittedMs platform entry) = some entry.emittedAt

variable {platform}

lemma PulseEvaluation.dateParse (evaluation : PulseEvaluation platform) :
    platform.dateParse evaluation.observedAt = some evaluation.nowMs :=
  platform.dateParse_isoString _ _ evaluation.reads

@[simp] lemma emittedMs_emissionRecord (evaluation : PulseEvaluation platform)
    (candidate : RankedCandidate) :
    emittedMs platform (emissionRecord evaluation.observedAt candidate) = evaluation.nowMs := by
  simp [emittedMs, emissionRecord, evaluation.dateParse]

lemma clocked_emissionRecord (evaluation : PulseEvaluation platform)
    (candidate : RankedCandidate) :
    Clocked platform (emissionRecord evaluation.observedAt candidate) := by
  constructor
  · rw [emittedMs_emissionRecord]
    exact evaluation.inRange
  · rw [emittedMs_emissionRecord]
    exact evaluation.reads

lemma Clocked.dateParse {entry : PulseEmissionRecordV1} (h : Clocked platform entry) :
    platform.dateParse entry.emittedAt = some (emittedMs platform entry) :=
  platform.dateParse_isoString _ _ h.reads

lemma Clocked.daysBetween {entry : PulseEmissionRecordV1} (h : Clocked platform entry)
    (evaluation : PulseEvaluation platform) :
    daysBetween platform entry.emittedAt evaluation.observedAt =
      some (elapsedDays (emittedMs platform entry) evaluation.nowMs) := by
  simp [Pulse.daysBetween, h.dateParse, evaluation.dateParse]

variable (platform) in
/-- The record as an evaluation reads it. -/
def readRecord (entry : PulseEmissionRecordV1) : PulseEmissionRecordV1 :=
  { entry with candidateEntityRefs := normalizeStringArray platform entry.candidateEntityRefs }

lemma Clocked.readRecord {entry : PulseEmissionRecordV1} (h : Clocked platform entry) :
    Clocked platform (readRecord platform entry) :=
  ⟨h.inRange, h.reads⟩

/-- An evaluation reads all the records, in another order. -/
lemma readHistory_perm {history : List PulseEmissionRecordV1}
    (h : ∀ entry ∈ history, Clocked platform entry) :
    (readHistory platform history).Perm (history.map (readRecord platform)) := by
  have hdated : history.filter (isDatedEmission platform) = history :=
    List.filter_eq_self.mpr fun entry hentry => by simp [isDatedEmission, (h entry hentry).dateParse]
  rw [readHistory, hdated]
  exact Comparator.sort_perm _ _

/-! ## The interval -/

lemma elapsedDays_of_le {earlier later : ℤ} (h : earlier ≤ later) :
    elapsedDays earlier later = (later - earlier : ℤ) / DAY_MS := by
  have hnonneg : (0 : ℚ) ≤ (later - earlier : ℤ) / (24 * 60 * 60 * 1000) := by
    apply div_nonneg
    · exact_mod_cast sub_nonneg.mpr h
    · norm_num
  rw [elapsedDays, max_eq_right hnonneg]
  norm_num [DAY_MS]

/-- The emission read first when the latest comes first is no earlier than any other. -/
lemma le_latest {history : List PulseEmissionRecordV1} {latest : PulseEmissionRecordV1}
    {rest : List PulseEmissionRecordV1} (h : ∀ entry ∈ history, Clocked platform entry)
    (hsort : (latestFirst platform).sort history = latest :: rest) :
    ∀ entry ∈ history, emittedMs platform entry ≤ emittedMs platform latest := by
  intro entry hentry
  have hsorted := (latestFirst platform).sorted_sort history
  rw [hsort] at hsorted
  have hlatest : latest ∈ history :=
    (latestFirst platform).mem_sort.mp (hsort ▸ List.mem_cons_self)
  have hmem : entry ∈ latest :: rest := hsort ▸ (latestFirst platform).mem_sort.mpr hentry
  rcases List.mem_cons.mp hmem with rfl | hrest
  · exact le_rfl
  · have hle := List.rel_of_pairwise_cons hsorted hrest
    have hentryClock := h entry hentry
    have hlatestClock := h latest hlatest
    exact (platform.le_isoString _ _ _ _ hentryClock.inRange.1 hentryClock.inRange.2
      hlatestClock.inRange.1 hlatestClock.inRange.2 hentryClock.reads hlatestClock.reads).mp hle

lemma clocked_readHistory {history : List PulseEmissionRecordV1}
    (h : ∀ entry ∈ history, Clocked platform entry) :
    ∀ entry ∈ readHistory platform history, Clocked platform entry := by
  intro entry hentry
  obtain ⟨recorded, hrecorded, rfl⟩ := List.mem_map.mp ((readHistory_perm h).mem_iff.mp hentry)
  exact (h recorded hrecorded).readRecord

/-- Once the cooldown is over, every emission is the interval away. -/
lemma interval_of_not_cooling {history : List PulseEmissionRecordV1}
    (h : ∀ entry ∈ history, Clocked platform entry) {evaluation : PulseEvaluation platform}
    (hpast : ∀ entry ∈ history, emittedMs platform entry ≤ evaluation.nowMs) {minutes : ℤ}
    (hcooldown : isGlobalCooldownActive platform (readHistory platform history)
      evaluation.observedAt minutes = false) :
    ∀ entry ∈ history, emittedMs platform entry + minutes * 60000 ≤ evaluation.nowMs := by
  intro entry hentry
  have hread := clocked_readHistory h
  have hmem : readRecord platform entry ∈ readHistory platform history :=
    (readHistory_perm h).mem_iff.mpr (List.mem_map_of_mem hentry)
  have hdated : (readHistory platform history).filter (isDatedEmission platform) =
      readHistory platform history :=
    List.filter_eq_self.mpr fun read hin => by simp [isDatedEmission, (hread read hin).dateParse]
  unfold isGlobalCooldownActive at hcooldown
  rw [hdated] at hcooldown
  cases hsort : (latestFirst platform).sort (readHistory platform history) with
  | nil =>
      have hsorted := (latestFirst platform).mem_sort.mpr hmem
      rw [hsort] at hsorted
      cases hsorted
  | cons latest rest =>
      have hlatestIn : latest ∈ readHistory platform history :=
        (latestFirst platform).mem_sort.mp (hsort ▸ List.mem_cons_self)
      have hle : emittedMs platform entry ≤ emittedMs platform latest :=
        le_latest hread hsort (readRecord platform entry) hmem
      have hpastLatest : emittedMs platform latest ≤ evaluation.nowMs := by
        obtain ⟨recorded, hrecorded, rfl⟩ :=
          List.mem_map.mp ((readHistory_perm h).mem_iff.mp hlatestIn)
        exact hpast recorded hrecorded
      rw [hsort] at hcooldown
      dsimp only at hcooldown
      rw [(hread latest hlatestIn).daysBetween, elapsedDays_of_le hpastLatest, Option.any_some,
        decide_eq_false_iff_not, not_lt] at hcooldown
      have hms : (minutes : ℚ) * 60000 ≤ (evaluation.nowMs - emittedMs platform latest : ℤ) := by
        norm_num [DAY_MS] at hcooldown ⊢
        linarith
      have hwhole : minutes * 60000 ≤ evaluation.nowMs - emittedMs platform latest := by
        exact_mod_cast hms
      omega

/-! ## The daily cap -/

variable (platform) in
/-- The emissions of the day that ends at a time. -/
def emittedInDay (windowEnd : ℤ) (history : List PulseEmissionRecordV1) :
    List PulseEmissionRecordV1 :=
  history.filter fun entry =>
    decide (windowEnd - DAY_MS ≤ emittedMs platform entry) &&
      decide (emittedMs platform entry ≤ windowEnd)

/-- The daily cap counts the emissions of the day that ends with the evaluation. -/
lemma length_emittedLastDay {history : List PulseEmissionRecordV1}
    (h : ∀ entry ∈ history, Clocked platform entry) {evaluation : PulseEvaluation platform}
    (hpast : ∀ entry ∈ history, emittedMs platform entry ≤ evaluation.nowMs) :
    (emittedLastDay platform (readHistory platform history) evaluation.observedAt).length =
      (emittedInDay platform evaluation.nowMs history).length := by
  have hperm := ((readHistory_perm h).filter fun entry =>
    (daysBetween platform entry.emittedAt evaluation.observedAt).any (· ≤ 1)).length_eq
  rw [emittedLastDay, hperm, List.filter_map, List.length_map, emittedInDay]
  congr 1
  refine List.filter_congr fun entry hentry => ?_
  have hle := hpast entry hentry
  have hday : ((evaluation.nowMs - emittedMs platform entry : ℤ) / DAY_MS : ℚ) ≤ 1 ↔
      evaluation.nowMs - DAY_MS ≤ emittedMs platform entry := by
    rw [div_le_one (by norm_num [DAY_MS])]
    constructor
    · intro hms
      have hwhole : evaluation.nowMs - emittedMs platform entry ≤ DAY_MS := by exact_mod_cast hms
      omega
    · intro hms
      have hwhole : evaluation.nowMs - emittedMs platform entry ≤ DAY_MS := by omega
      exact_mod_cast hwhole
  rw [Function.comp_apply, readRecord, (h entry hentry).daysBetween, elapsedDays_of_le hle,
    Option.any_some, decide_eq_true hle, Bool.and_true, decide_eq_decide]
  exact hday

lemma length_emittedInDay_concat (windowEnd : ℤ) (history : List PulseEmissionRecordV1)
    (new : PulseEmissionRecordV1) :
    (emittedInDay platform windowEnd (history ++ [new])).length =
      (emittedInDay platform windowEnd history).length +
        if windowEnd - DAY_MS ≤ emittedMs platform new ∧ emittedMs platform new ≤ windowEnd then 1
        else 0 := by
  rw [emittedInDay, List.filter_append, List.length_append]
  congr 1
  by_cases hwindow : windowEnd - DAY_MS ≤ emittedMs platform new ∧
      emittedMs platform new ≤ windowEnd
  · rw [if_pos hwindow, List.filter_cons_of_pos (by simpa using hwindow)]
    rfl
  · rw [if_neg hwindow, List.filter_cons_of_neg (by simpa using hwindow)]
    rfl

/-- What a later window holds of the emissions up to now lies in the day up to now. -/
lemma length_emittedInDay_le {history : List PulseEmissionRecordV1} {nowMs windowEnd : ℤ}
    (hlater : nowMs ≤ windowEnd) (hpast : ∀ entry ∈ history, emittedMs platform entry ≤ nowMs) :
    (emittedInDay platform windowEnd history).length ≤
      (emittedInDay platform nowMs history).length := by
  rw [emittedInDay, emittedInDay, ← List.countP_eq_length_filter, ← List.countP_eq_length_filter]
  refine List.countP_mono_left fun entry hentry hin => ?_
  have hfrom := of_decide_eq_true (Bool.and_eq_true_iff.mp hin).1
  have hto := hpast entry hentry
  exact Bool.and_eq_true_iff.mpr ⟨decide_eq_true (by omega), decide_eq_true hto⟩

/-! ## Runs -/

def maxPerDay (options : EvaluatePulseCandidatesOptionsV1) : ℤ :=
  clampCount options.pulseMaxPerDay DEFAULT_PULSE_MAX_PER_DAY

def minIntervalMs (options : EvaluatePulseCandidatesOptionsV1) : ℤ :=
  clampMinutes options.pulseMinIntervalMinutes DEFAULT_PULSE_MIN_INTERVAL_MINUTES * 60000

variable (platform) in
/-- The limits that the recorded emissions keep to. -/
structure RateBounded (options : EvaluatePulseCandidatesOptionsV1)
    (history : List PulseEmissionRecordV1) : Prop where
  spaced : history.Pairwise fun earlier later =>
    emittedMs platform earlier + minIntervalMs options ≤ emittedMs platform later
  capped : ∀ windowEnd, ((emittedInDay platform windowEnd history).length : ℤ) ≤ maxPerDay options

variable (platform) in
structure PulseInvariant (options : EvaluatePulseCandidatesOptionsV1) (nowMs : ℤ)
    (history : List PulseEmissionRecordV1) : Prop where
  clocked : ∀ entry ∈ history, Clocked platform entry
  past : ∀ entry ∈ history, emittedMs platform entry ≤ nowMs
  bounded : RateBounded platform options history

lemma one_le_maxPerDay (options : EvaluatePulseCandidatesOptionsV1) : 1 ≤ maxPerDay options := by
  unfold maxPerDay clampCount clampWhole
  split
  · decide
  · exact le_max_left _ _

lemma pulseInvariant_nil (options : EvaluatePulseCandidatesOptionsV1) (nowMs : ℤ) :
    PulseInvariant platform options nowMs [] where
  clocked entry hentry := by cases hentry
  past entry hentry := by cases hentry
  bounded :=
    { spaced := List.Pairwise.nil
      capped := fun _ => le_trans (by simp [emittedInDay]) (one_le_maxPerDay options) }

/-- An emission that has passed the limits keeps them. -/
lemma PulseInvariant.emit {options : EvaluatePulseCandidatesOptionsV1}
    {history : List PulseEmissionRecordV1} {evaluation : PulseEvaluation platform}
    (hinv : PulseInvariant platform options evaluation.nowMs history)
    (hcap : (pulseGate platform options (evaluation.input history)).dailyCapReached = false)
    (hcooldown :
      (pulseGate platform options (evaluation.input history)).globalCooldownActive = false)
    (candidate : RankedCandidate) :
    PulseInvariant platform options evaluation.nowMs
      (history ++ [emissionRecord evaluation.observedAt candidate]) := by
  have hapart := interval_of_not_cooling hinv.clocked hinv.past hcooldown
  constructor
  · intro entry hentry
    rcases List.mem_append.mp hentry with hold | hnew
    · exact hinv.clocked entry hold
    · obtain rfl := List.mem_singleton.mp hnew
      exact clocked_emissionRecord evaluation candidate
  · intro entry hentry
    rcases List.mem_append.mp hentry with hold | hnew
    · exact hinv.past entry hold
    · obtain rfl := List.mem_singleton.mp hnew
      rw [emittedMs_emissionRecord]
  · constructor
    · refine List.pairwise_append.mpr ⟨hinv.bounded.spaced, List.pairwise_singleton _ _, ?_⟩
      intro entry hentry new hnew
      obtain rfl := List.mem_singleton.mp hnew
      rw [emittedMs_emissionRecord]
      exact hapart entry hentry
    · intro windowEnd
      have hold := hinv.bounded.capped windowEnd
      rw [length_emittedInDay_concat, emittedMs_emissionRecord]
      by_cases hwindow : windowEnd - DAY_MS ≤ evaluation.nowMs ∧ evaluation.nowMs ≤ windowEnd
      · have hfresh := length_emittedInDay_le hwindow.2 hinv.past
        have hbelow : ((emittedInDay platform evaluation.nowMs history).length : ℤ) <
            maxPerDay options := by
          have hcount := of_decide_eq_false hcap
          rw [show (evaluation.input history).observedAt = evaluation.observedAt from rfl,
            show (evaluation.input history).recentPulseHistory = history from rfl,
            length_emittedLastDay hinv.clocked hinv.past] at hcount
          exact not_le.mp hcount
        rw [if_pos hwindow]
        push_cast
        omega
      · rw [if_neg hwindow]
        simpa using hold

lemma PulseInvariant.later {options : EvaluatePulseCandidatesOptionsV1} {nowMs laterMs : ℤ}
    {history : List PulseEmissionRecordV1} (hinv : PulseInvariant platform options nowMs history)
    (hlater : nowMs ≤ laterMs) : PulseInvariant platform options laterMs history where
  clocked := hinv.clocked
  past entry hentry := (hinv.past entry hentry).trans hlater
  bounded := hinv.bounded

variable {sha}

lemma decisions_of_evaluate {options : EvaluatePulseCandidatesOptionsV1}
    {input : EvaluatePulseCandidatesInputV1} {result : EvaluatePulseCandidatesResultV1}
    (h : evaluatePulseCandidatesV1 platform sha options input = some result) :
    result.decisions = decideCandidates (pulseGate platform options input) false
        result.orderedCandidates ∧ result.emittedCandidate = emittedOf result.decisions := by
  unfold evaluatePulseCandidatesV1 at h
  split at h
  · cases h
  · cases h
    exact ⟨rfl, rfl⟩

lemma PulseInvariant.recordEmissions {options : EvaluatePulseCandidatesOptionsV1}
    {history : List PulseEmissionRecordV1} {evaluation : PulseEvaluation platform}
    (hinv : PulseInvariant platform options evaluation.nowMs history) :
    PulseInvariant platform options evaluation.nowMs
      (recordEmissions sha options history evaluation) := by
  unfold Pulse.recordEmissions
  split
  · exact hinv
  · rename_i result hresult
    have hdecisions := (decisions_of_evaluate hresult).1
    have hfew := length_emissions_le (pulseGate platform options (evaluation.input history))
      result.orderedCandidates
    rw [← hdecisions] at hfew
    cases hemissions : emissions result.decisions with
    | nil => simpa using hinv
    | cons entry rest =>
        rw [hemissions, List.length_cons] at hfew
        have hrest : rest = [] := List.length_eq_zero_iff.mp (by omega)
        have hmem : entry ∈ emissions result.decisions := hemissions ▸ List.mem_cons_self
        obtain ⟨hentry, hemit⟩ := List.mem_filter.mp hmem
        rw [hdecisions] at hentry
        obtain ⟨-, hcap, hcooldown⟩ := passes_of_emission hentry (beq_iff_eq.mp hemit)
        rw [hrest]
        exact hinv.emit hcap hcooldown entry.candidate

lemma runPulses_concat (options : EvaluatePulseCandidatesOptionsV1)
    (evaluations : List (PulseEvaluation platform)) (evaluation : PulseEvaluation platform) :
    runPulses sha options (evaluations ++ [evaluation]) =
      recordEmissions sha options (runPulses sha options evaluations) evaluation := by
  simp [runPulses]

lemma pulseInvariant_runPulses {options : EvaluatePulseCandidatesOptionsV1}
    {evaluations : List (PulseEvaluation platform)}
    (hclock : evaluations.Pairwise fun earlier later => earlier.nowMs ≤ later.nowMs) {nowMs : ℤ}
    (hnow : ∀ evaluation ∈ evaluations, evaluation.nowMs ≤ nowMs) :
    PulseInvariant platform options nowMs (runPulses sha options evaluations) := by
  induction evaluations using List.reverseRecOn generalizing nowMs with
  | nil => exact pulseInvariant_nil options nowMs
  | append_singleton evaluations evaluation ih =>
      obtain ⟨hbefore, -, hlast⟩ := List.pairwise_append.mp hclock
      rw [runPulses_concat]
      have hinv := ih hbefore fun earlier hearlier => hlast earlier hearlier evaluation (by simp)
      exact hinv.recordEmissions.later (hnow evaluation (by simp))

variable (sha) in
/-- What one evaluation decides. -/
structure PulseSound (options : EvaluatePulseCandidatesOptionsV1)
    (history : List PulseEmissionRecordV1) (evaluation : PulseEvaluation platform)
    (result : EvaluatePulseCandidatesResultV1) : Prop where
  evaluates : evaluatePulseCandidatesV1 platform sha options (evaluation.input history) = some result
  one_decision : result.decisions.map PulseCandidateDecisionV1.candidate = result.orderedCandidates
  one_emission : (emissions result.decisions).length ≤ 1
  emitted : result.emittedCandidate =
    (emissions result.decisions).head?.map PulseCandidateDecisionV1.candidate
  private_safe : ∀ entry ∈ emissions result.decisions,
    involvesPrivateEntity platform evaluation.graph
        (normalizeStringArray platform evaluation.privacyOptOutEntityKeys) entry.candidate = false ∧
      hasPrivateThread platform evaluation.stack entry.candidate = false

lemma pulseSound_evaluation (options : EvaluatePulseCandidatesOptionsV1)
    (history : List PulseEmissionRecordV1) (evaluation : PulseEvaluation platform) :
    ∃ result, PulseSound sha options history evaluation result := by
  have hvalid : isValidIsoTimestamp platform.toGraphPlatform
      (evaluation.input history).observedAt = true := by
    simp [isValidIsoTimestamp, PulseEvaluation.input, evaluation.dateParse]
  have hevaluates : ∃ result, evaluatePulseCandidatesV1 platform sha options
      (evaluation.input history) = some result := by
    unfold evaluatePulseCandidatesV1
    rw [hvalid]
    exact ⟨_, rfl⟩
  obtain ⟨result, hresult⟩ := hevaluates
  obtain ⟨hdecisions, hemitted⟩ := decisions_of_evaluate hresult
  refine ⟨result, hresult, ?_, ?_, ?_, ?_⟩
  · rw [hdecisions]
    exact candidates_decideCandidates _ _ _
  · rw [hdecisions]
    exact length_emissions_le _ _
  · rw [hemitted, emittedOf, emissions, List.head?_filter]
  · intro entry hentry
    obtain ⟨hmem, hemit⟩ := List.mem_filter.mp hentry
    rw [hdecisions] at hmem
    have hrisk := (passes_of_emission hmem (beq_iff_eq.mp hemit)).1
    exact Bool.or_eq_false_iff.mp hrisk

/-- In a run of evaluations whose clock does not go back, every evaluation gives each candidate
one decision and emits one at most, which involves nothing that the privacy rule protects, and
the emissions of the run are the interval apart and within the cap of every day. -/
theorem pulses_bounded (options : EvaluatePulseCandidatesOptionsV1)
    {evaluations : List (PulseEvaluation platform)}
    (hclock : evaluations.Pairwise fun earlier later => earlier.nowMs ≤ later.nowMs) :
    RateBounded platform options (runPulses sha options evaluations) ∧
      ∀ before evaluation after, evaluations = before ++ evaluation :: after →
        ∃ result, PulseSound sha options (runPulses sha options before) evaluation result := by
  refine ⟨?_, fun before evaluation _ _ => pulseSound_evaluation options _ evaluation⟩
  have hend : ∀ evaluation ∈ evaluations, evaluation.nowMs ≤ YEAR_10000_MS :=
    fun evaluation _ => evaluation.inRange.2.le
  exact (pulseInvariant_runPulses hclock hend).bounded

/-! ## A private open loop -/

def launchDigests : List (String × String) :=
  [("\x7b\"entityRefs\":[],\"lastTouchedAt\":\"2026-01-01T00:00:00.000Z\"," ++
        "\"reasonCode\":\"OPEN_LOOP_RESUME\",\"threadKey\":\"thread_launch\"\x7d",
      "d915def560c97e8f51fbc98172256b6bcfb106dc83fc3654c1fe1b7cf53c077a"),
    ("\x7b\"activeMissionSuppressed\":false," ++
        "\"candidateId\":\"pulse_candidate_d915def560c97e8f51fb\",\"entityRefs\":[]," ++
        "\"evidenceRefs\":[\"open_loop_actor_scope:transport_principal:speaker_private:private:principal_verified\"," ++
        "\"thread:thread_launch:loop:loop_1\"]," ++
        "\"lastTouchedAt\":\"2026-01-01T00:00:00.000Z\",\"provenanceTier\":\"weak\"," ++
        "\"reasonCode\":\"OPEN_LOOP_RESUME\",\"score\":0.7432," ++
        "\"scoreBreakdown\":\x7b\"cooldownPenalty\":0,\"frequency\":1,\"recency\":1," ++
        "\"sensitivityPenalty\":0.3,\"unresolvedImportance\":1\x7d,\"sensitive\":true," ++
        "\"sourceAuthority\":\"stale_runtime_context\",\"threadKey\":\"thread_launch\"\x7d",
      "922b25ea16d5eeeaf45d61c41ad58122b7ef61ca18f97c73e9deb274a33fcc79")]

def launchSha : Sha256 :=
  Sha256.ofTable launchDigests
    ((validTable_nil.cons (by decide) (by decide)).cons (by decide) (by decide))

/-- Enough of the decimal texts for one candidate. -/
def launchNumberText (value : ℚ) : NumberText :=
  if value = 7432 / 10000 then
    ⟨"0.7432".toList, by decide, List.all_eq_true.mp (by decide)⟩
  else if value = 3 / 10 then
    ⟨"0.3".toList, by decide, List.all_eq_true.mp (by decide)⟩
  else NumberText.ofInt ⌊value⌋

def launchPlatform : PulsePlatform where
  toBridgePlatform := .ofDates [("2026-01-01T00:00:00.000Z", 1767225600000)] (by decide)
  numberText := launchNumberText

/-- An open loop that was raised in private. -/
def launchLoop : OpenLoopV1 where
  loopId := "loop_1"
  threadKey := "thread_launch"
  entityRefs := []
  actorScope := some
    { scopeSource := .transportPrincipal
      principalIdHash := some "principal-private"
      principalRole := some "conversation_participant"
      accessClass := "speaker_private"
      routeVisibility := .isPrivate
      legacyIdentityState := "principal_verified"
      scopeId := some "thread:launch" }
  createdAt := "2026-01-01T00:00:00.000Z"
  lastMentionedAt := "2026-01-01T00:00:00.000Z"
  priority := 1
  status := .unresolved

def launchThread : ThreadFrameV1 where
  threadKey := "thread_launch"
  topicKey := "launch"
  topicLabel := "Launch"
  state := .active
  resumeHint := ""
  openLoops := [launchLoop]
  lastTouchedAt := "2026-01-01T00:00:00.000Z"

def launchEvaluation : PulseEvaluation launchPlatform where
  nowMs := 1767225600000
  observedAt := "2026-01-01T00:00:00.000Z"
  reads := by decide
  inRange := by decide
  graph := createEmptyEntityGraphV1 "2026-01-01T00:00:00.000Z"
  stack :=
    { updatedAt := "2026-01-01T00:00:00.000Z"
      activeThreadKey := some "thread_launch"
      threads := [launchThread]
      topics := [] }
  activeMissionWorkExists := false
  privacyOptOutEntityKeys := []

def defaultPulseOptions : EvaluatePulseCandidatesOptionsV1 :=
  ⟨none, none, none, none, none, none, none, none, none⟩

/-- A candidate that is marked sensitive for its actor is emitted all the same. -/
theorem sensitive_loop_emitted :
    ∃ result ∈ evaluatePulseCandidatesV1 launchPlatform launchSha defaultPulseOptions
      (launchEvaluation.input []), ∃ entry ∈ emissions result.decisions,
        entry.candidate.sensitive = true := by
  decide

theorem pulses_bounded_of_launch :
    RateBounded launchPlatform defaultPulseOptions
      (runPulses launchSha defaultPulseOptions [launchEvaluation, launchEvaluation]) := by
  have hclock : [launchEvaluation, launchEvaluation].Pairwise
      fun earlier later => earlier.nowMs ≤ later.nowMs := by
    decide
  exact (pulses_bounded defaultPulseOptions hclock).1

end AgentBigBrain.Core.Pulse
