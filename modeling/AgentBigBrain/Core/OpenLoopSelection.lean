import AgentBigBrain.Core.OpenLoops
import AgentBigBrain.Js.HostOrder

/-!
# Open loops for a pulse

The waiting loops of all threads are parted into those that a pulse may surface and those that
it may not, the former ranked and cut off at a maximum. A loop whose time does not parse has no
age: it is fresh, and ties with every loop of its state and priority, so that the ranking need
not be an order.
-/
namespace AgentBigBrain.Core

open AgentBigBrain.Js AgentBigBrain.Lib

variable (platform : Platform)

def DEFAULT_MAX_OPEN_LOOPS_SURFACED : ℚ := 1

def DEFAULT_OPEN_LOOP_STALE_DAYS : ℚ := 30

def DEFAULT_FRESH_PRIORITY_THRESHOLD : ℚ := 35 / 100

def DEFAULT_STALE_PRIORITY_THRESHOLD : ℚ := 7 / 10

inductive OpenLoopSuppressionReasonV1 where
  | freshPriorityTooLow
  | stalePriorityTooLow
  | openLoopCapReached
  deriving DecidableEq

structure OpenLoopPulseSelectionOptionsV1 where
  maxOpenLoopsSurfaced : Option ℚ := none
  openLoopStaleDays : Option ℚ := none
  freshPriorityThreshold : Option ℚ := none
  stalePriorityThreshold : Option ℚ := none

namespace OpenLoopPulseSelectionOptionsV1

variable (options : OpenLoopPulseSelectionOptionsV1)

def maximum : ℕ :=
  (max 1 ⌊options.maxOpenLoopsSurfaced.getD DEFAULT_MAX_OPEN_LOOPS_SURFACED⌋).toNat

def staleDays : ℤ :=
  max 1 ⌊options.openLoopStaleDays.getD DEFAULT_OPEN_LOOP_STALE_DAYS⌋

def clampThreshold (value : Option ℚ) (fallback : ℚ) : ℚ :=
  (value.map clampPriority).getD fallback

/-- The priority a loop needs. -/
def requiredPriority (stale : Bool) : ℚ :=
  if stale then clampThreshold options.stalePriorityThreshold DEFAULT_STALE_PRIORITY_THRESHOLD
  else clampThreshold options.freshPriorityThreshold DEFAULT_FRESH_PRIORITY_THRESHOLD

end OpenLoopPulseSelectionOptionsV1

structure OpenLoopPulseCandidateV1 where
  loopId : String
  threadKey : String
  threadState : ThreadState
  actorScope : Option ContinuityActorScopeV1
  priority : ℚ
  stale : Bool
  /-- `none` for the NaN of a time that does not parse. -/
  ageDays : Option ℚ
  suppressionReason : Option OpenLoopSuppressionReasonV1
  deriving DecidableEq

structure OpenLoopPulseSelectionResultV1 where
  selected : List OpenLoopPulseCandidateV1
  suppressed : List OpenLoopPulseCandidateV1

/-- The days since a loop was mentioned, none of them negative. -/
def loopAgeDays (observedAtMs : ℤ) (loop : OpenLoopV1) : Option ℚ :=
  (platform.dateParse loop.lastMentionedAt).map fun mentionedMs =>
    max 0 ((observedAtMs - mentionedMs : ℤ) / (24 * 60 * 60 * 1000))

def isStaleLoop (staleDays : ℤ) (ageDays : Option ℚ) : Bool :=
  ageDays.any fun ageDays => decide ((staleDays : ℚ) ≤ ageDays)

/-- A waiting loop of a thread, before anything is said against it. -/
def loopCandidate (options : OpenLoopPulseSelectionOptionsV1) (observedAtMs : ℤ)
    (thread : ThreadFrameV1) (loop : OpenLoopV1) : OpenLoopPulseCandidateV1 :=
  let ageDays := loopAgeDays platform observedAtMs loop
  { loopId := loop.loopId
    threadKey := thread.threadKey
    threadState := thread.state
    actorScope := loop.actorScope
    priority := loop.priority
    stale := isStaleLoop options.staleDays ageDays
    ageDays := ageDays.map (roundTo 4)
    suppressionReason := none }

def suppressedFor (reason : OpenLoopSuppressionReasonV1) (candidate : OpenLoopPulseCandidateV1) :
    OpenLoopPulseCandidateV1 :=
  { candidate with suppressionReason := some reason }

/-- The loop over the loops of the threads: what is eligible, and what is suppressed. -/
def offerLoop (options : OpenLoopPulseSelectionOptionsV1) (observedAtMs : ℤ)
    (thread : ThreadFrameV1)
    (offered : List OpenLoopPulseCandidateV1 × List OpenLoopPulseCandidateV1) (loop : OpenLoopV1) :
    List OpenLoopPulseCandidateV1 × List OpenLoopPulseCandidateV1 :=
  if loop.status ≠ .unresolved then offered
  else
    let candidate := loopCandidate platform options observedAtMs thread loop
    if candidate.priority < options.requiredPriority candidate.stale then
      (offered.1, offered.2 ++ [suppressedFor
        (if candidate.stale then .stalePriorityTooLow else .freshPriorityTooLow) candidate])
    else (offered.1 ++ [candidate], offered.2)

def offerThread (options : OpenLoopPulseSelectionOptionsV1) (observedAtMs : ℤ)
    (offered : List OpenLoopPulseCandidateV1 × List OpenLoopPulseCandidateV1)
    (thread : ThreadFrameV1) :
    List OpenLoopPulseCandidateV1 × List OpenLoopPulseCandidateV1 :=
  thread.openLoops.foldl (offerLoop platform options observedAtMs thread) offered

def offerLoops (stack : ConversationStackV1) (observedAtMs : ℤ)
    (options : OpenLoopPulseSelectionOptionsV1) :
    List OpenLoopPulseCandidateV1 × List OpenLoopPulseCandidateV1 :=
  stack.threads.foldl (offerThread platform options observedAtMs) ([], [])

/-- `compare(left, right) <= 0` in the ranking of the eligible loops; a difference of ages that is
no number counts as zero. -/
def rankedBefore (left right : OpenLoopPulseCandidateV1) : Bool :=
  if THREAD_STATE_SORT_WEIGHT left.threadState ≠ THREAD_STATE_SORT_WEIGHT right.threadState then
    decide (THREAD_STATE_SORT_WEIGHT left.threadState < THREAD_STATE_SORT_WEIGHT right.threadState)
  else if left.priority ≠ right.priority then decide (right.priority < left.priority)
  else
    match left.ageDays, right.ageDays with
    | some leftAge, some rightAge =>
        if leftAge ≠ rightAge then decide (leftAge < rightAge)
        else platform.locale.le left.loopId right.loopId
    | _, _ => true

variable (host : HostSort)

/-- Throws, here `none`, on a time that does not parse. -/
def selectOpenLoopsForPulseV1 (stack : ConversationStackV1) (observedAt : String)
    (options : OpenLoopPulseSelectionOptionsV1) : Option OpenLoopPulseSelectionResultV1 :=
  (platform.dateParse observedAt).map fun observedAtMs =>
    let offered := offerLoops platform stack observedAtMs options
    let ordered := host.sort (rankedBefore platform) offered.1
    { selected := ordered.take options.maximum
      suppressed := (platform.locale.byKey OpenLoopPulseCandidateV1.loopId).sort
        (offered.2 ++ (ordered.drop options.maximum).map (suppressedFor .openLoopCapReached)) }

/-! ## What is offered -/

/-- All waiting loops, thread by thread. -/
def waitingLoops (stack : ConversationStackV1) (observedAtMs : ℤ)
    (options : OpenLoopPulseSelectionOptionsV1) : List OpenLoopPulseCandidateV1 :=
  stack.threads.flatMap fun thread =>
    (thread.openLoops.filter fun loop => loop.status = .unresolved).map
      (loopCandidate platform options observedAtMs thread)

def meetsThreshold (options : OpenLoopPulseSelectionOptionsV1)
    (candidate : OpenLoopPulseCandidateV1) : Bool :=
  decide (options.requiredPriority candidate.stale ≤ candidate.priority)

def priorityReason (candidate : OpenLoopPulseCandidateV1) : OpenLoopSuppressionReasonV1 :=
  if candidate.stale then .stalePriorityTooLow else .freshPriorityTooLow

def eligibleLoops (stack : ConversationStackV1) (observedAtMs : ℤ)
    (options : OpenLoopPulseSelectionOptionsV1) : List OpenLoopPulseCandidateV1 :=
  (waitingLoops platform stack observedAtMs options).filter (meetsThreshold options)

/-- The loops whose priority is too low, with the reason. -/
def lowLoops (options : OpenLoopPulseSelectionOptionsV1)
    (candidates : List OpenLoopPulseCandidateV1) : List OpenLoopPulseCandidateV1 :=
  (candidates.filter fun candidate => !meetsThreshold options candidate).map fun candidate =>
    suppressedFor (priorityReason candidate) candidate

variable {platform} {host}
variable {stack : ConversationStackV1} {observedAtMs : ℤ}
  {options : OpenLoopPulseSelectionOptionsV1} {thread : ThreadFrameV1}
  {offered : List OpenLoopPulseCandidateV1 × List OpenLoopPulseCandidateV1}

lemma foldl_offerLoop (loops : List OpenLoopV1) :
    loops.foldl (offerLoop platform options observedAtMs thread) offered =
      (offered.1 ++ ((loops.filter fun loop => loop.status = .unresolved).map
          (loopCandidate platform options observedAtMs thread)).filter (meetsThreshold options),
        offered.2 ++ lowLoops options ((loops.filter fun loop => loop.status = .unresolved).map
          (loopCandidate platform options observedAtMs thread))) := by
  induction loops generalizing offered with
  | nil => simp [lowLoops]
  | cons loop loops ih =>
      rw [List.foldl_cons, ih]
      by_cases hstatus : loop.status = .unresolved
      · by_cases hlow : (loopCandidate platform options observedAtMs thread loop).priority <
            options.requiredPriority
              (loopCandidate platform options observedAtMs thread loop).stale
        · have hmeets : meetsThreshold options
              (loopCandidate platform options observedAtMs thread loop) = false := by
            simpa [meetsThreshold] using hlow
          simp [offerLoop, hstatus, hlow, hmeets, lowLoops, priorityReason]
        · have hmeets : meetsThreshold options
              (loopCandidate platform options observedAtMs thread loop) = true := by
            simpa [meetsThreshold] using hlow
          simp [offerLoop, hstatus, hlow, hmeets, lowLoops]
      · simp [offerLoop, hstatus]

variable (platform stack observedAtMs options) in
/-- The two lists hold each waiting loop once: with its reason where its priority is too low. -/
lemma offerLoops_eq :
    offerLoops platform stack observedAtMs options =
      (eligibleLoops platform stack observedAtMs options,
        lowLoops options (waitingLoops platform stack observedAtMs options)) := by
  have hall : ∀ (threads : List ThreadFrameV1)
      (offered : List OpenLoopPulseCandidateV1 × List OpenLoopPulseCandidateV1),
      threads.foldl (offerThread platform options observedAtMs) offered =
        (offered.1 ++ (threads.flatMap fun thread =>
            (thread.openLoops.filter fun loop => loop.status = .unresolved).map
              (loopCandidate platform options observedAtMs thread)).filter (meetsThreshold options),
          offered.2 ++ lowLoops options (threads.flatMap fun thread =>
            (thread.openLoops.filter fun loop => loop.status = .unresolved).map
              (loopCandidate platform options observedAtMs thread))) := by
    intro threads
    induction threads with
    | nil => simp [lowLoops]
    | cons thread threads ih =>
        intro offered
        rw [List.foldl_cons, ih, offerThread, foldl_offerLoop]
        simp [lowLoops, List.append_assoc]
  simpa [offerLoops, eligibleLoops, waitingLoops] using hall stack.threads ([], [])

/-! ## The ranking -/

/-- The ranking down to the age. -/
def placeOrder : Comparator OpenLoopPulseCandidateV1 :=
  ((numberOrder ℕ).byKey fun candidate => THREAD_STATE_SORT_WEIGHT candidate.threadState).thenBy
    ((numberOrder ℚ).byKey OpenLoopPulseCandidateV1.priority).reverse

def SamePlace (left right : OpenLoopPulseCandidateV1) : Prop :=
  left.threadState = right.threadState ∧ left.priority = right.priority

variable (platform) in
/-- The ranking of two loops of one place. -/
def youngerFirst (left right : OpenLoopPulseCandidateV1) : Bool :=
  match left.ageDays, right.ageDays with
  | some leftAge, some rightAge =>
      if leftAge ≠ rightAge then decide (leftAge < rightAge)
      else platform.locale.le left.loopId right.loopId
  | _, _ => true

lemma weight_injective : Function.Injective THREAD_STATE_SORT_WEIGHT := by
  intro x y h
  cases x <;> cases y <;> first | rfl | cases h

variable {left right x y z : OpenLoopPulseCandidateV1}

lemma rankedBefore_eq :
    rankedBefore platform left right =
      (placeOrder.le left right &&
        (!placeOrder.le right left || youngerFirst platform left right)) := by
  unfold rankedBefore placeOrder Comparator.thenBy youngerFirst
  simp only [Comparator.byKey_le, Comparator.reverse_le, numberOrder]
  split_ifs with hweight hpriority
  · rcases Nat.lt_or_gt_of_ne hweight with hlt | hgt
    · simp [hlt, hlt.le, Nat.not_le.mpr hlt]
    · simp [hgt.le, Nat.not_le.mpr hgt, Nat.not_lt.mpr hgt.le]
  · have hsame := not_not.mp hweight
    rcases lt_or_gt_of_ne hpriority with hlt | hgt
    · simp [hsame, hlt.le, not_le.mpr hlt, not_lt.mpr hlt.le]
    · simp [hsame, hgt, hgt.le, not_le.mpr hgt]
  · simp [not_not.mp hweight, not_not.mp hpriority]

lemma samePlace_iff : SamePlace left right ↔
    placeOrder.le left right = true ∧ placeOrder.le right left = true := by
  unfold SamePlace placeOrder Comparator.thenBy
  simp only [Comparator.byKey_le, Comparator.reverse_le, numberOrder]
  constructor
  · rintro ⟨hstate, hpriority⟩
    simp [hstate, hpriority]
  · intro h
    simp only [Bool.and_eq_true, Bool.or_eq_true, Bool.not_eq_true', decide_eq_true_eq,
      decide_eq_false_iff_not, not_le] at h
    have hweight := le_antisymm h.1.1 h.2.1
    refine ⟨weight_injective hweight, ?_⟩
    have hright := h.1.2.resolve_left (by omega)
    have hleft := h.2.2.resolve_left (by omega)
    exact le_antisymm hleft hright

lemma youngerFirst_total : youngerFirst platform left right = true ∨
    youngerFirst platform right left = true := by
  unfold youngerFirst
  cases hleft : left.ageDays with
  | none => exact Or.inl rfl
  | some leftAge =>
      cases hright : right.ageDays with
      | none => exact Or.inl rfl
      | some rightAge =>
          rcases lt_trichotomy leftAge rightAge with hlt | heq | hgt
          · exact Or.inl (by simp [hlt.ne, hlt])
          · simpa [heq] using platform.locale.total left.loopId right.loopId
          · exact Or.inr (by simp [hgt.ne, hgt])

/-- Ages that are known rank loops of one place like an order. -/
lemma youngerFirst_trans (hx : x.ageDays ≠ none) (hy : y.ageDays ≠ none) (hz : z.ageDays ≠ none)
    (hxy : youngerFirst platform x y = true) (hyz : youngerFirst platform y z = true) :
    youngerFirst platform x z = true := by
  obtain ⟨xAge, hxAge⟩ := Option.ne_none_iff_exists'.mp hx
  obtain ⟨yAge, hyAge⟩ := Option.ne_none_iff_exists'.mp hy
  obtain ⟨zAge, hzAge⟩ := Option.ne_none_iff_exists'.mp hz
  simp only [youngerFirst, hxAge, hyAge, hzAge] at hxy hyz ⊢
  split_ifs at hxy hyz ⊢ with h₁ h₂ h₃
  all_goals simp_all only [decide_eq_true_eq, ne_eq, not_not, not_false_eq_true, not_true_eq_false]
  · exact hxy.trans hyz
  · exact absurd (hxy.trans hyz) (lt_irrefl _)
  · exact platform.locale.trans _ _ _ hxy hyz

variable (platform) in
/-- Beside a loop without an age no two loops of its place are ranked by theirs. -/
def RankingSettled (candidates : List OpenLoopPulseCandidateV1) : Prop :=
  ∀ timeless ∈ candidates, timeless.ageDays = none →
    ∀ left ∈ candidates, ∀ right ∈ candidates,
      SamePlace timeless left → SamePlace timeless right →
      left.ageDays ≠ none → right.ageDays ≠ none → youngerFirst platform left right = true

lemma rankedBefore_of_samePlace (h : SamePlace left right) :
    rankedBefore platform left right = youngerFirst platform left right := by
  have hplace := samePlace_iff.mp h
  rw [rankedBefore_eq, hplace.1, hplace.2]
  rfl

lemma SamePlace.symm (h : SamePlace left right) : SamePlace right left := ⟨h.1.symm, h.2.symm⟩

lemma SamePlace.trans (hxy : SamePlace x y) (hyz : SamePlace y z) : SamePlace x z :=
  ⟨hxy.1.trans hyz.1, hxy.2.trans hyz.2⟩

lemma rankedBefore_total : rankedBefore platform left right = true ∨
    rankedBefore platform right left = true := by
  by_cases hplace : SamePlace left right
  · rw [rankedBefore_of_samePlace hplace, rankedBefore_of_samePlace hplace.symm]
    exact youngerFirst_total
  · rw [rankedBefore_eq, rankedBefore_eq]
    rw [samePlace_iff] at hplace
    rcases placeOrder.total left right with hle | hle
    · exact Or.inl (by simp_all)
    · exact Or.inr (by simp_all)

/-- The ranking is an order exactly on lists that are settled. -/
theorem ordersList_iff_settled {candidates : List OpenLoopPulseCandidateV1} :
    OrdersList (rankedBefore platform) candidates ↔ RankingSettled platform candidates := by
  constructor
  · intro horder timeless htimeless hnone left hleft right hright hplaceLeft hplaceRight _ _
    have hbefore : rankedBefore platform left timeless = true := by
      rw [rankedBefore_of_samePlace hplaceLeft.symm]
      unfold youngerFirst
      rw [hnone]
      cases left.ageDays <;> rfl
    have hafter : rankedBefore platform timeless right = true := by
      rw [rankedBefore_of_samePlace hplaceRight]
      unfold youngerFirst
      rw [hnone]
    have hboth := horder.trans left hleft timeless htimeless right hright hbefore hafter
    rwa [rankedBefore_of_samePlace (hplaceLeft.symm.trans hplaceRight)] at hboth
  · intro hsettled
    refine ⟨fun x _ y _ => rankedBefore_total, fun x hx y hy z hz hxy hyz => ?_⟩
    by_cases hxz : SamePlace x z
    · rw [rankedBefore_of_samePlace hxz]
      rw [rankedBefore_eq, Bool.and_eq_true] at hxy hyz
      have hplace := samePlace_iff.mp hxz
      have hyx := placeOrder.trans y z x hyz.1 hplace.2
      have hzy := placeOrder.trans z x y hplace.2 hxy.1
      have hyoungerXY : youngerFirst platform x y = true := by simpa [hyx] using hxy.2
      have hyoungerYZ : youngerFirst platform y z = true := by simpa [hzy] using hyz.2
      by_cases hxAge : x.ageDays = none
      · unfold youngerFirst
        rw [hxAge]
      · by_cases hzAge : z.ageDays = none
        · unfold youngerFirst
          rw [hzAge]
          cases x.ageDays <;> rfl
        · by_cases hyAge : y.ageDays = none
          · have hplaceX : SamePlace y x := samePlace_iff.mpr ⟨hyx, hxy.1⟩
            exact hsettled y hy hyAge x hx z hz hplaceX (hplaceX.trans hxz) hxAge hzAge
          · exact youngerFirst_trans hxAge hyAge hzAge hyoungerXY hyoungerYZ
    · rw [rankedBefore_eq, Bool.and_eq_true] at hxy hyz ⊢
      have hle := placeOrder.trans x y z hxy.1 hyz.1
      refine ⟨hle, ?_⟩
      have hnot : placeOrder.le z x = false := by
        rw [samePlace_iff] at hxz
        simpa [hle] using hxz
      simp [hnot]

/-! ## The selection -/

variable (platform) in
def Outranks (left right : OpenLoopPulseCandidateV1) : Prop :=
  rankedBefore platform left right = true ∧ rankedBefore platform right left = false

def withoutReason (candidate : OpenLoopPulseCandidateV1) : OpenLoopPulseCandidateV1 :=
  { candidate with suppressionReason := none }

variable (platform) in
/-- What a selection among waiting loops is for. -/
structure LoopsParted (options : OpenLoopPulseSelectionOptionsV1)
    (waiting : List OpenLoopPulseCandidateV1) (result : OpenLoopPulseSelectionResultV1) : Prop where
  parted : ((result.selected ++ result.suppressed).map withoutReason).Perm waiting
  bounded : result.selected.length ≤ options.maximum
  important : ∀ candidate ∈ result.selected, meetsThreshold options candidate = true ∧
    candidate.suppressionReason = none
  reasons : ∀ candidate ∈ result.suppressed, candidate.suppressionReason =
    some (if meetsThreshold options candidate then .openLoopCapReached
      else priorityReason candidate)
  ranked : ∀ capped ∈ result.suppressed, capped.suppressionReason = some .openLoopCapReached →
    ∀ candidate ∈ result.selected, ¬ Outranks platform capped candidate

variable (platform) in
/-- The selection among eligible loops, as the host sorts them. -/
def selectionOf (host : HostSort) (options : OpenLoopPulseSelectionOptionsV1)
    (waiting : List OpenLoopPulseCandidateV1) : OpenLoopPulseSelectionResultV1 :=
  let ordered := host.sort (rankedBefore platform) (waiting.filter (meetsThreshold options))
  { selected := ordered.take options.maximum
    suppressed := (platform.locale.byKey OpenLoopPulseCandidateV1.loopId).sort
      (lowLoops options waiting ++
        (ordered.drop options.maximum).map (suppressedFor .openLoopCapReached)) }

lemma selectOpenLoopsForPulseV1_eq (observedAt : String) :
    selectOpenLoopsForPulseV1 platform host stack observedAt options =
      (platform.dateParse observedAt).map fun observedAtMs =>
        selectionOf platform host options (waitingLoops platform stack observedAtMs options) := by
  unfold selectOpenLoopsForPulseV1
  congr 1
  funext observedAtMs
  rw [offerLoops_eq]
  rfl

lemma maximum_pos : 0 < options.maximum := by
  unfold OpenLoopPulseSelectionOptionsV1.maximum
  omega

variable {waiting : List OpenLoopPulseCandidateV1}

lemma withoutReason_of_none {candidate : OpenLoopPulseCandidateV1}
    (h : candidate.suppressionReason = none) : withoutReason candidate = candidate := by
  cases candidate
  cases h
  rfl

lemma map_withoutReason_of_none {candidates : List OpenLoopPulseCandidateV1}
    (h : ∀ candidate ∈ candidates, candidate.suppressionReason = none) :
    candidates.map withoutReason = candidates := by
  have hsame := List.map_congr_left fun candidate hmem => withoutReason_of_none (h candidate hmem)
  exact hsame.trans (List.map_id' candidates)

variable (platform host options) in
/-- Each waiting loop is in one of the two lists, once. -/
lemma parted_selectionOf (hwaiting : ∀ candidate ∈ waiting, candidate.suppressionReason = none) :
    (((selectionOf platform host options waiting).selected ++
      (selectionOf platform host options waiting).suppressed).map withoutReason).Perm waiting := by
  unfold selectionOf
  dsimp only
  set ordered := host.sort (rankedBefore platform) (waiting.filter (meetsThreshold options))
  have hordered : ordered.Perm (waiting.filter (meetsThreshold options)) := host.perm _ _
  have hcapped : ((ordered.drop options.maximum).map (suppressedFor .openLoopCapReached)).map
      withoutReason = (ordered.drop options.maximum).map withoutReason := by
    rw [List.map_map]
    rfl
  have hlow : (lowLoops options waiting).map withoutReason =
      (waiting.filter fun candidate => !meetsThreshold options candidate).map withoutReason := by
    rw [lowLoops, List.map_map]
    rfl
  have hsorted := ((platform.locale.byKey OpenLoopPulseCandidateV1.loopId).sort_perm
    (lowLoops options waiting ++ (ordered.drop options.maximum).map
      (suppressedFor .openLoopCapReached))).map withoutReason
  rw [List.map_append, hlow, hcapped] at hsorted
  have htaken : (ordered.take options.maximum).map withoutReason ++
      (ordered.drop options.maximum).map withoutReason = ordered.map withoutReason := by
    rw [← List.map_append, List.take_append_drop]
  rw [List.map_append]
  refine (hsorted.append_left _).trans ((List.perm_append_comm.append_left _).trans ?_)
  rw [← List.append_assoc, htaken]
  refine ((hordered.map withoutReason).append_right _).trans ?_
  rw [← List.map_append]
  refine ((List.filter_append_perm _ waiting).map withoutReason).trans ?_
  rw [map_withoutReason_of_none hwaiting]

/-- The clauses but the last hold whatever the host does. -/
lemma loopsParted_iff (hwaiting : ∀ candidate ∈ waiting, candidate.suppressionReason = none) :
    LoopsParted platform options waiting (selectionOf platform host options waiting) ↔
      ∀ capped ∈ (host.sort (rankedBefore platform)
          (waiting.filter (meetsThreshold options))).drop options.maximum,
        ∀ candidate ∈ (host.sort (rankedBefore platform)
            (waiting.filter (meetsThreshold options))).take options.maximum,
          ¬ Outranks platform capped candidate := by
  set ordered := host.sort (rankedBefore platform) (waiting.filter (meetsThreshold options))
    with hordered
  have hmem : ∀ candidate ∈ ordered, candidate ∈ waiting ∧
      meetsThreshold options candidate = true :=
    fun candidate h => List.mem_filter.mp (host.mem_sort.mp h)
  constructor
  · intro hparted capped hcapped candidate hcandidate
    refine hparted.ranked (suppressedFor .openLoopCapReached capped) ?_ rfl candidate hcandidate
    refine (platform.locale.byKey OpenLoopPulseCandidateV1.loopId).mem_sort.mpr ?_
    exact List.mem_append_right _ (List.mem_map_of_mem hcapped)
  · intro hranked
    have hsuppressed : ∀ candidate ∈ (selectionOf platform host options waiting).suppressed,
        candidate ∈ lowLoops options waiting ∨ ∃ capped ∈ ordered.drop options.maximum,
          suppressedFor .openLoopCapReached capped = candidate := by
      intro candidate h
      have hlisted := (platform.locale.byKey OpenLoopPulseCandidateV1.loopId).mem_sort.mp h
      rw [List.mem_append, List.mem_map] at hlisted
      exact hlisted
    refine ⟨parted_selectionOf platform host options hwaiting, ?_, ?_, ?_, ?_⟩
    · exact List.length_take_le _ _
    · intro candidate h
      have hcandidate := hmem candidate (List.mem_of_mem_take h)
      exact ⟨hcandidate.2, hwaiting candidate hcandidate.1⟩
    · intro candidate h
      rcases hsuppressed candidate h with hlow | ⟨capped, hcapped, rfl⟩
      · obtain ⟨low, hlisted, rfl⟩ := List.mem_map.mp hlow
        have hbelow := (List.mem_filter.mp hlisted).2
        have hsame : meetsThreshold options (suppressedFor (priorityReason low) low) = false :=
          (Bool.not_eq_true' _).mp hbelow
        rw [hsame]
        rfl
      · have hmeets := (hmem capped (List.mem_of_mem_drop hcapped)).2
        have hsame : meetsThreshold options (suppressedFor .openLoopCapReached capped) = true :=
          hmeets
        rw [hsame]
        rfl
    · intro candidate h hreason chosen hchosen
      rcases hsuppressed candidate h with hlow | ⟨capped, hcapped, rfl⟩
      · obtain ⟨low, hlisted, rfl⟩ := List.mem_map.mp hlow
        have hnot : priorityReason low ≠ .openLoopCapReached := by
          unfold priorityReason
          split_ifs
          · exact fun hsame => by cases hsame
          · exact fun hsame => by cases hsame
        exact absurd (Option.some.inj hreason) hnot
      · exact hranked capped hcapped chosen hchosen

/-- Where the ranking is no order, some host cuts off a loop that outranks one it keeps. -/
lemma exists_host_of_unsettled {eligible : List OpenLoopPulseCandidateV1} {maximum : ℕ}
    (hmaximum : 0 < maximum) (hlong : maximum < eligible.length)
    (hunsettled : ¬ RankingSettled platform eligible) :
    ∃ host : HostSort, ∃ capped ∈ (host.sort (rankedBefore platform) eligible).drop maximum,
      ∃ candidate ∈ (host.sort (rankedBefore platform) eligible).take maximum,
        Outranks platform capped candidate := by
  have hfree : ¬ OrdersList (rankedBefore platform) eligible :=
    fun h => hunsettled (ordersList_iff_settled.mp h)
  obtain ⟨first, hfirst, last, hlast, houtranks⟩ : ∃ first ∈ eligible, ∃ last ∈ eligible,
      Outranks platform last first := by
    by_contra hnone
    push Not at hnone
    refine hfree ⟨fun x _ y _ => rankedBefore_total, fun x hx y hy z hz hxy hyz => ?_⟩
    by_contra hxz
    have hzx : rankedBefore platform z x = true := rankedBefore_total.resolve_left hxz
    exact hnone x hx z hz ⟨hzx, by simpa using hxz⟩
  have hne : last ≠ first := by
    rintro rfl
    exact absurd houtranks.1 (by simp [houtranks.2])
  have hperm : (first :: ((eligible.erase first).erase last ++ [last])).Perm eligible := by
    have hlater : last ∈ eligible.erase first := (List.mem_erase_of_ne hne).mpr hlast
    have hrest : ((eligible.erase first).erase last ++ [last]).Perm (eligible.erase first) :=
      (List.perm_append_singleton _ _).trans (List.perm_cons_erase hlater).symm
    exact (hrest.cons first).trans (List.perm_cons_erase hfirst).symm
  refine ⟨HostSort.answering _ eligible _ hperm hfree, last, ?_, first, ?_, houtranks⟩
  · have hlength := hperm.length_eq
    rw [HostSort.answering_sort, ← List.cons_append, List.drop_append_of_le_length]
    · exact List.mem_append_right _ List.mem_cons_self
    · simp only [List.length_cons, List.length_append, List.length_nil] at hlength ⊢
      omega
  · rw [HostSort.answering_sort]
    obtain ⟨fewer, rfl⟩ : ∃ fewer, maximum = fewer + 1 := ⟨maximum - 1, by omega⟩
    simp

lemma waitingLoops_reason : ∀ candidate ∈ waitingLoops platform stack observedAtMs options,
    candidate.suppressionReason = none := by
  intro candidate h
  obtain ⟨thread, -, hcandidate⟩ := List.mem_flatMap.mp h
  obtain ⟨loop, -, rfl⟩ := List.mem_map.mp hcandidate
  rfl

/-- Whatever the host, the loops are parted as they should exactly when the eligible ones fit the
maximum or none without an age stands beside two that their ages rank. -/
theorem loops_parted_iff (platform : Platform) (stack : ConversationStackV1) (observedAt : String)
    (options : OpenLoopPulseSelectionOptionsV1) :
    (∀ host, ∀ observedAtMs ∈ platform.dateParse observedAt,
      ∀ result ∈ selectOpenLoopsForPulseV1 platform host stack observedAt options,
        LoopsParted platform options (waitingLoops platform stack observedAtMs options) result) ↔
      ∀ observedAtMs ∈ platform.dateParse observedAt,
        (eligibleLoops platform stack observedAtMs options).length ≤ options.maximum ∨
          RankingSettled platform (eligibleLoops platform stack observedAtMs options) := by
  simp only [selectOpenLoopsForPulseV1_eq]
  cases hdate : platform.dateParse observedAt with
  | none => simp
  | some observedAtMs =>
      simp only [Option.mem_def, Option.some.injEq, forall_eq', Option.map_some]
      simp only [loopsParted_iff waitingLoops_reason]
      constructor
      · intro hall
        by_contra hnot
        rw [not_or, Nat.not_le] at hnot
        obtain ⟨host, capped, hcapped, candidate, hcandidate, houtranks⟩ :=
          exists_host_of_unsettled maximum_pos hnot.1 hnot.2
        exact hall host capped hcapped candidate hcandidate houtranks
      · rintro (hfits | hsettled) host capped hcapped candidate hcandidate houtranks
        · have hlength := (host.perm (rankedBefore platform)
            (eligibleLoops platform stack observedAtMs options)).length_eq
          have hnone := List.drop_eq_nil_of_le (hlength.trans_le hfits)
          have hempty : capped ∈ ([] : List OpenLoopPulseCandidateV1) := hnone ▸ hcapped
          cases hempty
        · have hsorted := host.pairwise_sort (ordersList_iff_settled.mpr hsettled)
          rw [← List.take_append_drop options.maximum (host.sort _ _)] at hsorted
          have hbefore := (List.pairwise_append.mp hsorted).2.2 candidate hcandidate capped hcapped
          exact absurd hbefore (by simp [houtranks.2])

/-- Where all times parse, every host parts the loops as it should. -/
theorem loopsParted_of_dated (platform : Platform) (host : HostSort) {stack : ConversationStackV1}
    {observedAt : String} {options : OpenLoopPulseSelectionOptionsV1} {observedAtMs : ℤ}
    {result : OpenLoopPulseSelectionResultV1}
    (hdate : platform.dateParse observedAt = some observedAtMs)
    (hdated : ∀ thread ∈ stack.threads, ∀ loop ∈ thread.openLoops,
      platform.dateParse loop.lastMentionedAt ≠ none)
    (hresult : selectOpenLoopsForPulseV1 platform host stack observedAt options = some result) :
    LoopsParted platform options (waitingLoops platform stack observedAtMs options) result := by
  rw [selectOpenLoopsForPulseV1_eq, hdate] at hresult
  cases hresult
  have hsettled : RankingSettled platform (eligibleLoops platform stack observedAtMs options) := by
    intro timeless htimeless hnone
    obtain ⟨thread, hthread, hmem⟩ := List.mem_flatMap.mp (List.mem_of_mem_filter htimeless)
    obtain ⟨loop, hloop, rfl⟩ := List.mem_map.mp hmem
    have hparsed := hdated thread hthread loop (List.mem_of_mem_filter hloop)
    simp [loopCandidate, loopAgeDays, hparsed] at hnone
  refine (loopsParted_iff waitingLoops_reason).mpr fun capped hcapped candidate hcandidate h => ?_
  have hsorted := host.pairwise_sort (ordersList_iff_settled.mpr hsettled)
  rw [← List.take_append_drop options.maximum (host.sort _ _)] at hsorted
  have hbefore := (List.pairwise_append.mp hsorted).2.2 candidate hcandidate capped hcapped
  exact absurd hbefore (by simp [h.2])

def mentionedLoop (loopId lastMentionedAt : String) : OpenLoopV1 where
  loopId := loopId
  threadKey := "thread_a"
  entityRefs := []
  actorScope := none
  createdAt := "2026-03-01T00:00:00.000Z"
  lastMentionedAt := lastMentionedAt
  priority := 1 / 2
  status := .unresolved

def mentionedStack : ConversationStackV1 where
  updatedAt := "2026-03-08T00:00:00.000Z"
  activeThreadKey := some "thread_a"
  threads :=
    [{ threadKey := "thread_a"
       topicKey := "topic_a"
       topicLabel := "Topic"
       state := .active
       resumeHint := "Topic"
       openLoops :=
         [mentionedLoop "loop_old" "2026-03-01T00:00:00.000Z", mentionedLoop "loop_undated" "",
           mentionedLoop "loop_new" "2026-03-07T00:00:00.000Z"]
       lastTouchedAt := "2026-03-07T00:00:00.000Z" }]
  topics := []

def mentionPlatform : Platform :=
  .ofDates
    [("2026-03-01T00:00:00.000Z", 1772323200000), ("2026-03-07T00:00:00.000Z", 1772841600000),
      ("2026-03-08T00:00:00.000Z", 1772928000000)]

/-- Beside a loop without a time the older of two loops is surfaced, and the newer one cut off. -/
theorem undated_loop_hides_newer :
    (selectOpenLoopsForPulseV1 mentionPlatform .insertion mentionedStack "2026-03-08T00:00:00.000Z"
      {}).map (fun result => (result.selected.map OpenLoopPulseCandidateV1.loopId,
        result.suppressed.map OpenLoopPulseCandidateV1.loopId)) =
        some (["loop_old"], ["loop_new", "loop_undated"]) ∧
    ¬ ∀ host, ∀ observedAtMs ∈ mentionPlatform.dateParse "2026-03-08T00:00:00.000Z",
      ∀ result ∈ selectOpenLoopsForPulseV1 mentionPlatform host mentionedStack
          "2026-03-08T00:00:00.000Z" {},
        LoopsParted mentionPlatform {} (waitingLoops mentionPlatform mentionedStack observedAtMs {})
          result := by
  refine ⟨by decide +kernel, fun h => ?_⟩
  have hcut : ((selectOpenLoopsForPulseV1 mentionPlatform .insertion mentionedStack
      "2026-03-08T00:00:00.000Z" {}).any fun result => result.suppressed.any fun capped =>
        decide (capped.suppressionReason = some .openLoopCapReached) &&
          result.selected.any fun candidate => rankedBefore mentionPlatform capped candidate &&
            !rankedBefore mentionPlatform candidate capped) = true := by
    decide +kernel
  obtain ⟨result, hresult, hany⟩ := (Option.any_eq_true _ _).mp hcut
  obtain ⟨capped, hcapped, hreason⟩ := List.any_eq_true.mp hany
  obtain ⟨hreason, hbefore⟩ := (Bool.and_eq_true _ _).mp hreason
  obtain ⟨candidate, hcandidate, houtranks⟩ := List.any_eq_true.mp hbefore
  have hparted := h .insertion 1772928000000 (by decide) result hresult
  exact hparted.ranked capped hcapped (of_decide_eq_true hreason) candidate hcandidate
    (by simpa [Outranks] using houtranks)

end AgentBigBrain.Core
