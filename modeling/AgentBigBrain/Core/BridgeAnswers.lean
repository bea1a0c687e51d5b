import AgentBigBrain.Core.BridgeLimits

/-!
# Which question an answer reaches

The pending questions are saved in the order of their ids. An answer that names one of them
reaches it, and a full list gives up its oldest question; an answer that names none takes the
last of the list, which need not be the one that was asked last.
-/
namespace AgentBigBrain.Core

open AgentBigBrain.Js AgentBigBrain.Lib

variable (platform : BridgePlatform) (sha : Sha256)

def questionIds (pending : List BridgeQuestionV1) : List String :=
  pending.map (·.questionId)

def BridgeStores.pending (stores : BridgeStores) : List BridgeQuestionV1 :=
  stores.runtimeState.pendingBridgeQuestions

/-! ## Reaching the right question -/

/-- The pending question that was asked last. -/
def lastEmittedPending (interactions : List BridgeInteraction) (ids : List String) :
    Option String :=
  (interactions.filter fun interaction =>
    interaction.asked && decide (interaction.questionId ∈ ids)).getLast?.map (·.questionId)

/-- The action has resolved the question of the id and no other. -/
def Resolves (stores : BridgeStores) (result : BridgeActionResult) (questionId : String) : Prop :=
  ∃ question record denied, result.outcome = .resolved question record denied ∧
    question ∈ stores.pending.map (normalizePendingBridgeQuestion platform) ∧
    question.questionId = questionId ∧ record.questionId = questionId ∧
    questionIds result.stores.pending =
      (questionIds stores.pending).filter fun id => decide (id ≠ questionId)

/-- A new question joins the others; where they fill the list, the oldest is given up. -/
def DropsOldest (others stored : List BridgeQuestionV1) (questionId : String) : Prop :=
  if others.length < MAX_PENDING_BRIDGE_QUESTIONS then
    (questionIds stored).Perm (questionId :: questionIds others)
  else
    ∃ oldest ∈ others, (∀ other ∈ others, NoLater platform oldest.createdAt other.createdAt) ∧
      (questionIds stored).Perm
        (questionId :: questionIds (otherQuestions others oldest.questionId))

structure ReachesRightQuestion (run : BridgeRun) (params : BridgeActionParams)
    (result : BridgeActionResult) : Prop where
  named : toText params.answerKind ≠ none → ∀ id ∈ toText params.questionId,
    id ∈ questionIds run.stores.pending → Resolves platform run.stores result id
  latest : toText params.answerKind ≠ none → toText params.questionId = none →
    run.stores.pending ≠ [] →
      ∃ id ∈ lastEmittedPending run.interactions (questionIds run.stores.pending),
        Resolves platform run.stores result id
  oldest : ∀ question, result.outcome = .emitted question →
    DropsOldest platform (otherQuestions run.stores.pending question.questionId)
      result.stores.pending question.questionId

/-- The pending question that was asked last has the last id of all. -/
def LatestSortsLast (run : BridgeRun) : Prop :=
  (platform.locale.sort (questionIds run.stores.pending)).getLast? =
    lastEmittedPending run.interactions (questionIds run.stores.pending)

instance (run : BridgeRun) : Decidable (LatestSortsLast platform run) :=
  inferInstanceAs (Decidable (_ = _))

/-! ## What the pending list holds -/

/-- A reading of the clock up to a time. -/
def ReadBy (clockMs : ℤ) (iso : String) : Prop :=
  ∃ ms, 0 ≤ ms ∧ ms ≤ clockMs ∧ ms < YEAR_10000_MS ∧ platform.isoString ms = some iso

structure PendingKept (clockMs : ℤ) (pending : List BridgeQuestionV1) : Prop where
  distinct : (questionIds pending).Nodup
  bounded : pending.length ≤ MAX_PENDING_BRIDGE_QUESTIONS
  dated : ∀ question ∈ pending, isDatedQuestion platform question = true
  created : ∀ question ∈ pending, ReadBy platform clockMs question.createdAt

structure PendingOrdered (clockMs : ℤ) (pending : List BridgeQuestionV1) : Prop extends
    PendingKept platform clockMs pending where
  ordered : platform.locale.Sorted (questionIds pending)

variable {platform} {sha} {clockMs : ℤ} {pending : List BridgeQuestionV1}

lemma questionIds_map_normalize :
    questionIds (pending.map (normalizePendingBridgeQuestion platform)) = questionIds pending := by
  rw [questionIds, List.map_map]
  rfl

lemma questionIds_otherQuestions (questionId : String) :
    questionIds (otherQuestions pending questionId) =
      (questionIds pending).filter fun id => decide (id ≠ questionId) := by
  rw [questionIds, questionIds, otherQuestions, List.filter_map]
  rfl

lemma otherQuestions_map_normalize (questionId : String) :
    otherQuestions (pending.map (normalizePendingBridgeQuestion platform)) questionId =
      (otherQuestions pending questionId).map (normalizePendingBridgeQuestion platform) := by
  rw [otherQuestions, otherQuestions, List.filter_map]
  rfl

/-- A save of questions that are all dated, within the bound, only sorts them. -/
lemma normalizePendingBridgeQuestions_perm
    (h : PendingKept platform clockMs pending) :
    (normalizePendingBridgeQuestions platform pending).Perm
      (pending.map (normalizePendingBridgeQuestion platform)) := by
  rw [normalizePendingBridgeQuestions, List.filter_eq_self.mpr h.dated,
    retainLast_of_length_le (by simpa using h.bounded)]
  exact Comparator.sort_perm _ _

lemma questionIds_normalize_perm (h : PendingKept platform clockMs pending) :
    (questionIds (normalizePendingBridgeQuestions platform pending)).Perm (questionIds pending) :=
  ((normalizePendingBridgeQuestions_perm h).map _).trans (List.Perm.of_eq questionIds_map_normalize)

lemma normalizePendingBridgeQuestions_of_ordered
    (h : PendingOrdered platform clockMs pending) :
    normalizePendingBridgeQuestions platform pending =
      pending.map (normalizePendingBridgeQuestion platform) := by
  have hsorted : (questionOrder platform).Sorted
      (pending.map (normalizePendingBridgeQuestion platform)) :=
    List.pairwise_map.mpr (List.pairwise_map.mp h.ordered)
  rw [normalizePendingBridgeQuestions, List.filter_eq_self.mpr h.dated,
    Comparator.sort_of_sorted _ hsorted, retainLast_of_length_le (by simpa using h.bounded)]

/-- A save leaves the questions in the order of their ids. -/
lemma PendingKept.normalize (h : PendingKept platform clockMs pending) :
    PendingOrdered platform clockMs
      (normalizePendingBridgeQuestions platform pending) := by
  have hperm := normalizePendingBridgeQuestions_perm h
  refine ⟨⟨(questionIds_normalize_perm h).nodup_iff.mpr h.distinct, ?_, ?_, ?_⟩, ?_⟩
  · rw [hperm.length_eq, List.length_map]
    exact h.bounded
  · intro question hquestion
    obtain ⟨source, hsource, rfl⟩ := mem_normalizePendingBridgeQuestions hquestion
    exact h.dated source hsource
  · intro question hquestion
    obtain ⟨source, hsource, rfl⟩ := mem_normalizePendingBridgeQuestions hquestion
    exact h.created source hsource
  · have hsorted := Comparator.sorted_sort (questionOrder platform)
      ((pending.filter (isDatedQuestion platform)).map (normalizePendingBridgeQuestion platform))
    exact List.pairwise_map.mpr (hsorted.sublist (List.drop_sublist _ _))

lemma PendingKept.later (h : PendingKept platform clockMs pending) {ms : ℤ}
    (hms : clockMs ≤ ms) : PendingKept platform ms pending := by
  refine { h with created := fun question hquestion => ?_ }
  obtain ⟨createdMs, hfrom, hle, hbefore, htext⟩ := h.created question hquestion
  exact ⟨createdMs, hfrom, hle.trans hms, hbefore, htext⟩

lemma PendingOrdered.later (h : PendingOrdered platform clockMs pending) {ms : ℤ}
    (hms : clockMs ≤ ms) : PendingOrdered platform ms pending :=
  { h.toPendingKept.later hms with ordered := h.ordered }

lemma PendingKept.others (h : PendingKept platform clockMs pending)
    (questionId : String) :
    PendingKept platform clockMs (otherQuestions pending questionId) where
  distinct := by
    rw [questionIds_otherQuestions]
    exact h.distinct.filter _
  bounded := (List.length_filter_le _ _).trans h.bounded
  dated question hquestion := h.dated question (mem_otherQuestions hquestion).1
  created question hquestion := h.created question (mem_otherQuestions hquestion).1

lemma PendingOrdered.others (h : PendingOrdered platform clockMs pending)
    (questionId : String) :
    PendingOrdered platform clockMs (otherQuestions pending questionId) where
  toPendingKept := h.toPendingKept.others questionId
  ordered := by
    rw [questionIds_otherQuestions]
    exact h.ordered.filter _

/-! ## A new question -/

section Added

variable {clock : WallClock platform} {question : BridgeQuestionV1}

/-- The times of two readings compare like their texts. -/
lemma noLater_of_le {text other : String} {ms : ℤ} (h : ReadBy platform ms text)
    (hother : ReadBy platform ms other) (hle : platform.locale.le text other = true) :
    NoLater platform text other := by
  obtain ⟨textMs, hfrom, -, hbefore, htext⟩ := h
  obtain ⟨otherMs, hotherFrom, -, hotherBefore, hotherText⟩ := hother
  exact ⟨textMs, platform.dateParse_isoString _ _ htext, otherMs,
    platform.dateParse_isoString _ _ hotherText,
    (platform.le_isoString _ _ _ _ hfrom hbefore hotherFrom hotherBefore htext hotherText).mp hle⟩

lemma readBy_clock : ReadBy platform clock.ms clock.iso :=
  ⟨clock.ms, clock.from_1970, le_rfl, clock.before_10000, clock.isoString⟩

/-- No reading of the clock is after the last one. -/
lemma le_clock {text : String} (h : ReadBy platform clock.ms text) :
    platform.locale.le text clock.iso = true := by
  obtain ⟨ms, hfrom, hle, hbefore, htext⟩ := h
  exact (platform.le_isoString _ _ _ _ hfrom hbefore clock.from_1970 clock.before_10000 htext
    clock.isoString).mpr hle

/-- A new question comes after the others, so that the oldest of them is the first. -/
lemma addPendingQuestion_eq (h : PendingKept platform clock.ms pending)
    (hcreated : question.createdAt = clock.iso) :
    addPendingQuestion platform pending question =
      retainLast MAX_PENDING_BRIDGE_QUESTIONS
        ((createdOrder platform).sort (otherQuestions pending question.questionId) ++
          [question]) := by
  have hafter : ∀ other ∈ otherQuestions pending question.questionId, ∀ added ∈ [question],
      (createdOrder platform).le other added = true := by
    intro other hother added hadded
    rw [List.mem_singleton.mp hadded, createdOrder, Comparator.byKey_le, hcreated]
    exact le_clock (h.created other (mem_otherQuestions hother).1)
  rw [addPendingQuestion, Comparator.sort_append _ hafter]
  rfl

lemma retainLast_cons_append {α : Type*} {cap : ℕ} {first last : α} {rest : List α}
    (h : rest.length + 1 = cap) : retainLast cap (first :: rest ++ [last]) = rest ++ [last] := by
  have hdrop : (first :: rest ++ [last]).length - cap = 1 := by
    simp only [List.length_append, List.length_cons, List.length_nil]
    omega
  rw [retainLast, hdrop]
  rfl

/-- All questions but the first of a list of distinct ones. -/
lemma otherQuestions_of_perm {others rest : List BridgeQuestionV1} {first : BridgeQuestionV1}
    (hdistinct : (questionIds others).Nodup) (hperm : (first :: rest).Perm others) :
    rest.Perm (otherQuestions others first.questionId) := by
  have hids : (questionIds (first :: rest)).Perm (questionIds others) := hperm.map _
  have hnodup := List.nodup_cons.mp (hids.nodup_iff.mpr hdistinct)
  have hothers : otherQuestions (first :: rest) first.questionId = rest := by
    rw [otherQuestions, List.filter_cons_of_neg (by simp)]
    refine List.filter_eq_self.mpr fun entry hentry => decide_eq_true fun hsame => ?_
    exact hnodup.1 (List.mem_map.mpr ⟨entry, hentry, hsame⟩)
  have hfiltered := hperm.filter fun entry => decide (entry.questionId ≠ first.questionId)
  rw [← otherQuestions, hothers] at hfiltered
  exact hfiltered

/-- The questions that stay when one is added. -/
lemma addPendingQuestion_ids (h : PendingKept platform clock.ms pending)
    (hcreated : question.createdAt = clock.iso) :
    DropsOldest platform (otherQuestions pending question.questionId)
      (addPendingQuestion platform pending question) question.questionId := by
  have hothers := h.others question.questionId
  rw [addPendingQuestion_eq h hcreated]
  generalize hlist : otherQuestions pending question.questionId = others at hothers ⊢
  have hperm := Comparator.sort_perm (createdOrder platform) others
  have hsorted := Comparator.sorted_sort (createdOrder platform) others
  have hlength := hperm.length_eq
  unfold DropsOldest
  split_ifs with hroom
  · rw [retainLast_of_length_le (by simp; omega)]
    have hadded : (questionIds ((createdOrder platform).sort others ++ [question])).Perm
        (questionIds (question :: others)) :=
      ((List.perm_append_singleton _ _).trans (hperm.cons question)).map _
    exact hadded
  · have hfull : others.length = MAX_PENDING_BRIDGE_QUESTIONS :=
      le_antisymm hothers.bounded (not_lt.mp hroom)
    cases hcases : (createdOrder platform).sort others with
    | nil =>
        rw [hcases, hfull] at hlength
        cases hlength
    | cons oldest rest =>
        rw [hcases] at hperm hsorted hlength
        have hold : oldest ∈ others := hperm.mem_iff.mp List.mem_cons_self
        refine ⟨oldest, hold, ?_, ?_⟩
        · intro other hother
          refine noLater_of_le (hothers.created oldest hold) (hothers.created other hother) ?_
          rcases List.mem_cons.mp (hperm.mem_iff.mpr hother) with rfl | hrest
          · exact Comparator.le_refl _ _
          · exact List.rel_of_pairwise_cons hsorted hrest
        · rw [retainLast_cons_append (hlength.trans hfull)]
          have hrest := otherQuestions_of_perm hothers.distinct hperm
          have hadded : (questionIds (rest ++ [question])).Perm (questionIds (question ::
              otherQuestions others oldest.questionId)) :=
            ((List.perm_append_singleton _ _).trans (hrest.cons question)).map _
          exact hadded

lemma PendingKept.add (h : PendingKept platform clock.ms pending)
    (hcreated : question.createdAt = clock.iso) (hdated : isDatedQuestion platform question = true) :
    PendingKept platform clock.ms
      (addPendingQuestion platform pending question) where
  distinct := by
    have hothers := (h.others question.questionId).distinct
    have hnew : question.questionId ∉
        questionIds (otherQuestions pending question.questionId) := by
      rw [questionIds_otherQuestions]
      simp
    have hall : (questionIds ((createdOrder platform).sort
        (otherQuestions pending question.questionId ++ [question]))).Perm
          (questionIds (question :: otherQuestions pending question.questionId)) :=
      ((Comparator.sort_perm _ _).trans (List.perm_append_singleton _ _)).map _
    have hnodup := hall.nodup_iff.mpr (List.nodup_cons.mpr ⟨hnew, hothers⟩)
    exact hnodup.sublist ((List.drop_sublist _ _).map _)
  bounded := by
    rw [addPendingQuestion, retainLast, List.length_drop]
    omega
  dated other hother := by
    rcases mem_addPendingQuestion hother with ⟨hold, -⟩ | rfl
    · exact h.dated other hold
    · exact hdated
  created other hother := by
    rcases mem_addPendingQuestion hother with ⟨hold, -⟩ | rfl
    · exact h.created other hold
    · exact hcreated ▸ readBy_clock

end Added

/-! ## Runs -/

variable {run next : BridgeRun} {clock : WallClock platform} {params : BridgeActionParams}
  {result : BridgeActionResult}

variable (platform) in
/-- The pending questions of a run. -/
def PendingRun (run : BridgeRun) : Prop :=
  PendingOrdered platform run.clockMs run.stores.pending

lemma pendingRun_start (graph : EntityGraphV1) (stack : ConversationStackV1) (updatedAt : String)
    (clockMs : ℤ) : PendingRun platform (BridgeRun.start graph stack updatedAt clockMs) := by
  refine ⟨⟨List.nodup_nil, Nat.zero_le _, ?_, ?_⟩, List.Pairwise.nil⟩ <;>
  · intro question hquestion
    cases hquestion

lemma loaded_pending (run : BridgeRun) (clock : WallClock platform) :
    (run.loaded platform clock).pendingBridgeQuestions =
      normalizePendingBridgeQuestions platform run.stores.pending := by
  rw [BridgeRun.loaded, normalizeRuntimeState, BridgeStores.pending]

lemma PendingRun.loaded (h : PendingRun platform run) (hclock : run.clockMs ≤ clock.ms) :
    PendingOrdered platform clock.ms
      (run.loaded platform clock).pendingBridgeQuestions := by
  rw [loaded_pending]
  exact (PendingOrdered.later h hclock).toPendingKept.normalize

lemma PendingRun.loaded_eq (h : PendingRun platform run) :
    (run.loaded platform clock).pendingBridgeQuestions =
      run.stores.pending.map (normalizePendingBridgeQuestion platform) := by
  rw [loaded_pending]
  exact normalizePendingBridgeQuestions_of_ordered h

lemma ApprovedBridge.dated {first second threadKey : String}
    {history : List BridgeInteractionRecordV1} {question : BridgeQuestionV1}
    (h : ApprovedBridge platform sha first second threadKey clock.iso history question) :
    isDatedQuestion platform question = true := by
  simp [isDatedQuestion, isIsoTimestamp, h.created, clock.parses,
    parse_addDays clock.parses h.cooldown]

lemma SavedBridge.pendingRun {interactions : List BridgeInteraction} {stores : BridgeStores} {history : List BridgeInteractionRecordV1}
    (hsaved : SavedBridge platform history pending stores)
    (h : PendingKept platform clockMs pending) :
    PendingRun platform ⟨stores, clockMs, interactions⟩ := by
  rw [PendingRun, BridgeStores.pending, hsaved.pending]
  exact h.normalize

lemma PendingRun.of_effect (h : PendingRun platform run) (hclock : run.clockMs ≤ clock.ms)
    (heffect : BridgeEffect platform sha run.stores (run.loaded platform clock) params clock.iso
      result) :
    PendingRun platform
      { stores := result.stores
        clockMs := clock.ms
        interactions := run.interactions ++ (result.outcome.interaction clock.ms).toList } := by
  have hloaded := (h.loaded hclock).toPendingKept
  cases heffect with
  | blocked hnone =>
      rw [BridgeOutcome.interaction, Option.toList_none, List.append_nil]
      exact PendingOrdered.later h hclock
  | deferred question next hkind hsaved =>
      rw [BridgeOutcome.interaction, Option.toList_none, List.append_nil]
      exact hsaved.pendingRun hloaded
  | emitted question next first second rest hkind hrefs happroved hsaved =>
      exact hsaved.pendingRun (hloaded.add happroved.created happroved.dated)
  | resolved question record denied next hkind hquestion hrecord hsaved =>
      exact hsaved.pendingRun (hloaded.others question.questionId)

lemma PendingRun.step (h : PendingRun platform run) {event : BridgeEvent platform}
    (hstep : bridgeStep platform sha run event = some next) : PendingRun platform next := by
  cases event with
  | action params timingDefers taskId clock =>
      rw [bridgeStep] at hstep
      split_ifs at hstep with hback
      have hclock : run.clockMs ≤ clock.ms := not_lt.mp hback
      cases hexecute : run.execute platform sha params timingDefers taskId clock with
      | none =>
          rw [hexecute] at hstep
          rw [← Option.some.inj hstep]
          exact PendingOrdered.later h hclock
      | some result =>
          rw [hexecute] at hstep
          rw [← Option.some.inj hstep]
          exact h.of_effect hclock (bridgeEffect_of_execute hexecute)
  | elsewhere graph stack =>
      rw [bridgeStep] at hstep
      rw [← Option.some.inj hstep]
      exact h

/-- The question an answer is taken for is the one it resolves. -/
lemma resolves_of_effect (h : PendingRun platform run) {question : BridgeQuestionV1}
    (hkind : toText params.answerKind ≠ none)
    (hquestion : answeredQuestion (run.loaded platform clock).pendingBridgeQuestions
      (toText params.questionId) = some question)
    (heffect : BridgeEffect platform sha run.stores (run.loaded platform clock) params clock.iso
      result) :
    Resolves platform run.stores result question.questionId := by
  cases heffect with
  | blocked hnone =>
      rw [hnone hkind] at hquestion
      cases hquestion
  | deferred _ next hdefers hsaved => exact absurd hdefers hkind
  | emitted _ next first second rest hasks hrefs happroved hsaved => exact absurd hasks hkind
  | resolved resolved record denied next hkind hresolved hrecord hsaved =>
      obtain rfl : resolved = question := Option.some.inj (hresolved.symm.trans hquestion)
      have hmem := mem_of_answeredQuestion hquestion
      have hsavedIds : questionIds next.pending = questionIds
          (otherQuestions (run.loaded platform clock).pendingBridgeQuestions
            resolved.questionId) := by
        have hloaded := h.toPendingKept.normalize
        rw [← loaded_pending run clock] at hloaded
        rw [BridgeStores.pending, hsaved.pending,
          normalizePendingBridgeQuestions_of_ordered (hloaded.others _), questionIds_map_normalize]
      rw [questionIds_otherQuestions, h.loaded_eq, questionIds_map_normalize] at hsavedIds
      rw [h.loaded_eq] at hmem
      exact ⟨resolved, record, denied, rfl, hmem, rfl, hrecord.questionId, hsavedIds⟩

lemma Resolves.unique {stores : BridgeStores} {id other : String}
    (h : Resolves platform stores result id) (hother : Resolves platform stores result other) :
    id = other := by
  obtain ⟨question, record, denied, hout, -, rfl, -⟩ := h
  obtain ⟨question', record', denied', hout', -, rfl, -⟩ := hother
  rw [hout] at hout'
  cases hout'
  rfl

/-- An answer that names a pending question is taken for it. -/
lemma answeredQuestion_of_mem {id : String} (hid : id ∈ questionIds pending) :
    ∃ question, answeredQuestion pending (some id) = some question ∧ question.questionId = id := by
  obtain ⟨entry, hentry, hsame⟩ := List.mem_map.mp hid
  cases hfind : pending.find? fun entry => decide (some entry.questionId = some id) with
  | none => exact absurd (List.find?_eq_none.mp hfind entry hentry) (by simpa using hsame)
  | some found =>
      refine ⟨found, by rw [answeredQuestion, hfind]; rfl, ?_⟩
      simpa using List.find?_some hfind

/-- An answer that names none is taken for the last pending question. -/
lemma answeredQuestion_none : answeredQuestion pending none = pending.getLast? := by
  have hnone : (pending.find? fun entry => decide (some entry.questionId = none)) = none :=
    List.find?_eq_none.mpr fun entry _ => by simp
  rw [answeredQuestion, hnone]
  rfl

lemma dropsOldest_of_normalized {others stored saved : List BridgeQuestionV1} {id : String}
    (h : DropsOldest platform (others.map (normalizePendingBridgeQuestion platform)) stored id)
    (hsaved : (questionIds saved).Perm (questionIds stored)) :
    DropsOldest platform others saved id := by
  unfold DropsOldest at h ⊢
  rw [List.length_map, questionIds_map_normalize] at h
  split_ifs at h ⊢ with hroom
  · exact hsaved.trans h
  · obtain ⟨oldest, hold, hleast, hperm⟩ := h
    obtain ⟨source, hsource, rfl⟩ := List.mem_map.mp hold
    refine ⟨source, hsource, fun other hother => ?_, ?_⟩
    · exact hleast (normalizePendingBridgeQuestion platform other) (List.mem_map_of_mem hother)
    · rw [questionIds_otherQuestions, questionIds_map_normalize,
        ← questionIds_otherQuestions] at hperm
      exact hsaved.trans hperm

/-- An action that asks gives up the oldest question, where it gives up one. -/
lemma dropsOldest_of_effect (h : PendingRun platform run) (hclock : run.clockMs ≤ clock.ms)
    (heffect : BridgeEffect platform sha run.stores (run.loaded platform clock) params clock.iso
      result) {question : BridgeQuestionV1} (hout : result.outcome = .emitted question) :
    DropsOldest platform (otherQuestions run.stores.pending question.questionId)
      result.stores.pending question.questionId := by
  cases heffect with
  | blocked hnone => cases hout
  | deferred _ next hkind hsaved => cases hout
  | resolved _ record denied next hkind hquestion hrecord hsaved => cases hout
  | emitted asked next first second rest hkind hrefs happroved hsaved =>
      obtain rfl : asked = question := by
        cases hout
        rfl
      have hloaded := (h.loaded hclock).toPendingKept
      have hdrops := addPendingQuestion_ids hloaded happroved.created
      have hsavedIds : (questionIds next.pending).Perm (questionIds
          (addPendingQuestion platform (run.loaded platform clock).pendingBridgeQuestions
            asked)) := by
        rw [BridgeStores.pending, hsaved.pending]
        exact questionIds_normalize_perm (hloaded.add happroved.created happroved.dated)
      refine dropsOldest_of_normalized ?_ hsavedIds
      rw [← otherQuestions_map_normalize, ← h.loaded_eq]
      exact hdrops

/-- An answer that names no question resolves the one whose id is last. -/
lemma resolves_last (h : PendingRun platform run) (hkind : toText params.answerKind ≠ none)
    (hnone : toText params.questionId = none) (hsome : run.stores.pending ≠ [])
    (heffect : BridgeEffect platform sha run.stores (run.loaded platform clock) params clock.iso
      result) :
    ∃ id ∈ (questionIds run.stores.pending).getLast?, Resolves platform run.stores result id := by
  have hlast := List.getLast?_eq_some_getLast hsome
  have hquestion : answeredQuestion (run.loaded platform clock).pendingBridgeQuestions
      (toText params.questionId) =
        some (normalizePendingBridgeQuestion platform (run.stores.pending.getLast hsome)) := by
    rw [hnone, answeredQuestion_none, h.loaded_eq, List.getLast?_map, hlast]
    rfl
  refine ⟨_, ?_, resolves_of_effect h hkind hquestion heffect⟩
  rw [questionIds, List.getLast?_map, hlast]
  rfl

lemma latestSortsLast_iff (h : PendingRun platform run) :
    LatestSortsLast platform run ↔ (questionIds run.stores.pending).getLast? =
      lastEmittedPending run.interactions (questionIds run.stores.pending) := by
  rw [LatestSortsLast, Comparator.sort_of_sorted _ h.ordered]

/-- In every reachable state, an answer that names a pending question resolves it, and a full
list gives up its oldest question; an answer that names none resolves the question asked last
exactly where its id sorts last. -/
theorem answers_reach_iff {graph : EntityGraphV1} {stack : ConversationStackV1}
    {updatedAt : String} {events : List (BridgeEvent platform)} {timingDefers : Bool}
    {taskId : String}
    (hrun : Lib.run (bridgeStep platform sha) (BridgeRun.start graph stack updatedAt clockMs)
      events = some run) (hclock : run.clockMs ≤ clock.ms)
    (hexecute : run.execute platform sha params timingDefers taskId clock = some result) :
    ReachesRightQuestion platform run params result ↔
      (toText params.answerKind ≠ none → toText params.questionId = none →
        LatestSortsLast platform run) := by
  have hpending : PendingRun platform run :=
    invariant_of_run (fun _ _ _ h hstep => h.step hstep)
      (pendingRun_start graph stack updatedAt clockMs) hrun
  have heffect := bridgeEffect_of_execute hexecute
  rw [latestSortsLast_iff hpending]
  constructor
  · intro hreaches hkind hnone
    rcases eq_or_ne run.stores.pending [] with hempty | hsome
    · simp [lastEmittedPending, hempty, questionIds]
    · obtain ⟨id, hid, hresolves⟩ := hreaches.latest hkind hnone hsome
      obtain ⟨last, hlast, htaken⟩ := resolves_last hpending hkind hnone hsome heffect
      rw [hid, hlast, htaken.unique hresolves]
  · intro hlast
    refine
      { named := fun hkind id hnamed hid => ?_
        latest := fun hkind hnone hsome => ?_
        oldest := fun question hout => dropsOldest_of_effect hpending hclock heffect hout }
    · have hloaded : id ∈ questionIds (run.loaded platform clock).pendingBridgeQuestions := by
        rw [hpending.loaded_eq, questionIds_map_normalize]
        exact hid
      obtain ⟨question, hquestion, rfl⟩ := answeredQuestion_of_mem hloaded
      rw [← Option.mem_def.mp hnamed] at hquestion
      exact resolves_of_effect hpending hkind hquestion heffect
    · rw [← hlast hkind hnone]
      exact resolves_last hpending hkind hnone hsome heffect

/-! ## Answers of a team -/

theorem only_question_reached :
    ∃ run ∈ teamRun [teamAsk "entity_acme" "entity_atlas" "team" newYear],
      ∃ result ∈ run.execute teamPlatform teamSha deferParams false "task_1" newYear,
        ReachesRightQuestion teamPlatform run deferParams result := by
  have hfacts : (teamRun [teamAsk "entity_acme" "entity_atlas" "team" newYear]).bind (fun run =>
      (run.execute teamPlatform teamSha deferParams false "task_1" newYear).map fun _ =>
        (run.clockMs, decide (LatestSortsLast teamPlatform run))) = some (newYear.ms, true) := by
    decide +kernel
  obtain ⟨run, hrun, hexecutes⟩ := Option.bind_eq_some_iff.mp hfacts
  obtain ⟨result, hexecute, hknown⟩ := Option.map_eq_some_iff.mp hexecutes
  obtain ⟨hclock, hlast⟩ := Prod.mk.inj hknown
  refine ⟨run, hrun, result, hexecute, ?_⟩
  exact (answers_reach_iff hrun hclock.le hexecute).mpr fun _ _ => of_decide_eq_true hlast

/-- Two questions whose ids sort the other way: the answer resolves the one asked first. -/
theorem answer_reaches_earlier_question :
    ∃ run ∈ teamRun [teamAsk "entity_acme" "entity_riley" "team" newYear,
        teamAsk "entity_acme" "entity_atlas" "lunch" endOfJanuary],
      ∃ result ∈ run.execute teamPlatform teamSha deferParams false "task_1" endOfJanuary,
        run.clockMs ≤ endOfJanuary.ms ∧
          ¬ ReachesRightQuestion teamPlatform run deferParams result := by
  have hfacts : (teamRun [teamAsk "entity_acme" "entity_riley" "team" newYear,
        teamAsk "entity_acme" "entity_atlas" "lunch" endOfJanuary]).bind (fun run =>
      (run.execute teamPlatform teamSha deferParams false "task_1" endOfJanuary).map fun result =>
        (run.clockMs, run.stores.pending.length,
          lastEmittedPending run.interactions (questionIds run.stores.pending),
          (result.outcome.interaction endOfJanuary.ms).map (·.questionId))) =
      some (endOfJanuary.ms, 2, some "bridge_q_c20d61295c5f44d063d5",
        some "bridge_q_e6c1e0bb97a31f160b4f") := by
    decide +kernel
  obtain ⟨run, hrun, hexecutes⟩ := Option.bind_eq_some_iff.mp hfacts
  obtain ⟨result, hexecute, hknown⟩ := Option.map_eq_some_iff.mp hexecutes
  simp only [Prod.mk.injEq] at hknown
  obtain ⟨hclock, htwo, hlatest, hresolved⟩ := hknown
  refine ⟨run, hrun, result, hexecute, hclock.le, fun hreaches => ?_⟩
  have hsome : run.stores.pending ≠ [] := by
    intro hempty
    rw [hempty] at htwo
    cases htwo
  obtain ⟨id, hid, question, record, denied, hout, -, -, hrecord, -⟩ :=
    hreaches.latest (by decide) (by decide) hsome
  rw [hlatest, Option.mem_some_iff] at hid
  rw [hout, BridgeOutcome.interaction, Option.map_some] at hresolved
  have hsame : record.questionId = "bridge_q_e6c1e0bb97a31f160b4f" := Option.some.inj hresolved
  rw [hrecord, ← hid] at hsame
  exact absurd hsame (by decide)

end AgentBigBrain.Core
