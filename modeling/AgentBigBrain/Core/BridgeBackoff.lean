import AgentBigBrain.Core.BridgeLimits

/-!
# The back-off of deferred questions

An answer that defers a bridge question gives its pair a cooldown that grows with the deferrals
the latest record of the pair counts. A new question leaves a record that counts none, so the
back-off grows only where no question is asked between two deferrals of a pair.
-/
namespace AgentBigBrain.Core

open AgentBigBrain.Js AgentBigBrain.Lib

variable (platform : BridgePlatform) (sha : Sha256)

/-! ## Deferrals of a run -/

/-- Any answer but a confirmation defers the question. -/
def BridgeActionParams.defers (params : BridgeActionParams) : Bool :=
  (toText params.answerKind).any fun answerKind => decide (answerKind ≠ "confirmed")

structure BackoffRun where
  bridge : BridgeRun
  /-- The answers that deferred a question, with the cooldowns they gave. -/
  deferrals : List BridgeInteraction

def BackoffRun.start (graph : EntityGraphV1) (stack : ConversationStackV1) (updatedAt : String)
    (clockMs : ℤ) : BackoffRun where
  bridge := BridgeRun.start graph stack updatedAt clockMs
  deferrals := []

/-- What an event adds to the deferrals, given what it adds to the interactions. -/
def addedDeferrals (added : List BridgeInteraction) : BridgeEvent platform → List BridgeInteraction
  | .action params _ _ _ => if params.defers then added else []
  | .elsewhere _ _ => []

def backoffStep (run : BackoffRun) (event : BridgeEvent platform) : Option BackoffRun :=
  (bridgeStep platform sha run.bridge event).map fun next =>
    { bridge := next
      deferrals := run.deferrals ++
        addedDeferrals platform (next.interactions.drop run.bridge.interactions.length) event }

/-- How long the cooldown is that an interaction gives. -/
def cooldownMs (interaction : BridgeInteraction) : Option ℤ :=
  (platform.dateParse interaction.cooldownUntil).map fun untilMs => untilMs - interaction.ms

/-- The later cooldown is longer, or the earlier one had reached the greatest number of days. -/
def CooldownGrows (earlier later : BridgeInteraction) : Prop :=
  ∃ first ∈ cooldownMs platform earlier, ∃ second ∈ cooldownMs platform later,
    first < second ∨ MAX_REASONABLE_DAYS * DAY_MS ≤ first

def BackoffGrows (deferrals : List BridgeInteraction) : Prop :=
  deferrals.Pairwise fun earlier later =>
    earlier.pair = later.pair → CooldownGrows platform earlier later

/-! ## Where the back-off is kept -/

def interactionKey (interaction : BridgeInteraction) : String :=
  buildPairKey platform interaction.sourceEntityKey interaction.targetEntityKey

def recordKey (record : BridgeInteractionRecordV1) : String :=
  buildPairKey platform record.sourceEntityKey record.targetEntityKey

def questionKey (question : BridgeQuestionV1) : String :=
  buildPairKey platform question.sourceEntityKey question.targetEntityKey

def lastDeferral (deferrals : List BridgeInteraction) (pairKey : String) :
    Option BridgeInteraction :=
  (deferrals.filter fun deferral => interactionKey platform deferral = pairKey).getLast?

/-- The history has room for a question about the two entities and no record of its id; and the
entities are not tied, so that the pair has one order. -/
def QuestionFits (loaded : Stage686RuntimeStateSnapshot) (first second observedAt : String) :
    Prop :=
  loaded.pulseState.bridgeHistory.length < MAX_BRIDGE_HISTORY ∧
    platform.locale.le second first = false ∧
    ∀ record ∈ loaded.pulseState.bridgeHistory, record.questionId ≠
      buildQuestionId platform sha first second ("bridge_" ++ first ++ "_" ++ second) observedAt

instance (loaded : Stage686RuntimeStateSnapshot) (first second observedAt : String) :
    Decidable (QuestionFits platform sha loaded first second observedAt) :=
  inferInstanceAs (Decidable (_ ∧ _ ∧ ∀ record ∈ _, _))

/-- Everything else about the pair of a question came at an earlier millisecond. -/
def AnsweredLater (interactions : List BridgeInteraction) (question : BridgeQuestionV1) (ms : ℤ) :
    Prop :=
  ∀ interaction ∈ interactions,
    interactionKey platform interaction = questionKey platform question →
    interaction.questionId ≠ question.questionId → interaction.ms < ms

instance (interactions : List BridgeInteraction) (question : BridgeQuestionV1) (ms : ℤ) :
    Decidable (AnsweredLater platform interactions question ms) :=
  inferInstanceAs (Decidable (∀ interaction ∈ interactions, _))

/-- No other question about the pair has been asked since the deferral. -/
def AskedBefore (interactions : List BridgeInteraction) (deferral : BridgeInteraction) : Prop :=
  ∀ interaction ∈ interactions, interaction.asked = true →
    interactionKey platform interaction = interactionKey platform deferral →
    interaction.questionId ≠ deferral.questionId → interaction.ms < deferral.ms

instance (interactions : List BridgeInteraction) (deferral : BridgeInteraction) :
    Decidable (AskedBefore platform interactions deferral) :=
  inferInstanceAs (Decidable (∀ interaction ∈ interactions, _))

/-- An answer that is taken for a question. -/
def AnswerKeepsBackoff (run : BackoffRun) (question : BridgeQuestionV1) (defers : Bool) (ms : ℤ) :
    Prop :=
  AnsweredLater platform run.bridge.interactions question ms ∧
    (defers = true → ∀ deferral ∈ lastDeferral platform run.deferrals
      (questionKey platform question), AskedBefore platform run.bridge.interactions deferral)

instance (run : BackoffRun) (question : BridgeQuestionV1) (defers : Bool) (ms : ℤ) :
    Decidable (AnswerKeepsBackoff platform run question defers ms) :=
  inferInstanceAs (Decidable (_ ∧ (_ → ∀ deferral ∈ lastDeferral _ _ _, _)))

/-- A question has room in the history; and an answer comes later than what else there is about
its pair, and defers a pair again only if no question about it was asked in between. -/
def KeepsBackoff (run : BackoffRun) : BridgeEvent platform → Prop
  | .action params _ _ clock =>
      (toText params.answerKind = none → ∀ pair ∈ askedPair platform params.entityRefs,
        QuestionFits platform sha (run.bridge.loaded platform clock) pair.1 pair.2 clock.iso) ∧
      (toText params.answerKind ≠ none →
        ∀ question ∈ answeredQuestion (run.bridge.loaded platform clock).pendingBridgeQuestions
          (toText params.questionId),
        AnswerKeepsBackoff platform run question params.defers clock.ms)
  | .elsewhere _ _ => True

instance (run : BackoffRun) : ∀ event : BridgeEvent platform,
    Decidable (KeepsBackoff platform sha run event)
  | .action params _ _ clock => inferInstanceAs (Decidable (
      (_ → ∀ pair ∈ askedPair platform params.entityRefs,
        QuestionFits platform sha (run.bridge.loaded platform clock) pair.1 pair.2 clock.iso) ∧
      (_ → ∀ question ∈ answeredQuestion
          (run.bridge.loaded platform clock).pendingBridgeQuestions (toText params.questionId),
        AnswerKeepsBackoff platform run question params.defers clock.ms)))
  | .elsewhere _ _ => inferInstanceAs (Decidable True)

/-! ## What the history holds -/

variable {platform} {sha} {clockMs : ℤ} {interactions deferrals : List BridgeInteraction}
  {history other : List BridgeInteractionRecordV1} {pending : List BridgeQuestionV1}

/-- The history of a run that forgets nothing: every record is one that an interaction left. -/
structure HistoryKept (platform : BridgePlatform) (clockMs : ℤ)
    (interactions : List BridgeInteraction) (history : List BridgeInteractionRecordV1)
    (pending : List BridgeQuestionV1) : Prop where
  dated : ∀ record ∈ history, isDatedRecord platform record = true
  distinct : (history.map (·.questionId)).Nodup
  bounded : history.length ≤ MAX_BRIDGE_HISTORY
  left : ∀ record ∈ history, ∃ interaction ∈ interactions,
    interaction.questionId = record.questionId ∧
      interactionKey platform interaction = recordKey platform record ∧
      platform.isoString interaction.ms = some record.askedAt
  kept : ∀ interaction ∈ interactions, ∃ record ∈ history,
    record.questionId = interaction.questionId
  past : ∀ interaction ∈ interactions,
    0 ≤ interaction.ms ∧ interaction.ms ≤ clockMs ∧ interaction.ms < YEAR_10000_MS
  untied : ∀ interaction ∈ interactions,
    platform.locale.le interaction.targetEntityKey interaction.sourceEntityKey = false
  known : ∀ question ∈ pending,
    platform.locale.le question.targetEntityKey question.sourceEntityKey = false ∧
      ∃ record ∈ history, record.questionId = question.questionId ∧
        recordKey platform record = questionKey platform question

lemma HistoryKept.of_perm (h : HistoryKept platform clockMs interactions history pending)
    (hperm : history.Perm other) : HistoryKept platform clockMs interactions other pending where
  dated record hrecord := h.dated record (hperm.mem_iff.mpr hrecord)
  distinct := (hperm.map _).nodup_iff.mp h.distinct
  bounded := hperm.length_eq ▸ h.bounded
  left record hrecord := h.left record (hperm.mem_iff.mpr hrecord)
  kept interaction hinteraction := by
    obtain ⟨record, hrecord, hsame⟩ := h.kept interaction hinteraction
    exact ⟨record, hperm.mem_iff.mp hrecord, hsame⟩
  past := h.past
  untied := h.untied
  known question hquestion := by
    obtain ⟨huntied, record, hrecord, hknown⟩ := h.known question hquestion
    exact ⟨huntied, record, hperm.mem_iff.mp hrecord, hknown⟩

lemma HistoryKept.later (h : HistoryKept platform clockMs interactions history pending) {ms : ℤ}
    (hms : clockMs ≤ ms) : HistoryKept platform ms interactions history pending := by
  refine { h with past := fun interaction hinteraction => ?_ }
  obtain ⟨hfrom, hle, hbefore⟩ := h.past interaction hinteraction
  exact ⟨hfrom, hle.trans hms, hbefore⟩

/-- Records in the order of a save are the same records. -/
lemma HistoryKept.bound_perm (h : HistoryKept platform clockMs interactions history pending) :
    (boundBridgeHistory platform (history.filter (isDatedRecord platform))).Perm history := by
  rw [filter_dated h.dated]
  exact boundBridgeHistory_perm platform h.bounded

/-- A save or a load forgets nothing. -/
lemma HistoryKept.normalize (h : HistoryKept platform clockMs interactions history pending) :
    HistoryKept platform clockMs interactions
      (boundBridgeHistory platform (history.filter (isDatedRecord platform)))
      (normalizePendingBridgeQuestions platform pending) := by
  have hsorted := h.of_perm h.bound_perm.symm
  refine { hsorted with known := fun question hquestion => ?_ }
  obtain ⟨source, hsource, rfl⟩ := mem_normalizePendingBridgeQuestions hquestion
  exact hsorted.known source hsource

/-! ## The record a count is read from -/

/-- The record was left at the time or later. -/
def LeftFrom (platform : BridgePlatform) (ms : ℤ) (record : BridgeInteractionRecordV1) : Prop :=
  ∃ recordMs ∈ platform.dateParse record.askedAt, ms ≤ recordMs

/-- A deferral counts, and so do all records of the pair from then on. -/
structure CountsFrom (platform : BridgePlatform) (history : List BridgeInteractionRecordV1)
    (pairKey : String) (ms : ℤ) (count : ℕ) : Prop where
  left : ∃ record ∈ history, recordKey platform record = pairKey ∧ LeftFrom platform ms record
  counts : ∀ record ∈ history, recordKey platform record = pairKey →
    LeftFrom platform ms record → count ≤ record.deferralCount

lemma CountsFrom.of_perm {pairKey : String} {ms : ℤ} {count : ℕ}
    (h : CountsFrom platform history pairKey ms count) (hperm : history.Perm other) :
    CountsFrom platform other pairKey ms count where
  left := by
    obtain ⟨record, hrecord, hrest⟩ := h.left
    exact ⟨record, hperm.mem_iff.mp hrecord, hrest⟩
  counts record hrecord := h.counts record (hperm.mem_iff.mpr hrecord)

/-- The times of two records compare like their texts. -/
lemma HistoryKept.ms_le (h : HistoryKept platform clockMs interactions history pending)
    {first second : BridgeInteractionRecordV1} (hfirst : first ∈ history)
    (hsecond : second ∈ history) (hle : platform.locale.le first.askedAt second.askedAt = true)
    {ms : ℤ} (hleft : LeftFrom platform ms first) : LeftFrom platform ms second := by
  obtain ⟨recordMs, hparse, hms⟩ := hleft
  obtain ⟨i, hi, -, -, hiText⟩ := h.left first hfirst
  obtain ⟨j, hj, -, -, hjText⟩ := h.left second hsecond
  obtain ⟨hiFrom, -, hiBefore⟩ := h.past i hi
  obtain ⟨hjFrom, -, hjBefore⟩ := h.past j hj
  have htimes : i.ms ≤ j.ms :=
    (platform.le_isoString _ _ _ _ hiFrom hiBefore hjFrom hjBefore hiText hjText).mp hle
  have hiMs : recordMs = i.ms :=
    Option.some.inj (hparse.symm.trans (platform.dateParse_isoString _ _ hiText))
  exact ⟨j.ms, platform.dateParse_isoString _ _ hjText, by omega⟩

/-- Once a deferral counts, so does every later reading of the count. -/
lemma HistoryKept.count_le (h : HistoryKept platform clockMs interactions history pending)
    {first second : String} {ms : ℤ} {count : ℕ}
    (hcounts : CountsFrom platform history (buildPairKey platform first second) ms count) :
    count ≤ getPairDeferralCount platform (readHistory platform history) first second := by
  obtain ⟨witness, hwitness, hkey, hleft⟩ := hcounts.left
  have hread : ∀ record, record ∈ (readHistory platform history).filter
      (isRecordOfPair platform first second) ↔
        record ∈ history ∧ recordKey platform record = buildPairKey platform first second := by
    intro record
    rw [readHistory, filter_dated h.dated, List.mem_filter, Comparator.mem_sort]
    simp [isRecordOfPair, recordKey]
  unfold getPairDeferralCount
  split
  · rename_i hnone
    have hmem : witness ∈ (askedOrder platform).reverse.sort ((readHistory platform history).filter
        (isRecordOfPair platform first second)) :=
      (Comparator.mem_sort _).mpr ((hread witness).mpr ⟨hwitness, hkey⟩)
    rw [hnone] at hmem
    cases hmem
  · rename_i latest rest hlatest
    have hmem : ∀ record, record ∈ latest :: rest ↔
        record ∈ history ∧ recordKey platform record = buildPairKey platform first second := by
      intro record
      rw [← hlatest, Comparator.mem_sort, hread]
    have hsorted := Comparator.sorted_sort (askedOrder platform).reverse
      ((readHistory platform history).filter (isRecordOfPair platform first second))
    rw [hlatest] at hsorted
    obtain ⟨hlatestMem, hlatestKey⟩ := (hmem latest).mp List.mem_cons_self
    refine hcounts.counts latest hlatestMem hlatestKey ?_
    rcases List.mem_cons.mp ((hmem witness).mpr ⟨hwitness, hkey⟩) with rfl | hrest
    · exact hleft
    · have hle := (List.pairwise_cons.mp hsorted).1 witness hrest
      exact h.ms_le hwitness hlatestMem hle hleft

/-! ## A new question -/

/-- The deferrals so far, with what the history counts of them. -/
structure BackoffCounted (platform : BridgePlatform) (interactions : List BridgeInteraction)
    (history : List BridgeInteractionRecordV1) (deferrals : List BridgeInteraction) : Prop where
  given : ∀ deferral ∈ deferrals, deferral ∈ interactions
  remembered : ∀ pairKey, ∀ deferral ∈ lastDeferral platform deferrals pairKey,
    AskedBefore platform interactions deferral →
      ∃ count : ℕ, cooldownMs platform deferral =
          some (DEFAULT_BRIDGE_COOLDOWN_DAYS * (1 + count) * DAY_MS) ∧
        CountsFrom platform history pairKey deferral.ms count
  grows : deferrals.Pairwise fun earlier later =>
    interactionKey platform earlier = interactionKey platform later →
      ∃ first ∈ cooldownMs platform earlier, ∃ second ∈ cooldownMs platform later, first < second

lemma BackoffCounted.of_perm (h : BackoffCounted platform interactions history deferrals)
    (hperm : history.Perm other) : BackoffCounted platform interactions other deferrals where
  given := h.given
  remembered pairKey deferral hlast hasked := by
    obtain ⟨count, hcooldown, hcounts⟩ := h.remembered pairKey deferral hlast hasked
    exact ⟨count, hcooldown, hcounts.of_perm hperm⟩
  grows := h.grows

lemma of_lastDeferral {pairKey : String} {deferral : BridgeInteraction}
    (h : deferral ∈ lastDeferral platform deferrals pairKey) :
    deferral ∈ deferrals ∧ interactionKey platform deferral = pairKey := by
  have hmem := List.mem_of_getLast? h
  simpa using hmem

lemma AskedBefore.of_append {added deferral : BridgeInteraction}
    (h : AskedBefore platform (interactions ++ [added]) deferral) :
    AskedBefore platform interactions deferral :=
  fun interaction hinteraction => h interaction (List.mem_append_left _ hinteraction)

section Asked

variable {clock : WallClock platform} {first second threadKey : String}
  {question : BridgeQuestionV1}

lemma HistoryKept.asked (h : HistoryKept platform clock.ms interactions history pending)
    (happroved : ApprovedBridge platform sha first second threadKey clock.iso history question)
    (huntied : platform.locale.le second first = false)
    (hroom : history.length < MAX_BRIDGE_HISTORY)
    (hnew : ∀ record ∈ history, record.questionId ≠ question.questionId) :
    HistoryKept platform clock.ms (interactions ++ [askedInteraction question clock.ms])
      (history ++ [askedRecord question clock.iso threadKey])
      (addPendingQuestion platform pending question) := by
  have hparse := parse_addDays clock.parses happroved.cooldown
  have hpair := (normalizeEntityPair_of_lt huntied).1
  have hquestionUntied :
      platform.locale.le question.targetEntityKey question.sourceEntityKey = false := by
    rw [happroved.source, happroved.target, hpair]
    exact huntied
  have hlast : askedRecord question clock.iso threadKey ∈
      history ++ [askedRecord question clock.iso threadKey] := by simp
  refine ⟨?_, ?_, ?_, ?_, ?_, ?_, ?_, ?_⟩
  · intro record hrecord
    rcases List.mem_append.mp hrecord with hold | hadded
    · exact h.dated record hold
    · rw [List.mem_singleton.mp hadded]
      simp [isDatedRecord, askedRecord, clock.parses, hparse]
  · rw [List.map_append]
    refine List.Nodup.append h.distinct (List.nodup_singleton _) ?_
    simpa [askedRecord] using hnew
  · simpa using hroom
  · intro record hrecord
    rcases List.mem_append.mp hrecord with hold | hadded
    · obtain ⟨interaction, hinteraction, hrest⟩ := h.left record hold
      exact ⟨interaction, List.mem_append_left _ hinteraction, hrest⟩
    · rw [List.mem_singleton.mp hadded]
      exact ⟨askedInteraction question clock.ms, by simp, rfl, rfl, clock.isoString⟩
  · intro interaction hinteraction
    rcases List.mem_append.mp hinteraction with hold | hadded
    · obtain ⟨record, hrecord, hsame⟩ := h.kept interaction hold
      exact ⟨record, List.mem_append_left _ hrecord, hsame⟩
    · rw [List.mem_singleton.mp hadded]
      exact ⟨_, hlast, rfl⟩
  · intro interaction hinteraction
    rcases List.mem_append.mp hinteraction with hold | hadded
    · exact h.past interaction hold
    · rw [List.mem_singleton.mp hadded]
      exact ⟨clock.from_1970, le_rfl, clock.before_10000⟩
  · intro interaction hinteraction
    rcases List.mem_append.mp hinteraction with hold | hadded
    · exact h.untied interaction hold
    · rw [List.mem_singleton.mp hadded]
      exact hquestionUntied
  · intro other hother
    rcases mem_addPendingQuestion hother with ⟨hold, -⟩ | rfl
    · obtain ⟨hotherUntied, record, hrecord, hknown⟩ := h.known other hold
      exact ⟨hotherUntied, record, List.mem_append_left _ hrecord, hknown⟩
    · exact ⟨hquestionUntied, _, hlast, rfl, rfl⟩

/-- A question about a pair ends what its last deferral counted; the other pairs keep theirs. -/
lemma BackoffCounted.asked (h : BackoffCounted platform interactions history deferrals)
    (hkept : HistoryKept platform clock.ms interactions history pending)
    (hnew : ∀ record ∈ history, record.questionId ≠ question.questionId) (threadKey : String) :
    BackoffCounted platform (interactions ++ [askedInteraction question clock.ms])
      (history ++ [askedRecord question clock.iso threadKey]) deferrals where
  given deferral hdeferral := List.mem_append_left _ (h.given deferral hdeferral)
  remembered pairKey deferral hlast hasked := by
    obtain ⟨hdeferral, hkey⟩ := of_lastDeferral hlast
    obtain ⟨count, hcooldown, hcounts⟩ := h.remembered pairKey deferral hlast hasked.of_append
    have hother : recordKey platform (askedRecord question clock.iso threadKey) ≠ pairKey := by
      intro hsame
      obtain ⟨record, hrecord, hid⟩ := hkept.kept deferral (h.given deferral hdeferral)
      have hpast := (hkept.past deferral (h.given deferral hdeferral)).2.1
      have hbefore := hasked (askedInteraction question clock.ms) (by simp) rfl
        (hsame.trans hkey.symm) fun hidSame => hnew record hrecord (hid.trans hidSame.symm)
      exact absurd hpast (not_le.mpr hbefore)
    refine ⟨count, hcooldown, ?_, ?_⟩
    · obtain ⟨record, hrecord, hrest⟩ := hcounts.left
      exact ⟨record, List.mem_append_left _ hrecord, hrest⟩
    · intro record hrecord hrecordKey hleft
      rcases List.mem_append.mp hrecord with hold | hadded
      · exact hcounts.counts record hold hrecordKey hleft
      · rw [List.mem_singleton.mp hadded] at hrecordKey
        exact absurd hrecordKey hother
  grows := h.grows

end Asked

/-! ## An answer -/

section Answered

variable {clock : WallClock platform} {question : BridgeQuestionV1}
  {record : BridgeInteractionRecordV1}

lemma recordKey_answer
    (huntied : platform.locale.le question.targetEntityKey question.sourceEntityKey = false)
    (hrecord : AnswerRecord platform question clock.iso record) :
    record.sourceEntityKey = question.sourceEntityKey ∧
      record.targetEntityKey = question.targetEntityKey := by
  have hpair := (normalizeEntityPair_of_lt huntied).1
  rw [hrecord.source, hrecord.target, hpair]
  exact ⟨rfl, rfl⟩

/-- The record of an answer takes the place of the one its question left. -/
lemma HistoryKept.replace_perm (h : HistoryKept platform clockMs interactions history pending)
    (hquestion : question ∈ pending) (hid : record.questionId = question.questionId) :
    ∃ known, known.questionId = question.questionId ∧
      recordKey platform known = questionKey platform question ∧
      history.Perm (known :: history.filter fun entry =>
        decide (entry.questionId ≠ question.questionId)) ∧
      (replaceBridgeRecord history record).Perm (record :: history.filter fun entry =>
        decide (entry.questionId ≠ question.questionId)) := by
  obtain ⟨-, known, hmem, hknownId, hknownKey⟩ := h.known question hquestion
  refine ⟨known, hknownId, hknownKey, ?_, ?_⟩
  · rw [← hknownId]
    exact perm_cons_of_distinct h.distinct hmem
  · rw [replaceBridgeRecord, hid]
    exact List.perm_append_singleton record _

lemma HistoryKept.answered (h : HistoryKept platform clock.ms interactions history pending)
    (hquestion : question ∈ pending) (hrecord : AnswerRecord platform question clock.iso record) :
    HistoryKept platform clock.ms (interactions ++ [answerInteraction record clock.ms])
      (replaceBridgeRecord history record) (otherQuestions pending question.questionId) := by
  obtain ⟨huntied, -⟩ := h.known question hquestion
  obtain ⟨hsource, htarget⟩ := recordKey_answer huntied hrecord
  obtain ⟨known, hknownId, hknownKey, hperm, hreplaced⟩ :=
    h.replace_perm hquestion hrecord.questionId
  obtain ⟨days, hdays, hadd⟩ := hrecord.cooldown
  have hparse := parse_addDays clock.parses hadd
  have hothers := h.of_perm hperm
  refine HistoryKept.of_perm ⟨?_, ?_, ?_, ?_, ?_, ?_, ?_, ?_⟩ hreplaced.symm
  · intro entry hentry
    rcases List.mem_cons.mp hentry with rfl | hrest
    · simp [isDatedRecord, hrecord.askedAt, clock.parses, hparse]
    · exact hothers.dated entry (List.mem_cons_of_mem _ hrest)
  · have hdistinct := hothers.distinct
    rw [List.map_cons, hknownId] at hdistinct
    rw [List.map_cons, hrecord.questionId]
    exact hdistinct
  · simpa using hothers.bounded
  · intro entry hentry
    rcases List.mem_cons.mp hentry with rfl | hrest
    · exact ⟨answerInteraction entry clock.ms, by simp, rfl, rfl, by
        rw [hrecord.askedAt]
        exact clock.isoString⟩
    · obtain ⟨interaction, hinteraction, hleft⟩ :=
        hothers.left entry (List.mem_cons_of_mem _ hrest)
      exact ⟨interaction, List.mem_append_left _ hinteraction, hleft⟩
  · intro interaction hinteraction
    rcases List.mem_append.mp hinteraction with hold | hadded
    · obtain ⟨entry, hentry, hsame⟩ := hothers.kept interaction hold
      rcases List.mem_cons.mp hentry with rfl | hrest
      · exact ⟨record, List.mem_cons_self, hrecord.questionId.trans (hknownId.symm.trans hsame)⟩
      · exact ⟨entry, List.mem_cons_of_mem _ hrest, hsame⟩
    · rw [List.mem_singleton.mp hadded]
      exact ⟨record, List.mem_cons_self, rfl⟩
  · intro interaction hinteraction
    rcases List.mem_append.mp hinteraction with hold | hadded
    · exact h.past interaction hold
    · rw [List.mem_singleton.mp hadded]
      exact ⟨clock.from_1970, le_rfl, clock.before_10000⟩
  · intro interaction hinteraction
    rcases List.mem_append.mp hinteraction with hold | hadded
    · exact h.untied interaction hold
    · rw [List.mem_singleton.mp hadded]
      simpa [answerInteraction, hsource, htarget] using huntied
  · intro other hother
    obtain ⟨hold, hne⟩ := mem_otherQuestions hother
    obtain ⟨hotherUntied, entry, hentry, hentryId, hentryKey⟩ := hothers.known other hold
    refine ⟨hotherUntied, entry, ?_, hentryId, hentryKey⟩
    rcases List.mem_cons.mp hentry with rfl | hrest
    · exact absurd (hentryId.symm.trans hknownId) hne
    · exact List.mem_cons_of_mem _ hrest

/-- An answer about another pair leaves what is counted alone. -/
lemma CountsFrom.answered_other {pairKey : String} {ms : ℤ} {count : ℕ}
    (h : CountsFrom platform history pairKey ms count)
    (hkept : HistoryKept platform clockMs interactions history pending)
    (hquestion : question ∈ pending) (hid : record.questionId = question.questionId)
    (hrecord : recordKey platform record = questionKey platform question)
    (hne : pairKey ≠ questionKey platform question) :
    CountsFrom platform (replaceBridgeRecord history record) pairKey ms count := by
  obtain ⟨known, -, hknownKey, hperm, hreplaced⟩ := hkept.replace_perm hquestion hid
  have hcounts := h.of_perm hperm
  refine CountsFrom.of_perm ⟨?_, fun entry hentry hkey hleft => ?_⟩ hreplaced.symm
  · obtain ⟨entry, hentry, hkey, hleft⟩ := hcounts.left
    rcases List.mem_cons.mp hentry with rfl | hrest
    · exact absurd (hkey.symm.trans hknownKey) hne
    · exact ⟨entry, List.mem_cons_of_mem _ hrest, hkey, hleft⟩
  · rcases List.mem_cons.mp hentry with rfl | hrest
    · exact absurd (hkey.symm.trans hrecord) hne
    · exact hcounts.counts entry (List.mem_cons_of_mem _ hrest) hkey hleft

/-- The count an answer starts from. -/
def priorDeferrals (platform : BridgePlatform) (history : List BridgeInteractionRecordV1)
    (question : BridgeQuestionV1) : ℕ :=
  getPairDeferralCount platform (readHistory platform history) question.sourceEntityKey
    question.targetEntityKey

/-- An answer that does not defer keeps what its pair counts. -/
lemma BackoffCounted.confirmed (h : BackoffCounted platform interactions history deferrals)
    (hkept : HistoryKept platform clock.ms interactions history pending)
    (hquestion : question ∈ pending) (hrecord : AnswerRecord platform question clock.iso record)
    (hprior : priorDeferrals platform history question ≤ record.deferralCount) :
    BackoffCounted platform (interactions ++ [answerInteraction record clock.ms])
      (replaceBridgeRecord history record) deferrals where
  given deferral hdeferral := List.mem_append_left _ (h.given deferral hdeferral)
  remembered pairKey deferral hlast hasked := by
    obtain ⟨count, hcooldown, hcounts⟩ := h.remembered pairKey deferral hlast hasked.of_append
    refine ⟨count, hcooldown, ?_⟩
    obtain ⟨huntied, -⟩ := hkept.known question hquestion
    obtain ⟨hsource, htarget⟩ := recordKey_answer huntied hrecord
    have hrecordKey : recordKey platform record = questionKey platform question := by
      rw [recordKey, hsource, htarget]
      rfl
    by_cases hkey : pairKey = questionKey platform question
    · obtain ⟨known, -, -, hperm, hreplaced⟩ := hkept.replace_perm hquestion hrecord.questionId
      have hcount : count ≤ record.deferralCount :=
        (hkept.count_le (hkey ▸ hcounts)).trans hprior
      have hpast := (hkept.past deferral (h.given deferral (of_lastDeferral hlast).1)).2.1
      refine CountsFrom.of_perm ⟨?_, fun entry hentry hentryKey hleft => ?_⟩ hreplaced.symm
      · refine ⟨record, List.mem_cons_self, hrecordKey.trans hkey.symm, clock.ms, ?_, hpast⟩
        rw [hrecord.askedAt]
        exact clock.parses
      · rcases List.mem_cons.mp hentry with rfl | hrest
        · exact hcount
        · exact (hcounts.of_perm hperm).counts entry (List.mem_cons_of_mem _ hrest) hentryKey hleft
    · exact hcounts.answered_other hkept hquestion hrecord.questionId hrecordKey hkey
  grows := h.grows

lemma lastDeferral_append_self {added : BridgeInteraction} :
    lastDeferral platform (deferrals ++ [added]) (interactionKey platform added) = some added := by
  rw [lastDeferral, List.filter_append, List.filter_singleton]
  simp

lemma lastDeferral_append_other {added : BridgeInteraction} {pairKey : String}
    (h : interactionKey platform added ≠ pairKey) :
    lastDeferral platform (deferrals ++ [added]) pairKey =
      lastDeferral platform deferrals pairKey := by
  rw [lastDeferral, List.filter_append, List.filter_singleton]
  simp [h, lastDeferral]

/-- Every deferral of a pair is its last one, or gave a shorter cooldown than that. -/
lemma BackoffCounted.last_longest (h : BackoffCounted platform interactions history deferrals)
    {deferral : BridgeInteraction} (hdeferral : deferral ∈ deferrals) :
    ∃ last ∈ lastDeferral platform deferrals (interactionKey platform deferral),
      deferral = last ∨ ∃ first ∈ cooldownMs platform deferral,
        ∃ second ∈ cooldownMs platform last, first < second := by
  have hmem : deferral ∈ deferrals.filter fun other =>
      interactionKey platform other = interactionKey platform deferral := by
    simpa using hdeferral
  obtain ⟨before, last, hsplit⟩ := (List.eq_nil_or_concat' _).resolve_left (List.ne_nil_of_mem hmem)
  have hgrows := h.grows.sublist (List.filter_sublist
    (p := fun other => interactionKey platform other = interactionKey platform deferral))
  have hlast : last ∈ lastDeferral platform deferrals (interactionKey platform deferral) := by
    rw [lastDeferral, hsplit]
    simp
  refine ⟨last, hlast, ?_⟩
  rw [hsplit] at hmem hgrows
  rcases List.mem_append.mp hmem with hbefore | hsame
  · exact Or.inr ((List.pairwise_append.mp hgrows).2.2 deferral hbefore last (by simp)
      (of_lastDeferral hlast).2.symm)
  · exact Or.inl (List.mem_singleton.mp hsame)

lemma cooldownMs_of_days {interaction : BridgeInteraction} {days : ℤ}
    (hms : interaction.ms = clock.ms)
    (hadd : addDays platform clock.iso days = some interaction.cooldownUntil) :
    cooldownMs platform interaction = some (days * DAY_MS) := by
  rw [cooldownMs, parse_addDays clock.parses hadd, hms]
  simp

/-- A deferral counts one more than the last one, if no question came in between. -/
lemma BackoffCounted.deferred (h : BackoffCounted platform interactions history deferrals)
    (hkept : HistoryKept platform clock.ms interactions history pending)
    (hquestion : question ∈ pending) (hrecord : AnswerRecord platform question clock.iso record)
    (hlater : AnsweredLater platform interactions question clock.ms)
    (hasked : ∀ deferral ∈ lastDeferral platform deferrals (questionKey platform question),
      AskedBefore platform interactions deferral)
    (hcount : record.deferralCount = priorDeferrals platform history question + 1)
    (hadd : addDays platform clock.iso
      (DEFAULT_BRIDGE_COOLDOWN_DAYS * (1 + record.deferralCount)) = some record.cooldownUntil) :
    BackoffCounted platform (interactions ++ [answerInteraction record clock.ms])
      (replaceBridgeRecord history record)
      (deferrals ++ [answerInteraction record clock.ms]) := by
  obtain ⟨huntied, -⟩ := hkept.known question hquestion
  obtain ⟨hsource, htarget⟩ := recordKey_answer huntied hrecord
  have hrecordKey : recordKey platform record = questionKey platform question := by
    rw [recordKey, hsource, htarget]
    rfl
  have hcooldown : cooldownMs platform (answerInteraction record clock.ms) =
      some (DEFAULT_BRIDGE_COOLDOWN_DAYS * (1 + record.deferralCount) * DAY_MS) :=
    cooldownMs_of_days rfl hadd
  have hadded : interactionKey platform (answerInteraction record clock.ms) =
      questionKey platform question := hrecordKey
  refine ⟨?_, ?_, ?_⟩
  · intro deferral hdeferral
    rcases List.mem_append.mp hdeferral with hold | hnew
    · exact List.mem_append_left _ (h.given deferral hold)
    · exact List.mem_append_right _ hnew
  · intro pairKey deferral hlast hbefore
    by_cases hkey : questionKey platform question = pairKey
    · -- the new deferral is the last of its pair, and all other records are older
      rw [← hkey, ← hadded, lastDeferral_append_self] at hlast
      obtain rfl := Option.some.inj hlast
      refine ⟨record.deferralCount, hcooldown, ?_⟩
      obtain ⟨known, -, -, hperm, hreplaced⟩ := hkept.replace_perm hquestion hrecord.questionId
      refine CountsFrom.of_perm ⟨?_, fun entry hentry hentryKey hleft => ?_⟩ hreplaced.symm
      · refine ⟨record, List.mem_cons_self, hrecordKey.trans hkey, clock.ms, ?_, le_rfl⟩
        rw [hrecord.askedAt]
        exact clock.parses
      · rcases List.mem_cons.mp hentry with rfl | hrest
        · exact le_rfl
        · obtain ⟨hold, hne⟩ := List.mem_filter.mp hrest
          obtain ⟨interaction, hinteraction, hid, hinteractionKey, htext⟩ := hkept.left entry hold
          have holder := hlater interaction hinteraction
            (hinteractionKey.trans (hentryKey.trans hkey.symm)) (by rw [hid]; simpa using hne)
          obtain ⟨entryMs, hparse, hms⟩ := hleft
          have hsame : entryMs = interaction.ms :=
            Option.some.inj (hparse.symm.trans (platform.dateParse_isoString _ _ htext))
          exact absurd (hsame ▸ hms) (not_le.mpr holder)
    · rw [lastDeferral_append_other (hadded.trans_ne hkey)] at hlast
      obtain ⟨count, hcooldownOld, hcounts⟩ := h.remembered pairKey deferral hlast hbefore.of_append
      exact ⟨count, hcooldownOld, hcounts.answered_other hkept hquestion hrecord.questionId
        hrecordKey (Ne.symm hkey)⟩
  · refine List.pairwise_append.mpr ⟨h.grows, List.pairwise_singleton _ _, ?_⟩
    intro earlier hearlier later hlaterMem hkey
    obtain rfl := List.mem_singleton.mp hlaterMem
    obtain ⟨last, hlast, hlongest⟩ := h.last_longest hearlier
    rw [hkey, hadded] at hlast
    obtain ⟨count, hlastCooldown, hcounts⟩ :=
      h.remembered _ last hlast (hasked last hlast)
    have hle : count ≤ priorDeferrals platform history question := hkept.count_le hcounts
    have hlonger : DEFAULT_BRIDGE_COOLDOWN_DAYS * (1 + (count : ℤ)) * DAY_MS <
        DEFAULT_BRIDGE_COOLDOWN_DAYS * (1 + (record.deferralCount : ℤ)) * DAY_MS := by
      simp only [DEFAULT_BRIDGE_COOLDOWN_DAYS, DAY_MS]
      omega
    rcases hlongest with rfl | ⟨first, hfirst, second, hsecond, hshorter⟩
    · exact ⟨_, hlastCooldown, _, hcooldown, hlonger⟩
    · rw [Option.mem_unique hsecond hlastCooldown] at hshorter
      exact ⟨first, hfirst, _, hcooldown, hshorter.trans hlonger⟩

end Answered

/-! ## Runs -/

/-- What an answer counts, and how long the cooldown of a deferral is. -/
structure CountedAnswer (platform : BridgePlatform) (history : List BridgeInteractionRecordV1)
    (question : BridgeQuestionV1) (defers : Bool) (observedAt : String)
    (record : BridgeInteractionRecordV1) : Prop where
  kept : getPairDeferralCount platform (readHistory platform history)
      (normalizeEntityPair platform question.sourceEntityKey question.targetEntityKey).1
      (normalizeEntityPair platform question.sourceEntityKey question.targetEntityKey).2 ≤
    record.deferralCount
  deferral : defers = true → record.deferralCount =
      getPairDeferralCount platform (readHistory platform history)
        (normalizeEntityPair platform question.sourceEntityKey question.targetEntityKey).1
        (normalizeEntityPair platform question.sourceEntityKey question.targetEntityKey).2 + 1 ∧
    addDays platform observedAt
      (DEFAULT_BRIDGE_COOLDOWN_DAYS * (1 + record.deferralCount)) = some record.cooldownUntil

lemma countedAnswer_of_resolve {input : ResolveBridgeAnswerInputV1}
    {resolved : ResolveBridgeAnswerResultV1} {defers : Bool}
    (hdefault : input.bridgeCooldownDays = none)
    (hdefers : defers = true → input.answer = .deferred)
    (hresolve : resolveBridgeQuestionAnswerV1 platform sha input = some resolved) :
    CountedAnswer platform input.recentBridgeHistory input.question defers input.observedAt
      resolved.historyRecord := by
  have hcooldown : clampDays input.bridgeCooldownDays DEFAULT_BRIDGE_COOLDOWN_DAYS =
      DEFAULT_BRIDGE_COOLDOWN_DAYS := by rw [hdefault]; rfl
  unfold resolveBridgeQuestionAnswerV1 at hresolve
  split at hresolve
  · cases hresolve
  · dsimp only at hresolve
    rw [hcooldown] at hresolve
    split at hresolve
    · rename_i hanswer
      obtain ⟨cooldownUntil, hadd, hresult⟩ := Option.bind_eq_some_iff.mp hresolve
      cases hresult
      refine ⟨Nat.le_succ _, fun hdefer => ?_⟩
      rw [hdefers hdefer] at hanswer
      cases hanswer
    · rename_i relationType hanswer
      obtain ⟨confirmed, -, hrest⟩ := Option.bind_eq_some_iff.mp hresolve
      obtain ⟨cooldownUntil, hadd, hresult⟩ := Option.bind_eq_some_iff.mp hrest
      cases hresult
      refine ⟨le_rfl, fun hdefer => ?_⟩
      rw [hdefers hdefer] at hanswer
      cases hanswer
    · obtain ⟨cooldownUntil, hadd, hresult⟩ := Option.bind_eq_some_iff.mp hresolve
      cases hresult
      exact ⟨Nat.le_succ _, fun _ => ⟨rfl, hadd⟩⟩

lemma bridgeAnswer_of_defers {params : BridgeActionParams} {answerKind : String}
    (hkind : toText params.answerKind = some answerKind) (hdefers : params.defers = true) :
    bridgeAnswer answerKind params.relationType = .deferred := by
  rw [BridgeActionParams.defers, hkind, Option.any_some, decide_eq_true_eq] at hdefers
  rw [bridgeAnswer, if_neg hdefers]

lemma countedAnswer_of_execute {stores : BridgeStores} {params : BridgeActionParams}
    {timingDefers : Bool} {taskId observedAt : String} {result : BridgeActionResult}
    (hexecute : executeBridgeAction platform sha stores params timingDefers taskId observedAt =
      some result) {question : BridgeQuestionV1} {record : BridgeInteractionRecordV1}
    {denied : Option BridgeConflictCodeV1}
    (houtcome : result.outcome = .resolved question record denied) :
    CountedAnswer platform
      (normalizeRuntimeState platform observedAt stores.runtimeState).pulseState.bridgeHistory
      question params.defers observedAt record := by
  unfold executeBridgeAction at hexecute
  dsimp only at hexecute
  split at hexecute
  · rename_i answerKind hkind
    unfold answerBridgeQuestion at hexecute
    split at hexecute
    · cases hexecute
      cases houtcome
    · rename_i answered hanswered
      simp only [Option.bind_eq_bind, Option.bind_eq_some_iff] at hexecute
      obtain ⟨resolved, hresolve, pulseState, -, next, -, hresult⟩ := hexecute
      rw [← Option.some.inj hresult] at houtcome
      cases houtcome
      have hcounted := countedAnswer_of_resolve rfl
        (fun hdefers => bridgeAnswer_of_defers hkind hdefers) hresolve
      dsimp only at hcounted
      exact hcounted
  · unfold emitBridgeQuestion at hexecute
    split at hexecute
    · dsimp only at hexecute
      obtain ⟨decision, -, hrest⟩ := Option.bind_eq_some_iff.mp hexecute
      split at hrest
      · cases hrest
        cases houtcome
      · split at hrest
        · rw [Option.bind_eq_bind, Option.bind_eq_some_iff] at hrest
          obtain ⟨next, -, hresult⟩ := hrest
          rw [← Option.some.inj hresult] at houtcome
          cases houtcome
        · simp only [Option.bind_eq_bind, Option.bind_eq_some_iff] at hrest
          obtain ⟨pulseState, -, next, -, hresult⟩ := hrest
          rw [← Option.some.inj hresult] at houtcome
          cases houtcome
    · cases hexecute
      cases houtcome


variable {run next : BackoffRun} {clock : WallClock platform}

/-- What a run keeps. -/
structure BackoffKept (platform : BridgePlatform) (run : BackoffRun) : Prop where
  history : HistoryKept platform run.bridge.clockMs run.bridge.interactions
    run.bridge.stores.runtimeState.pulseState.bridgeHistory
    run.bridge.stores.runtimeState.pendingBridgeQuestions
  counted : BackoffCounted platform run.bridge.interactions
    run.bridge.stores.runtimeState.pulseState.bridgeHistory run.deferrals

lemma backoffKept_start (graph : EntityGraphV1) (stack : ConversationStackV1) (updatedAt : String)
    (clockMs : ℤ) : BackoffKept platform (BackoffRun.start graph stack updatedAt clockMs) where
  history := by
    constructor <;>
      simp [BackoffRun.start, BridgeRun.start, createDefaultPulseState]
  counted := by
    constructor <;> simp [BackoffRun.start, lastDeferral]

lemma BackoffKept.loaded (h : BackoffKept platform run) (hclock : run.bridge.clockMs ≤ clock.ms) :
    HistoryKept platform clock.ms run.bridge.interactions
        (run.bridge.loaded platform clock).pulseState.bridgeHistory
        (run.bridge.loaded platform clock).pendingBridgeQuestions ∧
      BackoffCounted platform run.bridge.interactions
        (run.bridge.loaded platform clock).pulseState.bridgeHistory run.deferrals := by
  have hlater := h.history.later hclock
  rw [BridgeRun.loaded, normalizeRuntimeState, normalizePulseState]
  dsimp only
  exact ⟨hlater.normalize, h.counted.of_perm hlater.bound_perm.symm⟩

/-- What is saved is what the next state holds. -/
lemma backoffKept_of_saved {stores : BridgeStores}
    (hsaved : SavedBridge platform history pending stores)
    (hhistory : HistoryKept platform clockMs interactions history pending)
    (hcounted : BackoffCounted platform interactions history deferrals) :
    BackoffKept platform ⟨⟨stores, clockMs, interactions⟩, deferrals⟩ where
  history := by
    rw [hsaved.history, hsaved.pending]
    exact hhistory.normalize
  counted := by
    rw [hsaved.history]
    exact hcounted.of_perm hhistory.bound_perm.symm

/-- The history as it is bounded before it is saved. -/
lemma HistoryKept.bound (h : HistoryKept platform clockMs interactions history pending) :
    HistoryKept platform clockMs interactions (boundBridgeHistory platform history) pending :=
  h.of_perm (boundBridgeHistory_perm platform h.bounded).symm

lemma BackoffCounted.bound (h : BackoffCounted platform interactions history deferrals)
    (hbound : history.length ≤ MAX_BRIDGE_HISTORY) :
    BackoffCounted platform interactions (boundBridgeHistory platform history) deferrals :=
  h.of_perm (boundBridgeHistory_perm platform hbound).symm

lemma defers_eq_false {params : BridgeActionParams} (h : toText params.answerKind = none) :
    params.defers = false := by
  rw [BridgeActionParams.defers, h, Option.any_none]

lemma BackoffKept.of_effect {params : BridgeActionParams} {timingDefers : Bool} {taskId : String}
    {result : BridgeActionResult} (h : BackoffKept platform run)
    (hclock : run.bridge.clockMs ≤ clock.ms)
    (hkeeps : KeepsBackoff platform sha run (.action params timingDefers taskId clock))
    (hexecute : run.bridge.execute platform sha params timingDefers taskId clock = some result) :
    BackoffKept platform
      { bridge :=
          { stores := result.stores
            clockMs := clock.ms
            interactions :=
              run.bridge.interactions ++ (result.outcome.interaction clock.ms).toList }
        deferrals := run.deferrals ++
          if params.defers then (result.outcome.interaction clock.ms).toList else [] } := by
  obtain ⟨hhistory, hcounted⟩ := h.loaded hclock
  have hcount : ∀ question record denied, result.outcome = .resolved question record denied →
      CountedAnswer platform (run.bridge.loaded platform clock).pulseState.bridgeHistory question
        params.defers clock.iso record :=
    fun _ _ _ houtcome => countedAnswer_of_execute hexecute houtcome
  have heffect : BridgeEffect platform sha run.bridge.stores (run.bridge.loaded platform clock)
      params clock.iso result := bridgeEffect_of_execute hexecute
  cases heffect with
  | blocked hnone =>
      simp only [BridgeOutcome.interaction, Option.toList_none, List.append_nil, ite_self]
      exact ⟨h.history.later hclock, h.counted⟩
  | deferred question next hkind hsaved =>
      simp only [BridgeOutcome.interaction, Option.toList_none, List.append_nil, ite_self]
      exact backoffKept_of_saved hsaved hhistory hcounted
  | emitted question next first second rest hkind hrefs happroved hsaved =>
      obtain ⟨hroom, huntied, hnew⟩ := hkeeps.1 hkind _ (askedPair_of_refs hrefs)
      dsimp only at hroom huntied hnew
      have hid := happroved.questionId
      rw [(normalizeEntityPair_of_lt huntied).1] at hid
      rw [← hid] at hnew
      rw [replaceBridgeRecord_of_new hnew] at hsaved
      have hasked := hhistory.asked happroved huntied hroom hnew
      have hcountedAsked := hcounted.asked hhistory hnew
        (runtimeThreadKey (run.bridge.loaded platform clock).conversationStack params.threadKey
          BRIDGE_THREAD_KEY)
      simp only [defers_eq_false hkind, Bool.false_eq_true, if_false, List.append_nil]
      exact backoffKept_of_saved hsaved hasked.bound (hcountedAsked.bound hasked.bounded)
  | resolved question record denied next hkind hquestion hrecord hsaved =>
      have hpending : question ∈ (run.bridge.loaded platform clock).pendingBridgeQuestions :=
        mem_of_answeredQuestion hquestion
      obtain ⟨hlater, hbefore⟩ := hkeeps.2 hkind question hquestion
      have hanswered := hhistory.answered hpending hrecord
      obtain ⟨huntied, -⟩ := hhistory.known question hpending
      obtain ⟨hkept, hdeferral⟩ := hcount question record denied rfl
      rw [(normalizeEntityPair_of_lt huntied).1] at hkept hdeferral
      by_cases hdefers : params.defers = true
      · obtain ⟨hnext, hadd⟩ := hdeferral hdefers
        have hcountedAnswer := hcounted.deferred hhistory hpending hrecord hlater (hbefore hdefers)
          hnext hadd
        rw [if_pos hdefers]
        exact backoffKept_of_saved hsaved hanswered.bound (hcountedAnswer.bound hanswered.bounded)
      · have hcountedAnswer := hcounted.confirmed hhistory hpending hrecord hkept
        rw [if_neg hdefers, List.append_nil]
        exact backoffKept_of_saved hsaved hanswered.bound (hcountedAnswer.bound hanswered.bounded)

lemma BackoffKept.step (h : BackoffKept platform run) {event : BridgeEvent platform}
    (hkeeps : KeepsBackoff platform sha run event)
    (hstep : backoffStep platform sha run event = some next) : BackoffKept platform next := by
  obtain ⟨bridge, hbridge, rfl⟩ := Option.map_eq_some_iff.mp hstep
  cases event with
  | action params timingDefers taskId clock =>
      rw [bridgeStep] at hbridge
      split_ifs at hbridge with hback
      have hclock : run.bridge.clockMs ≤ clock.ms := not_lt.mp hback
      cases hexecute : run.bridge.execute platform sha params timingDefers taskId clock with
      | none =>
          rw [hexecute] at hbridge
          obtain rfl := Option.some.inj hbridge
          simp only [List.drop_length, addedDeferrals, ite_self, List.append_nil]
          exact ⟨h.history.later hclock, h.counted⟩
      | some result =>
          rw [hexecute] at hbridge
          obtain rfl := Option.some.inj hbridge
          simp only [List.drop_left, addedDeferrals]
          exact h.of_effect hclock hkeeps hexecute
  | elsewhere graph stack =>
      rw [bridgeStep] at hbridge
      obtain rfl := Option.some.inj hbridge
      simp only [addedDeferrals, List.append_nil]
      exact ⟨h.history, h.counted⟩

/-- Untied pairs have one key. -/
lemma interactionKey_of_pair {first second : BridgeInteraction}
    (hfirst : platform.locale.le first.targetEntityKey first.sourceEntityKey = false)
    (hsecond : platform.locale.le second.targetEntityKey second.sourceEntityKey = false)
    (hpair : first.pair = second.pair) :
    interactionKey platform first = interactionKey platform second := by
  rcases Sym2.eq_iff.mp hpair with ⟨hsource, htarget⟩ | ⟨hsource, htarget⟩
  · rw [interactionKey, hsource, htarget]
    rfl
  · rw [hsource, htarget] at hfirst
    rcases platform.locale.total second.sourceEntityKey second.targetEntityKey with h | h
    · rw [hfirst] at h
      cases h
    · rw [hsecond] at h
      cases h

/-- The back-off grows over every run in which a pair is not asked about between two deferrals
and the history holds what they are counted from. -/
theorem backoff_grows_of_run {graph : EntityGraphV1} {stack : ConversationStackV1}
    {updatedAt : String} {events : List (BridgeEvent platform)} {final : BackoffRun}
    (hkeeps : Along (backoffStep platform sha) (KeepsBackoff platform sha)
      (BackoffRun.start graph stack updatedAt clockMs) events)
    (hrun : Lib.run (backoffStep platform sha) (BackoffRun.start graph stack updatedAt clockMs)
      events = some final) : BackoffGrows platform final.deferrals := by
  have hkept : BackoffKept platform final :=
    invariant_of_along (fun _ _ _ h hcondition hstep => h.step hcondition hstep)
      (backoffKept_start graph stack updatedAt clockMs) hkeeps hrun
  refine hkept.counted.grows.imp_of_mem fun hearlier hlater hgrows hpair => ?_
  have huntied := fun deferral hdeferral =>
    hkept.history.untied deferral (hkept.counted.given deferral hdeferral)
  obtain ⟨first, hfirst, second, hsecond, hlonger⟩ :=
    hgrows (interactionKey_of_pair (huntied _ hearlier) (huntied _ hlater) hpair)
  exact ⟨first, hfirst, second, hsecond, Or.inl hlonger⟩

/-! ## Two questions about one pair -/

/-- The days on which two questions of one pair are asked and put off. -/
def pairPlatform : BridgePlatform :=
  .ofDates [("2026-01-01T00:00:00.000Z", 1767225600000),
    ("2026-01-15T00:00:00.000Z", 1768435200000),
    ("2026-01-30T00:00:00.000Z", 1769731200000),
    ("2026-01-31T00:00:00.000Z", 1769817600000),
    ("2026-02-01T00:00:00.000Z", 1769904000000),
    ("2026-02-13T00:00:00.000Z", 1770940800000),
    ("2026-02-28T00:00:00.000Z", 1772236800000),
    ("2026-03-15T00:00:00.000Z", 1773532800000)] (by decide)

def pairClock (iso : String) (ms : ℤ) (isoString : pairPlatform.isoString ms = some iso)
    (from_1970 : 0 ≤ ms) (before_10000 : ms < YEAR_10000_MS) : WallClock pairPlatform :=
  ⟨iso, ms, isoString, from_1970, before_10000⟩

def pairAsk (threadKey : String) (clock : WallClock pairPlatform) : BridgeEvent pairPlatform :=
  .action
    { answerKind := none
      questionId := none
      relationType := none
      entityRefs := [some "entity_acme", some "entity_atlas"]
      evidenceRefs := []
      threadKey := some threadKey } false "task_1" clock

def pairDefer (clock : WallClock pairPlatform) : BridgeEvent pairPlatform :=
  .action deferParams false "task_1" clock

/-- The pair is asked about in two conversations before either question is put off. -/
def bothPutOff : List (BridgeEvent pairPlatform) :=
  [pairAsk "team" (pairClock "2026-01-01T00:00:00.000Z" 1767225600000 (by decide)
      newYear.from_1970 newYear.before_10000),
    pairAsk "lunch" (pairClock "2026-01-30T00:00:00.000Z" 1769731200000 (by decide)
      endOfJanuary.from_1970 endOfJanuary.before_10000),
    pairDefer (pairClock "2026-01-31T00:00:00.000Z" 1769817600000 (by decide) (by decide)
      (by decide)),
    pairDefer (pairClock "2026-02-01T00:00:00.000Z" 1769904000000 (by decide) (by decide)
      (by decide))]

def pairStart : BackoffRun :=
  BackoffRun.start (createEmptyEntityGraphV1 "2026-01-01T00:00:00.000Z")
    (createEmptyConversationStackV1 "2026-01-01T00:00:00.000Z") "2026-01-01T00:00:00.000Z"
    1767225600000

theorem backoff_grows_of_bothPutOff :
    ∃ final, Lib.run (backoffStep pairPlatform teamSha) pairStart bothPutOff = some final ∧
      final.deferrals.length = 2 ∧ BackoffGrows pairPlatform final.deferrals := by
  have hrun : (Lib.run (backoffStep pairPlatform teamSha) pairStart bothPutOff).map
        (fun final => final.deferrals.length) = some 2 ∧
      Along (backoffStep pairPlatform teamSha) (KeepsBackoff pairPlatform teamSha)
        pairStart bothPutOff := by decide +kernel
  obtain ⟨hdeferrals, hkeeps⟩ := hrun
  obtain ⟨final, hrun, hlength⟩ := Option.map_eq_some_iff.mp hdeferrals
  exact ⟨final, hrun, hlength, backoff_grows_of_run hkeeps hrun⟩

/-- A pair is put off, asked about again when its cooldown has passed, and put off again. -/
def putOffTwice : List (BridgeEvent teamPlatform) :=
  [teamAsk "entity_acme" "entity_atlas" "team" newYear,
    .action deferParams false "task_1" newYear,
    teamAsk "entity_acme" "entity_atlas" "lunch" endOfJanuary,
    .action deferParams false "task_1" endOfJanuary]

/-- Both times the cooldown is 28 days: the second question hides the first deferral. -/
theorem backoff_forgotten :
    ∃ final, Lib.run (backoffStep teamPlatform teamSha) pairStart putOffTwice = some final ∧
      ¬ BackoffGrows teamPlatform final.deferrals := by
  have hcooldowns : (Lib.run (backoffStep teamPlatform teamSha) pairStart putOffTwice).map
      (fun final => final.deferrals.map fun deferral =>
        ((deferral.sourceEntityKey, deferral.targetEntityKey),
          cooldownMs teamPlatform deferral)) =
      some [(("entity_acme", "entity_atlas"), some (28 * DAY_MS)),
        (("entity_acme", "entity_atlas"), some (28 * DAY_MS))] := by
    decide +kernel
  obtain ⟨final, hrun, hdeferrals⟩ := Option.map_eq_some_iff.mp hcooldowns
  refine ⟨final, hrun, fun hgrows => ?_⟩
  obtain ⟨first, rest, hfirst, hfirstOf, hrest⟩ := List.map_eq_cons_iff.mp hdeferrals
  obtain ⟨second, others, hsecond, hsecondOf, -⟩ := List.map_eq_cons_iff.mp hrest
  obtain ⟨hfirstPair, hfirstMs⟩ := Prod.mk.inj hfirstOf
  obtain ⟨hsecondPair, hsecondMs⟩ := Prod.mk.inj hsecondOf
  have hsame : first.pair = second.pair := by
    obtain ⟨hsource, htarget⟩ := Prod.mk.inj (hfirstPair.trans hsecondPair.symm)
    rw [BridgeInteraction.pair, hsource, htarget]
    rfl
  rw [hfirst, hsecond] at hgrows
  obtain ⟨earlier, hearlier, later, hlater, hgrown⟩ :=
    (List.pairwise_cons.mp hgrows).1 second List.mem_cons_self hsame
  rw [Option.mem_unique hearlier hfirstMs, Option.mem_unique hlater hsecondMs] at hgrown
  exact absurd hgrown (by decide)

end AgentBigBrain.Core
