import AgentBigBrain.Core.BridgeRuns
import AgentBigBrain.Core.EntityGraphRuns

/-!
# The limits of bridge questions over runs

A pair is not asked about before its cooldown has passed, and a conversation is not asked more
often than its cap, as long as the bridge history holds what the limits are counted from.
-/
namespace AgentBigBrain.Core

open AgentBigBrain.Js AgentBigBrain.Lib

variable (platform : BridgePlatform) (sha : Sha256)

/-! ## The limits -/

/-- Is the cooldown over at the time? -/
def CooledDown (cooldownUntil : String) (ms : ℤ) : Prop :=
  ∃ untilMs ∈ platform.dateParse cooldownUntil, untilMs < ms

def BridgeInteraction.pair (interaction : BridgeInteraction) : Sym2 String :=
  s(interaction.sourceEntityKey, interaction.targetEntityKey)

/-- The questions asked in a conversation. -/
def askedIn (conversationKey : String) (interactions : List BridgeInteraction) :
    List BridgeInteraction :=
  interactions.filter fun interaction =>
    interaction.asked && decide (interaction.conversationKey = conversationKey)

structure BridgeLimits (interactions : List BridgeInteraction) : Prop where
  cooldowns : interactions.Pairwise fun earlier later =>
    later.asked = true → earlier.pair = later.pair →
      CooledDown platform earlier.cooldownUntil later.ms
  perConversation : ∀ conversationKey,
    ((askedIn conversationKey interactions).length : ℤ) ≤ DEFAULT_BRIDGE_MAX_PER_CONVERSATION

/-- What the limits of a new question are counted from is there, and stays there: the history
has room, counts the conversation by the key it is asked under, and has no record under the id
of the question; and the two entities are not tied, so that a pair has one order. -/
def QuestionRemembered (loaded : Stage686RuntimeStateSnapshot) (first second : String)
    (threadKey observedAt : String) : Prop :=
  toConversationKey (some threadKey) = threadKey ∧
    loaded.pulseState.bridgeHistory.length < MAX_BRIDGE_HISTORY ∧
    platform.locale.le second first = false ∧
    ∀ record ∈ loaded.pulseState.bridgeHistory, record.questionId ≠
      buildQuestionId platform sha first second ("bridge_" ++ first ++ "_" ++ second) observedAt

instance (loaded : Stage686RuntimeStateSnapshot) (first second threadKey observedAt : String) :
    Decidable (QuestionRemembered platform sha loaded first second threadKey observedAt) :=
  inferInstanceAs (Decidable (_ ∧ _ ∧ _ ∧ ∀ record ∈ _, _))

def KeepsLimits (run : BridgeRun) : BridgeEvent platform → Prop
  | .action params _ _ clock =>
      toText params.answerKind = none → ∀ pair ∈ askedPair platform params.entityRefs,
        QuestionRemembered platform sha (run.loaded platform clock) pair.1 pair.2
          (runtimeThreadKey (run.loaded platform clock).conversationStack params.threadKey
            BRIDGE_THREAD_KEY) clock.iso
  | .elsewhere _ _ => True

instance (run : BridgeRun) : ∀ event : BridgeEvent platform,
    Decidable (KeepsLimits platform sha run event)
  | .action params _ _ clock => inferInstanceAs (Decidable (_ →
      ∀ pair ∈ askedPair platform params.entityRefs,
      QuestionRemembered platform sha (run.loaded platform clock) pair.1 pair.2
        (runtimeThreadKey (run.loaded platform clock).conversationStack params.threadKey
          BRIDGE_THREAD_KEY) clock.iso))
  | .elsewhere _ _ => inferInstanceAs (Decidable True)

/-! ## What the history remembers -/

def recordPair (record : BridgeInteractionRecordV1) : Sym2 String :=
  s(record.sourceEntityKey, record.targetEntityKey)

def recordsIn (conversationKey : String) (history : List BridgeInteractionRecordV1) :
    List BridgeInteractionRecordV1 :=
  history.filter fun record => record.conversationKey = conversationKey

/-- The one text is no later than the other. -/
def NoLater (text other : String) : Prop :=
  ∃ ms ∈ platform.dateParse text, ∃ otherMs ∈ platform.dateParse other, ms ≤ otherMs

/-- The record of a pending question. -/
structure KnownQuestion (clockMs : ℤ) (question : BridgeQuestionV1)
    (record : BridgeInteractionRecordV1) : Prop where
  questionId : record.questionId = question.questionId
  conversationKey : record.conversationKey = toConversationKey question.threadKey
  pair : recordPair record = s(question.sourceEntityKey, question.targetEntityKey)
  cooldown : ∃ untilMs ∈ platform.dateParse record.cooldownUntil,
    untilMs ≤ clockMs + DEFAULT_BRIDGE_COOLDOWN_DAYS * DAY_MS

/-- What the history of a run holds while nothing is forgotten. -/
structure BridgeMemory (clockMs : ℤ) (interactions : List BridgeInteraction)
    (history : List BridgeInteractionRecordV1) (pending : List BridgeQuestionV1) : Prop where
  dated : ∀ record ∈ history, isDatedRecord platform record = true
  distinct : (history.map (·.questionId)).Nodup
  bounded : history.length ≤ MAX_BRIDGE_HISTORY
  remembered : ∀ interaction ∈ interactions, ∃ record ∈ history,
    recordPair record = interaction.pair ∧
      NoLater platform interaction.cooldownUntil record.cooldownUntil
  counted : ∀ conversationKey,
    (askedIn conversationKey interactions).length ≤ (recordsIn conversationKey history).length
  known : ∀ question ∈ pending, ∃ record ∈ history,
    KnownQuestion platform clockMs question record

variable {platform} {sha} {clockMs : ℤ} {interactions : List BridgeInteraction}
  {history other : List BridgeInteractionRecordV1} {pending : List BridgeQuestionV1}

lemma BridgeMemory.of_perm (h : BridgeMemory platform clockMs interactions history pending)
    (hperm : history.Perm other) : BridgeMemory platform clockMs interactions other pending where
  dated record hrecord := h.dated record (hperm.mem_iff.mpr hrecord)
  distinct := (hperm.map _).nodup_iff.mp h.distinct
  bounded := hperm.length_eq ▸ h.bounded
  remembered interaction hmem := by
    obtain ⟨record, hrecord, hrest⟩ := h.remembered interaction hmem
    exact ⟨record, hperm.mem_iff.mp hrecord, hrest⟩
  counted conversationKey := by
    rw [recordsIn, ← (hperm.filter _).length_eq]
    exact h.counted conversationKey
  known question hquestion := by
    obtain ⟨record, hrecord, hknown⟩ := h.known question hquestion
    exact ⟨record, hperm.mem_iff.mp hrecord, hknown⟩

lemma retainLast_of_length_le {α : Type*} {cap : ℕ} {xs : List α} (h : xs.length ≤ cap) :
    retainLast cap xs = xs := by
  rw [retainLast, Nat.sub_eq_zero_of_le h, List.drop_zero]

variable (platform) in
/-- Within its bound the history is only sorted. -/
lemma boundBridgeHistory_perm (hbound : history.length ≤ MAX_BRIDGE_HISTORY) :
    (boundBridgeHistory platform history).Perm history := by
  rw [boundBridgeHistory, retainLast_of_length_le (by rwa [Comparator.length_sort])]
  exact Comparator.sort_perm _ _

lemma filter_dated (hdated : ∀ record ∈ history, isDatedRecord platform record = true) :
    history.filter (isDatedRecord platform) = history :=
  List.filter_eq_self.mpr hdated

lemma mem_normalizePendingBridgeQuestions {question : BridgeQuestionV1}
    (hmem : question ∈ normalizePendingBridgeQuestions platform pending) :
    ∃ source ∈ pending, question = normalizePendingBridgeQuestion platform source := by
  have hsorted := List.mem_of_mem_drop hmem
  obtain ⟨source, hsource, rfl⟩ := List.mem_map.mp (Comparator.mem_sort _ |>.mp hsorted)
  exact ⟨source, List.mem_of_mem_filter hsource, rfl⟩

/-- A save or a load of the state forgets nothing. -/
lemma BridgeMemory.normalize (h : BridgeMemory platform clockMs interactions history pending) :
    BridgeMemory platform clockMs interactions
      (boundBridgeHistory platform (history.filter (isDatedRecord platform)))
      (normalizePendingBridgeQuestions platform pending) := by
  rw [filter_dated h.dated]
  have hsorted := h.of_perm (boundBridgeHistory_perm platform h.bounded).symm
  refine { hsorted with known := fun question hquestion => ?_ }
  obtain ⟨source, hsource, rfl⟩ := mem_normalizePendingBridgeQuestions hquestion
  obtain ⟨record, hrecord, hknown⟩ := hsorted.known source hsource
  exact ⟨record, hrecord, ⟨hknown.questionId, hknown.conversationKey, hknown.pair,
    hknown.cooldown⟩⟩

/-- Time goes on. -/
lemma BridgeMemory.later (h : BridgeMemory platform clockMs interactions history pending)
    {ms : ℤ} (hms : clockMs ≤ ms) : BridgeMemory platform ms interactions history pending := by
  refine { h with known := fun question hquestion => ?_ }
  obtain ⟨record, hrecord, hknown⟩ := h.known question hquestion
  obtain ⟨untilMs, hparse, hle⟩ := hknown.cooldown
  exact ⟨record, hrecord, { hknown with cooldown := ⟨untilMs, hparse, by omega⟩ }⟩

/-! ## The gate against the history -/

lemma normalizeEntityPair_of_lt {first second : String}
    (huntied : platform.locale.le second first = false) :
    normalizeEntityPair platform first second = (first, second) ∧
      normalizeEntityPair platform second first = (first, second) := by
  have hle : platform.locale.le first second = true := by
    rcases platform.locale.total first second with h | h
    · exact h
    · rw [huntied] at h
      cases h
  constructor
  · simp [normalizeEntityPair, orderedPair, hle]
  · simp [normalizeEntityPair, orderedPair, huntied]

lemma isRecordOfPair_of_pair {first second : String} {record : BridgeInteractionRecordV1}
    (huntied : platform.locale.le second first = false)
    (hpair : recordPair record = s(first, second)) :
    isRecordOfPair platform first second record = true := by
  obtain ⟨hsame, hswapped⟩ := normalizeEntityPair_of_lt huntied
  rw [isRecordOfPair, decide_eq_true_eq, buildPairKey, buildPairKey]
  rcases Sym2.eq_iff.mp hpair with ⟨hsource, htarget⟩ | ⟨hsource, htarget⟩
  · rw [hsource, htarget]
  · rw [hsource, htarget, hsame, hswapped]

/-- Where the gate finds no cooldown, the cooldowns of the pair are over. -/
lemma cooledDown_of_due {first second : String} {clock : WallClock platform}
    (huntied : platform.locale.le second first = false)
    (hdue : isBridgeCooldownActive platform (readHistory platform history) first second clock.iso =
      false) {record : BridgeInteractionRecordV1} (hrecord : record ∈ history)
    (hdated : isDatedRecord platform record = true)
    (hpair : recordPair record = s(first, second)) :
    CooledDown platform record.cooldownUntil clock.ms := by
  have hread : record ∈ readHistory platform history :=
    (Comparator.mem_sort _).mpr (List.mem_filter.mpr ⟨hrecord, hdated⟩)
  have hnot := List.any_eq_false.mp hdue record hread
  rw [isRecordOfPair_of_pair huntied hpair, Bool.true_and] at hnot
  obtain ⟨untilMs, huntil⟩ := Option.isSome_iff_exists.mp (Bool.and_eq_true_iff.mp hdated).2
  refine ⟨untilMs, huntil, ?_⟩
  simpa [isCoolingAt, huntil, clock.parses] using hnot

/-- The gate counts the records of the conversation. -/
lemma recordsIn_le_of_capped {threadKey : String}
    (hdated : ∀ record ∈ history, isDatedRecord platform record = true) :
    (recordsIn threadKey history).length =
      countConversationBridgeEvents (readHistory platform history) threadKey := by
  have hperm : (readHistory platform history).Perm history := by
    rw [readHistory, filter_dated hdated]
    exact Comparator.sort_perm _ _
  exact (hperm.symm.filter _).length_eq

/-! ## One action -/

lemma askedIn_append (conversationKey : String) (interaction : BridgeInteraction) :
    askedIn conversationKey (interactions ++ [interaction]) =
      askedIn conversationKey interactions ++ askedIn conversationKey [interaction] :=
  List.filter_append _ _

lemma recordsIn_append (conversationKey : String) (record : BridgeInteractionRecordV1) :
    recordsIn conversationKey (history ++ [record]) =
      recordsIn conversationKey history ++ recordsIn conversationKey [record] :=
  List.filter_append _ _

lemma NoLater.refl {text : String} {ms : ℤ} (hparse : platform.dateParse text = some ms) :
    NoLater platform text text :=
  ⟨ms, hparse, ms, hparse, le_rfl⟩

lemma NoLater.trans_of_parse {text middle last : String} {middleMs lastMs : ℤ}
    (h : NoLater platform text middle) (hmiddle : platform.dateParse middle = some middleMs)
    (hlast : platform.dateParse last = some lastMs) (hle : middleMs ≤ lastMs) :
    NoLater platform text last := by
  obtain ⟨ms, hms, otherMs, hother, hfirst⟩ := h
  have heq : otherMs = middleMs := Option.some.inj (hother.symm.trans hmiddle)
  exact ⟨ms, hms, lastMs, hlast, by omega⟩

/-- A new record is added where no record has its question. -/
lemma replaceBridgeRecord_of_new {record : BridgeInteractionRecordV1}
    (hnew : ∀ entry ∈ history, entry.questionId ≠ record.questionId) :
    replaceBridgeRecord history record = history ++ [record] := by
  have hkept : history.filter (fun entry => decide (entry.questionId ≠ record.questionId)) =
      history := List.filter_eq_self.mpr fun entry hentry => by simpa using hnew entry hentry
  rw [replaceBridgeRecord, hkept]

lemma mem_otherQuestions {questions : List BridgeQuestionV1} {questionId : String}
    {question : BridgeQuestionV1} (hmem : question ∈ otherQuestions questions questionId) :
    question ∈ questions ∧ question.questionId ≠ questionId := by
  simpa [otherQuestions] using hmem

lemma mem_addPendingQuestion {question added : BridgeQuestionV1}
    (hmem : question ∈ addPendingQuestion platform pending added) :
    question ∈ pending ∧ question.questionId ≠ added.questionId ∨ question = added := by
  have hsorted := (Comparator.mem_sort _).mp (List.mem_of_mem_drop hmem)
  rcases List.mem_append.mp hsorted with hother | hadded
  · exact .inl (mem_otherQuestions hother)
  · exact .inr (List.mem_singleton.mp hadded)

section Asked

variable {clock : WallClock platform} {first second threadKey : String}
  {question : BridgeQuestionV1}

lemma BridgeMemory.asked
    (h : BridgeMemory platform clock.ms interactions history pending)
    (happroved : ApprovedBridge platform sha first second threadKey clock.iso history question)
    (hkey : toConversationKey (some threadKey) = threadKey)
    (hroom : history.length < MAX_BRIDGE_HISTORY)
    (hnew : ∀ record ∈ history, record.questionId ≠ question.questionId) :
    BridgeMemory platform clock.ms (interactions ++ [askedInteraction question clock.ms])
      (history ++ [askedRecord question clock.iso threadKey])
      (addPendingQuestion platform pending question) := by
  have hparse := parse_addDays clock.parses happroved.cooldown
  have hconversation : toConversationKey question.threadKey = threadKey := by
    rw [happroved.thread, hkey]
  have hlast : askedRecord question clock.iso threadKey ∈
      history ++ [askedRecord question clock.iso threadKey] := by simp
  refine ⟨?_, ?_, ?_, ?_, ?_, ?_⟩
  · intro record hrecord
    rcases List.mem_append.mp hrecord with hold | hadded
    · exact h.dated record hold
    · rw [List.mem_singleton.mp hadded]
      simp [isDatedRecord, askedRecord, clock.parses, hparse]
  · rw [List.map_append]
    refine List.Nodup.append h.distinct (List.nodup_singleton _) ?_
    simpa [askedRecord] using hnew
  · simpa using hroom
  · intro interaction hinteraction
    rcases List.mem_append.mp hinteraction with hold | hadded
    · obtain ⟨record, hrecord, hrest⟩ := h.remembered interaction hold
      exact ⟨record, List.mem_append_left _ hrecord, hrest⟩
    · rw [List.mem_singleton.mp hadded]
      exact ⟨_, hlast, rfl, NoLater.refl hparse⟩
  · intro conversationKey
    rw [askedIn_append, recordsIn_append, List.length_append, List.length_append]
    have hone : (askedIn conversationKey [askedInteraction question clock.ms]).length =
        (recordsIn conversationKey [askedRecord question clock.iso threadKey]).length := by
      by_cases hsame : threadKey = conversationKey
      · simp [askedIn, recordsIn, askedInteraction, askedRecord, hconversation, hsame]
      · simp [askedIn, recordsIn, askedInteraction, askedRecord, hconversation, hsame]
    have hcounted := h.counted conversationKey
    omega
  · intro other hother
    rcases mem_addPendingQuestion hother with ⟨hold, -⟩ | rfl
    · obtain ⟨record, hrecord, hknown⟩ := h.known other hold
      exact ⟨record, List.mem_append_left _ hrecord, hknown⟩
    · exact ⟨_, hlast, rfl, hconversation.symm, rfl, _, hparse, le_rfl⟩

lemma BridgeLimits.asked (hlimits : BridgeLimits platform interactions)
    (h : BridgeMemory platform clock.ms interactions history pending)
    (happroved : ApprovedBridge platform sha first second threadKey clock.iso history question)
    (hkey : toConversationKey (some threadKey) = threadKey)
    (huntied : platform.locale.le second first = false) :
    BridgeLimits platform (interactions ++ [askedInteraction question clock.ms]) := by
  have hpair := (normalizeEntityPair_of_lt huntied).1
  have hdue := happroved.due
  have hsource := happroved.source
  have htarget := happroved.target
  rw [hpair] at hdue hsource htarget
  constructor
  · refine List.pairwise_append.mpr ⟨hlimits.cooldowns, by simp, ?_⟩
    intro earlier hearlier later hlater _ hsame
    rw [List.mem_singleton.mp hlater] at hsame ⊢
    obtain ⟨record, hrecord, hrecordPair, ms, hms, untilMs, huntil, hle⟩ :=
      h.remembered earlier hearlier
    have hasked : recordPair record = s(first, second) := by
      rw [hrecordPair, hsame, BridgeInteraction.pair, askedInteraction, hsource, htarget]
    obtain ⟨overMs, hover, hpassed⟩ :=
      cooledDown_of_due huntied hdue hrecord (h.dated record hrecord) hasked
    have heq : overMs = untilMs := Option.some.inj (hover.symm.trans huntil)
    refine ⟨ms, hms, ?_⟩
    show ms < clock.ms
    omega
  · intro conversationKey
    rw [askedIn_append, List.length_append]
    by_cases hsame : threadKey = conversationKey
    · have hcapped := happroved.capped
      rw [hkey, ← recordsIn_le_of_capped h.dated, hsame] at hcapped
      have hcounted := h.counted conversationKey
      have hone : (askedIn conversationKey [askedInteraction question clock.ms]).length ≤ 1 :=
        List.length_filter_le _ _
      push_cast
      omega
    · have hnone : askedIn conversationKey [askedInteraction question clock.ms] = [] := by
        simp [askedIn, askedInteraction, happroved.thread, hkey, hsame]
      rw [hnone, List.length_nil, Nat.add_zero]
      exact hlimits.perConversation conversationKey

end Asked

section Answered

variable {clock : WallClock platform} {question : BridgeQuestionV1}
  {record known : BridgeInteractionRecordV1}

lemma pair_normalizeEntityPair (first second : String) :
    s((normalizeEntityPair platform first second).1, (normalizeEntityPair platform first second).2) =
      s(first, second) := by
  rw [normalizeEntityPair, orderedPair]
  split
  · rfl
  · exact Sym2.eq_swap

/-- The records of other questions are all but the one of this question. -/
lemma perm_cons_of_distinct (hdistinct : (history.map (·.questionId)).Nodup)
    (hknown : known ∈ history) :
    history.Perm (known ::
      history.filter fun entry => decide (entry.questionId ≠ known.questionId)) := by
  induction history with
  | nil => cases hknown
  | cons first rest ih =>
      have hnodup := List.nodup_cons.mp hdistinct
      rcases List.mem_cons.mp hknown with rfl | hrest
      · have hothers : ∀ entry ∈ rest, decide (entry.questionId ≠ known.questionId) = true := by
          intro entry hentry
          apply decide_eq_true
          intro hsame
          exact hnodup.1 (List.mem_map.mpr ⟨entry, hentry, hsame⟩)
        rw [List.filter_cons_of_neg (by simp), List.filter_eq_self.mpr hothers]
      · have hne : first.questionId ≠ known.questionId := by
          intro hsame
          exact hnodup.1 (List.mem_map.mpr ⟨known, hrest, hsame.symm⟩)
        rw [List.filter_cons_of_pos (by simpa using hne)]
        exact ((ih hnodup.2 hrest).cons first).trans (List.Perm.swap _ _ _)

/-- The record of an answer takes the place of the record its question left. -/
lemma BridgeMemory.replaceHead
    (h : BridgeMemory platform clock.ms interactions (known :: history) pending)
    (hid : record.questionId = known.questionId)
    (hkey : record.conversationKey = known.conversationKey)
    (hpair : recordPair record = recordPair known)
    (hdated : isDatedRecord platform record = true)
    (hlater : ∀ text, NoLater platform text known.cooldownUntil →
      NoLater platform text record.cooldownUntil)
    (hpending : ∀ question ∈ pending, question.questionId ≠ known.questionId) :
    BridgeMemory platform clock.ms (interactions ++ [answerInteraction record clock.ms])
      (record :: history) pending where
  dated entry hentry := by
    rcases List.mem_cons.mp hentry with rfl | hrest
    · exact hdated
    · exact h.dated entry (List.mem_cons_of_mem _ hrest)
  distinct := by simpa [hid] using h.distinct
  bounded := by simpa using h.bounded
  remembered interaction hinteraction := by
    rcases List.mem_append.mp hinteraction with hold | hadded
    · obtain ⟨entry, hentry, hsame, hcooldown⟩ := h.remembered interaction hold
      rcases List.mem_cons.mp hentry with rfl | hrest
      · exact ⟨record, List.mem_cons_self, hpair.trans hsame, hlater _ hcooldown⟩
      · exact ⟨entry, List.mem_cons_of_mem _ hrest, hsame, hcooldown⟩
    · rw [List.mem_singleton.mp hadded]
      obtain ⟨untilMs, huntil⟩ :=
        Option.isSome_iff_exists.mp (Bool.and_eq_true_iff.mp hdated).2
      exact ⟨record, List.mem_cons_self, rfl, NoLater.refl huntil⟩
  counted conversationKey := by
    have hsame : (recordsIn conversationKey (record :: history)).length =
        (recordsIn conversationKey (known :: history)).length := by
      simp only [recordsIn, List.filter_cons, hkey]
      split <;> rfl
    rw [askedIn_append, hsame]
    simpa [askedIn, answerInteraction] using h.counted conversationKey
  known question hquestion := by
    obtain ⟨entry, hentry, hknown⟩ := h.known question hquestion
    rcases List.mem_cons.mp hentry with rfl | hrest
    · exact absurd hknown.questionId.symm (hpending question hquestion)
    · exact ⟨entry, List.mem_cons_of_mem _ hrest, hknown⟩

lemma BridgeMemory.answered
    (h : BridgeMemory platform clock.ms interactions history pending)
    (hquestion : question ∈ pending) (hrecord : AnswerRecord platform question clock.iso record) :
    BridgeMemory platform clock.ms (interactions ++ [answerInteraction record clock.ms])
      (replaceBridgeRecord history record) (otherQuestions pending question.questionId) := by
  obtain ⟨known, hmem, hknown⟩ := h.known question hquestion
  obtain ⟨days, hdays, hadd⟩ := hrecord.cooldown
  have hparse := parse_addDays clock.parses hadd
  have hid : record.questionId = known.questionId :=
    hrecord.questionId.trans hknown.questionId.symm
  have hothers : BridgeMemory platform clock.ms interactions
      (known :: history.filter fun entry => decide (entry.questionId ≠ known.questionId))
      (otherQuestions pending question.questionId) := by
    refine { h.of_perm (perm_cons_of_distinct h.distinct hmem) with known := ?_ }
    intro other hother
    exact (h.of_perm (perm_cons_of_distinct h.distinct hmem)).known other
      (mem_otherQuestions hother).1
  rw [replaceBridgeRecord, hid]
  refine (hothers.replaceHead hid ?_ ?_ ?_ ?_ ?_).of_perm
    (List.perm_append_singleton record _).symm
  · exact hrecord.conversationKey.trans hknown.conversationKey.symm
  · rw [hknown.pair, recordPair, hrecord.source, hrecord.target, pair_normalizeEntityPair]
  · simp [isDatedRecord, hrecord.askedAt, clock.parses, hparse]
  · intro text hnoLater
    obtain ⟨untilMs, huntil, hle⟩ := hknown.cooldown
    have hday : (0 : ℤ) ≤ DAY_MS := by decide
    have hproduct := mul_le_mul_of_nonneg_right hdays hday
    exact hnoLater.trans_of_parse huntil hparse (by omega)
  · intro other hother
    rw [hknown.questionId]
    exact (mem_otherQuestions hother).2

lemma BridgeLimits.answered (hlimits : BridgeLimits platform interactions) (ms : ℤ) :
    BridgeLimits platform (interactions ++ [answerInteraction record ms]) where
  cooldowns := by
    refine List.pairwise_append.mpr ⟨hlimits.cooldowns, by simp, ?_⟩
    intro earlier _ later hlater hasked
    rw [List.mem_singleton.mp hlater] at hasked
    cases hasked
  perConversation conversationKey := by
    rw [askedIn_append]
    simpa [askedIn, answerInteraction] using hlimits.perConversation conversationKey

end Answered

/-! ## Runs -/

variable {run next : BridgeRun} {clock : WallClock platform}

variable (platform) in
structure BridgeKept (run : BridgeRun) : Prop where
  limits : BridgeLimits platform run.interactions
  memory : BridgeMemory platform run.clockMs run.interactions
    run.stores.runtimeState.pulseState.bridgeHistory
    run.stores.runtimeState.pendingBridgeQuestions

lemma bridgeKept_start (graph : EntityGraphV1) (stack : ConversationStackV1) (updatedAt : String)
    (clockMs : ℤ) : BridgeKept platform (BridgeRun.start graph stack updatedAt clockMs) where
  limits := ⟨List.Pairwise.nil, fun _ => by simp [BridgeRun.start, askedIn,
    DEFAULT_BRIDGE_MAX_PER_CONVERSATION]⟩
  memory := by
    constructor <;> simp [BridgeRun.start, createDefaultPulseState, askedIn]

/-- An action finds in the state it loads what the stored state held. -/
lemma BridgeKept.loaded (h : BridgeKept platform run) (hclock : run.clockMs ≤ clock.ms) :
    BridgeMemory platform clock.ms run.interactions
      (run.loaded platform clock).pulseState.bridgeHistory
      (run.loaded platform clock).pendingBridgeQuestions := by
  rw [BridgeRun.loaded, normalizeRuntimeState, normalizePulseState]
  dsimp only
  exact (h.memory.later hclock).normalize

lemma SavedBridge.memory {stores : BridgeStores}
    (hsaved : SavedBridge platform history pending stores)
    (h : BridgeMemory platform clockMs interactions history pending) :
    BridgeMemory platform clockMs interactions stores.runtimeState.pulseState.bridgeHistory
      stores.runtimeState.pendingBridgeQuestions := by
  rw [hsaved.history, hsaved.pending]
  exact h.normalize

lemma BridgeMemory.bound (h : BridgeMemory platform clockMs interactions history pending) :
    BridgeMemory platform clockMs interactions (boundBridgeHistory platform history) pending :=
  h.of_perm (boundBridgeHistory_perm platform h.bounded).symm

lemma askedPair_of_refs {refs : List (Option String)} {first second : String}
    {rest : List String} (hrefs : toStringRefs platform refs = first :: second :: rest) :
    askedPair platform refs = some (first, second) := by
  rw [askedPair, hrefs]

lemma mem_of_answeredQuestion {questionId : Option String} {question : BridgeQuestionV1}
    (hquestion : answeredQuestion pending questionId = some question) : question ∈ pending := by
  unfold answeredQuestion at hquestion
  cases hfind : pending.find? fun entry => decide (some entry.questionId = questionId) with
  | none =>
      rw [hfind] at hquestion
      exact List.mem_of_getLast? hquestion
  | some found =>
      rw [hfind] at hquestion
      exact Option.some.inj hquestion ▸ List.mem_of_find?_eq_some hfind

lemma BridgeKept.of_effect {params : BridgeActionParams} {timingDefers : Bool} {taskId : String}
    {result : BridgeActionResult} (h : BridgeKept platform run)
    (hclock : run.clockMs ≤ clock.ms)
    (hkeeps : KeepsLimits platform sha run (.action params timingDefers taskId clock))
    (heffect : BridgeEffect platform sha run.stores (run.loaded platform clock) params clock.iso
      result) :
    BridgeKept platform
      { stores := result.stores
        clockMs := clock.ms
        interactions := run.interactions ++ (result.outcome.interaction clock.ms).toList } := by
  have hloaded := h.loaded hclock
  cases heffect with
  | blocked hnone =>
      rw [BridgeOutcome.interaction, Option.toList_none, List.append_nil]
      exact ⟨h.limits, h.memory.later hclock⟩
  | deferred question next hkind hsaved =>
      rw [BridgeOutcome.interaction, Option.toList_none, List.append_nil]
      exact ⟨h.limits, hsaved.memory hloaded⟩
  | emitted question next first second rest hkind hrefs happroved hsaved =>
      obtain ⟨hkey, hroom, huntied, hnew⟩ := hkeeps hkind _ (askedPair_of_refs hrefs)
      dsimp only at hkey hroom huntied hnew
      have hid := happroved.questionId
      rw [(normalizeEntityPair_of_lt huntied).1] at hid
      rw [← hid] at hnew
      have hmemory := hloaded.asked happroved hkey hroom hnew
      rw [replaceBridgeRecord_of_new hnew] at hsaved
      exact ⟨h.limits.asked hloaded happroved hkey huntied, hsaved.memory hmemory.bound⟩
  | resolved question record denied next hkind hquestion hrecord hsaved =>
      have hpending : question ∈ (run.loaded platform clock).pendingBridgeQuestions :=
        mem_of_answeredQuestion hquestion
      exact ⟨h.limits.answered clock.ms,
        hsaved.memory (hloaded.answered hpending hrecord).bound⟩

lemma BridgeKept.step (h : BridgeKept platform run) {event : BridgeEvent platform}
    (hkeeps : KeepsLimits platform sha run event)
    (hstep : bridgeStep platform sha run event = some next) : BridgeKept platform next := by
  cases event with
  | action params timingDefers taskId clock =>
      rw [bridgeStep] at hstep
      split_ifs at hstep with hback
      have hclock : run.clockMs ≤ clock.ms := not_lt.mp hback
      cases hexecute : run.execute platform sha params timingDefers taskId clock with
      | none =>
          rw [hexecute] at hstep
          rw [← Option.some.inj hstep]
          exact ⟨h.limits, h.memory.later hclock⟩
      | some result =>
          rw [hexecute] at hstep
          rw [← Option.some.inj hstep]
          exact h.of_effect hclock hkeeps (bridgeEffect_of_execute hexecute)
  | elsewhere graph stack =>
      rw [bridgeStep] at hstep
      rw [← Option.some.inj hstep]
      exact ⟨h.limits, h.memory⟩

/-- The limits hold over every run in which each question is one the history remembers. -/
theorem bridgeLimits_of_run {graph : EntityGraphV1} {stack : ConversationStackV1}
    {updatedAt : String} {events : List (BridgeEvent platform)} {final : BridgeRun}
    (hkeeps : Along (bridgeStep platform sha) (KeepsLimits platform sha)
      (BridgeRun.start graph stack updatedAt clockMs) events)
    (hrun : Lib.run (bridgeStep platform sha) (BridgeRun.start graph stack updatedAt clockMs)
      events = some final) : BridgeLimits platform final.interactions :=
  (invariant_of_along (fun _ _ _ h hcondition hstep => h.step hcondition hstep)
    (bridgeKept_start graph stack updatedAt clockMs) hkeeps hrun).limits

/-! ## Questions of a team -/

def teamDigests : List (String × String) :=
  [("\x7b\"candidateId\":\"bridge_entity_acme_entity_atlas\"," ++
        "\"observedAt\":\"2026-01-01T00:00:00.000Z\"," ++
        "\"sourceEntityKey\":\"entity_acme\",\"targetEntityKey\":\"entity_atlas\"\x7d",
      "bc56b76a8a7b6efba2acac75bfd017c1541f38337534e075dcab5caaa3d47ed6"),
    ("\x7b\"candidateId\":\"bridge_entity_acme_entity_riley\"," ++
        "\"observedAt\":\"2026-01-01T00:00:00.000Z\"," ++
        "\"sourceEntityKey\":\"entity_acme\",\"targetEntityKey\":\"entity_riley\"\x7d",
      "e6c1e0bb97a31f160b4f237add0d4be86c2bc2ff2fe29f04cbde62293ef95b18"),
    ("\x7b\"candidateId\":\"bridge_entity_acme_entity_atlas\"," ++
        "\"observedAt\":\"2026-01-30T00:00:00.000Z\"," ++
        "\"sourceEntityKey\":\"entity_acme\",\"targetEntityKey\":\"entity_atlas\"\x7d",
      "c20d61295c5f44d063d51e465d809fb67bc6ce93512d9e8fd3acf9994b1197b4")]

def teamSha : Sha256 :=
  Sha256.ofTable teamDigests
    (((validTable_nil.cons (by decide) (by decide)).cons (by decide) (by decide)).cons
      (by decide) (by decide))

def teamPlatform : BridgePlatform :=
  .ofDates [("2026-01-01T00:00:00.000Z", 1767225600000),
    ("2026-01-15T00:00:00.000Z", 1768435200000),
    ("2026-01-29T00:00:00.000Z", 1769644800000),
    ("2026-01-30T00:00:00.000Z", 1769731200000),
    ("2026-02-13T00:00:00.000Z", 1770940800000),
    ("2026-02-27T00:00:00.000Z", 1772150400000)] (by decide)

def newYear : WallClock teamPlatform where
  iso := "2026-01-01T00:00:00.000Z"
  ms := 1767225600000
  isoString := by decide
  from_1970 := by decide
  before_10000 := by decide

def endOfJanuary : WallClock teamPlatform where
  iso := "2026-01-30T00:00:00.000Z"
  ms := 1769731200000
  isoString := by decide
  from_1970 := by decide
  before_10000 := by decide

def teamAsk (first second threadKey : String) (clock : WallClock teamPlatform) :
    BridgeEvent teamPlatform :=
  .action
    { answerKind := none
      questionId := none
      relationType := none
      entityRefs := [some first, some second]
      evidenceRefs := []
      threadKey := some threadKey } false "task_1" clock

def deferParams : BridgeActionParams where
  answerKind := some "deferred"
  questionId := none
  relationType := none
  entityRefs := []
  evidenceRefs := []
  threadKey := none

def teamStart : BridgeRun :=
  BridgeRun.start (createEmptyEntityGraphV1 "2026-01-01T00:00:00.000Z")
    (createEmptyConversationStackV1 "2026-01-01T00:00:00.000Z") "2026-01-01T00:00:00.000Z"
    1767225600000

def teamRun (events : List (BridgeEvent teamPlatform)) : Option BridgeRun :=
  Lib.run (bridgeStep teamPlatform teamSha) teamStart events

/-- The pair is asked about, the answer is put off, and it is asked about again when its cooldown
has passed, in another conversation. -/
def askedAgain : List (BridgeEvent teamPlatform) :=
  [teamAsk "entity_acme" "entity_atlas" "team" newYear,
    .action deferParams false "task_1" newYear,
    teamAsk "entity_acme" "entity_atlas" "lunch" endOfJanuary]

theorem bridgeLimits_of_askedAgain :
    ∃ final ∈ teamRun askedAgain, BridgeLimits teamPlatform final.interactions := by
  have hasks : (teamRun askedAgain).isSome = true ∧
      Along (bridgeStep teamPlatform teamSha) (KeepsLimits teamPlatform teamSha) teamStart
        askedAgain := by decide +kernel
  obtain ⟨hruns, hkeeps⟩ := hasks
  obtain ⟨final, hrun⟩ := Option.isSome_iff_exists.mp hruns
  exact ⟨final, hrun, bridgeLimits_of_run hkeeps hrun⟩

/-- The history counts a conversation under the thread key as it is written, the gate under the
normalized key; so a conversation of more than one blank has no cap. -/
theorem second_question_passes_cap :
    ∃ final ∈ teamRun [teamAsk "entity_acme" "entity_atlas" "team  chat" newYear,
        teamAsk "entity_acme" "entity_riley" "team  chat" newYear],
      ¬ BridgeLimits teamPlatform final.interactions := by
  have hcount : (teamRun [teamAsk "entity_acme" "entity_atlas" "team  chat" newYear,
        teamAsk "entity_acme" "entity_riley" "team  chat" newYear]).map
      (fun final => (askedIn "team chat" final.interactions).length) = some 2 := by
    decide +kernel
  obtain ⟨final, hrun, hasked⟩ := Option.map_eq_some_iff.mp hcount
  refine ⟨final, hrun, fun hlimits => ?_⟩
  have hcap := hlimits.perConversation "team chat"
  rw [hasked] at hcap
  exact absurd hcap (by decide)

end AgentBigBrain.Core
