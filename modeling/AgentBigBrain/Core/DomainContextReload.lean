import AgentBigBrain.Core.SessionContext
import AgentBigBrain.Js.Persisted

/-!
# Domain contexts that are saved and loaded

A saved context is read field by field and normalized again. Every decision is reproduced, unless
a weight was so small that it was rounded to zero: read again, it counts as missing and becomes one.
-/
namespace AgentBigBrain.Core

open AgentBigBrain.Js

/-! ## Saved values -/

def ConversationDomainLane.all : List ConversationDomainLane :=
  [.profile, .relationship, .workflow, .systemPolicy, .unknown]

def ConversationDomainRoutingMode.text : ConversationDomainRoutingMode → String
  | .chat => "chat"
  | .explain => "explain"
  | .plan => "plan"
  | .build => "build"
  | .staticHtmlBuild => "static_html_build"
  | .frameworkAppBuild => "framework_app_build"
  | .clarifyBuildFormat => "clarify_build_format"
  | .autonomous => "autonomous"
  | .review => "review"
  | .discoverAvailableCapabilities => "discover_available_capabilities"
  | .statusOrRecall => "status_or_recall"
  | .unclear => "unclear"

def ConversationDomainRoutingMode.all : List ConversationDomainRoutingMode :=
  [.chat, .explain, .plan, .build, .staticHtmlBuild, .frameworkAppBuild, .clarifyBuildFormat,
    .autonomous, .review, .discoverAvailableCapabilities, .statusOrRecall, .unclear]

def ConversationDomainLaneSignalSource.text : ConversationDomainLaneSignalSource → String
  | .keyword => "keyword"
  | .semanticRoute => "semantic_route"
  | .routingMode => "routing_mode"
  | .continuityState => "continuity_state"
  | .manual => "manual"
  | .unknown => "unknown"

def ConversationDomainLaneSignalSource.all : List ConversationDomainLaneSignalSource :=
  [.keyword, .semanticRoute, .routingMode, .continuityState, .manual, .unknown]

/-- The label whose text the value is. -/
def labelOf {α : Type*} (labels : List α) (text : α → String) (value : Option Json) : Option α :=
  (textOf value).bind fun saved => labels.find? fun label => decide (text label = saved)

def normalizeConversationDomainLane : Option Json → Option ConversationDomainLane :=
  labelOf ConversationDomainLane.all ConversationDomainLane.text

def normalizeConversationDomainRoutingMode : Option Json → Option ConversationDomainRoutingMode :=
  labelOf ConversationDomainRoutingMode.all ConversationDomainRoutingMode.text

def normalizeConversationDomainLaneSignalSource (value : Option Json) :
    ConversationDomainLaneSignalSource :=
  (labelOf ConversationDomainLaneSignalSource.all ConversationDomainLaneSignalSource.text
    value).getD .unknown

/-- A finite number; what is none counts as zero, which is normalized like it. -/
def weightOf : Option Json → ℚ
  | some (.num n) => n.value
  | _ => 0

/-- A text; what is none counts as blank, which is no timestamp either. -/
def timestampOf (value : Option Json) : String := (textOf value).getD ""

def readLaneSignal (entry : Json) : Option ConversationDomainLaneSignal :=
  (membersOf (some entry)).bind fun fields =>
    (normalizeConversationDomainLane (fields.lookup "lane")).map fun lane =>
      { lane := lane
        observedAt := timestampOf (fields.lookup "observedAt")
        source := normalizeConversationDomainLaneSignalSource (fields.lookup "source")
        weight := weightOf (fields.lookup "weight") }

def readRoutingSignal (entry : Json) : Option ConversationDomainRoutingSignal :=
  (membersOf (some entry)).bind fun fields =>
    (normalizeConversationDomainRoutingMode (fields.lookup "mode")).map fun mode =>
      { mode := mode
        observedAt := timestampOf (fields.lookup "observedAt") }

def isTrue : Option Json → Bool
  | some (.bool value) => value
  | _ => false

def normalizeConversationDomainContinuitySignals (value : Option Json) :
    ConversationDomainContinuitySignals :=
  let fields := (membersOf value).getD []
  { activeWorkspace := isTrue (fields.lookup "activeWorkspace")
    returnHandoff := isTrue (fields.lookup "returnHandoff")
    modeContinuity := isTrue (fields.lookup "modeContinuity") }

/-- The fields that are read of a saved context. -/
def readDomainContext (fields : List (String × Json)) : ConversationDomainContext where
  conversationId := (textOf (fields.lookup "conversationId")).getD ""
  dominantLane := (normalizeConversationDomainLane (fields.lookup "dominantLane")).getD .unknown
  recentLaneHistory := (elementsOf (fields.lookup "recentLaneHistory")).filterMap readLaneSignal
  recentRoutingSignals :=
    (elementsOf (fields.lookup "recentRoutingSignals")).filterMap readRoutingSignal
  continuitySignals :=
    normalizeConversationDomainContinuitySignals (fields.lookup "continuitySignals")
  activeSince := textOf (fields.lookup "activeSince")
  lastUpdatedAt := textOf (fields.lookup "lastUpdatedAt")

variable (platform : Platform)

/-- `normalizeConversationDomainContext` of a value that may be anything. -/
def normalizeDomainContextValue (candidate : Json) (conversationId : String) :
    ConversationDomainContext :=
  match candidate with
  | .obj fields =>
      normalizeConversationDomainContext platform (readDomainContext fields) conversationId
  | .arr _ => normalizeConversationDomainContext platform (readDomainContext []) conversationId
  | _ => createEmptyConversationDomainContext conversationId

/-! ## Updates -/

structure ContinuityUpdate where
  activeWorkspace : Option Bool := none
  returnHandoff : Option Bool := none
  modeContinuity : Option Bool := none

structure ConversationDomainSignalWindowUpdate where
  observedAt : String
  laneSignals : List ConversationDomainLaneSignal := []
  routingSignals : List ConversationDomainRoutingSignal := []
  continuitySignals : ContinuityUpdate := {}

def applyDomainSignalWindow (context : ConversationDomainContext)
    (update : ConversationDomainSignalWindowUpdate) : ConversationDomainContext :=
  let normalizedContext :=
    normalizeConversationDomainContext platform context context.conversationId
  let laneSignals := normalizeBoundedWindow normalizeConversationDomainLaneSignal
    MAX_CONVERSATION_DOMAIN_LANE_HISTORY update.laneSignals
  let routingSignals := normalizeBoundedWindow normalizeConversationDomainRoutingSignal
    MAX_CONVERSATION_DOMAIN_ROUTING_SIGNALS update.routingSignals
  let recentLaneHistory := trimBoundedWindow MAX_CONVERSATION_DOMAIN_LANE_HISTORY
    (normalizedContext.recentLaneHistory ++ laneSignals)
  let recentRoutingSignals := trimBoundedWindow MAX_CONVERSATION_DOMAIN_ROUTING_SIGNALS
    (normalizedContext.recentRoutingSignals ++ routingSignals)
  let signalObservedAt := (((normalizeOptionalTimestamp update.observedAt).or
    (getLastLaneSignalTimestamp recentLaneHistory)).or
    (getLastRoutingSignalTimestamp recentRoutingSignals)).or normalizedContext.lastUpdatedAt
  let dominantLane :=
    resolveSessionDomain platform recentLaneHistory normalizedContext.dominantLane
  { conversationId := normalizedContext.conversationId
    dominantLane := dominantLane
    recentLaneHistory := recentLaneHistory
    recentRoutingSignals := recentRoutingSignals
    continuitySignals :=
      { activeWorkspace := update.continuitySignals.activeWorkspace.getD
          normalizedContext.continuitySignals.activeWorkspace
        returnHandoff := update.continuitySignals.returnHandoff.getD
          normalizedContext.continuitySignals.returnHandoff
        modeContinuity := update.continuitySignals.modeContinuity.getD
          normalizedContext.continuitySignals.modeContinuity }
    activeSince :=
      if dominantLane = .unknown then none
      else if dominantLane = normalizedContext.dominantLane then
        normalizedContext.activeSince.or signalObservedAt
      else signalObservedAt
    lastUpdatedAt := signalObservedAt }

/-! ## The saved form -/

/-- A text of so many thousandths. -/
def thousandthsText (n : ℕ) : NumberText where
  text := Nat.toDigits 10 n ++ ['e', '-', '3']
  nonempty := by simp
  numeric c hc := by
    rcases List.mem_append.mp hc with hdigit | hrest
    · exact (NumberText.ofNat n).numeric c hdigit
    · fin_cases hrest <;> decide

def laneSignalJson (signal : ConversationDomainLaneSignal) : Json :=
  .obj [("lane", .str signal.lane.text), ("observedAt", .str signal.observedAt),
    ("source", .str signal.source.text),
    ("weight", .num (thousandthsText ⌊signal.weight * 1000⌋.toNat))]

def routingSignalJson (signal : ConversationDomainRoutingSignal) : Json :=
  .obj [("mode", .str signal.mode.text), ("observedAt", .str signal.observedAt)]

def continuitySignalsJson (signals : ConversationDomainContinuitySignals) : Json :=
  .obj [("activeWorkspace", .bool signals.activeWorkspace),
    ("returnHandoff", .bool signals.returnHandoff),
    ("modeContinuity", .bool signals.modeContinuity)]

/-- The context as it is saved. -/
def domainContextJson (context : ConversationDomainContext) : Json :=
  .obj [("conversationId", .str context.conversationId),
    ("dominantLane", .str context.dominantLane.text),
    ("recentLaneHistory", .arr (context.recentLaneHistory.map laneSignalJson)),
    ("recentRoutingSignals", .arr (context.recentRoutingSignals.map routingSignalJson)),
    ("continuitySignals", continuitySignalsJson context.continuitySignals),
    ("activeSince", textOrNull context.activeSince),
    ("lastUpdatedAt", textOrNull context.lastUpdatedAt)]

/-- A weight in exact thousandths. -/
def InThousandths (weight : ℚ) : Prop := ∃ n : ℕ, weight = n / 1000

lemma splitAtChar_append {mark : Char} {cs : List Char} (h : mark ∉ cs) (rest : List Char) :
    splitAtChar mark (cs ++ mark :: rest) = (cs, rest) := by
  have hall : ∀ c ∈ cs, decide (c ≠ mark) = true := by
    intro c hc
    have hne : c ≠ mark := fun heq => h (heq ▸ hc)
    simpa using hne
  unfold splitAtChar
  rw [List.takeWhile_append_of_pos hall, List.dropWhile_append_of_pos hall]
  simp

lemma value_thousandthsText (n : ℕ) : (thousandthsText n).value = n / 1000 := by
  have hnone : ∀ mark : Char, mark.isDigit = false → mark ∉ Nat.toDigits 10 n := by
    intro mark hmark hmem
    rw [@NumberText.isDigit_of_mem_ofNat n mark hmem] at hmark
    exact Bool.noConfusion hmark
  have hsplit := splitAtChar_append (hnone 'e' (by decide)) ['-', '3']
  have hdot := splitAtChar_of_not_mem (hnone '.' (by decide))
  have hdecimal : decimalValue (Nat.toDigits 10 n) = n := by
    simp [decimalValue, hdot, digitsValue_toDigits]
  have hsign : ∀ cs, Nat.toDigits 10 n ≠ '-' :: cs := by
    intro cs hcs
    exact hnone '-' (by decide) (by rw [hcs]; exact List.mem_cons_self)
  have hthree : digitsValue ['3'] = 3 := by decide
  have hfactor : exponentFactor ['-', '3'] = 1 / 1000 := by
    norm_num [exponentFactor, hthree]
  unfold NumberText.value
  -- the text has no sign, so the second branch is the one taken
  simp only [thousandthsText, hsplit, hfactor, hdecimal]
  ring

/-! ## Reading a saved context -/

lemma normalizeConversationDomainLane_text (lane : ConversationDomainLane) :
    normalizeConversationDomainLane (some (.str lane.text)) = some lane := by
  cases lane <;> rfl

lemma normalizeConversationDomainRoutingMode_text (mode : ConversationDomainRoutingMode) :
    normalizeConversationDomainRoutingMode (some (.str mode.text)) = some mode := by
  cases mode <;> rfl

lemma normalizeConversationDomainLaneSignalSource_text
    (source : ConversationDomainLaneSignalSource) :
    normalizeConversationDomainLaneSignalSource (some (.str source.text)) = source := by
  cases source <;> rfl

lemma readLaneSignal_json {signal : ConversationDomainLaneSignal}
    (h : InThousandths signal.weight) : readLaneSignal (laneSignalJson signal) = some signal := by
  obtain ⟨n, hn⟩ := h
  have hscaled : signal.weight * 1000 = (n : ℤ) := by
    rw [hn]
    push_cast
    ring
  have hweight : weightOf (some (.num (thousandthsText ⌊signal.weight * 1000⌋.toNat))) =
      signal.weight := by
    rw [weightOf, value_thousandthsText, hscaled, Int.floor_intCast, Int.toNat_natCast, hn]
  unfold readLaneSignal laneSignalJson
  simp [normalizeConversationDomainLane_text, normalizeConversationDomainLaneSignalSource_text,
    timestampOf, hweight, List.lookup_cons]

lemma readRoutingSignal_json (signal : ConversationDomainRoutingSignal) :
    readRoutingSignal (routingSignalJson signal) = some signal := by
  unfold readRoutingSignal routingSignalJson
  simp [normalizeConversationDomainRoutingMode_text, timestampOf, List.lookup_cons]

lemma normalizeContinuitySignals_json (signals : ConversationDomainContinuitySignals) :
    normalizeConversationDomainContinuitySignals (some (continuitySignalsJson signals)) =
      signals := by
  simp [normalizeConversationDomainContinuitySignals, continuitySignalsJson, isTrue,
    List.lookup_cons]

/-- The loaded value is normalized as the context that was saved. -/
lemma normalizeDomainContextValue_json {context : ConversationDomainContext}
    (h : ∀ signal ∈ context.recentLaneHistory, InThousandths signal.weight)
    (conversationId : String) :
    normalizeDomainContextValue platform (domainContextJson context) conversationId =
      normalizeConversationDomainContext platform context conversationId := by
  have hlanes : (context.recentLaneHistory.map laneSignalJson).filterMap readLaneSignal =
      context.recentLaneHistory := by
    rw [List.filterMap_map]
    calc context.recentLaneHistory.filterMap (readLaneSignal ∘ laneSignalJson)
        = context.recentLaneHistory.filterMap some :=
          List.filterMap_congr fun signal hsignal => readLaneSignal_json (h signal hsignal)
      _ = context.recentLaneHistory := List.filterMap_some
  have hroutes : (context.recentRoutingSignals.map routingSignalJson).filterMap
      readRoutingSignal = context.recentRoutingSignals := by
    rw [List.filterMap_map]
    calc context.recentRoutingSignals.filterMap (readRoutingSignal ∘ routingSignalJson)
        = context.recentRoutingSignals.filterMap some :=
          List.filterMap_congr fun signal _ => readRoutingSignal_json signal
      _ = context.recentRoutingSignals := List.filterMap_some
  unfold normalizeDomainContextValue domainContextJson
  simp [readDomainContext, List.lookup_cons, normalizeConversationDomainLane_text,
    normalizeContinuitySignals_json, hlanes, hroutes]

/-! ## The dominant lane again -/

lemma head_sort_le {α : Type*} (c : Comparator α) {xs : List α} {best : α}
    (h : (c.sort xs).head? = some best) : best ∈ xs ∧ ∀ x ∈ xs, c.le best x = true := by
  obtain ⟨rest, hrest⟩ := List.head?_eq_some_iff.mp h
  have hsorted := c.sorted_sort xs
  unfold Comparator.Sorted at hsorted
  rw [hrest, List.pairwise_cons] at hsorted
  have hmem : ∀ x, x ∈ xs ↔ x = best ∨ x ∈ rest := by
    intro x
    rw [← c.mem_sort, hrest, List.mem_cons]
  refine ⟨(hmem best).mpr (.inl rfl), fun x hx => ?_⟩
  rcases (hmem x).mp hx with rfl | hlater
  · exact c.le_refl x
  · exact hsorted.1 x hlater

/-- The lane that won is preferred among its equals, so it wins again. -/
lemma resolveSessionDomain_again (laneHistory : List ConversationDomainLaneSignal)
    (current : ConversationDomainLane) :
    resolveSessionDomain platform laneHistory (resolveSessionDomain platform laneHistory current) =
      resolveSessionDomain platform laneHistory current := by
  generalize hbest : resolveSessionDomain platform laneHistory current = best
  unfold resolveSessionDomain at hbest ⊢
  dsimp only at hbest ⊢
  generalize relevantSignals laneHistory = signals at hbest ⊢
  generalize uniqueValues (signals.map ConversationDomainLaneSignal.lane) = lanes at hbest ⊢
  cases hagain : ((laneRanking platform signals best).sort lanes).head? with
  | none => rfl
  | some again =>
      obtain ⟨hmem, hleast⟩ := head_sort_le _ hagain
      have hfirst : ((laneRanking platform signals current).sort lanes).head? = some best := by
        cases hhead : ((laneRanking platform signals current).sort lanes).head? with
        | none =>
            have hempty := List.head?_eq_none_iff.mp hhead
            have hnone := (laneRanking platform signals current).mem_sort.mpr hmem
            rw [hempty] at hnone
            exact absurd hnone List.not_mem_nil
        | some first =>
            rw [hhead] at hbest
            exact congrArg some hbest
      obtain ⟨hbestMem, hbestLeast⟩ := head_sort_le _ hfirst
      have hback := hleast best hbestMem
      have hforth := hbestLeast again hmem
      by_contra hne
      have hother : again ≠ best := by simpa using hne
      simp only [laneRanking, Comparator.thenBy, Comparator.reverse, Comparator.byKey,
        numberOrder, Bool.and_eq_true, Bool.or_eq_true, Bool.not_eq_true', decide_eq_true_eq,
        decide_eq_false_iff_not, if_neg hother, if_true] at hback hforth
      have hscores := hback.2.resolve_left (not_not.mpr hforth.1)
      exact absurd hscores.1 (by decide)

/-! ## Signals that are read again -/

/-- A timestamp as it is kept. -/
def IsTimestamp (text : String) : Prop := normalizeOptionalTimestamp text = some text

lemma isTimestamp_of_normalized {text kept : String}
    (h : normalizeOptionalTimestamp text = some kept) : IsTimestamp kept := by
  unfold normalizeOptionalTimestamp at h
  split_ifs at h with hblank
  obtain rfl := Option.some.inj h
  simp [IsTimestamp, normalizeOptionalTimestamp, hblank]

/-- A weight that is positive and rounds to zero. -/
def TinyWeight (weight : ℚ) : Prop := 0 < weight ∧ weight < 1 / 2000

lemma roundTo_three_eq_zero_iff {weight : ℚ} (h : 0 < weight) :
    roundTo 3 weight = 0 ↔ weight < 1 / 2000 := by
  unfold roundTo
  rw [div_eq_zero_iff, or_iff_left (by norm_num), Int.cast_eq_zero, Int.floor_eq_zero_iff,
    Set.mem_Ico]
  constructor
  · rintro ⟨-, hlt⟩
    linarith
  · intro hlt
    constructor <;> linarith

lemma inThousandths_normalized (weight : ℚ) :
    InThousandths (normalizeConversationDomainSignalWeight weight) := by
  unfold normalizeConversationDomainSignalWeight
  split_ifs with hpositive
  · exact ⟨1000, by norm_num⟩
  · have hfloor : 0 ≤ ⌊weight * 10 ^ 3 + 1 / 2⌋ := by
      refine Int.floor_nonneg.mpr ?_
      linarith
    obtain ⟨n, hn⟩ := Int.eq_ofNat_of_zero_le hfloor
    refine ⟨n, ?_⟩
    rw [roundTo, hn]
    norm_num

/-- Exactly the tiny weights become zero. -/
lemma normalizedWeight_eq_zero_iff (weight : ℚ) :
    normalizeConversationDomainSignalWeight weight = 0 ↔ TinyWeight weight := by
  unfold normalizeConversationDomainSignalWeight TinyWeight
  split_ifs with hpositive
  · constructor
    · intro h
      norm_num at h
    · intro h
      linarith [h.1]
  · rw [roundTo_three_eq_zero_iff (by linarith)]
    exact ⟨fun h => ⟨by linarith, h⟩, fun h => h.2⟩

/-- A weight in thousandths is kept, unless it is zero. -/
lemma normalizedWeight_eq_self_iff {weight : ℚ} (h : InThousandths weight) :
    normalizeConversationDomainSignalWeight weight = weight ↔ weight ≠ 0 := by
  obtain ⟨n, rfl⟩ := h
  have hnonneg : (0 : ℚ) ≤ n / 1000 := by positivity
  unfold normalizeConversationDomainSignalWeight
  by_cases hzero : (n : ℚ) / 1000 = 0
  · rw [hzero]
    norm_num
  · have hpositive : ¬(n : ℚ) / 1000 ≤ 0 := fun hle => hzero (le_antisymm hle hnonneg)
    have hscaled : (n : ℚ) / 1000 * 10 ^ 3 + 1 / 2 = ((n : ℤ) : ℚ) + 1 / 2 := by
      push_cast
      ring
    have hfloor : ⌊((n : ℤ) : ℚ) + 1 / 2⌋ = (n : ℤ) := by
      rw [Int.floor_intCast_add]
      norm_num
    rw [if_neg hpositive, roundTo, hscaled, hfloor]
    refine iff_of_true ?_ hzero
    norm_num

/-! ## Windows that are read again -/

/-- The lane signals that a window keeps: those with a timestamp, the newest of them. -/
def keptLaneSignals (signals : List ConversationDomainLaneSignal) :
    List ConversationDomainLaneSignal :=
  trimBoundedWindow MAX_CONVERSATION_DOMAIN_LANE_HISTORY
    (signals.filter fun signal => trim signal.observedAt ≠ "")

lemma trimBoundedWindow_of_length_le {α : Type*} {maxSize : ℕ} {values : List α}
    (h : values.length ≤ maxSize) : trimBoundedWindow maxSize values = values := by
  rw [trimBoundedWindow, Nat.sub_eq_zero_of_le h, List.drop_zero]

lemma length_trimBoundedWindow {α : Type*} (maxSize : ℕ) (values : List α) :
    (trimBoundedWindow maxSize values).length ≤ maxSize := by
  rw [trimBoundedWindow, List.length_drop]
  omega

lemma mem_of_mem_trimBoundedWindow {α : Type*} {maxSize : ℕ} {values : List α} {value : α}
    (h : value ∈ trimBoundedWindow maxSize values) : value ∈ values :=
  List.mem_of_mem_drop h

/-- Trimming a part first does not change what is kept of the whole. -/
lemma trimBoundedWindow_append {α : Type*} (maxSize : ℕ) (older newer : List α) :
    trimBoundedWindow maxSize
        (trimBoundedWindow maxSize older ++ trimBoundedWindow maxSize newer) =
      trimBoundedWindow maxSize (older ++ newer) := by
  unfold trimBoundedWindow
  simp only [List.length_append, List.length_drop, List.drop_append, List.drop_drop]
  by_cases hfull : maxSize ≤ newer.length
  · -- the newer part fills the window
    have hleft : older.drop (older.length - maxSize + (older.length -
        (older.length - maxSize) + (newer.length - (newer.length - maxSize)) - maxSize)) = [] :=
      List.drop_eq_nil_of_le (by omega)
    have hright : older.drop (older.length + newer.length - maxSize) = [] :=
      List.drop_eq_nil_of_le (by omega)
    rw [hleft, hright]
    congr 2
    omega
  · congr 2 <;> omega

lemma trimBoundedWindow_map {α β : Type*} (f : α → β) (maxSize : ℕ) (values : List α) :
    trimBoundedWindow maxSize (values.map f) = (trimBoundedWindow maxSize values).map f := by
  rw [trimBoundedWindow, trimBoundedWindow, List.length_map, List.map_drop]

/-- A window of signals that are normal already is kept as it is, and no other is. -/
lemma normalizeBoundedWindow_eq_self_iff {α : Type*} {normalizer : α → Option α} {maxSize : ℕ}
    {values : List α} (h : values.length ≤ maxSize)
    (hsome : ∀ value ∈ values, (normalizer value).isSome = true) :
    normalizeBoundedWindow normalizer maxSize values = values ↔
      ∀ value ∈ values, normalizer value = some value := by
  have hmap : (values.filterMap normalizer).map some = values.map normalizer := by
    induction values with
    | nil => rfl
    | cons value values ih =>
        obtain ⟨kept, hkept⟩ := Option.isSome_iff_exists.mp (hsome value List.mem_cons_self)
        have htail := ih (Nat.le_of_succ_le h) fun other hother =>
          hsome other (List.mem_cons_of_mem _ hother)
        rw [List.filterMap_cons_some hkept, List.map_cons, List.map_cons, htail, hkept]
  have hlength : (values.filterMap normalizer).length ≤ maxSize := by
    have hsame := congrArg List.length hmap
    simp only [List.length_map] at hsame
    omega
  rw [normalizeBoundedWindow, trimBoundedWindow_of_length_le hlength]
  constructor
  · intro hfixed value hvalue
    rw [hfixed] at hmap
    exact (List.map_inj_left.mp hmap value hvalue).symm
  · intro hall
    calc values.filterMap normalizer
        = values.filterMap some := List.filterMap_congr hall
      _ = values := List.filterMap_some

/-- A kept signal as it is stored. -/
def storedLaneSignal (signal : ConversationDomainLaneSignal) : ConversationDomainLaneSignal :=
  { signal with
    observedAt := trim signal.observedAt
    weight := normalizeConversationDomainSignalWeight signal.weight }

lemma normalizeLaneWindow_eq (signals : List ConversationDomainLaneSignal) :
    normalizeBoundedWindow normalizeConversationDomainLaneSignal
        MAX_CONVERSATION_DOMAIN_LANE_HISTORY signals =
      (keptLaneSignals signals).map storedLaneSignal := by
  have hfilter : signals.filterMap normalizeConversationDomainLaneSignal =
      (signals.filter fun signal => trim signal.observedAt ≠ "").map storedLaneSignal := by
    induction signals with
    | nil => rfl
    | cons signal signals ih =>
        by_cases hblank : trim signal.observedAt = ""
        · rw [List.filterMap_cons_none
            (by simp [normalizeConversationDomainLaneSignal, normalizeOptionalTimestamp, hblank]),
            ih, List.filter_cons_of_neg (by simpa using hblank)]
        · rw [List.filterMap_cons_some
            (by simp [normalizeConversationDomainLaneSignal, normalizeOptionalTimestamp, hblank];
                rfl),
            ih, List.filter_cons_of_pos (by simpa using hblank), List.map_cons]
          rfl
  rw [normalizeBoundedWindow, hfilter, keptLaneSignals, trimBoundedWindow_map]

lemma isTimestamp_trim {text : String} (h : trim text ≠ "") : IsTimestamp (trim text) := by
  simp [IsTimestamp, normalizeOptionalTimestamp, h]

lemma trim_ne_of_kept {signals : List ConversationDomainLaneSignal}
    {signal : ConversationDomainLaneSignal} (h : signal ∈ keptLaneSignals signals) :
    trim signal.observedAt ≠ "" := by
  simpa using (List.mem_filter.mp (mem_of_mem_trimBoundedWindow h)).2

/-- A context whose decisions are those that a second normalization makes. -/
structure KeptContext (context : ConversationDomainContext) : Prop where
  laneCount : context.recentLaneHistory.length ≤ MAX_CONVERSATION_DOMAIN_LANE_HISTORY
  laneTimes : ∀ signal ∈ context.recentLaneHistory, IsTimestamp signal.observedAt
  laneWeights : ∀ signal ∈ context.recentLaneHistory, InThousandths signal.weight
  routeCount : context.recentRoutingSignals.length ≤ MAX_CONVERSATION_DOMAIN_ROUTING_SIGNALS
  routeTimes : ∀ signal ∈ context.recentRoutingSignals, IsTimestamp signal.observedAt
  dominant : resolveSessionDomain platform context.recentLaneHistory context.dominantLane =
    context.dominantLane
  updated : ∀ time ∈ context.lastUpdatedAt, IsTimestamp time
  unsignalled : context.lastUpdatedAt = none →
    context.recentLaneHistory = [] ∧ context.recentRoutingSignals = []
  since : ∀ time ∈ context.activeSince, IsTimestamp time
  idle : context.dominantLane = .unknown → context.activeSince = none
  started : context.dominantLane ≠ .unknown → context.activeSince = none →
    context.lastUpdatedAt = none

section Kept

variable {platform} {context : ConversationDomainContext}

lemma bind_normalizeOptionalTimestamp {value : Option String}
    (h : ∀ time ∈ value, IsTimestamp time) : value.bind normalizeOptionalTimestamp = value := by
  cases value with
  | none => rfl
  | some time => exact h time rfl

lemma KeptContext.laneWindow_iff (h : KeptContext platform context) :
    normalizeBoundedWindow normalizeConversationDomainLaneSignal
        MAX_CONVERSATION_DOMAIN_LANE_HISTORY context.recentLaneHistory =
      context.recentLaneHistory ↔ ∀ signal ∈ context.recentLaneHistory, signal.weight ≠ 0 := by
  have hsignal : ∀ signal ∈ context.recentLaneHistory,
      normalizeConversationDomainLaneSignal signal = some { signal with
        weight := normalizeConversationDomainSignalWeight signal.weight } := by
    intro signal hmem
    have htime := h.laneTimes signal hmem
    unfold IsTimestamp at htime
    simp [normalizeConversationDomainLaneSignal, htime]
  rw [normalizeBoundedWindow_eq_self_iff h.laneCount
    fun signal hmem => by rw [hsignal signal hmem]; rfl]
  refine forall₂_congr fun signal hmem => ?_
  rw [hsignal signal hmem, ← normalizedWeight_eq_self_iff (h.laneWeights signal hmem)]
  constructor
  · intro heq
    exact congrArg ConversationDomainLaneSignal.weight (Option.some.inj heq)
  · intro heq
    rw [heq]

lemma KeptContext.routingWindow (h : KeptContext platform context) :
    normalizeBoundedWindow normalizeConversationDomainRoutingSignal
        MAX_CONVERSATION_DOMAIN_ROUTING_SIGNALS context.recentRoutingSignals =
      context.recentRoutingSignals := by
  have hsignal : ∀ signal ∈ context.recentRoutingSignals,
      normalizeConversationDomainRoutingSignal signal = some signal := by
    intro signal hmem
    have htime := h.routeTimes signal hmem
    unfold IsTimestamp at htime
    simp [normalizeConversationDomainRoutingSignal, htime]
  refine (normalizeBoundedWindow_eq_self_iff h.routeCount fun signal hmem => ?_).mpr hsignal
  rw [hsignal signal hmem]
  rfl

/-- Normalized again, such a context stays as it is unless it holds a weight of zero. -/
theorem KeptContext.normalize_eq_self_iff (h : KeptContext platform context) :
    normalizeConversationDomainContext platform context context.conversationId = context ↔
      ∀ signal ∈ context.recentLaneHistory, signal.weight ≠ 0 := by
  rw [← h.laneWindow_iff]
  constructor
  · intro hsame
    exact congrArg ConversationDomainContext.recentLaneHistory hsame
  · intro hlanes
    have hupdated := bind_normalizeOptionalTimestamp h.updated
    have hsince := bind_normalizeOptionalTimestamp h.since
    have hlast : (context.lastUpdatedAt.or
        (getLastLaneSignalTimestamp context.recentLaneHistory)).or
          (getLastRoutingSignalTimestamp context.recentRoutingSignals) =
        context.lastUpdatedAt := by
      cases htime : context.lastUpdatedAt with
      | some time => rfl
      | none =>
          obtain ⟨hnoLanes, hnoRoutes⟩ := h.unsignalled htime
          rw [hnoLanes, hnoRoutes]
          rfl
    have hdominant : (if context.recentLaneHistory.isEmpty then context.dominantLane
        else resolveSessionDomain platform context.recentLaneHistory context.dominantLane) =
          context.dominantLane := by
      rw [h.dominant, ite_self]
    have hactive : (if context.dominantLane = .unknown then none
        else context.activeSince.or context.lastUpdatedAt) = context.activeSince := by
      split_ifs with hunknown
      · exact (h.idle hunknown).symm
      · cases htime : context.activeSince with
        | some time => rfl
        | none => rw [h.started hunknown htime]; rfl
    unfold normalizeConversationDomainContext
    simp only [hlanes, h.routingWindow, hdominant, hupdated, hlast, hsince, hactive]

/-! ## What a first normalization gives -/

/-- Signals as a normalized window holds them. -/
structure StoredSignal (signal : ConversationDomainLaneSignal) : Prop where
  time : IsTimestamp signal.observedAt
  weight : InThousandths signal.weight

lemma storedSignal_of_window {signals : List ConversationDomainLaneSignal} :
    ∀ signal ∈ normalizeBoundedWindow normalizeConversationDomainLaneSignal
      MAX_CONVERSATION_DOMAIN_LANE_HISTORY signals, StoredSignal signal := by
  intro signal hsignal
  rw [normalizeLaneWindow_eq] at hsignal
  obtain ⟨kept, hkept, rfl⟩ := List.mem_map.mp hsignal
  exact ⟨isTimestamp_trim (trim_ne_of_kept hkept), inThousandths_normalized kept.weight⟩

lemma isTimestamp_of_routingWindow {signals : List ConversationDomainRoutingSignal} :
    ∀ signal ∈ normalizeBoundedWindow normalizeConversationDomainRoutingSignal
      MAX_CONVERSATION_DOMAIN_ROUTING_SIGNALS signals, IsTimestamp signal.observedAt := by
  intro signal hsignal
  obtain ⟨given, -, hgiven⟩ := List.mem_filterMap.mp (mem_of_mem_trimBoundedWindow hsignal)
  obtain ⟨time, htime, rfl⟩ := Option.map_eq_some_iff.mp hgiven
  exact isTimestamp_of_normalized htime

lemma isTimestamp_or {left right : Option String} (hleft : ∀ time ∈ left, IsTimestamp time)
    (hright : ∀ time ∈ right, IsTimestamp time) : ∀ time ∈ left.or right, IsTimestamp time := by
  cases left with
  | none => exact hright
  | some time => exact hleft

lemma isTimestamp_bind (value : Option String) :
    ∀ time ∈ value.bind normalizeOptionalTimestamp, IsTimestamp time := by
  intro time htime
  obtain ⟨text, -, hnormalized⟩ := Option.bind_eq_some_iff.mp htime
  exact isTimestamp_of_normalized hnormalized

lemma isTimestamp_unless {unknown : Prop} [Decidable unknown] {value : Option String}
    (h : ∀ time ∈ value, IsTimestamp time) :
    ∀ time ∈ (if unknown then none else value), IsTimestamp time := by
  split_ifs
  · simp
  · exact h

lemma isTimestamp_lastLane {history : List ConversationDomainLaneSignal}
    (h : ∀ signal ∈ history, IsTimestamp signal.observedAt) :
    ∀ time ∈ getLastLaneSignalTimestamp history, IsTimestamp time := by
  intro time htime
  obtain ⟨signal, hsignal, rfl⟩ := Option.map_eq_some_iff.mp htime
  exact h signal (List.mem_of_getLast? hsignal)

lemma isTimestamp_lastRouting {signals : List ConversationDomainRoutingSignal}
    (h : ∀ signal ∈ signals, IsTimestamp signal.observedAt) :
    ∀ time ∈ getLastRoutingSignalTimestamp signals, IsTimestamp time := by
  intro time htime
  obtain ⟨signal, hsignal, rfl⟩ := Option.map_eq_some_iff.mp htime
  exact h signal (List.mem_of_getLast? hsignal)

lemma lastLane_eq_none {history : List ConversationDomainLaneSignal}
    (h : getLastLaneSignalTimestamp history = none) : history = [] :=
  List.getLast?_eq_none_iff.mp (Option.map_eq_none_iff.mp h)

lemma lastRouting_eq_none {signals : List ConversationDomainRoutingSignal}
    (h : getLastRoutingSignalTimestamp signals = none) : signals = [] :=
  List.getLast?_eq_none_iff.mp (Option.map_eq_none_iff.mp h)

variable (platform) in
lemma keptContext_normalize (candidate : ConversationDomainContext) (conversationId : String) :
    KeptContext platform
      (normalizeConversationDomainContext platform candidate conversationId) := by
  have hlanes := @storedSignal_of_window candidate.recentLaneHistory
  have hroutes := @isTimestamp_of_routingWindow candidate.recentRoutingSignals
  have hupdated := isTimestamp_or (isTimestamp_or (isTimestamp_bind candidate.lastUpdatedAt)
    (isTimestamp_lastLane fun signal hsignal => (hlanes signal hsignal).time))
    (isTimestamp_lastRouting hroutes)
  refine ⟨length_trimBoundedWindow _ _, fun signal hsignal => (hlanes signal hsignal).time,
    fun signal hsignal => (hlanes signal hsignal).weight, length_trimBoundedWindow _ _, hroutes,
    ?_, hupdated, ?_, ?_, ?_, ?_⟩
  · dsimp only [normalizeConversationDomainContext]
    generalize normalizeBoundedWindow normalizeConversationDomainLaneSignal
      MAX_CONVERSATION_DOMAIN_LANE_HISTORY candidate.recentLaneHistory = history
    cases history with
    | nil => rfl
    | cons signal history => exact resolveSessionDomain_again platform _ _
  · intro hnone
    have hparts := Option.or_eq_none_iff.mp hnone
    exact ⟨lastLane_eq_none (Option.or_eq_none_iff.mp hparts.1).2, lastRouting_eq_none hparts.2⟩
  · exact isTimestamp_unless (isTimestamp_or (isTimestamp_bind candidate.activeSince) hupdated)
  · exact fun hunknown => if_pos hunknown
  · intro hknown hnone
    have hactive := (if_neg hknown).symm.trans hnone
    exact (Option.or_eq_none_iff.mp hactive).2

variable (platform) in
lemma keptContext_apply (context : ConversationDomainContext)
    (update : ConversationDomainSignalWindowUpdate) :
    KeptContext platform (applyDomainSignalWindow platform context update) := by
  have hkept := keptContext_normalize platform context context.conversationId
  generalize hnormalized : normalizeConversationDomainContext platform context
    context.conversationId = normalized at hkept
  have hlanes : ∀ signal ∈ trimBoundedWindow MAX_CONVERSATION_DOMAIN_LANE_HISTORY
      (normalized.recentLaneHistory ++ normalizeBoundedWindow
        normalizeConversationDomainLaneSignal MAX_CONVERSATION_DOMAIN_LANE_HISTORY
          update.laneSignals), StoredSignal signal := by
    intro signal hsignal
    rcases List.mem_append.mp (mem_of_mem_trimBoundedWindow hsignal) with hold | hnew
    · exact ⟨hkept.laneTimes signal hold, hkept.laneWeights signal hold⟩
    · exact storedSignal_of_window signal hnew
  have hroutes : ∀ signal ∈ trimBoundedWindow MAX_CONVERSATION_DOMAIN_ROUTING_SIGNALS
      (normalized.recentRoutingSignals ++ normalizeBoundedWindow
        normalizeConversationDomainRoutingSignal MAX_CONVERSATION_DOMAIN_ROUTING_SIGNALS
          update.routingSignals), IsTimestamp signal.observedAt := by
    intro signal hsignal
    rcases List.mem_append.mp (mem_of_mem_trimBoundedWindow hsignal) with hold | hnew
    · exact hkept.routeTimes signal hold
    · exact isTimestamp_of_routingWindow signal hnew
  have hobserved : ∀ time ∈ normalizeOptionalTimestamp update.observedAt, IsTimestamp time :=
    fun time htime => isTimestamp_of_normalized htime
  have hupdated := isTimestamp_or (isTimestamp_or (isTimestamp_or hobserved
    (isTimestamp_lastLane fun signal hsignal => (hlanes signal hsignal).time))
    (isTimestamp_lastRouting hroutes)) hkept.updated
  unfold applyDomainSignalWindow
  rw [hnormalized]
  refine ⟨length_trimBoundedWindow _ _, fun signal hsignal => (hlanes signal hsignal).time,
    fun signal hsignal => (hlanes signal hsignal).weight, length_trimBoundedWindow _ _, hroutes,
    resolveSessionDomain_again platform _ _, hupdated, ?_, ?_, ?_, ?_⟩
  · intro hnone
    have hparts := Option.or_eq_none_iff.mp (Option.or_eq_none_iff.mp hnone).1
    exact ⟨lastLane_eq_none (Option.or_eq_none_iff.mp hparts.1).2, lastRouting_eq_none hparts.2⟩
  · refine isTimestamp_unless ?_
    split_ifs
    · exact isTimestamp_or hkept.since hupdated
    · exact hupdated
  · exact fun hunknown => if_pos hunknown
  · intro hknown hnone
    have hactive := (if_neg hknown).symm.trans hnone
    split_ifs at hactive
    · exact (Option.or_eq_none_iff.mp hactive).2
    · exact hactive

lemma stored_weights_iff (signals : List ConversationDomainLaneSignal) :
    (∀ signal ∈ (keptLaneSignals signals).map storedLaneSignal, signal.weight ≠ 0) ↔
      ∀ signal ∈ keptLaneSignals signals, ¬TinyWeight signal.weight := by
  rw [List.forall_mem_map]
  exact forall₂_congr fun signal _ => (normalizedWeight_eq_zero_iff signal.weight).not

lemma lanes_of_apply (update : ConversationDomainSignalWindowUpdate) :
    (applyDomainSignalWindow platform context update).recentLaneHistory =
      (keptLaneSignals (context.recentLaneHistory ++ update.laneSignals)).map
        storedLaneSignal := by
  have hcontext : (applyDomainSignalWindow platform context update).recentLaneHistory =
      trimBoundedWindow MAX_CONVERSATION_DOMAIN_LANE_HISTORY
        (normalizeBoundedWindow normalizeConversationDomainLaneSignal
            MAX_CONVERSATION_DOMAIN_LANE_HISTORY context.recentLaneHistory ++
          normalizeBoundedWindow normalizeConversationDomainLaneSignal
            MAX_CONVERSATION_DOMAIN_LANE_HISTORY update.laneSignals) := rfl
  rw [hcontext, normalizeLaneWindow_eq, normalizeLaneWindow_eq, ← List.map_append,
    trimBoundedWindow_map, keptLaneSignals, keptLaneSignals, trimBoundedWindow_append,
    ← List.filter_append]
  rfl

end Kept

/-- The lane signals that a candidate gives. -/
def candidateLaneSignals : Json → List ConversationDomainLaneSignal
  | .obj fields => (readDomainContext fields).recentLaneHistory
  | _ => []

lemma keptContext_value (candidate : Json) (conversationId : String) :
    KeptContext platform (normalizeDomainContextValue platform candidate conversationId) ∧
      (normalizeDomainContextValue platform candidate conversationId).conversationId =
        conversationId ∧
      (normalizeDomainContextValue platform candidate conversationId).recentLaneHistory =
        (keptLaneSignals (candidateLaneSignals candidate)).map storedLaneSignal := by
  have hempty : KeptContext platform (createEmptyConversationDomainContext conversationId) := by
    have hnormalized : normalizeConversationDomainContext platform (readDomainContext [])
        conversationId = createEmptyConversationDomainContext conversationId := rfl
    rw [← hnormalized]
    exact keptContext_normalize platform _ _
  cases candidate with
  | obj fields =>
      exact ⟨keptContext_normalize platform _ _, rfl, normalizeLaneWindow_eq _⟩
  | arr elems => exact ⟨keptContext_normalize platform _ _, rfl, rfl⟩
  | null => exact ⟨hempty, rfl, rfl⟩
  | bool value => exact ⟨hempty, rfl, rfl⟩
  | num value => exact ⟨hempty, rfl, rfl⟩
  | str value => exact ⟨hempty, rfl, rfl⟩

/-- A context comes back from the store as it was saved, exactly when no lane signal that its
window keeps has a weight that rounds to zero. -/
theorem domain_context_reload_iff (platform : Platform) :
    (∀ (candidate : Json) (conversationId : String),
      (normalizeDomainContextValue platform
          (domainContextJson (normalizeDomainContextValue platform candidate conversationId))
          conversationId = normalizeDomainContextValue platform candidate conversationId ↔
        ∀ signal ∈ keptLaneSignals (candidateLaneSignals candidate),
          ¬TinyWeight signal.weight)) ∧
    ∀ (context : ConversationDomainContext) (update : ConversationDomainSignalWindowUpdate),
      (normalizeDomainContextValue platform
          (domainContextJson (applyDomainSignalWindow platform context update))
          (applyDomainSignalWindow platform context update).conversationId =
            applyDomainSignalWindow platform context update ↔
        ∀ signal ∈ keptLaneSignals (context.recentLaneHistory ++ update.laneSignals),
          ¬TinyWeight signal.weight) := by
  constructor
  · intro candidate conversationId
    obtain ⟨hkept, hid, hlanes⟩ := keptContext_value platform candidate conversationId
    have hfixed := hkept.normalize_eq_self_iff
    rw [hid, hlanes, stored_weights_iff] at hfixed
    rw [normalizeDomainContextValue_json platform hkept.laneWeights, hfixed]
  · intro context update
    have hkept := keptContext_apply platform context update
    have hfixed := hkept.normalize_eq_self_iff
    rw [lanes_of_apply, stored_weights_iff] at hfixed
    rw [normalizeDomainContextValue_json platform hkept.laneWeights, hfixed]

/-- A saved context with one weak signal for the profile lane. -/
def weakProfileContext : Json :=
  .obj [("recentLaneHistory", .arr [.obj
    [("lane", .str "profile"), ("observedAt", .str "2026-03-01T10:00:00.000Z"),
      ("source", .str "keyword"),
      ("weight", .num ⟨"0.0001".toList, by decide, List.all_eq_true.mp (by decide)⟩)]])]

/-- It says nothing when it is first read, and the profile lane dominates when it is loaded. -/
theorem weak_signal_becomes_dominant :
    normalizeDomainContextValue (.ofDates [])
        (domainContextJson (normalizeDomainContextValue (.ofDates []) weakProfileContext "chat"))
        "chat" ≠ normalizeDomainContextValue (.ofDates []) weakProfileContext "chat" ∧
      (normalizeDomainContextValue (.ofDates []) weakProfileContext "chat").dominantLane =
        .unknown ∧
      (normalizeDomainContextValue (.ofDates [])
        (domainContextJson (normalizeDomainContextValue (.ofDates []) weakProfileContext "chat"))
        "chat").dominantLane = .profile := by
  decide +kernel

end AgentBigBrain.Core
