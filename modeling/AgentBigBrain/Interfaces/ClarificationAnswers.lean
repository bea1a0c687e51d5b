import AgentBigBrain.Core.LanguageRuntime
import AgentBigBrain.Interfaces.SessionState

/-!
# Answers to clarifications

A reply answers a clarification when exactly one of the offered options matches its tokens. The
options that act on a machine refuse a reply of nothing but confirmations and filler words. One
word beyond those is enough to pass, whatever it says.
-/
namespace AgentBigBrain.Interfaces

open AgentBigBrain.Js AgentBigBrain.Core

/-! ## Tokens -/

variable (platform : Platform)

/-- The characters that join the parts of one token: `['.-]`. -/
def isRawTokenJoiner (c : Char) : Bool :=
  c == '\'' || c == '.' || c == '-'

/-- The matches of `/[\p{L}\p{N}]+(?:['.-][\p{L}\p{N}]+)*/gu`; `current` is the token being read,
its last character first. -/
def rawTokensFrom (current : List Char) : List Char → List (List Char)
  | [] => if current.isEmpty then [] else [current.reverse]
  | c :: cs =>
      if platform.isLetterOrNumber c then
        rawTokensFrom (c :: current) cs
      else if !current.isEmpty && isRawTokenJoiner c && cs.head?.any platform.isLetterOrNumber then
        rawTokensFrom (c :: current) cs
      else if current.isEmpty then
        rawTokensFrom [] cs
      else
        current.reverse :: rawTokensFrom [] cs

def collectConversationChatTurnRawTokens (userInput : String) : List String :=
  (rawTokensFrom platform [] userInput.toList).map (normalizeLanguageToken platform)

/-- The normalized reply and its tokens. -/
def tokenizeClarificationReply (userInput : String) : String × List String :=
  let normalized := normalizeWhitespace userInput
  (normalized, collectConversationChatTurnRawTokens platform normalized)

/-! ## Options -/

def AFFIRMATION_TOKENS : List String :=
  ["yes", "yeah", "yep", "sure", "okay", "ok"]

def NEGATION_TOKENS : List String :=
  ["no", "nope", "nah", "cancel", "stop"]

def hasTokenSequence : List String → List String → Bool
  | [], _ => false
  | token :: tokens, sequence =>
      (!sequence.isEmpty && sequence.isPrefixOf (token :: tokens)) ||
        hasTokenSequence tokens sequence

def hasAnyTokenSequence (tokens : List String) (sequences : List (List String)) : Bool :=
  sequences.any fun sequence => hasTokenSequence tokens sequence

def hasAnyToken (tokens cues : List String) : Bool :=
  tokens.any fun token => cues.contains token

def matchesPlanAnswer (tokens : List String) : Bool :=
  tokens.contains "plan" || tokens.contains "outline" || tokens.contains "proposal" ||
    hasAnyTokenSequence tokens
      [["plan", "it"], ["plan", "first"], ["walk", "me", "through"], ["talk", "me", "through"]]

def matchesBuildAnswer (tokens : List String) : Bool :=
  hasAnyToken tokens ["build", "create", "implement"] ||
    hasAnyTokenSequence tokens
      [["build", "it"], ["make", "it"], ["go", "ahead", "with", "the", "real", "thing"]]

def matchesStaticHtmlAnswer (tokens : List String) : Bool :=
  hasAnyToken tokens ["html"] ||
    hasAnyTokenSequence tokens
      [["plain", "html"], ["static", "html"], ["single", "file", "html"], ["just", "html"]]

def matchesNextJsAnswer (tokens : List String) : Bool :=
  hasAnyToken tokens ["nextjs", "next.js"] ||
    hasAnyTokenSequence tokens [["next", "js"], ["next", "dot", "js"]]

def matchesReactAnswer (tokens : List String) : Bool :=
  hasAnyToken tokens ["react"] ||
    hasAnyTokenSequence tokens [["react", "app"], ["react", "site"]]

def matchesExplainAnswer (tokens : List String) : Bool :=
  tokens.contains "explain" ||
    hasAnyTokenSequence tokens
      [["explain", "it"], ["talk", "me", "through"], ["walk", "me", "through"],
        ["show", "me", "why"]]

def matchesFixNowAnswer (tokens : List String) : Bool :=
  hasAnyToken tokens ["fix", "repair", "execute"] ||
    hasAnyTokenSequence tokens
      [["fix", "it"], ["do", "it", "now"], ["just", "do", "it"], ["run", "it", "now"]]

def matchesSkillsAnswer (tokens : List String) : Bool :=
  hasAnyToken tokens ["skills", "skill", "tools", "tool", "list", "show"] ||
    hasAnyTokenSequence tokens [["what", "do", "you", "know"]]

def matchesContinueRecoveryAnswer (tokens : List String) : Bool :=
  hasAnyToken tokens AFFIRMATION_TOKENS ||
    hasAnyTokenSequence tokens [["go", "ahead"], ["please", "do"]] ||
    tokens.contains "continue" || tokens.contains "inspect" || tokens.contains "recover" ||
    hasAnyTokenSequence tokens [["try", "again"], ["look", "into"], ["look", "closer"]]

def matchesRetryWithShutdownAnswer (tokens : List String) : Bool :=
  hasAnyToken tokens AFFIRMATION_TOKENS ||
    hasAnyTokenSequence tokens [["go", "ahead"], ["please", "do"]] ||
    tokens.contains "retry" ||
    hasAnyTokenSequence tokens
      [["shut", "them", "down"], ["shut", "those", "down"], ["shut", "it", "down"],
        ["close", "them"], ["close", "those"], ["close", "it"], ["fix", "it"], ["do", "that"]]

def matchesCancelAnswer (tokens : List String) : Bool :=
  hasAnyToken tokens NEGATION_TOKENS ||
    hasAnyTokenSequence tokens
      [["never", "mind"], ["leave", "them", "alone"], ["leave", "those", "alone"],
        ["leave", "it", "alone"], ["where", "they", "are"], ["where", "it", "is"], ["do", "not"]]

def matchesClarificationOption (optionId : ClarificationOptionId) (tokens : List String) : Bool :=
  match optionId with
  | .plan => matchesPlanAnswer tokens
  | .build => matchesBuildAnswer tokens
  | .staticHtml => matchesStaticHtmlAnswer tokens
  | .nextjs => matchesNextJsAnswer tokens
  | .react => matchesReactAnswer tokens
  | .explain => matchesExplainAnswer tokens
  | .fixNow => matchesFixNowAnswer tokens
  | .skills => matchesSkillsAnswer tokens
  | .continueRecovery => matchesContinueRecoveryAnswer tokens
  | .retryWithShutdown => matchesRetryWithShutdownAnswer tokens
  | .cancel => matchesCancelAnswer tokens

/-! ## Resolution -/

def GENERIC_CONFIRMATION_TOKENS : List String :=
  AFFIRMATION_TOKENS ++ ["please", "go", "ahead", "do", "that", "it"]

def HIGH_RISK_SIDE_EFFECT_OPTION_IDS : List ClarificationOptionId :=
  [.retryWithShutdown, .continueRecovery, .fixNow]

structure ClarificationResolutionResult where
  selectedOptionId : ClarificationOptionId
  promptId : String
  promptFingerprint : Option String
  riskClass : ClarificationRiskClass
  deriving DecidableEq

def resolveClarificationRiskClass (clarification : ActiveClarificationState) :
    ClarificationRiskClass :=
  clarification.riskClass.getD (if clarification.kind = .taskRecovery then .high else .medium)

def isGenericConfirmationOnly (tokens : List String) : Bool :=
  decide (0 < tokens.length) && tokens.all fun token => GENERIC_CONFIRMATION_TOKENS.contains token

def shouldRejectGenericHighRiskConfirmation (clarification : ActiveClarificationState)
    (selectedOptionId : ClarificationOptionId) (tokens : List String) : Bool :=
  decide (resolveClarificationRiskClass clarification = .high) &&
    HIGH_RISK_SIDE_EFFECT_OPTION_IDS.contains selectedOptionId && isGenericConfirmationOnly tokens

def resolveClarificationAnswer (clarification : ActiveClarificationState) (userInput : String) :
    Option ClarificationResolutionResult :=
  let (normalized, tokens) := tokenizeClarificationReply platform userInput
  if normalized = "" then none
  else
    match (clarification.options.map (·.id)).filter
        (fun optionId => matchesClarificationOption optionId tokens) with
    | [selectedOptionId] =>
        if shouldRejectGenericHighRiskConfirmation clarification selectedOptionId tokens then none
        else
          some
            { selectedOptionId := selectedOptionId
              promptId := clarification.id
              promptFingerprint := clarification.promptFingerprint
              riskClass := resolveClarificationRiskClass clarification }
    | _ => none

/-! ## What a reply says -/

/-- The words and phrases that name a risky option, among those that match it. -/
def actionCues : ClarificationOptionId → List (List String)
  | .retryWithShutdown =>
      [["retry"], ["shut", "them", "down"], ["shut", "those", "down"], ["shut", "it", "down"],
        ["close", "them"], ["close", "those"], ["close", "it"], ["fix", "it"]]
  | .continueRecovery =>
      [["continue"], ["inspect"], ["recover"], ["try", "again"], ["look", "into"],
        ["look", "closer"]]
  | .fixNow =>
      [["fix"], ["repair"], ["execute"], ["fix", "it"], ["do", "it", "now"], ["just", "do", "it"],
        ["run", "it", "now"]]
  | _ => []

/-- The words and phrases that match it without naming it. -/
def confirmationCues : ClarificationOptionId → List (List String)
  | .retryWithShutdown =>
      AFFIRMATION_TOKENS.map ([·]) ++ [["go", "ahead"], ["please", "do"], ["do", "that"]]
  | .continueRecovery => AFFIRMATION_TOKENS.map ([·]) ++ [["go", "ahead"], ["please", "do"]]
  | _ => []

/-- The words and phrases that negate. The typographic apostrophe splits a token in two. -/
def negationPhrases : List (List String) :=
  [["do", "not"], ["don't"], ["don", "t"], ["dont"], ["not"], ["never"], ["no"], ["nope"],
    ["nah"]]

def NamesAction (optionId : ClarificationOptionId) (tokens : List String) : Prop :=
  hasAnyTokenSequence tokens (actionCues optionId) = true

def Confirms (optionId : ClarificationOptionId) (tokens : List String) : Prop :=
  hasAnyTokenSequence tokens (confirmationCues optionId) = true

def Negated (tokens : List String) : Prop :=
  hasAnyTokenSequence tokens negationPhrases = true

instance (optionId : ClarificationOptionId) (tokens : List String) :
    Decidable (NamesAction optionId tokens) :=
  inferInstanceAs (Decidable (_ = true))

instance (tokens : List String) : Decidable (Negated tokens) :=
  inferInstanceAs (Decidable (_ = true))

/-- The option is offered once, and the reply matches no other. -/
def NoOtherAnswer (clarification : ActiveClarificationState) (optionId : ClarificationOptionId)
    (tokens : List String) : Prop :=
  (clarification.options.map (·.id)).count optionId = 1 ∧
    ∀ option ∈ clarification.options, option.id ≠ optionId →
      matchesClarificationOption option.id tokens = false

/-! ## Cues -/

lemma hasTokenSequence_iff {tokens sequence : List String} :
    hasTokenSequence tokens sequence = true ↔ sequence ≠ [] ∧ sequence <:+: tokens := by
  induction tokens with
  | nil => simp [hasTokenSequence]
  | cons token tokens ih =>
      rw [hasTokenSequence, Bool.or_eq_true, ih, List.infix_cons_iff, Bool.and_eq_true,
        List.isPrefixOf_iff_prefix, Bool.not_eq_true', List.isEmpty_eq_false_iff]
      tauto

lemma hasAnyTokenSequence_iff {tokens : List String} {sequences : List (List String)} :
    hasAnyTokenSequence tokens sequences = true ↔
      ∃ sequence ∈ sequences, sequence ≠ [] ∧ sequence <:+: tokens := by
  simp [hasAnyTokenSequence, hasTokenSequence_iff]

lemma hasTokenSequence_singleton (tokens : List String) (token : String) :
    hasTokenSequence tokens [token] = tokens.contains token := by
  rw [Bool.eq_iff_iff, hasTokenSequence_iff, List.contains_iff_mem, List.singleton_infix_iff]
  simp

lemma hasAnyToken_eq (tokens cues : List String) :
    hasAnyToken tokens cues = hasAnyTokenSequence tokens (cues.map ([·])) := by
  rw [Bool.eq_iff_iff]
  simp only [hasAnyToken, hasAnyTokenSequence, List.any_eq_true, List.any_map, Function.comp,
    hasTokenSequence_singleton, List.contains_iff_mem]
  constructor
  · rintro ⟨token, htoken, hcue⟩
    exact ⟨token, hcue, htoken⟩
  · rintro ⟨token, hcue, htoken⟩
    exact ⟨token, htoken, hcue⟩

/-- A risky option is matched by its action cues and its confirmation cues. -/
lemma matchesClarificationOption_iff {optionId : ClarificationOptionId}
    (hrisky : optionId ∈ HIGH_RISK_SIDE_EFFECT_OPTION_IDS) (tokens : List String) :
    matchesClarificationOption optionId tokens = true ↔
      NamesAction optionId tokens ∨ Confirms optionId tokens := by
  have hcases : optionId = .retryWithShutdown ∨ optionId = .continueRecovery ∨
      optionId = .fixNow := by
    simpa [HIGH_RISK_SIDE_EFFECT_OPTION_IDS] using hrisky
  rcases hcases with rfl | rfl | rfl
  · simp only [matchesClarificationOption, matchesRetryWithShutdownAnswer, hasAnyToken_eq,
      NamesAction, Confirms, actionCues, confirmationCues, List.any_append,
      hasAnyTokenSequence, List.any_cons, List.any_nil, hasTokenSequence_singleton,
      Bool.or_eq_true]
    tauto
  · simp only [matchesClarificationOption, matchesContinueRecoveryAnswer, hasAnyToken_eq,
      NamesAction, Confirms, actionCues, confirmationCues, List.any_append,
      hasAnyTokenSequence, List.any_cons, List.any_nil, hasTokenSequence_singleton,
      Bool.or_eq_true]
    tauto
  · simp only [matchesClarificationOption, matchesFixNowAnswer, hasAnyToken_eq, NamesAction,
      Confirms, actionCues, confirmationCues, hasAnyTokenSequence, List.map_cons, List.map_nil,
      List.any_cons, List.any_nil, hasTokenSequence_singleton, Bool.or_eq_true]
    tauto

/-- An action cue holds a word that confirms nothing by itself. -/
lemma exists_concrete_token {optionId : ClarificationOptionId} {cue : List String}
    (hcue : cue ∈ actionCues optionId) :
    ∃ token ∈ cue, GENERIC_CONFIRMATION_TOKENS.contains token = false := by
  have hall : ∀ cue ∈ actionCues optionId,
      cue.any (fun token => !GENERIC_CONFIRMATION_TOKENS.contains token) = true := by
    cases optionId <;> decide
  obtain ⟨token, htoken, hconcrete⟩ := List.any_eq_true.mp (hall cue hcue)
  exact ⟨token, htoken, by simpa using hconcrete⟩

lemma NamesAction.not_generic {optionId : ClarificationOptionId} {tokens : List String}
    (h : NamesAction optionId tokens) : isGenericConfirmationOnly tokens = false := by
  obtain ⟨cue, hcue, -, hwithin⟩ := hasAnyTokenSequence_iff.mp h
  obtain ⟨token, htoken, hconcrete⟩ := exists_concrete_token hcue
  rw [Bool.eq_false_iff]
  intro hgeneric
  have hall := List.all_eq_true.mp (Bool.and_eq_true_iff.mp hgeneric).2
  rw [hall token (hwithin.subset htoken)] at hconcrete
  cases hconcrete

/-! ## Which option a reply selects -/

lemma filter_eq_singleton_iff {α : Type} [DecidableEq α] {xs : List α} {p : α → Bool} {x : α} :
    xs.filter p = [x] ↔ xs.count x = 1 ∧ p x = true ∧ ∀ y ∈ xs, y ≠ x → p y = false := by
  constructor
  · intro h
    have hx : x ∈ xs.filter p := by simp [h]
    have hp := (List.mem_filter.mp hx).2
    refine ⟨?_, hp, fun y hy hne => ?_⟩
    · rw [← List.count_filter hp, h]
      simp
    · by_contra hy'
      have hmem : y ∈ xs.filter p := List.mem_filter.mpr ⟨hy, by simpa using hy'⟩
      rw [h] at hmem
      exact hne (List.mem_singleton.mp hmem)
  · rintro ⟨hcount, hp, hothers⟩
    have hall : ∀ y ∈ xs.filter p, y = x := by
      intro y hy
      obtain ⟨hy, hpy⟩ := List.mem_filter.mp hy
      by_contra hne
      rw [hothers y hy hne] at hpy
      cases hpy
    have hreplicate := List.eq_replicate_of_mem hall
    rw [← List.count_filter hp, hreplicate, List.count_replicate_self] at hcount
    rw [hreplicate, hcount]
    rfl

lemma selects_iff {clarification : ActiveClarificationState} {optionId : ClarificationOptionId}
    {tokens : List String} :
    (clarification.options.map (·.id)).filter
        (fun optionId => matchesClarificationOption optionId tokens) = [optionId] ↔
      NoOtherAnswer clarification optionId tokens ∧
        matchesClarificationOption optionId tokens = true := by
  rw [filter_eq_singleton_iff, NoOtherAnswer, List.forall_mem_map]
  tauto

lemma not_matches_nil (optionId : ClarificationOptionId) :
    matchesClarificationOption optionId [] = false := by
  cases optionId <;> rfl

/-- The tokens of a reply. -/
abbrev replyTokens (userInput : String) : List String :=
  (tokenizeClarificationReply platform userInput).2

/-- When a risky option of a clarification of high risk is selected. -/
lemma resolves_iff {clarification : ActiveClarificationState} {userInput : String}
    {optionId : ClarificationOptionId}
    (hhigh : resolveClarificationRiskClass clarification = .high)
    (hrisky : optionId ∈ HIGH_RISK_SIDE_EFFECT_OPTION_IDS) :
    (∃ result, resolveClarificationAnswer platform clarification userInput = some result ∧
        result.selectedOptionId = optionId) ↔
      NoOtherAnswer clarification optionId (replyTokens platform userInput) ∧
        matchesClarificationOption optionId (replyTokens platform userInput) = true ∧
        isGenericConfirmationOnly (replyTokens platform userInput) = false := by
  rw [← and_assoc, ← selects_iff]
  unfold resolveClarificationAnswer
  dsimp only
  by_cases hempty : (tokenizeClarificationReply platform userInput).1 = ""
  · have htokens : replyTokens platform userInput = [] := by
      have hnormalized : normalizeWhitespace userInput = "" := hempty
      unfold replyTokens tokenizeClarificationReply
      rw [hnormalized]
      rfl
    rw [if_pos hempty, htokens]
    have hnone : (clarification.options.map (·.id)).filter
        (fun optionId => matchesClarificationOption optionId []) = [] :=
      List.filter_eq_nil_iff.mpr fun other _ => by simp [not_matches_nil]
    simp [hnone]
  · rw [if_neg hempty]
    change (∃ result, (match (clarification.options.map (·.id)).filter
        (fun optionId => matchesClarificationOption optionId (replyTokens platform userInput)) with
      | [selectedOptionId] => _
      | _ => none) = some result ∧ _) ↔ _
    split
    · rename_i selected hselected
      rw [hselected]
      have hreject : ∀ selected ∈ HIGH_RISK_SIDE_EFFECT_OPTION_IDS,
          shouldRejectGenericHighRiskConfirmation clarification selected
              (replyTokens platform userInput) =
            isGenericConfirmationOnly (replyTokens platform userInput) := by
        intro selected hmem
        simp [shouldRejectGenericHighRiskConfirmation, hhigh, hmem]
      constructor
      · rintro ⟨result, hresult, rfl⟩
        split_ifs at hresult with hrejected
        cases hresult
        rw [hreject _ hrisky] at hrejected
        exact ⟨rfl, by simpa using hrejected⟩
      · rintro ⟨hsame, hgeneric⟩
        obtain rfl : selected = optionId := List.singleton_inj.mp hsame
        rw [hreject _ hrisky, hgeneric]
        exact ⟨_, rfl, rfl⟩
    · rename_i hother
      refine iff_of_false (by simp) fun h => hother optionId h.1

/-- A selected risky option is named by the reply, and the reply negates nothing. -/
def SafelyAnswered (clarification : ActiveClarificationState) (userInput : String) : Prop :=
  ∀ result, resolveClarificationAnswer platform clarification userInput = some result →
    result.selectedOptionId ∈ HIGH_RISK_SIDE_EFFECT_OPTION_IDS →
      NamesAction result.selectedOptionId (replyTokens platform userInput) ∧
        ¬ Negated (replyTokens platform userInput)

/-- A reply never unlocks a risky option by mistake exactly if, for a risky option that no other
one rivals, it negates nothing where it names the option, and consists of confirmations and filler
words where it only confirms. -/
theorem risky_answers_safe_iff (clarification : ActiveClarificationState) (userInput : String)
    (hhigh : resolveClarificationRiskClass clarification = .high) :
    SafelyAnswered platform clarification userInput ↔
      ∀ optionId ∈ HIGH_RISK_SIDE_EFFECT_OPTION_IDS,
        NoOtherAnswer clarification optionId (replyTokens platform userInput) →
          (NamesAction optionId (replyTokens platform userInput) →
            ¬ Negated (replyTokens platform userInput)) ∧
          (¬ NamesAction optionId (replyTokens platform userInput) →
            Confirms optionId (replyTokens platform userInput) →
              isGenericConfirmationOnly (replyTokens platform userInput) = true) := by
  constructor
  · intro h optionId hrisky halone
    have hselected : matchesClarificationOption optionId (replyTokens platform userInput) = true →
        isGenericConfirmationOnly (replyTokens platform userInput) = false →
          NamesAction optionId (replyTokens platform userInput) ∧
            ¬ Negated (replyTokens platform userInput) := by
      intro hmatches hgeneric
      obtain ⟨result, hresult, rfl⟩ :=
        (resolves_iff platform hhigh hrisky).mpr ⟨halone, hmatches, hgeneric⟩
      exact h result hresult hrisky
    constructor
    · intro hnames
      have hmatches := (matchesClarificationOption_iff hrisky _).mpr (.inl hnames)
      exact (hselected hmatches hnames.not_generic).2
    · intro hunnamed hconfirms
      have hmatches := (matchesClarificationOption_iff hrisky _).mpr (.inr hconfirms)
      by_contra hgeneric
      exact hunnamed (hselected hmatches (by simpa using hgeneric)).1
  · intro h result hresult hrisky
    obtain ⟨halone, hmatches, hgeneric⟩ :=
      (resolves_iff platform hhigh hrisky).mp ⟨result, hresult, rfl⟩
    obtain ⟨hnegated, honly⟩ := h result.selectedOptionId hrisky halone
    have hnames : NamesAction result.selectedOptionId (replyTokens platform userInput) := by
      by_contra hunnamed
      have hconfirms := ((matchesClarificationOption_iff hrisky _).mp hmatches).resolve_left hunnamed
      rw [honly hunnamed hconfirms] at hgeneric
      cases hgeneric
    exact ⟨hnames, hnegated hnames⟩

/-! ## Replies to the question about a locked folder -/

/-- The clarification of a blocked folder move, with the default options. -/
def shutdownClarification : ActiveClarificationState where
  id := "clarification_2026-03-13T14:00:00.000Z"
  kind := .taskRecovery
  sourceInput := "Please organize the project folders."
  question := "Do you want me to stop the tracked holders and retry the move?"
  requestedAt := "2026-03-13T14:00:00.000Z"
  matchedRuleId := "post_execution_locked_folder_recovery"
  renderingIntent := .taskRecovery
  riskClass := some .high
  promptFingerprint := none
  recoveryInstruction := none
  options :=
    [⟨.retryWithShutdown, "Yes, shut them down and retry"⟩, ⟨.cancel, "No, leave them alone"⟩]
  controller := none

theorem risky_answers_safe_iff_shutdown :
    SafelyAnswered (Platform.ofDates []) shutdownClarification "Yes." ↔
      ∀ optionId ∈ HIGH_RISK_SIDE_EFFECT_OPTION_IDS,
        NoOtherAnswer shutdownClarification optionId
            (replyTokens (Platform.ofDates []) "Yes.") →
          (NamesAction optionId (replyTokens (Platform.ofDates []) "Yes.") →
            ¬ Negated (replyTokens (Platform.ofDates []) "Yes.")) ∧
          (¬ NamesAction optionId (replyTokens (Platform.ofDates []) "Yes.") →
            Confirms optionId (replyTokens (Platform.ofDates []) "Yes.") →
              isGenericConfirmationOnly (replyTokens (Platform.ofDates []) "Yes.") = true) :=
  risky_answers_safe_iff (Platform.ofDates []) shutdownClarification "Yes." rfl

/-- The shutdown is unlocked. -/
def shutdownUnlocked : ClarificationResolutionResult where
  selectedOptionId := .retryWithShutdown
  promptId := "clarification_2026-03-13T14:00:00.000Z"
  promptFingerprint := none
  riskClass := .high

lemma not_safelyAnswered {userInput : String}
    (hunlocked : resolveClarificationAnswer platform shutdownClarification userInput =
      some shutdownUnlocked)
    (hdanger : NamesAction .retryWithShutdown (replyTokens platform userInput) →
      Negated (replyTokens platform userInput)) :
    ¬ SafelyAnswered platform shutdownClarification userInput := by
  intro h
  obtain ⟨hnames, hnegated⟩ := h shutdownUnlocked hunlocked (by decide)
  exact hnegated (hdanger hnames)

/-- Replies that say not to shut down and not to retry, and one that says nothing, unlock the
shutdown. -/
theorem negated_reply_unlocks_shutdown :
    shutdownClarification.kind = .taskRecovery ∧
      resolveClarificationRiskClass shutdownClarification = .high ∧
      ¬ SafelyAnswered (Platform.ofDates []) shutdownClarification "Don't shut them down" ∧
      ¬ SafelyAnswered (Platform.ofDates []) shutdownClarification "dont retry" ∧
      ¬ SafelyAnswered (Platform.ofDates []) shutdownClarification "okay whatever" := by
  refine ⟨rfl, rfl, not_safelyAnswered _ ?_ ?_, not_safelyAnswered _ ?_ ?_,
    not_safelyAnswered _ ?_ ?_⟩
  all_goals decide

end AgentBigBrain.Interfaces
