import AgentBigBrain.Core.EntityGraph
import Mathlib.Data.Sym.Sym2

/-!
# Entities named in a text

Capitalised runs of a text become entity nodes, and every two of them a pair that is
mentioned together.
-/
namespace AgentBigBrain.Core

open AgentBigBrain.Js AgentBigBrain.Lib

variable (platform : GraphPlatform) (sha : Sha256)

/-! ## Spans of a text -/

def ENTITY_STOP_WORDS : List String :=
  ["The", "A", "An", "And", "Any", "Attached", "Can", "Close", "Could", "Create", "Do", "Does",
    "Did", "Explain", "Execute", "Good", "Hi", "Hello", "Hey", "How", "Or", "But", "If", "Keep",
    "Leave", "Look", "Need", "No", "Now", "Okay", "Open", "Please", "Put", "Run", "So", "Start",
    "Status", "Stop", "Sure", "Tell", "Then", "Thanks", "That's", "When", "Who", "What", "Whats",
    "What's", "Where", "Why", "Yeah", "Yes", "These", "This", "Those", "Relationships",
    "Relationship", "While", "Today", "Tomorrow", "Yesterday", "BigBrain", "AgentBigBrain"]

def ORG_HINT_TOKENS : List String :=
  ["inc", "llc", "ltd", "corp", "company", "studio", "labs", "systems", "group", "school",
    "university"]

def EVENT_HINT_TOKENS : List String :=
  ["meeting", "review", "launch", "summit", "conference", "checkpoint", "deadline"]

def MAX_ENTITY_CANDIDATE_SPAN_TOKENS : ℕ := 4

def isUpperAsciiLetter (c : Char) : Bool :=
  65 ≤ c.toNat && c.toNat ≤ 90

def isAsciiLetterOrDigit (c : Char) : Bool :=
  c.isDigit || isUpperAsciiLetter c || (97 ≤ c.toNat && c.toNat ≤ 122)

def isEntityTokenCharacter (c : Char) : Bool :=
  isAsciiLetterOrDigit c || c = '\'' || c = '.' || c = '_' || c = '-'

/-- A token without the characters at its two ends that do not belong to it. -/
def trimToken (belongs : Char → Bool) (token : List Char) : List Char :=
  let kept := token.dropWhile fun c => !belongs c
  (kept.reverse.dropWhile fun c => !belongs c).reverse

def trimEntityBoundaryPunctuation (token : List Char) : List Char :=
  trimToken isEntityTokenCharacter token

def isEntityTokenCandidate (rawToken : List Char) : Bool :=
  let cleaned := trimEntityBoundaryPunctuation rawToken
  rawToken.all (fun c => c ≠ '\\' && c ≠ '/' && c ≠ ':') &&
    (cleaned.head?.any isUpperAsciiLetter && cleaned.all isEntityTokenCharacter)

def endsSentence (rawToken : List Char) : Bool :=
  (rawToken.reverse.dropWhile fun c => c = ' ' || c = '\n' || c = '\r' || c = '\t').head?.any
    fun c => c = '.' || c = '!' || c = '?'

/-- The spans found so far and the tokens of the one that is still open. -/
structure SpanScan where
  spans : List String
  currentSpan : List String

def SpanScan.flush (scan : SpanScan) : SpanScan :=
  match scan.currentSpan with
  | [] => scan
  | tokens => ⟨scan.spans ++ [" ".intercalate tokens], []⟩

def SpanScan.readToken (scan : SpanScan) (rawToken : List Char) : SpanScan :=
  let cleaned := String.ofList (trimEntityBoundaryPunctuation rawToken)
  if !isEntityTokenCandidate rawToken then scan.flush
  else if scan.currentSpan.isEmpty && decide (cleaned ∈ ENTITY_STOP_WORDS) then scan
  else
    let grown : SpanScan := ⟨scan.spans, scan.currentSpan ++ [cleaned]⟩
    if MAX_ENTITY_CANDIDATE_SPAN_TOKENS ≤ grown.currentSpan.length || endsSentence rawToken then
      grown.flush
    else grown

def collectEntityCandidateSpans (text : String) : List String :=
  let rawTokens := (text.toList.splitOnP isWhitespace).filter (· ≠ [])
  (rawTokens.foldl SpanScan.readToken ⟨[], []⟩).flush.spans

/-! ## Names and types -/

/-- `/[.!?]\s+[A-Z]/` on a text whose white space is single blanks. -/
def hasSentenceBreak : List Char → Bool
  | c :: d :: e :: rest =>
      ((c = '.' || c = '!' || c = '?') && isWhitespace d && isUpperAsciiLetter e) ||
        hasSentenceBreak (d :: e :: rest)
  | _ => false

def isNameCharacter (c : Char) : Bool :=
  isAsciiLetterOrDigit c || c = '\''

def isStopWord (token : String) : Bool :=
  decide (token ∈ ENTITY_STOP_WORDS)

def normalizeEntityCandidate (raw : String) : String :=
  let normalized := normalizeWhitespace raw
  if normalized = "" || hasSentenceBreak normalized.toList then ""
  else
    let cleanedTokens := ((normalized.toList.splitOn ' ').map fun token =>
      String.ofList (trimToken isNameCharacter token)).filter (· ≠ "")
    let opened := cleanedTokens.dropWhile isStopWord
    normalizeWhitespace (" ".intercalate (opened.reverse.dropWhile isStopWord).reverse)

/-- `part.charAt(0).toUpperCase() + part.slice(1).toLowerCase()`. -/
def capitalizePart (part : List Char) : String :=
  platform.toUpperCase (String.ofList (part.take 1)) ++
    platform.toLowerCase (String.ofList (part.drop 1))

def toCanonicalName (raw : String) : String :=
  let normalized := normalizeEntityCandidate raw
  if normalized = "" then ""
  else " ".intercalate ((normalized.toList.splitOn ' ').map (capitalizePart platform))

def deriveEntityType (raw : String) : EntityTypeV1 :=
  let normalizedTokens :=
    ((normalizeAliasKey platform raw).toList.splitOn ' ').map String.ofList |>.filter (· ≠ "")
  if normalizedTokens.any fun token => decide (token ∈ ORG_HINT_TOKENS) then .org
  else if normalizedTokens.any fun token => decide (token ∈ EVENT_HINT_TOKENS) then .event
  else if 2 ≤ (raw.toList.splitOn ' ').length then .person
  else .thing

/-! ## Extraction -/

structure Stage686EntityTypeHint where
  candidateName : String
  entityType : EntityTypeV1

structure Stage686EntityDomainHint where
  candidateName : String
  domainHint : Option EntityDomainHint

structure Stage686EntityExtractionInput where
  text : String
  observedAt : String
  evidenceRef : String
  domainHint : Option EntityDomainHint
  entityTypeHints : List Stage686EntityTypeHint
  entityDomainHints : List Stage686EntityDomainHint

/-- The key under which a hint is looked up; `none` where the hint is passed over. -/
def hintKey (candidateName : String) : Option String :=
  let normalizedKey := normalizeAliasKey platform (toCanonicalName platform candidateName)
  if normalizedKey = "" then none else some normalizedKey

/-- The first hint of each key counts, as in `List.lookup`. -/
def buildEntityTypeHintMap (hints : List Stage686EntityTypeHint) : List (String × EntityTypeV1) :=
  hints.filterMap fun hint => (hintKey platform hint.candidateName).map (·, hint.entityType)

def buildEntityDomainHintMap (hints : List Stage686EntityDomainHint) :
    List (String × EntityDomainHint) :=
  hints.filterMap fun hint => do
    let normalizedKey ← hintKey platform hint.candidateName
    let domainHint ← hint.domainHint
    if domainHint = .systemPolicy then none else some (normalizedKey, domainHint)

def extractedNode (input : Stage686EntityExtractionInput) (span : String) : Option EntityNodeV1 :=
  let canonicalName := toCanonicalName platform span
  if canonicalName = "" then none
  else
    let nameKey := normalizeAliasKey platform canonicalName
    let entityType := ((buildEntityTypeHintMap platform input.entityTypeHints).lookup nameKey).getD
      (deriveEntityType platform canonicalName)
    let hinted := (buildEntityDomainHintMap platform input.entityDomainHints).lookup nameKey
    some
      { entityKey := buildEntityKey platform sha canonicalName entityType none
        canonicalName := canonicalName
        entityType := entityType
        disambiguator := none
        domainHint := hinted <|> input.domainHint
        aliases := [canonicalName]
        firstSeenAt := input.observedAt
        lastSeenAt := input.observedAt
        salience := 1
        evidenceRefs := [input.evidenceRef] }

/-- `if (nodesByKey.has(entityKey)) continue`. -/
def firstByEntityKey : KeyedMerge EntityNodeV1 String where
  key := EntityNodeV1.entityKey
  choose existing _ := existing
  key_choose _ _ h := h

/-- Every element with every later one. -/
def pairsOf {α : Type*} : List α → List (α × α)
  | [] => []
  | x :: xs => xs.map (x, ·) ++ pairsOf xs

/-- The two ends of a pair, in no order. -/
def unordered (pair : String × String) : Sym2 String := s(pair.1, pair.2)

structure Stage686EntityExtractionResult where
  nodes : List EntityNodeV1
  coMentionPairs : List (String × String)
  nodes_distinct : entitiesByKey.Distinct nodes
  nodes_keyed : ∀ node ∈ nodes, node.entityKey ≠ ""
  pairs_distinct : (coMentionPairs.map unordered).Nodup

lemma mem_pairsOf {α : Type*} {xs : List α} {pair : α × α} (h : pair ∈ pairsOf xs) :
    pair.1 ∈ xs ∧ pair.2 ∈ xs := by
  induction xs with
  | nil => simp [pairsOf] at h
  | cons x xs ih =>
      rw [pairsOf, List.mem_append] at h
      rcases h with h | h
      · obtain ⟨y, hy, rfl⟩ := List.mem_map.mp h
        exact ⟨List.mem_cons_self, List.mem_cons_of_mem x hy⟩
      · exact ⟨List.mem_cons_of_mem x (ih h).1, List.mem_cons_of_mem x (ih h).2⟩

lemma nodup_pairsOf {xs : List String} (h : xs.Nodup) : ((pairsOf xs).map unordered).Nodup := by
  induction xs with
  | nil => simp [pairsOf]
  | cons x xs ih =>
      have hnodup := List.nodup_cons.mp h
      rw [pairsOf, List.map_append, List.map_map]
      refine List.nodup_append.mpr ⟨?_, ih hnodup.2, ?_⟩
      · refine List.Nodup.map (fun y z hyz => ?_) hnodup.2
        exact Sym2.congr_right.mp hyz
      · rintro pair hpair other hother rfl
        obtain ⟨y, -, rfl⟩ := List.mem_map.mp hpair
        obtain ⟨later, hlater, heq⟩ := List.mem_map.mp hother
        have hends := mem_pairsOf hlater
        have hx : x ∈ unordered later := heq ▸ Sym2.mem_mk_left x y
        rcases Sym2.mem_iff.mp hx with rfl | rfl
        · exact hnodup.1 hends.1
        · exact hnodup.1 hends.2

lemma extractedNode_keyed {input : Stage686EntityExtractionInput} {span : String}
    {node : EntityNodeV1} (h : extractedNode platform sha input span = some node) :
    node.entityKey ≠ "" := by
  unfold extractedNode at h
  dsimp only at h
  split at h
  · cases h
  · cases h
    exact buildEntityKey_ne_empty platform sha _ _ _

/-- The nodes of a text, one for each entity key. -/
def extractedNodes (input : Stage686EntityExtractionInput) (text : String) : List EntityNodeV1 :=
  firstByEntityKey.collect []
    ((collectEntityCandidateSpans text).filterMap (extractedNode platform sha input))

lemma extractedNodes_distinct (input : Stage686EntityExtractionInput) (text : String) :
    ((extractedNodes platform sha input text).map EntityNodeV1.entityKey).Nodup :=
  firstByEntityKey.distinct_collect List.nodup_nil

lemma extractedNodes_keyed (input : Stage686EntityExtractionInput) (text : String) :
    ∀ node ∈ extractedNodes platform sha input text, node.entityKey ≠ "" := by
  refine firstByEntityKey.forall_collect (by simp) ?_ fun existing _ _ h _ => h
  intro node hnode
  obtain ⟨span, -, hspan⟩ := List.mem_filterMap.mp hnode
  exact extractedNode_keyed platform sha hspan

def extractEntityCandidates (input : Stage686EntityExtractionInput) :
    Option Stage686EntityExtractionResult :=
  if isValidIsoTimestamp platform input.observedAt then
    let nodes := extractedNodes platform sha input (normalizeWhitespace input.text)
    some
      { nodes := sortEntityNodes platform nodes
        coMentionPairs := pairsOf (platform.locale.sort (nodes.map EntityNodeV1.entityKey))
        nodes_distinct :=
          (((entityOrder platform).sort_perm nodes).map _).nodup_iff.mpr
            (extractedNodes_distinct platform sha input _)
        nodes_keyed := fun node hnode => extractedNodes_keyed platform sha input _ node
          ((mem_sortEntityNodes platform).mp hnode)
        pairs_distinct := nodup_pairsOf <|
          (platform.locale.sort_perm _).nodup_iff.mpr (extractedNodes_distinct platform sha input _) }
  else none

end AgentBigBrain.Core
