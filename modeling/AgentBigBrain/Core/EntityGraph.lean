import AgentBigBrain.Core.RuntimeThreads

/-!
# The entity graph

Entities and the relations between them. Nodes are kept under an entity key and relations
under an edge key; every list that leaves an operation is sorted by its keys. An operation
that throws on a time that does not parse is `none` here.
-/
namespace AgentBigBrain.Core

open AgentBigBrain.Js AgentBigBrain.Lib

/-! ## Nodes, relations and graphs -/

inductive EntityTypeV1 where
  | person
  | place
  | org
  | event
  | thing
  | concept
  deriving DecidableEq

def EntityTypeV1.text : EntityTypeV1 → String
  | .person => "person"
  | .place => "place"
  | .org => "org"
  | .event => "event"
  | .thing => "thing"
  | .concept => "concept"

inductive EntityDomainHint where
  | profile
  | relationship
  | workflow
  | systemPolicy
  deriving DecidableEq

inductive RelationTypeV1 where
  | coMentioned
  | unknown
  | friend
  | family
  | coworker
  | projectRelated
  | other
  deriving DecidableEq

inductive MemoryStatusV1 where
  | uncertain
  | confirmed
  | superseded
  deriving DecidableEq

structure EntityNodeV1 where
  entityKey : String
  canonicalName : String
  entityType : EntityTypeV1
  disambiguator : Option String
  domainHint : Option EntityDomainHint
  aliases : List String
  firstSeenAt : String
  lastSeenAt : String
  salience : ℚ
  evidenceRefs : List String
  deriving DecidableEq

structure RelationEdgeV1 where
  edgeKey : String
  sourceEntityKey : String
  targetEntityKey : String
  relationType : RelationTypeV1
  status : MemoryStatusV1
  coMentionCount : ℚ
  strength : ℚ
  firstObservedAt : String
  lastObservedAt : String
  evidenceRefs : List String
  deriving DecidableEq

inductive EntityAlignmentDecisionActionV1 where
  | merge
  | quarantine
  | unquarantine
  | rollback
  deriving DecidableEq

structure EntityAlignmentDecisionRecordV1 where
  decisionId : String
  action : EntityAlignmentDecisionActionV1
  recordedAt : String
  entityKey : String
  targetEntityKey : Option String
  aliasValue : Option String
  reasonCode : Option String
  evidenceRefs : List String
  deriving DecidableEq

structure EntityGraphV1 where
  updatedAt : String
  entities : List EntityNodeV1
  edges : List RelationEdgeV1
  decisionRecords : List EntityAlignmentDecisionRecordV1
  deriving DecidableEq

def entitiesByKey : KeyedMerge EntityNodeV1 String where
  key := EntityNodeV1.entityKey
  choose _ entity := entity
  key_choose _ _ _ := rfl

def edgesByKey : KeyedMerge RelationEdgeV1 String where
  key := RelationEdgeV1.edgeKey
  choose _ edge := edge
  key_choose _ _ _ := rfl

@[simp] lemma entitiesByKey_key (entity : EntityNodeV1) :
    entitiesByKey.key entity = entity.entityKey := rfl

@[simp] lemma entitiesByKey_choose (existing entity : EntityNodeV1) :
    entitiesByKey.choose existing entity = entity := rfl

@[simp] lemma edgesByKey_key (edge : RelationEdgeV1) : edgesByKey.key edge = edge.edgeKey := rfl

@[simp] lemma edgesByKey_choose (existing edge : RelationEdgeV1) :
    edgesByKey.choose existing edge = edge := rfl

@[simp] lemma find_upsert_entity (entityKey : String) (entity : EntityNodeV1)
    (entities : List EntityNodeV1) :
    entitiesByKey.find entityKey (entitiesByKey.upsert entity entities) =
      if entity.entityKey = entityKey then some entity else entitiesByKey.find entityKey entities := by
  rw [entitiesByKey.find_upsert]
  cases entitiesByKey.find entityKey entities <;> rfl

@[simp] lemma find_upsert_edge (edgeKey : String) (edge : RelationEdgeV1)
    (edges : List RelationEdgeV1) :
    edgesByKey.find edgeKey (edgesByKey.upsert edge edges) =
      if edge.edgeKey = edgeKey then some edge else edgesByKey.find edgeKey edges := by
  rw [edgesByKey.find_upsert]
  cases edgesByKey.find edgeKey edges <;> rfl

/-! ## Alias keys -/

/-- `folded.replace(/[^a-z0-9\s]/g, " ").replace(/\s+/g, " ").trim()`. -/
def aliasKeyOf (folded : String) : String :=
  normalizeWhitespace (blankPunctuation folded)

structure GraphPlatform extends Platform where
  /-- `text.normalize("NFKC")`. -/
  nfkc : String → String
  /-- `Math.pow(0.5, exponent)`. -/
  halfPower : ℚ → ℚ
  aliasKeyOf_normalizeWhitespace : ∀ s,
    aliasKeyOf (toLowerCase (nfkc (normalizeWhitespace s))) = aliasKeyOf (toLowerCase (nfkc s))

lemma isWhitespace_blanked {c : Char} (h : isWhitespace c = true) :
    isWhitespace (if (97 ≤ c.toNat && c.toNat ≤ 122) || c.isDigit || isWhitespace c then c else ' ')
      = true := by
  simp [h]

lemma aliasKeyOf_asciiLower (s : String) :
    aliasKeyOf (asciiLower (normalizeWhitespace s)) = aliasKeyOf (asciiLower s) := by
  have hblanked := fun (c : Char) (hc : isWhitespace c = true) =>
    isWhitespace_blanked ((isWhitespace_toLower c).trans hc)
  have hmap := normalizeWhitespace_map hblanked s
  simpa [aliasKeyOf, blankPunctuation, asciiLower, Function.comp_def] using hmap

/-- A platform for ASCII texts, given the dates it parses, on which no relation is old. -/
def GraphPlatform.ofDates (dates : List (String × ℤ)) : GraphPlatform where
  toPlatform := Platform.ofDates dates
  nfkc s := s
  halfPower _ := 1
  aliasKeyOf_normalizeWhitespace := aliasKeyOf_asciiLower

variable (platform : GraphPlatform) (sha : Sha256)

def normalizeAliasKey (value : String) : String :=
  aliasKeyOf (platform.toLowerCase (platform.nfkc value))

@[simp] lemma normalizeAliasKey_normalizeWhitespace (value : String) :
    normalizeAliasKey platform (normalizeWhitespace value) = normalizeAliasKey platform value :=
  platform.aliasKeyOf_normalizeWhitespace value

/-- `assertValidIsoTimestamp`: does the text parse as a time? -/
def isValidIsoTimestamp (value : String) : Bool :=
  (platform.dateParse value).isSome

/-! ## Lists of texts -/

def MAX_ENTITY_MAX_ALIASES : ℤ := 64

/-- Texts of a map, each under its alias key; the text written first stays. -/
def textsByAliasKey : KeyedMerge String String where
  key := normalizeAliasKey platform
  choose existing _ := existing
  key_choose _ _ h := h

def boundedLimit (limit : ℚ) : ℕ :=
  (max 1 (min MAX_ENTITY_MAX_ALIASES ⌊limit⌋)).toNat

/-- The texts that `mergeStringList` writes into its map. -/
def keyedTexts (texts : List String) : List String :=
  (texts.map normalizeWhitespace).filter fun text => normalizeAliasKey platform text ≠ ""

def mergeStringList (left right : List String) (limit : ℚ) : List String :=
  (platform.locale.sort
    ((textsByAliasKey platform).collect [] (keyedTexts platform (left ++ right)))).take
    (boundedLimit limit)

/-! ## Keys of pairs -/

/-- The pair in the order in which it is hashed. -/
def orderedPair (sourceEntityKey targetEntityKey : String) : String × String :=
  if platform.locale.le sourceEntityKey targetEntityKey then (sourceEntityKey, targetEntityKey)
  else (targetEntityKey, sourceEntityKey)

def buildEdgeKey (sourceEntityKey targetEntityKey : String) : String :=
  let ordered := orderedPair platform sourceEntityKey targetEntityKey
  "edge_" ++ sliceUnits 20 (sha.digest (canonicalJson platform.locale
    (.obj [("ordered", .arr [.str ordered.1, .str ordered.2])])))

def buildEntityKey (canonicalName : String) (entityType : EntityTypeV1)
    (disambiguator : Option String) : String :=
  "entity_" ++ sliceUnits 20 (sha.digest (canonicalJson platform.locale
    (.obj [("canonicalName", .str (normalizeAliasKey platform canonicalName)),
      ("entityType", .str entityType.text), ("disambiguator", .str (disambiguator.getD ""))])))

lemma buildEntityKey_ne_empty (canonicalName : String) (entityType : EntityTypeV1)
    (disambiguator : Option String) :
    buildEntityKey platform sha canonicalName entityType disambiguator ≠ "" := by
  unfold buildEntityKey
  intro h
  have hlength := congrArg String.length h
  simp at hlength

/-! ## Sorted and stored graphs -/

def entityOrder : Comparator EntityNodeV1 :=
  platform.locale.byKey EntityNodeV1.entityKey

def edgeOrder : Comparator RelationEdgeV1 :=
  platform.locale.byKey RelationEdgeV1.edgeKey

def sortEntityNodes (nodes : List EntityNodeV1) : List EntityNodeV1 :=
  (entityOrder platform).sort nodes

def sortRelationEdges (edges : List RelationEdgeV1) : List RelationEdgeV1 :=
  (edgeOrder platform).sort edges

@[simp] lemma mem_sortEntityNodes {entity : EntityNodeV1} {nodes : List EntityNodeV1} :
    entity ∈ sortEntityNodes platform nodes ↔ entity ∈ nodes :=
  Comparator.mem_sort _

@[simp] lemma mem_sortRelationEdges {edge : RelationEdgeV1} {edges : List RelationEdgeV1} :
    edge ∈ sortRelationEdges platform edges ↔ edge ∈ edges :=
  Comparator.mem_sort _

def createEmptyEntityGraphV1 (updatedAt : String) : EntityGraphV1 where
  updatedAt := updatedAt
  entities := []
  edges := []
  decisionRecords := []

/-- `Number(value.toFixed(4))`. -/
def toFixed4 (value : ℚ) : ℚ :=
  if value < 0 then -roundTo 4 (-value) else roundTo 4 value

def normalizeEntityNode (entity : EntityNodeV1) : Option EntityNodeV1 :=
  if isValidIsoTimestamp platform entity.firstSeenAt &&
      isValidIsoTimestamp platform entity.lastSeenAt then
    some
      { entity with
        aliases := platform.locale.sort entity.aliases
        salience := toFixed4 entity.salience
        evidenceRefs := platform.locale.sort entity.evidenceRefs }
  else none

def normalizeRelationEdge (edge : RelationEdgeV1) : Option RelationEdgeV1 :=
  if isValidIsoTimestamp platform edge.firstObservedAt &&
      isValidIsoTimestamp platform edge.lastObservedAt then
    some
      { edge with
        coMentionCount := max 0 ⌊edge.coMentionCount⌋
        strength := toFixed4 edge.strength
        evidenceRefs := platform.locale.sort edge.evidenceRefs }
  else none

/-- Trimmed texts, each once, in order. -/
def normalizeStringArray (values : List String) : List String :=
  platform.locale.sort (uniqueValues ((values.map trim).filter (· ≠ "")))

def normalizeEntityGraphDecisionRecord (record : EntityAlignmentDecisionRecordV1) :
    Option EntityAlignmentDecisionRecordV1 :=
  if isValidIsoTimestamp platform record.recordedAt then
    some { record with evidenceRefs := normalizeStringArray platform record.evidenceRefs }
  else none

/-- What the store keeps of a graph; `none` where it refuses one. -/
def normalizeEntityGraph (graph : EntityGraphV1) : Option EntityGraphV1 :=
  if isValidIsoTimestamp platform graph.updatedAt then do
    let entities ← graph.entities.mapM (normalizeEntityNode platform)
    let edges ← graph.edges.mapM (normalizeRelationEdge platform)
    let decisionRecords ←
      graph.decisionRecords.mapM (normalizeEntityGraphDecisionRecord platform)
    some
      { updatedAt := graph.updatedAt
        entities := sortEntityNodes platform entities
        edges := sortRelationEdges platform edges
        decisionRecords := decisionRecords }
  else none

def queryEntityGraphNodesByCanonicalOrAlias (entities : List EntityNodeV1)
    (candidateName : String) : List EntityNodeV1 :=
  let normalizedCandidate := normalizeAliasKey platform candidateName
  if normalizedCandidate = "" then []
  else
    sortEntityNodes platform <| entities.filter fun entity =>
      normalizeAliasKey platform entity.canonicalName = normalizedCandidate ||
        entity.aliases.any fun name => normalizeAliasKey platform name = normalizedCandidate

end AgentBigBrain.Core
