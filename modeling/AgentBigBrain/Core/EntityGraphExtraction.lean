import AgentBigBrain.Core.EntityExtraction

/-!
# Writing an extraction into the graph

Every extracted entity is merged with the one the graph holds under its key, every pair of
them is counted as one more mention, and relations over the cap of an entity are given up.
-/
namespace AgentBigBrain.Core

open AgentBigBrain.Js AgentBigBrain.Lib

variable (platform : GraphPlatform) (sha : Sha256)

/-! ## Owners of aliases -/

/-- The entity key an alias key is indexed under. -/
abbrev AliasIndex := String → Option String

def AliasIndex.set (index : AliasIndex) (aliasKey entityKey : String) : AliasIndex :=
  Function.update index aliasKey (some entityKey)

def aliasKeys (entity : EntityNodeV1) : List String :=
  entity.aliases.map (normalizeAliasKey platform)

/-- The canonical name is indexed like an alias. -/
def indexEntity (index : AliasIndex) (entity : EntityNodeV1) : AliasIndex :=
  (normalizeAliasKey platform entity.canonicalName :: aliasKeys platform entity).foldl
    (fun index aliasKey => index.set aliasKey entity.entityKey) index

/-- Where two entities share a key, the later one owns it. -/
def buildAliasIndex (entities : List EntityNodeV1) : AliasIndex :=
  entities.foldl (indexEntity platform) fun _ => none

structure Stage686AliasConflict where
  conflictedAlias : String
  existingEntityKey : String
  incomingEntityKey : String
  deriving DecidableEq

/-- The loop over the merged aliases of one entity. -/
structure AliasMerge where
  aliasIndex : AliasIndex
  acceptedAliases : List String
  aliasConflicts : List Stage686AliasConflict

def otherOwner (index : AliasIndex) (entityKey aliasKey : String) : Option String :=
  (index aliasKey).filter fun owner => owner ≠ "" && owner ≠ entityKey

def AliasMerge.offer (entityKey : String) (merge : AliasMerge) (name : String) : AliasMerge :=
  let aliasKey := normalizeAliasKey platform name
  if aliasKey = "" then merge
  else
    match otherOwner merge.aliasIndex entityKey aliasKey with
    | some owner =>
        { merge with aliasConflicts := merge.aliasConflicts ++ [⟨name, owner, entityKey⟩] }
    | none =>
        { merge with
          aliasIndex := merge.aliasIndex.set aliasKey entityKey
          acceptedAliases := merge.acceptedAliases ++ [name] }

/-! ## Entities -/

def ENTITY_MAX_ALIASES_DEFAULT : ℚ := 8

def MAX_GRAPH_EDGES_PER_ENTITY_DEFAULT : ℚ := 200

structure Stage686EntityGraphMutationOptions where
  entityMaxAliases : Option ℚ
  maxGraphEdgesPerEntity : Option ℚ

def mergeEntityDomainHint (existing incoming : Option EntityDomainHint) :
    Option EntityDomainHint :=
  match existing, incoming with
  | none, incoming => incoming
  | some existing, none => some existing
  | some existing, some incoming => if existing = incoming then some existing else none

structure ExtractionState where
  entities : List EntityNodeV1
  aliasIndex : AliasIndex
  acceptedEntityKeys : List String
  aliasConflicts : List Stage686AliasConflict

/-- The entity an incoming node is merged into. -/
def extractionCandidate (entities : List EntityNodeV1) (observedAt evidenceRef : String)
    (incoming : EntityNodeV1) : EntityNodeV1 :=
  match entitiesByKey.find incoming.entityKey entities with
  | some existing => existing
  | none =>
      { incoming with
        firstSeenAt := observedAt, lastSeenAt := observedAt, evidenceRefs := [evidenceRef] }

/-- The aliases an incoming node asks for. -/
def offeredAliases (options : Stage686EntityGraphMutationOptions)
    (candidate incoming : EntityNodeV1) : List String :=
  mergeStringList platform candidate.aliases incoming.aliases
    (boundedLimit (options.entityMaxAliases.getD ENTITY_MAX_ALIASES_DEFAULT))

def mergedEntity (observedAt evidenceRef : String) (candidate incoming : EntityNodeV1)
    (acceptedAliases : List String) : EntityNodeV1 :=
  { candidate with
    domainHint := mergeEntityDomainHint candidate.domainHint incoming.domainHint
    aliases := acceptedAliases
    lastSeenAt := observedAt
    salience := max 1 (toFixed4 (candidate.salience + 1))
    evidenceRefs := mergeStringList platform candidate.evidenceRefs [evidenceRef] 64 }

def ExtractionState.mergeNode (options : Stage686EntityGraphMutationOptions)
    (observedAt evidenceRef : String) (state : ExtractionState) (incoming : EntityNodeV1) :
    ExtractionState :=
  let candidate := extractionCandidate state.entities observedAt evidenceRef incoming
  let merge := (offeredAliases platform options candidate incoming).foldl
    (AliasMerge.offer platform candidate.entityKey) ⟨state.aliasIndex, [], state.aliasConflicts⟩
  { entities := entitiesByKey.upsert
      (mergedEntity platform observedAt evidenceRef candidate incoming merge.acceptedAliases)
      state.entities
    aliasIndex := merge.aliasIndex
    acceptedEntityKeys := state.acceptedEntityKeys ++ [candidate.entityKey]
    aliasConflicts := merge.aliasConflicts }

/-! ## Relations -/

def CO_MENTION_RECENCY_HALFLIFE_DAYS : ℚ := 30

/-- The days from one time to another, none of them negative. -/
def elapsedDays (earlier later : ℤ) : ℚ :=
  max 0 ((later - earlier : ℤ) / (24 * 60 * 60 * 1000))

def computeCoMentionIncrement (lastObservedAt observedAt : String) : Option ℚ := do
  let lastMs ← platform.dateParse lastObservedAt
  let observedMs ← platform.dateParse observedAt
  let decayFactor :=
    platform.halfPower (elapsedDays lastMs observedMs / CO_MENTION_RECENCY_HALFLIFE_DAYS)
  some (toFixed4 (max (1 / 20) decayFactor))

def newCoMention (observedAt evidenceRef : String) (pair : String × String) : RelationEdgeV1 where
  edgeKey := buildEdgeKey platform sha pair.1 pair.2
  sourceEntityKey := pair.1
  targetEntityKey := pair.2
  relationType := .coMentioned
  status := .uncertain
  coMentionCount := 1
  strength := 1
  firstObservedAt := observedAt
  lastObservedAt := observedAt
  evidenceRefs := [evidenceRef]

/-- One more mention of a pair; pairs with an end outside the graph are passed over. -/
def mentionPair (entities : List EntityNodeV1) (observedAt evidenceRef : String)
    (edges : List RelationEdgeV1) (pair : String × String) : Option (List RelationEdgeV1) :=
  if !((entitiesByKey.find pair.1 entities).isSome &&
      (entitiesByKey.find pair.2 entities).isSome) then
    some edges
  else
    match edgesByKey.find (buildEdgeKey platform sha pair.1 pair.2) edges with
    | none => some (edgesByKey.upsert (newCoMention platform sha observedAt evidenceRef pair) edges)
    | some existing => do
        let increment ← computeCoMentionIncrement platform existing.lastObservedAt observedAt
        some <| edgesByKey.upsert
          { existing with
            coMentionCount := existing.coMentionCount + 1
            strength := toFixed4 (existing.strength + increment)
            lastObservedAt := observedAt
            evidenceRefs := mergeStringList platform existing.evidenceRefs [evidenceRef] 64 }
          edges

/-! ## The cap of relations -/

/-- The list that `byEntity` holds for an entity: a relation with itself stands in it twice. -/
def edgesOfEntity (entityKey : String) (edges : List RelationEdgeV1) : List RelationEdgeV1 :=
  edges.flatMap fun edge =>
    (if edge.sourceEntityKey = entityKey then [edge] else []) ++
      (if edge.targetEntityKey = entityKey then [edge] else [])

def edgeEnds (edges : List RelationEdgeV1) : List String :=
  uniqueValues (edges.flatMap fun edge => [edge.sourceEntityKey, edge.targetEntityKey])

/-- The entity whose relations are cut next. -/
def overCapEntity (cap : ℕ) (edges : List RelationEdgeV1) : Option String :=
  (platform.locale.sort
    ((edgeEnds edges).filter fun key => cap < (edgesOfEntity key edges).length)).head?

/-- The order in which relations are given up. -/
def weakestOrder : Comparator RelationEdgeV1 :=
  ((numberOrder ℚ).byKey RelationEdgeV1.strength).thenBy <|
    ((numberOrder ℚ).byKey RelationEdgeV1.coMentionCount).thenBy <|
      (platform.locale.byKey RelationEdgeV1.lastObservedAt).thenBy
        (platform.locale.byKey RelationEdgeV1.edgeKey)

/-- The loop of `enforceEdgeCaps`: each round gives up one relation or ends. -/
def evictEdges (cap : ℕ) : ℕ → List RelationEdgeV1 → List RelationEdgeV1 × List String
  | 0, edges => (edges, [])
  | rounds + 1, edges =>
      match overCapEntity platform cap edges with
      | none => (edges, [])
      | some entityKey =>
          if entityKey = "" then (edges, [])
          else
            match (weakestOrder platform).sort (edgesOfEntity entityKey edges) with
            | [] => (edges, [])
            | edgeToEvict :: _ =>
                let (kept, evictedEdgeKeys) := evictEdges cap rounds
                  (edges.filter fun edge => edge.edgeKey ≠ edgeToEvict.edgeKey)
                (kept, edgeToEvict.edgeKey :: evictedEdgeKeys)

/-- The relations an entity may have. -/
def edgeCap (maxGraphEdgesPerEntity : ℚ) : ℕ :=
  (max 1 ⌊maxGraphEdgesPerEntity⌋).toNat

def enforceEdgeCaps (edges : List RelationEdgeV1) (maxGraphEdgesPerEntity : ℚ) :
    List RelationEdgeV1 × List String :=
  evictEdges platform (edgeCap maxGraphEdgesPerEntity) edges.length edges

/-! ## The graph -/

structure Stage686EntityGraphMutationResult where
  graph : EntityGraphV1
  acceptedEntityKeys : List String
  aliasConflicts : List Stage686AliasConflict
  evictedEdgeKeys : List String

/-- The entities after an extraction, with the index that led to them. -/
def mergeNodes (options : Stage686EntityGraphMutationOptions) (observedAt evidenceRef : String)
    (graph : EntityGraphV1) (nodes : List EntityNodeV1) : ExtractionState :=
  let entities := entitiesByKey.collect [] graph.entities
  nodes.foldl (ExtractionState.mergeNode platform options observedAt evidenceRef)
    ⟨entities, buildAliasIndex platform entities, [], []⟩

def applyEntityExtractionToGraph (graph : EntityGraphV1)
    (extraction : Stage686EntityExtractionResult) (observedAt evidenceRef : String)
    (options : Stage686EntityGraphMutationOptions) : Option Stage686EntityGraphMutationResult :=
  if isValidIsoTimestamp platform observedAt then do
    let state := mergeNodes platform options observedAt evidenceRef graph extraction.nodes
    let edges ← extraction.coMentionPairs.foldlM
      (mentionPair platform sha state.entities observedAt evidenceRef)
      (edgesByKey.collect [] graph.edges)
    let (kept, evictedEdgeKeys) := enforceEdgeCaps platform edges
      (options.maxGraphEdgesPerEntity.getD MAX_GRAPH_EDGES_PER_ENTITY_DEFAULT)
    some
      { graph :=
          { updatedAt := observedAt
            entities := sortEntityNodes platform state.entities
            edges := sortRelationEdges platform kept
            decisionRecords := graph.decisionRecords }
        acceptedEntityKeys := platform.locale.sort (uniqueValues state.acceptedEntityKeys)
        aliasConflicts := state.aliasConflicts
        evictedEdgeKeys := evictedEdgeKeys }
  else none

end AgentBigBrain.Core
