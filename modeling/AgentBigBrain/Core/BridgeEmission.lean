import AgentBigBrain.Core.BridgeQuestions

/-!
# Asking a bridge question

The runtime action that asks about two entities first makes sure that the graph has them and
a relation between them, and then puts the question to the gate.
-/
namespace AgentBigBrain.Core

open AgentBigBrain.Js AgentBigBrain.Lib

variable (platform : BridgePlatform) (sha : Sha256)

/-- `toStringRefs` of an array; entries that are no texts are `none`. -/
def toStringRefs (refs : List (Option String)) : List String :=
  platform.locale.sort (uniqueValues (refs.filterMap toText))

def placeholderEntity (entityKey observedAt : String) (evidenceRefs : List String) :
    EntityNodeV1 where
  entityKey := entityKey
  canonicalName := spaceSeparators <|
    if startsWith entityKey "entity_" then String.ofList (entityKey.toList.drop 7) else entityKey
  entityType := .concept
  disambiguator := none
  domainHint := none
  aliases := [entityKey]
  firstSeenAt := observedAt
  lastSeenAt := observedAt
  salience := 4
  evidenceRefs := evidenceRefs

def ensureEntity (graph : EntityGraphV1) (entityKey observedAt : String)
    (evidenceRefs : List String) : EntityGraphV1 :=
  if graph.entities.any fun entity => entity.entityKey = entityKey then graph
  else
    { graph with
      updatedAt := observedAt
      entities := sortEntityNodes platform.toGraphPlatform
        (graph.entities ++ [placeholderEntity entityKey observedAt evidenceRefs]) }

/-- Unlike the other relations of a pair, this one is keyed by the pair as it is written. -/
def placeholderEdge (pair : String × String) (observedAt : String) (evidenceRefs : List String) :
    RelationEdgeV1 where
  edgeKey := "edge_" ++ pair.1 ++ "_" ++ pair.2
  sourceEntityKey := pair.1
  targetEntityKey := pair.2
  relationType := .coMentioned
  status := .uncertain
  coMentionCount := 3
  strength := 3 / 5
  firstObservedAt := observedAt
  lastObservedAt := observedAt
  evidenceRefs := evidenceRefs

/-- Is there a relation whose sorted ends are the pair? -/
def hasEdgeOfPair (edges : List RelationEdgeV1) (pair : String × String) : Bool :=
  edges.any fun edge =>
    decide (orderedPair platform.toGraphPlatform edge.sourceEntityKey edge.targetEntityKey = pair)

def ensureCoMentionEdge (graph : EntityGraphV1) (sourceEntityKey targetEntityKey observedAt : String)
    (evidenceRefs : List String) : EntityGraphV1 :=
  let pair := orderedPair platform.toGraphPlatform sourceEntityKey targetEntityKey
  if hasEdgeOfPair platform graph.edges pair then graph
  else
    { graph with
      updatedAt := observedAt
      edges := sortRelationEdges platform.toGraphPlatform
        (graph.edges ++ [placeholderEdge pair observedAt evidenceRefs]) }

/-- The graph in which a question about two entities is put to the gate. -/
def bridgeGraph (graph : EntityGraphV1) (first second observedAt : String)
    (evidenceRefs : List String) : EntityGraphV1 :=
  let withFirst := ensureEntity platform graph first observedAt evidenceRefs
  let withBoth := ensureEntity platform withFirst second observedAt evidenceRefs
  ensureCoMentionEdge platform withBoth first second observedAt evidenceRefs

def bridgeCandidate (first second threadKey : String) (evidenceRefs : List String) :
    PulseCandidateV1 where
  candidateId := "bridge_" ++ first ++ "_" ++ second
  reasonCode := .relationshipClarification
  threadKey := some threadKey
  entityRefs := [first, second]
  evidenceRefs := evidenceRefs
  sourceAuthority := .strictSchema
  provenanceTier := .trusted
  sensitive := false

def runtimeBridgeOptions : EvaluateBridgeQuestionOptionsV1 where
  coMentionThreshold := some 2
  coMentionWindowDays := none
  bridgeCooldownDays := none
  bridgeMaxPerConversation := none

def decideBridgeQuestion (graph : EntityGraphV1) (first second threadKey observedAt : String)
    (evidenceRefs : List String) (history : List BridgeInteractionRecordV1) :
    Option EvaluateBridgeQuestionResultV1 :=
  evaluateBridgeQuestionEmissionV1 platform sha runtimeBridgeOptions
    { graph := bridgeGraph platform graph first second observedAt evidenceRefs
      candidate := bridgeCandidate first second threadKey evidenceRefs
      observedAt := observedAt
      activeMissionWorkExists := false
      privacyOptOutEntityKeys := []
      recentBridgeHistory := history }

lemma ne_empty_of_mem_toStringRefs {refs : List (Option String)} {ref : String}
    (h : ref ∈ toStringRefs platform refs) : ref ≠ "" := by
  have hunique := mem_uniqueValues.mp (platform.locale.mem_sort.mp h)
  obtain ⟨entry, -, htext⟩ := List.mem_filterMap.mp hunique
  have hkept := (Option.filter_eq_some_iff.mp htext).2
  simpa using hkept

end AgentBigBrain.Core
