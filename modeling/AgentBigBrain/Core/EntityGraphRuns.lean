import AgentBigBrain.Core.BridgeEmission
import AgentBigBrain.Core.EdgeCaps
import AgentBigBrain.Core.EntityContinuity

/-!
# Runs of graph operations

Extractions, bridge questions, their answers and profile syncs all write into one stored
graph. Its relations are looked up under a hash of the pair by all of them but the bridge
question, which writes the pair into the key instead. So a pair keeps one relation as long as
every operation finds, under the key it looks for, the relation that the pair already has.
-/
namespace AgentBigBrain.Core

open AgentBigBrain.Js AgentBigBrain.Lib

variable (platform : BridgePlatform) (sha : Sha256)

/-! ## Operations -/

inductive GraphOperation where
  | extraction (input : Stage686EntityExtractionInput)
      (options : Stage686EntityGraphMutationOptions)
  | bridgeQuestion (entityRefs evidenceRefs : List (Option String)) (threadKey observedAt : String)
      (history : List BridgeInteractionRecordV1)
  | bridgeAnswer (question : BridgeQuestionV1) (answer : BridgeAnswerV1)
      (observedAt evidenceRef : String) (history : List BridgeInteractionRecordV1)
  | continuitySync (claims : List ProfileMemoryGraphClaim) (observedAt : String)

def extractInto (graph : EntityGraphV1) (input : Stage686EntityExtractionInput)
    (options : Stage686EntityGraphMutationOptions) : Option EntityGraphV1 := do
  let extraction ← extractEntityCandidates platform.toGraphPlatform sha input
  let result ← applyEntityExtractionToGraph platform.toGraphPlatform sha graph extraction
    input.observedAt input.evidenceRef options
  some result.graph

/-- The first two of the refs, which a bridge question is about. -/
def askedPair (entityRefs : List (Option String)) : Option (String × String) :=
  match toStringRefs platform entityRefs with
  | first :: second :: _ => some (first, second)
  | _ => none

/-- The graph is only persisted with a question that passes the gate. -/
def askInto (graph : EntityGraphV1) (entityRefs evidenceRefs : List (Option String))
    (threadKey observedAt : String) (history : List BridgeInteractionRecordV1) :
    Option EntityGraphV1 := do
  let (first, second) ← askedPair platform entityRefs
  let evidence := toStringRefs platform evidenceRefs
  match ← decideBridgeQuestion platform sha graph first second threadKey observedAt evidence
      history with
  | .approved _ => some (bridgeGraph platform graph first second observedAt evidence)
  | .denied _ => none

def answerInto (graph : EntityGraphV1) (question : BridgeQuestionV1) (answer : BridgeAnswerV1)
    (observedAt evidenceRef : String) (history : List BridgeInteractionRecordV1) :
    Option EntityGraphV1 := do
  let resolved ← resolveBridgeQuestionAnswerV1 platform sha
    { graph := graph, question := question, observedAt := observedAt, evidenceRef := evidenceRef,
      answer := answer, recentBridgeHistory := history, bridgeCooldownDays := none }
  some resolved.graph

def syncInto (graph : EntityGraphV1) (claims : List ProfileMemoryGraphClaim)
    (observedAt : String) : Option EntityGraphV1 :=
  let synced := applyResolvedCurrentProfileClaimsToEntityGraph platform.toGraphPlatform sha graph
    claims observedAt
  if synced.changed then some synced.graph else none

/-- What an operation persists; `none` where it throws or has nothing to persist. -/
def GraphOperation.apply (graph : EntityGraphV1) : GraphOperation → Option EntityGraphV1
  | .extraction input options =>
      extractInto platform sha graph input options >>= normalizeEntityGraph platform.toGraphPlatform
  | .bridgeQuestion entityRefs evidenceRefs threadKey observedAt history =>
      askInto platform sha graph entityRefs evidenceRefs threadKey observedAt history >>=
        normalizeEntityGraph platform.toGraphPlatform
  | .bridgeAnswer question answer observedAt evidenceRef history =>
      answerInto platform sha graph question answer observedAt evidenceRef history >>=
        normalizeEntityGraph platform.toGraphPlatform
  | .continuitySync claims observedAt =>
      syncInto platform sha graph claims observedAt >>=
        normalizeEntityGraph platform.toGraphPlatform

/-- The stored graph after an operation. -/
def GraphOperation.step (graph : EntityGraphV1) (operation : GraphOperation) : EntityGraphV1 :=
  (operation.apply platform sha graph).getD graph

def runGraph (createdAt : String) (operations : List GraphOperation) : EntityGraphV1 :=
  operations.foldl (GraphOperation.step platform sha) (createEmptyEntityGraphV1 createdAt)

/-! ## What the graph should hold -/

/-- The two ends of a relation, in no order. -/
def edgePair (edge : RelationEdgeV1) : Sym2 String :=
  s(edge.sourceEntityKey, edge.targetEntityKey)

def entityKeys (entities : List EntityNodeV1) : List String :=
  entities.map EntityNodeV1.entityKey

structure GraphInvariant (graph : EntityGraphV1) : Prop where
  one_edge_per_pair : (graph.edges.map edgePair).Nodup
  ends_exist : ∀ edge ∈ graph.edges, edge.sourceEntityKey ∈ entityKeys graph.entities ∧
    edge.targetEntityKey ∈ entityKeys graph.entities

/-! ## When an operation finds the relation of a pair -/

/-- Under the hashed key of the pair a relation is stored, or the pair has none. -/
def FindsByHash (edges : List RelationEdgeV1) (pair : String × String) : Prop :=
  (∃ edge ∈ edges, edge.edgeKey = buildEdgeKey platform.toGraphPlatform sha pair.1 pair.2) ∨
    ∀ edge ∈ edges, edgePair edge ≠ unordered pair

/-- No relation of the pair is stored under another key than its hashed one. -/
def KeyedByHash (edges : List RelationEdgeV1) (pair : String × String) : Prop :=
  ∀ edge ∈ edges, edgePair edge = unordered pair →
    edge.edgeKey = buildEdgeKey platform.toGraphPlatform sha pair.1 pair.2

/-- The sorted ends of a relation are the sorted pair, or the pair has none. -/
def FindsByEnds (edges : List RelationEdgeV1) (pair : String × String) : Prop :=
  hasEdgeOfPair platform edges (orderedPair platform.toGraphPlatform pair.1 pair.2) = true ∨
    ∀ edge ∈ edges, edgePair edge ≠ unordered pair

/-- The pairs of the associations of a sync, each in the relations at the time it is written. -/
def AssociationsKeyed (observedAt : String) : ContinuitySync → List ContinuityAssociationClaim →
    Prop
  | _, [] => True
  | sync, association :: rest =>
      let evidenceRef := PROFILE_MEMORY_CONTINUITY_EVIDENCE_PREFIX ++ association.claimId
      let personNode := upsertContinuityEntityNode platform.toGraphPlatform sha sync.entities
        association.contactName .person observedAt evidenceRef
      let targetNode := upsertContinuityEntityNode platform.toGraphPlatform sha personNode.written
        association.targetName association.targetType observedAt evidenceRef
      KeyedByHash platform sha sync.edges (personNode.key, targetNode.key) ∧
        AssociationsKeyed observedAt
          (sync.writeAssociation platform.toGraphPlatform sha observedAt association) rest

/-- The operation finds the relation of every pair it writes. -/
def FindsPairs (graph : EntityGraphV1) : GraphOperation → Prop
  | .extraction input _ =>
      ∀ extraction ∈ extractEntityCandidates platform.toGraphPlatform sha input,
        ∀ pair ∈ extraction.coMentionPairs, FindsByHash platform sha graph.edges pair
  | .bridgeQuestion entityRefs _ _ _ _ =>
      ∀ pair ∈ askedPair platform entityRefs, FindsByEnds platform graph.edges pair
  | .bridgeAnswer _ _ _ _ _ => True
  | .continuitySync claims observedAt =>
      AssociationsKeyed platform sha observedAt (startSync graph)
        (collectContinuityAssociationClaims platform.toGraphPlatform claims)

def RunFindsPairs (createdAt : String) (operations : List GraphOperation) : Prop :=
  ∀ before operation after, operations = before ++ operation :: after →
    FindsPairs platform sha (runGraph platform sha createdAt before) operation

end AgentBigBrain.Core
