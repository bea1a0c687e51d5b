import AgentBigBrain.Core.EntityGraphExtraction

/-!
# Profile claims in the graph

Claims of the profile memory that a contact works at an organisation or lives at a place are
written into the entity graph as two entities and a confirmed relation between them.
-/
namespace AgentBigBrain.Core

open AgentBigBrain.Js AgentBigBrain.Lib

variable (platform : GraphPlatform) (sha : Sha256)

/-! ## Association claims -/

/-- What the sync reads of a profile-memory claim. -/
structure ProfileMemoryGraphClaim where
  claimId : String
  normalizedKey : Option String
  normalizedValue : Option String

structure ContinuityAssociationClaim where
  contactToken : String
  field : String
  contactName : String
  targetName : String
  targetType : EntityTypeV1
  claimId : String

def PROFILE_MEMORY_CONTINUITY_EVIDENCE_PREFIX : String := "profile_memory_claim:"

def lowerTrimmed (text : String) : String :=
  platform.toLowerCase (trim text)

/-- The contact token and the field of a key `contact.<token>.<field>`. -/
def parseContactClaimKey (value : Option String) : Option (String × String) := do
  let key ← value
  match ((trim key).toList.splitOn '.').map String.ofList with
  | "contact" :: token :: field :: rest =>
      let contactToken := lowerTrimmed platform token
      let fieldName := lowerTrimmed platform (".".intercalate (field :: rest))
      if contactToken = "" || fieldName = "" then none else some (contactToken, fieldName)
  | _ => none

def resolveContinuityAssociationEntityType (field : String) : Option EntityTypeV1 :=
  if field = "work_association" || field = "organization_association" then some .org
  else if field = "location_association" || field = "primary_location_association" ||
      field = "secondary_location_association" then some .place
  else none

def normalizeContinuityLabel (value : Option String) : Option String :=
  (value.filter isPresent).map normalizeWhitespace

/-- The first name of each contact token, as in `List.lookup`. -/
def buildContactNameLookup (claims : List ProfileMemoryGraphClaim) : List (String × String) :=
  claims.filterMap fun claim => do
    let (contactToken, field) ← parseContactClaimKey platform claim.normalizedKey
    let name ← normalizeContinuityLabel claim.normalizedValue
    if field = "name" then some (contactToken, name) else none

def humanizeContactToken (token : String) : String :=
  " ".intercalate (((token.toList.splitOn '_').filter (· ≠ [])).map fun segment =>
    platform.toUpperCase (String.ofList (segment.take 1)) ++ String.ofList (segment.drop 1))

def associationOfClaim (contactNamesByToken : List (String × String))
    (claim : ProfileMemoryGraphClaim) : Option ContinuityAssociationClaim := do
  let (contactToken, field) ← parseContactClaimKey platform claim.normalizedKey
  let targetType ← resolveContinuityAssociationEntityType field
  let targetName ← normalizeContinuityLabel claim.normalizedValue
  some
    { contactToken := contactToken
      field := field
      contactName :=
        (contactNamesByToken.lookup contactToken).getD (humanizeContactToken platform contactToken)
      targetName := targetName
      targetType := targetType
      claimId := claim.claimId }

/-- `if (collected.has(associationKey)) continue`. -/
def firstAssociation : KeyedMerge ContinuityAssociationClaim String where
  key claim := ":".intercalate
    [claim.contactToken, claim.field, claim.targetType.text, claim.targetName]
  choose existing _ := existing
  key_choose _ _ h := h

def collectContinuityAssociationClaims (claims : List ProfileMemoryGraphClaim) :
    List ContinuityAssociationClaim :=
  firstAssociation.collect []
    (claims.filterMap (associationOfClaim platform (buildContactNameLookup platform claims)))

/-! ## Entities -/

def selectContinuityEntityMatch (entities : List EntityNodeV1) (canonicalName : String)
    (desiredType : EntityTypeV1) : Option EntityNodeV1 :=
  let found := queryEntityGraphNodesByCanonicalOrAlias platform entities canonicalName
  let stored (entity : EntityNodeV1) : EntityNodeV1 :=
    (entitiesByKey.find entity.entityKey entities).getD entity
  match found.find? fun entity => entity.entityType = desiredType with
  | some exactTypeMatch => some (stored exactTypeMatch)
  | none =>
      match found with
      | [entity] =>
          if entity.entityType = .thing || entity.entityType = .concept then some (stored entity)
          else none
      | _ => none

def upgradeContinuityEntityType (existingType desiredType : EntityTypeV1) : EntityTypeV1 :=
  if existingType = .thing || existingType = .concept then desiredType else existingType

def mergeContinuityDomainHint : Option EntityDomainHint → Option EntityDomainHint
  | none => some .relationship
  | some hint => if hint = .relationship then some hint else none

def newContinuityEntity (canonicalName : String) (desiredType : EntityTypeV1)
    (observedAt evidenceRef : String) : EntityNodeV1 where
  entityKey := buildEntityKey platform sha canonicalName desiredType none
  canonicalName := canonicalName
  entityType := desiredType
  disambiguator := none
  domainHint := mergeContinuityDomainHint none
  aliases := normalizeStringArray platform [canonicalName]
  firstSeenAt := observedAt
  lastSeenAt := observedAt
  salience := 1
  evidenceRefs := normalizeStringArray platform [evidenceRef]

def renewedContinuityEntity (existing : EntityNodeV1) (canonicalName : String)
    (desiredType : EntityTypeV1) (observedAt evidenceRef : String) : EntityNodeV1 :=
  { existing with
    entityType :=
      if existing.entityType ≠ desiredType then
        upgradeContinuityEntityType existing.entityType desiredType
      else desiredType
    domainHint := mergeContinuityDomainHint existing.domainHint
    aliases := normalizeStringArray platform (existing.aliases ++ [canonicalName])
    lastSeenAt := observedAt
    salience :=
      if evidenceRef ∈ existing.evidenceRefs then existing.salience
      else toFixed4 (existing.salience + 1)
    evidenceRefs := normalizeStringArray platform (existing.evidenceRefs ++ [evidenceRef]) }

/-- What an upsert leaves, the key it wrote and whether it changed anything. -/
structure ContinuityUpsert (α : Type) where
  written : List α
  key : String
  changed : Bool

def upsertContinuityEntityNode (entities : List EntityNodeV1) (canonicalName : String)
    (desiredType : EntityTypeV1) (observedAt evidenceRef : String) :
    ContinuityUpsert EntityNodeV1 :=
  match selectContinuityEntityMatch platform entities canonicalName desiredType with
  | some existing =>
      let nextEntity :=
        renewedContinuityEntity platform existing canonicalName desiredType observedAt evidenceRef
      ⟨entitiesByKey.upsert nextEntity entities, nextEntity.entityKey,
        decide (existing ≠ nextEntity)⟩
  | none =>
      let nextEntity :=
        newContinuityEntity platform sha canonicalName desiredType observedAt evidenceRef
      ⟨entitiesByKey.upsert nextEntity entities, nextEntity.entityKey, true⟩

/-! ## Relations -/

/-- The same key as `buildEdgeKey`, written out once more. -/
def buildContinuityAssociationEdgeKey (sourceEntityKey targetEntityKey : String) : String :=
  let ordered := orderedPair platform sourceEntityKey targetEntityKey
  "edge_" ++ sliceUnits 20 (sha.digest (canonicalJson platform.locale
    (.obj [("ordered", .arr [.str ordered.1, .str ordered.2])])))

def continuityEdge (existing : Option RelationEdgeV1)
    (sourceEntityKey targetEntityKey evidenceRef observedAt : String) : RelationEdgeV1 where
  edgeKey := buildContinuityAssociationEdgeKey platform sha sourceEntityKey targetEntityKey
  sourceEntityKey := sourceEntityKey
  targetEntityKey := targetEntityKey
  relationType := .other
  status := .confirmed
  coMentionCount := max 1 ((existing.map RelationEdgeV1.coMentionCount).getD 1)
  strength := max 1 ((existing.map RelationEdgeV1.strength).getD 1)
  firstObservedAt := (existing.map RelationEdgeV1.firstObservedAt).getD observedAt
  lastObservedAt := observedAt
  evidenceRefs := normalizeStringArray platform
    ((existing.map RelationEdgeV1.evidenceRefs).getD [] ++ [evidenceRef])

def upsertContinuityAssociationEdge (edges : List RelationEdgeV1)
    (sourceEntityKey targetEntityKey evidenceRef observedAt : String) :
    ContinuityUpsert RelationEdgeV1 :=
  let edgeKey := buildContinuityAssociationEdgeKey platform sha sourceEntityKey targetEntityKey
  let existing := edgesByKey.find edgeKey edges
  let nextEdge :=
    continuityEdge platform sha existing sourceEntityKey targetEntityKey evidenceRef observedAt
  if existing = some nextEdge then ⟨edges, edgeKey, false⟩
  else ⟨edgesByKey.upsert nextEdge edges, edgeKey, true⟩

/-! ## The sync -/

structure ContinuitySync where
  entities : List EntityNodeV1
  edges : List RelationEdgeV1
  syncedEntityKeys : List String
  syncedEdgeKeys : List String
  changed : Bool

def ContinuitySync.writeAssociation (observedAt : String) (sync : ContinuitySync)
    (association : ContinuityAssociationClaim) : ContinuitySync :=
  let evidenceRef := PROFILE_MEMORY_CONTINUITY_EVIDENCE_PREFIX ++ association.claimId
  let personNode := upsertContinuityEntityNode platform sha sync.entities association.contactName
    .person observedAt evidenceRef
  let targetNode := upsertContinuityEntityNode platform sha personNode.written
    association.targetName association.targetType observedAt evidenceRef
  let edgeResult := upsertContinuityAssociationEdge platform sha sync.edges personNode.key
    targetNode.key evidenceRef observedAt
  { entities := targetNode.written
    edges := edgeResult.written
    syncedEntityKeys := sync.syncedEntityKeys ++ [personNode.key, targetNode.key]
    syncedEdgeKeys := sync.syncedEdgeKeys ++ [edgeResult.key]
    changed := sync.changed || personNode.changed || targetNode.changed || edgeResult.changed }

structure SyncCurrentSurfaceProfileClaimsResult where
  graph : EntityGraphV1
  changed : Bool
  syncedEntityKeys : List String
  syncedEdgeKeys : List String

def startSync (graph : EntityGraphV1) : ContinuitySync where
  entities := entitiesByKey.collect [] graph.entities
  edges := edgesByKey.collect [] graph.edges
  syncedEntityKeys := []
  syncedEdgeKeys := []
  changed := false

def applyResolvedCurrentProfileClaimsToEntityGraph (graph : EntityGraphV1)
    (claims : List ProfileMemoryGraphClaim) (observedAt : String) :
    SyncCurrentSurfaceProfileClaimsResult :=
  let sync := (collectContinuityAssociationClaims platform claims).foldl
    (ContinuitySync.writeAssociation platform sha observedAt) (startSync graph)
  { graph :=
      if sync.changed then
        { graph with
          updatedAt := observedAt
          entities := sortEntityNodes platform sync.entities
          edges := sortRelationEdges platform sync.edges }
      else graph
    changed := sync.changed
    syncedEntityKeys := platform.locale.sort (uniqueValues sync.syncedEntityKeys)
    syncedEdgeKeys := platform.locale.sort (uniqueValues sync.syncedEdgeKeys) }

end AgentBigBrain.Core
