import AgentBigBrain.Core.AliasOwnership
import AgentBigBrain.Core.EntityGraphRuns

/-!
# One relation for each pair of entities

What the operations keep of a graph is visible in its entity keys and in the key and ends of
each of its relations. Each operation is followed on these, from the copy it starts with to the
graph it persists.
-/
namespace AgentBigBrain.Core

open AgentBigBrain.Js AgentBigBrain.Lib

variable {platform : BridgePlatform} {sha : Sha256}

/-! ## Keys and shapes -/

abbrev EdgeShape := String × Sym2 String

def edgeShape (edge : RelationEdgeV1) : EdgeShape := (edge.edgeKey, edgePair edge)

structure ShapesSound (keys : List String) (shapes : List EdgeShape) : Prop where
  single : (shapes.map Prod.snd).Nodup
  ends : ∀ shape ∈ shapes, ∀ key ∈ shape.2, key ∈ keys

structure GraphSound (graph : EntityGraphV1) : Prop where
  keyed : WellKeyed graph.entities
  shapes : ShapesSound (entityKeys graph.entities) (graph.edges.map edgeShape)

lemma ShapesSound.perm {keys : List String} {shapes others : List EdgeShape}
    (h : ShapesSound keys shapes) (hperm : others.Perm shapes) : ShapesSound keys others :=
  ⟨(hperm.map _).nodup_iff.mpr h.single, fun shape hshape => h.ends shape (hperm.mem_iff.mp hshape)⟩

lemma ShapesSound.sublist {keys : List String} {shapes others : List EdgeShape}
    (h : ShapesSound keys shapes) (hsub : others.Sublist shapes) : ShapesSound keys others :=
  ⟨(hsub.map _).nodup h.single, fun shape hshape => h.ends shape (hsub.subset hshape)⟩

lemma ShapesSound.mono {keys more : List String} {shapes : List EdgeShape}
    (h : ShapesSound keys shapes) (hkeys : keys ⊆ more) : ShapesSound more shapes :=
  ⟨h.single, fun shape hshape key hkey => hkeys (h.ends shape hshape key hkey)⟩

lemma ShapesSound.concat {keys : List String} {shapes : List EdgeShape} {shape : EdgeShape}
    (h : ShapesSound keys shapes) (hnew : shape.2 ∉ shapes.map Prod.snd)
    (hends : ∀ key ∈ shape.2, key ∈ keys) : ShapesSound keys (shapes ++ [shape]) where
  single := by
    rw [List.map_append, List.map_singleton]
    refine List.nodup_append.mpr ⟨h.single, List.nodup_singleton _, ?_⟩
    rintro pair hpair other hother rfl
    exact hnew (List.mem_singleton.mp hother ▸ hpair)
  ends other hother := by
    rcases List.mem_append.mp hother with hother | hother
    · exact h.ends other hother
    · rw [List.mem_singleton.mp hother]
      exact hends

lemma wellKeyed_iff {entities : List EntityNodeV1} :
    WellKeyed entities ↔ (entityKeys entities).Nodup ∧ "" ∉ entityKeys entities := by
  constructor
  · intro h
    refine ⟨h.distinct, fun hmem => ?_⟩
    obtain ⟨entity, hentity, hkey⟩ := List.mem_map.mp hmem
    exact h.nonempty entity hentity hkey
  · rintro ⟨hdistinct, hempty⟩
    exact ⟨hdistinct, fun entity hentity hkey => hempty (hkey ▸ List.mem_map_of_mem hentity)⟩

lemma GraphSound.invariant {graph : EntityGraphV1} (h : GraphSound graph) :
    GraphInvariant graph where
  one_edge_per_pair := by simpa [edgeShape, Function.comp_def] using h.shapes.single
  ends_exist edge hedge := by
    have hends := h.shapes.ends (edgeShape edge) (List.mem_map_of_mem hedge)
    exact ⟨hends _ (Sym2.mem_mk_left _ _), hends _ (Sym2.mem_mk_right _ _)⟩

lemma graphSound_empty (createdAt : String) : GraphSound (createEmptyEntityGraphV1 createdAt) where
  keyed := ⟨List.nodup_nil, by simp [createEmptyEntityGraphV1]⟩
  shapes := ⟨List.nodup_nil, by simp [createEmptyEntityGraphV1]⟩

/-! ## The copies an operation starts with -/

lemma WellKeyed.copy {entities : List EntityNodeV1} (h : WellKeyed entities) :
    entitiesByKey.collect [] entities = entities :=
  entitiesByKey.collect_nil_of_distinct h.distinct

lemma mem_of_mem_edgeCopy {edges : List RelationEdgeV1} :
    ∀ edge ∈ edgesByKey.collect [] edges, edge ∈ edges :=
  edgesByKey.forall_collect (by simp) (fun _ hedge => hedge) fun _ _ _ _ hedge => hedge

lemma distinct_edgeCopy (edges : List RelationEdgeV1) :
    edgesByKey.Distinct (edgesByKey.collect [] edges) :=
  edgesByKey.distinct_collect List.nodup_nil

/-- Relations that share a key are merged in the copy; the others stay apart. -/
lemma ShapesSound.copy {keys : List String} {edges : List RelationEdgeV1}
    (h : ShapesSound keys (edges.map edgeShape)) :
    ShapesSound keys ((edgesByKey.collect [] edges).map edgeShape) where
  single := by
    have hsingle : (edges.map edgePair).Nodup := by
      simpa [edgeShape, Function.comp_def] using h.single
    have hnodup : (edgesByKey.collect [] edges).Nodup :=
      List.Nodup.of_map _ (distinct_edgeCopy edges)
    rw [List.map_map]
    refine hnodup.map_on fun edge hedge other hother hpair => ?_
    exact List.inj_on_of_nodup_map hsingle (mem_of_mem_edgeCopy edge hedge)
      (mem_of_mem_edgeCopy other hother) hpair
  ends shape hshape := by
    obtain ⟨edge, hedge, rfl⟩ := List.mem_map.mp hshape
    exact h.ends _ (List.mem_map_of_mem (mem_of_mem_edgeCopy edge hedge))

lemma FindsByHash.copy {edges : List RelationEdgeV1} {pair : String × String}
    (h : FindsByHash platform sha edges pair) :
    FindsByHash platform sha (edgesByKey.collect [] edges) pair := by
  rcases h with ⟨edge, hedge, hkey⟩ | h
  · have hmem : edge.edgeKey ∈ (edgesByKey.collect [] edges).map edgesByKey.key :=
      (edgesByKey.mem_keys_collect [] edges).mpr (Or.inr (List.mem_map_of_mem hedge))
    obtain ⟨kept, hkept, hsame⟩ := List.mem_map.mp hmem
    exact Or.inl ⟨kept, hkept, hsame.trans hkey⟩
  · exact Or.inr fun edge hedge => h edge (mem_of_mem_edgeCopy edge hedge)

/-! ## Writing one relation -/

lemma map_edgeShape_upsert {edges : List RelationEdgeV1} (h : edgesByKey.Distinct edges)
    {existing renewed : RelationEdgeV1}
    (hfound : edgesByKey.find existing.edgeKey edges = some existing)
    (hshape : edgeShape renewed = edgeShape existing) :
    (edgesByKey.upsert renewed edges).map edgeShape = edges.map edgeShape := by
  have hkey : renewed.edgeKey = existing.edgeKey := congrArg Prod.fst hshape
  have hexisting := (edgesByKey.mem_of_find hfound).1
  have hmem : edgesByKey.key renewed ∈ edges.map edgesByKey.key := by
    rw [edgesByKey_key, hkey]
    exact List.mem_map_of_mem hexisting
  rw [edgesByKey.upsert_eq_map h hmem, List.map_map]
  refine List.map_congr_left fun edge hedge => ?_
  change edgeShape (if edge.edgeKey = renewed.edgeKey then renewed else edge) = edgeShape edge
  split_ifs with hsame
  · have heq : edge = existing :=
      edgesByKey.eq_of_distinct h hedge hexisting (hsame.trans hkey)
    rw [hshape, heq]
  · rfl

lemma map_edgeShape_upsert_new {edges : List RelationEdgeV1} {edge : RelationEdgeV1}
    (hnone : edgesByKey.find edge.edgeKey edges = none) :
    (edgesByKey.upsert edge edges).map edgeShape = edges.map edgeShape ++ [edgeShape edge] := by
  have hnew : edgesByKey.key edge ∉ edges.map edgesByKey.key :=
    edgesByKey.find_eq_none_iff.mp hnone
  rw [edgesByKey.upsert_of_not_mem hnew, List.map_append, List.map_singleton]

/-! ## Extraction -/

/-- One more mention of a pair changes no key and no ends, or adds the relation of the pair. -/
lemma shapes_of_mentionPair {entities : List EntityNodeV1} {observedAt evidenceRef : String}
    {edges next : List RelationEdgeV1} {pair : String × String}
    (hdistinct : edgesByKey.Distinct edges)
    (h : mentionPair platform.toGraphPlatform sha entities observedAt evidenceRef edges pair =
      some next) :
    edgesByKey.Distinct next ∧
      (next.map edgeShape = edges.map edgeShape ∨
        (pair.1 ∈ entityKeys entities ∧ pair.2 ∈ entityKeys entities) ∧
          edgesByKey.find (buildEdgeKey platform.toGraphPlatform sha pair.1 pair.2) edges = none ∧
          next.map edgeShape = edges.map edgeShape ++
            [(buildEdgeKey platform.toGraphPlatform sha pair.1 pair.2, unordered pair)]) := by
  unfold mentionPair at h
  split at h
  · cases h
    exact ⟨hdistinct, Or.inl rfl⟩
  · rename_i hends
    split at h
    · rename_i hnone
      cases h
      refine ⟨edgesByKey.distinct_upsert hdistinct, Or.inr ⟨?_, hnone, ?_⟩⟩
      · simp only [Bool.not_eq_true', Bool.not_eq_false, Bool.and_eq_true,
          Option.isSome_iff_ne_none, ne_eq, entitiesByKey.find_eq_none_iff, not_not] at hends
        exact hends
      · exact map_edgeShape_upsert_new hnone
    · rename_i existing hfound
      obtain ⟨increment, -, hnext⟩ := Option.bind_eq_some_iff.mp h
      cases hnext
      have hkey := (edgesByKey.mem_of_find hfound).2
      rw [← hkey, edgesByKey_key] at hfound
      exact ⟨edgesByKey.distinct_upsert hdistinct, Or.inl (map_edgeShape_upsert hdistinct hfound rfl)⟩

/-- The pairs of an extraction, each of which the relations find by hash. -/
lemma shapesSound_mentionPairs {entities : List EntityNodeV1} {observedAt evidenceRef : String}
    {pairs : List (String × String)} {edges next : List RelationEdgeV1}
    (hpairs : (pairs.map unordered).Nodup) (hdistinct : edgesByKey.Distinct edges)
    (hsound : ShapesSound (entityKeys entities) (edges.map edgeShape))
    (hfinds : ∀ pair ∈ pairs, FindsByHash platform sha edges pair)
    (h : pairs.foldlM (mentionPair platform.toGraphPlatform sha entities observedAt evidenceRef)
      edges = some next) :
    ShapesSound (entityKeys entities) (next.map edgeShape) := by
  induction pairs generalizing edges with
  | nil =>
      cases h
      exact hsound
  | cons pair pairs ih =>
      obtain ⟨written, hwritten, hrest⟩ := Option.bind_eq_some_iff.mp h
      have hnodup := List.nodup_cons.mp hpairs
      obtain ⟨hdistinct', hcases⟩ := shapes_of_mentionPair hdistinct hwritten
      -- `FindsByHash` can be read off the shapes
      have hread : ∀ (es : List RelationEdgeV1) (p : String × String),
          FindsByHash platform sha es p ↔
            (∃ shape ∈ es.map edgeShape,
              shape.1 = buildEdgeKey platform.toGraphPlatform sha p.1 p.2) ∨
            ∀ shape ∈ es.map edgeShape, shape.2 ≠ unordered p := by
        intro es p
        simp [FindsByHash, edgeShape]
      rcases hcases with hsame | ⟨hends, hnone, hadded⟩
      · refine ih hnodup.2 hdistinct' (hsame ▸ hsound) (fun later hlater => ?_) hrest
        rw [hread, hsame, ← hread]
        exact hfinds later (List.mem_cons_of_mem pair hlater)
      · have hfree : ∀ edge ∈ edges, edgePair edge ≠ unordered pair := by
          rcases hfinds pair List.mem_cons_self with ⟨edge, hedge, hkey⟩ | hfree
          · refine absurd ?_ (edgesByKey.find_eq_none_iff.mp hnone)
            exact List.mem_map.mpr ⟨edge, hedge, hkey⟩
          · exact hfree
        refine ih hnodup.2 hdistinct' ?_ (fun later hlater => ?_) hrest
        · rw [hadded]
          refine hsound.concat ?_ ?_
          · rw [List.map_map]
            intro hmem
            obtain ⟨edge, hedge, hpair⟩ := List.mem_map.mp hmem
            exact hfree edge hedge hpair
          · intro key hkey
            rcases Sym2.mem_iff.mp hkey with rfl | rfl
            · exact hends.1
            · exact hends.2
        · have hother : unordered pair ≠ unordered later := fun hsame =>
            hnodup.1 (hsame ▸ List.mem_map_of_mem hlater)
          rcases (hread _ _).mp (hfinds later (List.mem_cons_of_mem pair hlater)) with
            ⟨shape, hshape, hkey⟩ | hnot
          · exact (hread _ _).mpr (Or.inl ⟨shape, hadded ▸ List.mem_append_left _ hshape, hkey⟩)
          · refine (hread _ _).mpr (Or.inr fun shape hshape => ?_)
            rw [hadded] at hshape
            rcases List.mem_append.mp hshape with hshape | hshape
            · exact hnot shape hshape
            · rw [List.mem_singleton.mp hshape]
              exact hother

lemma NodesMerged.wellKeyed {options : Stage686EntityGraphMutationOptions}
    {observedAt evidenceRef : String} {entities nodes : List EntityNodeV1} {state : ExtractionState}
    (h : NodesMerged platform.toGraphPlatform options observedAt evidenceRef entities nodes state)
    (hkeyed : WellKeyed entities) (hnodes : ∀ node ∈ nodes, node.entityKey ≠ "") :
    WellKeyed state.entities ∧ entityKeys entities ⊆ entityKeys state.entities := by
  refine ⟨⟨h.distinct, fun entity hentity => ?_⟩, fun key hkey => ?_⟩
  · rcases h.named_or_stored hentity with ⟨node, hnode, hsame⟩ | hstored
    · exact hsame ▸ hnodes node hnode
    · exact hkeyed.nonempty entity hstored
  · obtain ⟨entity, hentity, rfl⟩ := List.mem_map.mp hkey
    by_cases hnamed : entity.entityKey ∈ nodes.map EntityNodeV1.entityKey
    · obtain ⟨node, hnode, hsame⟩ := List.mem_map.mp hnamed
      obtain ⟨renewed, hfound, -⟩ := h.renewed node hnode
      have hmem := entitiesByKey.mem_of_find hfound
      exact List.mem_map.mpr ⟨renewed, hmem.1, hmem.2.trans hsame⟩
    · have hfound := entitiesByKey.find_eq_some_of_mem hkeyed.distinct hentity
      rw [entitiesByKey_key, ← h.others _ hnamed] at hfound
      exact List.mem_map_of_mem (entitiesByKey.mem_of_find hfound).1

lemma perm_entityKeys_sort (entities : List EntityNodeV1) :
    (entityKeys (sortEntityNodes platform.toGraphPlatform entities)).Perm (entityKeys entities) :=
  ((entityOrder platform.toGraphPlatform).sort_perm entities).map _

lemma perm_shapes_sort (edges : List RelationEdgeV1) :
    ((sortRelationEdges platform.toGraphPlatform edges).map edgeShape).Perm
      (edges.map edgeShape) :=
  ((edgeOrder platform.toGraphPlatform).sort_perm edges).map _

lemma WellKeyed.perm {entities others : List EntityNodeV1} (h : WellKeyed entities)
    (hperm : (entityKeys others).Perm (entityKeys entities)) : WellKeyed others := by
  rw [wellKeyed_iff, hperm.nodup_iff, hperm.mem_iff]
  exact wellKeyed_iff.mp h

/-- A graph with the same keys and shapes, up to their order. -/
lemma GraphSound.of_perm {graph : EntityGraphV1} {entities : List EntityNodeV1}
    {edges : List RelationEdgeV1} (hkeyed : WellKeyed entities)
    (hshapes : ShapesSound (entityKeys entities) (edges.map edgeShape))
    (hentities : (entityKeys graph.entities).Perm (entityKeys entities))
    (hedges : (graph.edges.map edgeShape).Perm (edges.map edgeShape)) : GraphSound graph where
  keyed := hkeyed.perm hentities
  shapes := (hshapes.mono hentities.symm.subset).perm hedges

lemma GraphSound.extraction {graph : EntityGraphV1} (hsound : GraphSound graph)
    {extraction : Stage686EntityExtractionResult} {observedAt evidenceRef : String}
    {options : Stage686EntityGraphMutationOptions} {result : Stage686EntityGraphMutationResult}
    (hfinds : ∀ pair ∈ extraction.coMentionPairs, FindsByHash platform sha graph.edges pair)
    (h : applyEntityExtractionToGraph platform.toGraphPlatform sha graph extraction observedAt
      evidenceRef options = some result) :
    GraphSound result.graph := by
  have hmerged := nodesMerged_mergeNodes platform.toGraphPlatform options observedAt evidenceRef
    hsound.keyed extraction
  obtain ⟨hkeyed, hkeys⟩ := hmerged.wellKeyed hsound.keyed extraction.nodes_keyed
  unfold applyEntityExtractionToGraph at h
  split at h
  · obtain ⟨edges, hedges, hresult⟩ := Option.bind_eq_some_iff.mp h
    have hshapes := shapesSound_mentionPairs extraction.pairs_distinct (distinct_edgeCopy _)
      (hsound.shapes.copy.mono hkeys) (fun pair hpair => (hfinds pair hpair).copy) hedges
    have hkept := hshapes.sublist ((enforceEdgeCaps_sublist platform.toGraphPlatform edges
      (options.maxGraphEdgesPerEntity.getD MAX_GRAPH_EDGES_PER_ENTITY_DEFAULT)).map edgeShape)
    cases hresult
    exact .of_perm hkeyed hkept (perm_entityKeys_sort _) (perm_shapes_sort _)
  · cases h

/-! ## Persisting -/

lemma map_eq_of_mapM {α β : Type} {f : α → Option α} {view : α → β}
    (hview : ∀ x y, f x = some y → view y = view x) {xs ys : List α} (h : xs.mapM f = some ys) :
    ys.map view = xs.map view := by
  induction xs generalizing ys with
  | nil =>
      cases h
      rfl
  | cons x xs ih =>
      rw [List.mapM_cons] at h
      obtain ⟨y, hy, hrest⟩ := Option.bind_eq_some_iff.mp h
      obtain ⟨zs, hzs, hys⟩ := Option.bind_eq_some_iff.mp hrest
      cases hys
      rw [List.map_cons, List.map_cons, hview x y hy, ih hzs]

lemma normalizeEntityNode_key {entity stored : EntityNodeV1}
    (h : normalizeEntityNode platform.toGraphPlatform entity = some stored) :
    stored.entityKey = entity.entityKey := by
  unfold normalizeEntityNode at h
  split at h
  · cases h
    rfl
  · cases h

lemma normalizeRelationEdge_shape {edge stored : RelationEdgeV1}
    (h : normalizeRelationEdge platform.toGraphPlatform edge = some stored) :
    edgeShape stored = edgeShape edge := by
  unfold normalizeRelationEdge at h
  split at h
  · cases h
    rfl
  · cases h

lemma perm_of_normalizeEntityGraph {graph stored : EntityGraphV1}
    (h : normalizeEntityGraph platform.toGraphPlatform graph = some stored) :
    (entityKeys stored.entities).Perm (entityKeys graph.entities) ∧
      (stored.edges.map edgeShape).Perm (graph.edges.map edgeShape) := by
  unfold normalizeEntityGraph at h
  split at h
  · obtain ⟨entities, hentities, h⟩ := Option.bind_eq_some_iff.mp h
    obtain ⟨edges, hedges, h⟩ := Option.bind_eq_some_iff.mp h
    obtain ⟨records, -, h⟩ := Option.bind_eq_some_iff.mp h
    cases h
    have hkeys : entityKeys entities = entityKeys graph.entities :=
      map_eq_of_mapM (fun _ _ => normalizeEntityNode_key) hentities
    have hshapes : edges.map edgeShape = graph.edges.map edgeShape :=
      map_eq_of_mapM (fun _ _ => normalizeRelationEdge_shape) hedges
    rw [← hkeys, ← hshapes]
    exact ⟨perm_entityKeys_sort entities, perm_shapes_sort edges⟩
  · cases h

lemma GraphSound.persist {graph stored : EntityGraphV1} (hsound : GraphSound graph)
    (h : normalizeEntityGraph platform.toGraphPlatform graph = some stored) : GraphSound stored := by
  obtain ⟨hentities, hedges⟩ := perm_of_normalizeEntityGraph h
  exact .of_perm hsound.keyed hsound.shapes hentities hedges

/-! ## Bridge questions and their answers -/

variable (platform) in
lemma entityKeys_ensureEntity (graph : EntityGraphV1) (entityKey observedAt : String)
    (evidenceRefs : List String) :
    (entityKeys (ensureEntity platform graph entityKey observedAt evidenceRefs).entities).Perm
      (if entityKey ∈ entityKeys graph.entities then entityKeys graph.entities
        else entityKeys graph.entities ++ [entityKey]) := by
  have hany : (graph.entities.any fun entity => decide (entity.entityKey = entityKey)) = true ↔
      entityKey ∈ entityKeys graph.entities := by
    simp [entityKeys]
  unfold ensureEntity
  by_cases hmem : entityKey ∈ entityKeys graph.entities
  · rw [if_pos (hany.mpr hmem), if_pos hmem]
  · rw [if_neg (mt hany.mp hmem), if_neg hmem]
    refine (perm_entityKeys_sort _).trans ?_
    simp [entityKeys, placeholderEntity]

lemma edges_ensureEntity (graph : EntityGraphV1) (entityKey observedAt : String)
    (evidenceRefs : List String) :
    (ensureEntity platform graph entityKey observedAt evidenceRefs).edges = graph.edges := by
  unfold ensureEntity
  split_ifs <;> rfl

variable (platform) in
lemma GraphSound.ensureEntity {graph : EntityGraphV1} (h : GraphSound graph) {entityKey : String}
    (hne : entityKey ≠ "") (observedAt : String) (evidenceRefs : List String) :
    GraphSound (ensureEntity platform graph entityKey observedAt evidenceRefs) := by
  have hperm := entityKeys_ensureEntity platform graph entityKey observedAt evidenceRefs
  have hkeyed := wellKeyed_iff.mp h.keyed
  constructor
  · rw [wellKeyed_iff, hperm.nodup_iff, hperm.mem_iff]
    split_ifs with hmem
    · exact hkeyed
    · refine ⟨List.nodup_append.mpr ⟨hkeyed.1, List.nodup_singleton _, ?_⟩, ?_⟩
      · rintro key hkey other hother rfl
        exact hmem (List.mem_singleton.mp hother ▸ hkey)
      · rw [List.mem_append, List.mem_singleton, not_or]
        exact ⟨hkeyed.2, hne.symm⟩
  · rw [edges_ensureEntity]
    refine h.shapes.mono fun key hkey => hperm.mem_iff.mpr ?_
    split_ifs
    · exact hkey
    · exact List.mem_append_left _ hkey

lemma mem_entityKeys_ensureEntity {graph : EntityGraphV1} {entityKey key observedAt : String}
    {evidenceRefs : List String} (h : key = entityKey ∨ key ∈ entityKeys graph.entities) :
    key ∈ entityKeys
      (ensureEntity platform graph entityKey observedAt evidenceRefs).entities := by
  rw [(entityKeys_ensureEntity platform graph entityKey observedAt evidenceRefs).mem_iff]
  split_ifs with hmem
  · rcases h with rfl | h
    · exact hmem
    · exact h
  · rw [List.mem_append, List.mem_singleton]
    exact h.symm

lemma unordered_orderedPair (source target : String) :
    unordered (orderedPair platform.toGraphPlatform source target) = unordered (source, target) := by
  unfold orderedPair
  split_ifs
  · rfl
  · exact Sym2.eq_swap

lemma GraphSound.ensureCoMentionEdge {graph : EntityGraphV1} (h : GraphSound graph)
    {source target : String} (hsource : source ∈ entityKeys graph.entities)
    (htarget : target ∈ entityKeys graph.entities)
    (hfinds : FindsByEnds platform graph.edges (source, target)) (observedAt : String)
    (evidenceRefs : List String) :
    GraphSound (ensureCoMentionEdge platform graph source target observedAt evidenceRefs) := by
  unfold Core.ensureCoMentionEdge
  dsimp only
  split_ifs with hexists
  · exact h
  · rcases hfinds with hfound | hfree
    · exact absurd hfound hexists
    · refine .of_perm h.keyed ?_ (List.Perm.refl _) (perm_shapes_sort _)
      rw [List.map_append, List.map_singleton]
      have hpair : (edgeShape (placeholderEdge (orderedPair platform.toGraphPlatform source target)
          observedAt evidenceRefs)).2 = unordered (source, target) :=
        unordered_orderedPair source target
      refine h.shapes.concat ?_ ?_
      · rw [hpair, List.map_map]
        intro hmem
        obtain ⟨edge, hedge, hsame⟩ := List.mem_map.mp hmem
        exact hfree edge hedge hsame
      · rw [hpair]
        intro key hkey
        rcases Sym2.mem_iff.mp hkey with rfl | rfl
        · exact hsource
        · exact htarget

lemma edges_bridgeGraph_before (graph : EntityGraphV1) (first second observedAt : String)
    (evidenceRefs : List String) :
    (ensureEntity platform (ensureEntity platform graph first observedAt evidenceRefs) second
      observedAt evidenceRefs).edges = graph.edges := by
  rw [edges_ensureEntity, edges_ensureEntity]

lemma GraphSound.askInto {graph next : EntityGraphV1} (hsound : GraphSound graph)
    {entityRefs evidenceRefs : List (Option String)} {threadKey observedAt : String}
    {history : List BridgeInteractionRecordV1}
    (hfinds : ∀ pair ∈ askedPair platform entityRefs, FindsByEnds platform graph.edges pair)
    (h : askInto platform sha graph entityRefs evidenceRefs threadKey observedAt history =
      some next) : GraphSound next := by
  obtain ⟨⟨first, second⟩, hpair, h⟩ := Option.bind_eq_some_iff.mp h
  obtain ⟨decision, -, h⟩ := Option.bind_eq_some_iff.mp h
  have hrefs : first ∈ toStringRefs platform entityRefs ∧
      second ∈ toStringRefs platform entityRefs := by
    unfold askedPair at hpair
    split at hpair
    · rename_i hshape
      cases hpair
      simp [hshape]
    · cases hpair
  cases decision with
  | denied denial => cases h
  | approved question =>
      cases h
      have hfirst := hsound.ensureEntity platform
        (ne_empty_of_mem_toStringRefs platform hrefs.1) observedAt (toStringRefs platform evidenceRefs)
      have hboth := hfirst.ensureEntity platform
        (ne_empty_of_mem_toStringRefs platform hrefs.2) observedAt (toStringRefs platform evidenceRefs)
      refine hboth.ensureCoMentionEdge ?_ ?_ ?_ observedAt _
      · exact mem_entityKeys_ensureEntity (Or.inr (mem_entityKeys_ensureEntity (Or.inl rfl)))
      · exact mem_entityKeys_ensureEntity (Or.inl rfl)
      · rw [edges_bridgeGraph_before]
        exact hfinds _ hpair

/-- A graph whose relations keep their keys and ends. -/
lemma GraphSound.of_map {graph : EntityGraphV1} (h : GraphSound graph)
    {renew : RelationEdgeV1 → RelationEdgeV1} (hrenew : ∀ edge, edgeShape (renew edge) = edgeShape edge)
    (updatedAt : String) :
    GraphSound
      { graph with
        updatedAt := updatedAt
        edges := sortRelationEdges platform.toGraphPlatform (graph.edges.map renew) } := by
  refine .of_perm h.keyed h.shapes (List.Perm.refl _) ?_
  refine (perm_shapes_sort _).trans ?_
  rw [List.map_map]
  exact List.Perm.of_eq (List.map_congr_left fun edge _ => hrenew edge)

lemma GraphSound.promote {graph : EntityGraphV1} (h : GraphSound graph)
    {input : Stage686RelationPromotionInput} {result : Stage686RelationPromotionResult}
    (hresult : promoteRelationEdgeWithConfirmation platform sha graph input = some result) :
    GraphSound result.graph := by
  unfold promoteRelationEdgeWithConfirmation at hresult
  dsimp only at hresult
  split_ifs at hresult
  · cases hresult
    exact h
  · cases hresult
    exact h
  · cases hresult
    refine h.of_map (fun edge => ?_) input.observedAt
    split_ifs <;> rfl

lemma GraphSound.promoteByPair {graph : EntityGraphV1} (h : GraphSound graph)
    (source target : String) (relationType : BridgeRelationTypeV1)
    (observedAt evidenceRef : String) :
    GraphSound (promoteRelationEdgeByPairFallback platform graph source target relationType
      observedAt evidenceRef).1 := by
  unfold promoteRelationEdgeByPairFallback
  dsimp only
  split_ifs
  · exact h
  · refine h.of_map (fun edge => ?_) observedAt
    split_ifs <;> rfl

lemma GraphSound.answerInto {graph next : EntityGraphV1} (hsound : GraphSound graph)
    {question : BridgeQuestionV1} {answer : BridgeAnswerV1} {observedAt evidenceRef : String}
    {history : List BridgeInteractionRecordV1}
    (h : answerInto platform sha graph question answer observedAt evidenceRef history =
      some next) : GraphSound next := by
  obtain ⟨resolved, hresolved, h⟩ := Option.bind_eq_some_iff.mp h
  cases h
  unfold resolveBridgeQuestionAnswerV1 at hresolved
  split at hresolved
  · cases hresolved
  · split at hresolved
    · obtain ⟨cooldownUntil, -, hresolved⟩ := Option.bind_eq_some_iff.mp hresolved
      cases hresolved
      exact hsound
    · obtain ⟨⟨confirmed, denial⟩, hconfirmed, hresolved⟩ := Option.bind_eq_some_iff.mp hresolved
      obtain ⟨cooldownUntil, -, hresolved⟩ := Option.bind_eq_some_iff.mp hresolved
      cases hresolved
      obtain ⟨promoted, hpromoted, hconfirmed⟩ := Option.bind_eq_some_iff.mp hconfirmed
      split at hconfirmed
      · cases hconfirmed
        exact hsound.promoteByPair _ _ _ _ _
      · cases hconfirmed
        exact hsound.promote hpromoted
    · obtain ⟨cooldownUntil, -, hresolved⟩ := Option.bind_eq_some_iff.mp hresolved
      cases hresolved
      exact hsound

/-! ## Profile syncs -/

lemma WellKeyed.upsert {entities : List EntityNodeV1} (h : WellKeyed entities)
    {entity : EntityNodeV1} (hne : entity.entityKey ≠ "") :
    WellKeyed (entitiesByKey.upsert entity entities) where
  distinct := entitiesByKey.distinct_upsert h.distinct
  nonempty other hother := by
    have hkey := entitiesByKey.mem_keys_upsert.mp (List.mem_map_of_mem hother)
    rcases hkey with hkey | hkey
    · exact fun hempty => hne (hkey.symm.trans hempty)
    · exact fun hempty => (wellKeyed_iff.mp h).2 (hempty ▸ hkey)

lemma entityKeys_upsert (entities : List EntityNodeV1) (entity : EntityNodeV1) :
    entityKeys entities ⊆ entityKeys (entitiesByKey.upsert entity entities) ∧
      entity.entityKey ∈ entityKeys (entitiesByKey.upsert entity entities) :=
  ⟨fun _ hkey => entitiesByKey.mem_keys_upsert.mpr (Or.inr hkey),
    entitiesByKey.mem_keys_upsert.mpr (Or.inl rfl)⟩

lemma mem_of_selectContinuityEntityMatch {entities : List EntityNodeV1} {canonicalName : String}
    {desiredType : EntityTypeV1} {entity : EntityNodeV1}
    (h : selectContinuityEntityMatch platform.toGraphPlatform entities canonicalName desiredType =
      some entity) : entity ∈ entities := by
  have hquery : ∀ found ∈ queryEntityGraphNodesByCanonicalOrAlias platform.toGraphPlatform entities
      canonicalName, found ∈ entities := by
    intro found hfound
    unfold queryEntityGraphNodesByCanonicalOrAlias at hfound
    dsimp only at hfound
    split_ifs at hfound
    · cases hfound
    · exact List.mem_of_mem_filter ((mem_sortEntityNodes _).mp hfound)
  have hstored : ∀ found ∈ entities,
      (entitiesByKey.find found.entityKey entities).getD found ∈ entities := by
    intro found hfound
    cases hfind : entitiesByKey.find found.entityKey entities with
    | none => exact hfound
    | some stored => exact (entitiesByKey.mem_of_find hfind).1
  unfold selectContinuityEntityMatch at h
  dsimp only at h
  split at h
  · rename_i exactTypeMatch hfound
    cases h
    exact hstored _ (hquery _ (List.mem_of_find?_eq_some hfound))
  · split at h
    · rename_i only honly
      split_ifs at h
      cases h
      exact hstored _ (hquery _ (honly ▸ List.mem_singleton_self only))
    · cases h

variable (platform sha) in
/-- The person or the target of an association: it is stored, under the key that is returned. -/
lemma upsertContinuityEntityNode_spec {entities : List EntityNodeV1} (h : WellKeyed entities)
    (canonicalName : String) (desiredType : EntityTypeV1) (observedAt evidenceRef : String) :
    WellKeyed (upsertContinuityEntityNode platform.toGraphPlatform sha entities canonicalName
        desiredType observedAt evidenceRef).written ∧
      entityKeys entities ⊆ entityKeys (upsertContinuityEntityNode platform.toGraphPlatform sha
        entities canonicalName desiredType observedAt evidenceRef).written ∧
      (upsertContinuityEntityNode platform.toGraphPlatform sha entities canonicalName desiredType
          observedAt evidenceRef).key ∈
        entityKeys (upsertContinuityEntityNode platform.toGraphPlatform sha entities canonicalName
          desiredType observedAt evidenceRef).written := by
  unfold upsertContinuityEntityNode
  split
  · rename_i existing hfound
    have hmem := mem_of_selectContinuityEntityMatch hfound
    have hkeys := entityKeys_upsert entities (renewedContinuityEntity
      platform.toGraphPlatform existing canonicalName desiredType observedAt evidenceRef)
    exact ⟨h.upsert (h.nonempty existing hmem), hkeys.1, hkeys.2⟩
  · have hkeys := entityKeys_upsert entities (newContinuityEntity
      platform.toGraphPlatform sha canonicalName desiredType observedAt evidenceRef)
    exact ⟨h.upsert (buildEntityKey_ne_empty _ _ _ _ _), hkeys.1, hkeys.2⟩

/-- A relation written under a key that all relations of its pair have. -/
lemma ShapesSound.upsert {keys : List String} {edges : List RelationEdgeV1}
    (h : ShapesSound keys (edges.map edgeShape)) (hdistinct : edgesByKey.Distinct edges)
    {edge : RelationEdgeV1} (hends : ∀ key ∈ edgePair edge, key ∈ keys)
    (hkeyed : ∀ other ∈ edges, edgePair other = edgePair edge → other.edgeKey = edge.edgeKey) :
    ShapesSound keys ((edgesByKey.upsert edge edges).map edgeShape) := by
  by_cases hmem : edgesByKey.key edge ∈ edges.map edgesByKey.key
  · have hsingle : (edges.map edgePair).Nodup := by
      simpa [edgeShape, Function.comp_def] using h.single
    rw [edgesByKey.upsert_eq_map hdistinct hmem]
    constructor
    · rw [List.map_map, List.map_map]
      refine (List.Nodup.of_map _ hdistinct).map_on fun first hfirst second hsecond hpair => ?_
      by_cases hkey : first.edgeKey = edge.edgeKey <;>
        by_cases hkey' : second.edgeKey = edge.edgeKey
      · exact edgesByKey.eq_of_distinct hdistinct hfirst hsecond (hkey.trans hkey'.symm)
      · have hsame : edgePair edge = edgePair second := by
          simpa [hkey, hkey', edgeShape] using hpair
        exact absurd (hkeyed second hsecond hsame.symm) hkey'
      · have hsame : edgePair first = edgePair edge := by
          simpa [hkey, hkey', edgeShape] using hpair
        exact absurd (hkeyed first hfirst hsame) hkey
      · have hsame : edgePair first = edgePair second := by
          simpa [hkey, hkey', edgeShape] using hpair
        exact List.inj_on_of_nodup_map hsingle hfirst hsecond hsame
    · intro shape hshape
      obtain ⟨written, hwritten, rfl⟩ := List.mem_map.mp hshape
      obtain ⟨stored, hstored, rfl⟩ := List.mem_map.mp hwritten
      split_ifs
      · exact hends
      · exact h.ends _ (List.mem_map_of_mem hstored)
  · rw [map_edgeShape_upsert_new (edgesByKey.find_eq_none_iff.mpr hmem)]
    refine h.concat ?_ hends
    rw [List.map_map]
    intro hpair
    obtain ⟨other, hother, hsame⟩ := List.mem_map.mp hpair
    rw [edgesByKey_key, ← hkeyed other hother hsame] at hmem
    exact hmem (List.mem_map_of_mem hother)

lemma shapesSound_upsertContinuityAssociationEdge {keys : List String}
    {edges : List RelationEdgeV1} (h : ShapesSound keys (edges.map edgeShape))
    (hdistinct : edgesByKey.Distinct edges) {source target : String} (hsource : source ∈ keys)
    (htarget : target ∈ keys) (hkeyed : KeyedByHash platform sha edges (source, target))
    (evidenceRef observedAt : String) :
    edgesByKey.Distinct (upsertContinuityAssociationEdge platform.toGraphPlatform sha edges source
        target evidenceRef observedAt).written ∧
      ShapesSound keys ((upsertContinuityAssociationEdge platform.toGraphPlatform sha edges source
        target evidenceRef observedAt).written.map edgeShape) := by
  unfold upsertContinuityAssociationEdge
  dsimp only
  split_ifs
  · exact ⟨hdistinct, h⟩
  · refine ⟨edgesByKey.distinct_upsert hdistinct, h.upsert hdistinct ?_ hkeyed⟩
    intro key hkey
    rcases Sym2.mem_iff.mp hkey with rfl | rfl
    · exact hsource
    · exact htarget

structure SyncSound (sync : ContinuitySync) : Prop where
  keyed : WellKeyed sync.entities
  distinct : edgesByKey.Distinct sync.edges
  shapes : ShapesSound (entityKeys sync.entities) (sync.edges.map edgeShape)

lemma SyncSound.writeAssociation {sync : ContinuitySync} (h : SyncSound sync)
    {observedAt : String} {association : ContinuityAssociationClaim}
    {rest : List ContinuityAssociationClaim}
    (hkeyed : AssociationsKeyed platform sha observedAt sync (association :: rest)) :
    SyncSound (sync.writeAssociation platform.toGraphPlatform sha observedAt association) := by
  have hpair := hkeyed.1
  unfold ContinuitySync.writeAssociation
  dsimp only at hpair ⊢
  generalize PROFILE_MEMORY_CONTINUITY_EVIDENCE_PREFIX ++ association.claimId = evidenceRef at *
  have hperson := upsertContinuityEntityNode_spec platform sha h.keyed
    association.contactName .person observedAt evidenceRef
  generalize upsertContinuityEntityNode platform.toGraphPlatform sha sync.entities
    association.contactName .person observedAt evidenceRef = person at hpair hperson ⊢
  have htarget := upsertContinuityEntityNode_spec platform sha hperson.1
    association.targetName association.targetType observedAt evidenceRef
  generalize upsertContinuityEntityNode platform.toGraphPlatform sha person.written
    association.targetName association.targetType observedAt evidenceRef = target
    at hpair htarget ⊢
  have hshapes := h.shapes.mono fun key hkey => htarget.2.1 (hperson.2.1 hkey)
  have hedges := shapesSound_upsertContinuityAssociationEdge hshapes h.distinct
    (htarget.2.1 hperson.2.2) htarget.2.2 hpair evidenceRef observedAt
  exact ⟨htarget.1, hedges.1, hedges.2⟩

lemma SyncSound.foldl {observedAt : String} {associations : List ContinuityAssociationClaim}
    {sync : ContinuitySync} (h : SyncSound sync)
    (hkeyed : AssociationsKeyed platform sha observedAt sync associations) :
    SyncSound (associations.foldl
      (ContinuitySync.writeAssociation platform.toGraphPlatform sha observedAt) sync) := by
  induction associations generalizing sync with
  | nil => exact h
  | cons association rest ih =>
      have hfirst := h.writeAssociation hkeyed
      have hrest := hkeyed.2
      rw [List.foldl_cons]
      exact ih hfirst hrest

lemma GraphSound.syncInto {graph next : EntityGraphV1} (hsound : GraphSound graph)
    {claims : List ProfileMemoryGraphClaim} {observedAt : String}
    (hkeyed : AssociationsKeyed platform sha observedAt (startSync graph)
      (collectContinuityAssociationClaims platform.toGraphPlatform claims))
    (h : syncInto platform sha graph claims observedAt = some next) : GraphSound next := by
  have hstart : SyncSound (startSync graph) := by
    have hcopy := hsound.keyed.copy
    refine ⟨?_, distinct_edgeCopy graph.edges, ?_⟩
    · change WellKeyed (entitiesByKey.collect [] graph.entities)
      rw [hcopy]
      exact hsound.keyed
    · exact hsound.shapes.copy.mono (by simp [startSync, hcopy])
  have hsync := hstart.foldl hkeyed
  unfold Core.syncInto at h
  dsimp only at h
  split_ifs at h with hchanged
  cases h
  unfold applyResolvedCurrentProfileClaimsToEntityGraph at hchanged ⊢
  dsimp only at hchanged ⊢
  rw [if_pos hchanged]
  exact .of_perm hsync.keyed hsync.shapes (perm_entityKeys_sort _) (perm_shapes_sort _)

/-! ## Runs -/

lemma GraphSound.apply {graph next : EntityGraphV1} (hsound : GraphSound graph)
    {operation : GraphOperation} (hfinds : FindsPairs platform sha graph operation)
    (h : operation.apply platform sha graph = some next) : GraphSound next := by
  cases operation with
  | extraction input options =>
      obtain ⟨written, hwritten, hstored⟩ := Option.bind_eq_some_iff.mp h
      obtain ⟨extraction, hextraction, hwritten⟩ := Option.bind_eq_some_iff.mp hwritten
      obtain ⟨result, hresult, hwritten⟩ := Option.bind_eq_some_iff.mp hwritten
      cases hwritten
      exact (hsound.extraction (hfinds extraction hextraction) hresult).persist hstored
  | bridgeQuestion entityRefs evidenceRefs threadKey observedAt history =>
      obtain ⟨written, hwritten, hstored⟩ := Option.bind_eq_some_iff.mp h
      exact (hsound.askInto hfinds hwritten).persist hstored
  | bridgeAnswer question answer observedAt evidenceRef history =>
      obtain ⟨written, hwritten, hstored⟩ := Option.bind_eq_some_iff.mp h
      exact (hsound.answerInto hwritten).persist hstored
  | continuitySync claims observedAt =>
      obtain ⟨written, hwritten, hstored⟩ := Option.bind_eq_some_iff.mp h
      exact (hsound.syncInto hfinds hwritten).persist hstored

lemma GraphSound.step {graph : EntityGraphV1} (hsound : GraphSound graph)
    {operation : GraphOperation} (hfinds : FindsPairs platform sha graph operation) :
    GraphSound (operation.step platform sha graph) := by
  unfold GraphOperation.step
  cases happly : operation.apply platform sha graph with
  | none => exact hsound
  | some next => exact hsound.apply hfinds happly

lemma runGraph_concat (createdAt : String) (operations : List GraphOperation)
    (operation : GraphOperation) :
    runGraph platform sha createdAt (operations ++ [operation]) =
      operation.step platform sha (runGraph platform sha createdAt operations) := by
  simp [runGraph]

lemma graphSound_runGraph {createdAt : String} {operations : List GraphOperation}
    (h : RunFindsPairs platform sha createdAt operations) :
    GraphSound (runGraph platform sha createdAt operations) := by
  induction operations using List.reverseRecOn with
  | nil => exact graphSound_empty createdAt
  | append_singleton operations operation ih =>
      rw [runGraph_concat]
      refine (ih fun before earlier after heq => ?_).step (h operations operation [] rfl)
      exact h before earlier (after ++ [operation]) (by simp [heq])

/-! ## The cap after an extraction -/

lemma length_filter_touches (entityKey : String) (edges : List RelationEdgeV1) :
    (edges.filter (touches entityKey)).length =
      (edges.map edgeShape).countP fun shape => entityKey ∈ shape.2 := by
  rw [← List.countP_eq_length_filter, List.countP_map]
  refine List.countP_congr fun edge _ => ?_
  have hpair : entityKey ∈ edgePair edge ↔
      entityKey = edge.sourceEntityKey ∨ entityKey = edge.targetEntityKey := Sym2.mem_iff
  simp only [touches, edgeShape, Function.comp_apply, Bool.or_eq_true, decide_eq_true_eq, hpair]
  constructor
  · rintro (hkey | hkey)
    · exact Or.inl hkey.symm
    · exact Or.inr hkey.symm
  · rintro (hkey | hkey)
    · exact Or.inl hkey.symm
    · exact Or.inr hkey.symm

lemma WithinEdgeCap.perm {cap : ℕ} {edges others : List RelationEdgeV1}
    (h : WithinEdgeCap cap edges)
    (hperm : (others.map edgeShape).Perm (edges.map edgeShape)) : WithinEdgeCap cap others := by
  intro entityKey
  have hcount := h entityKey
  rw [length_filter_touches] at hcount ⊢
  rwa [hperm.countP_eq]

lemma GraphSound.withinEdgeCap {graph : EntityGraphV1} (hsound : GraphSound graph)
    {extraction : Stage686EntityExtractionResult} {observedAt evidenceRef : String}
    {options : Stage686EntityGraphMutationOptions} {result : Stage686EntityGraphMutationResult}
    (hfinds : ∀ pair ∈ extraction.coMentionPairs, FindsByHash platform sha graph.edges pair)
    (h : applyEntityExtractionToGraph platform.toGraphPlatform sha graph extraction observedAt
      evidenceRef options = some result) :
    WithinEdgeCap (edgeCap (options.maxGraphEdgesPerEntity.getD MAX_GRAPH_EDGES_PER_ENTITY_DEFAULT))
      result.graph.edges := by
  have hmerged := nodesMerged_mergeNodes platform.toGraphPlatform options observedAt evidenceRef
    hsound.keyed extraction
  obtain ⟨hkeyed, hkeys⟩ := hmerged.wellKeyed hsound.keyed extraction.nodes_keyed
  unfold applyEntityExtractionToGraph at h
  split at h
  · obtain ⟨edges, hedges, hresult⟩ := Option.bind_eq_some_iff.mp h
    have hshapes := shapesSound_mentionPairs extraction.pairs_distinct (distinct_edgeCopy _)
      (hsound.shapes.copy.mono hkeys) (fun pair hpair => (hfinds pair hpair).copy) hedges
    have hempty := (wellKeyed_iff.mp hkeyed).2
    have hne : ∀ edge ∈ edges, edge.sourceEntityKey ≠ "" ∧ edge.targetEntityKey ≠ "" := by
      intro edge hedge
      have hends := hshapes.ends _ (List.mem_map_of_mem hedge)
      exact ⟨fun hkey => hempty (hkey ▸ hends _ (Sym2.mem_mk_left _ _)),
        fun hkey => hempty (hkey ▸ hends _ (Sym2.mem_mk_right _ _))⟩
    have hcap := withinEdgeCap_enforceEdgeCaps platform.toGraphPlatform hne
      (options.maxGraphEdgesPerEntity.getD MAX_GRAPH_EDGES_PER_ENTITY_DEFAULT)
    cases hresult
    exact hcap.perm (perm_shapes_sort _)
  · cases h

lemma GraphSound.withinEdgeCap_apply {graph next : EntityGraphV1} (hsound : GraphSound graph)
    {input : Stage686EntityExtractionInput} {options : Stage686EntityGraphMutationOptions}
    (hfinds : FindsPairs platform sha graph (.extraction input options))
    (h : (GraphOperation.extraction input options).apply platform sha graph = some next) :
    WithinEdgeCap (edgeCap (options.maxGraphEdgesPerEntity.getD MAX_GRAPH_EDGES_PER_ENTITY_DEFAULT))
      next.edges := by
  obtain ⟨written, hwritten, hstored⟩ := Option.bind_eq_some_iff.mp h
  obtain ⟨extraction, hextraction, hwritten⟩ := Option.bind_eq_some_iff.mp hwritten
  obtain ⟨result, hresult, hwritten⟩ := Option.bind_eq_some_iff.mp hwritten
  cases hwritten
  have hcap := hsound.withinEdgeCap (hfinds extraction hextraction) hresult
  exact hcap.perm (perm_of_normalizeEntityGraph hstored).2

lemma RunFindsPairs.of_prefix {createdAt : String} {operations before after : List GraphOperation}
    (h : RunFindsPairs platform sha createdAt operations) (heq : operations = before ++ after) :
    RunFindsPairs platform sha createdAt before := by
  intro earlier operation later hbefore
  exact h earlier operation (later ++ after) (by simp [heq, hbefore])

lemma RunFindsPairs.concat {createdAt : String} {operations : List GraphOperation}
    {operation : GraphOperation} (h : RunFindsPairs platform sha createdAt operations)
    (hfinds : FindsPairs platform sha (runGraph platform sha createdAt operations) operation) :
    RunFindsPairs platform sha createdAt (operations ++ [operation]) := by
  intro before next after heq
  rcases List.eq_nil_or_concat after with rfl | ⟨later, last, rfl⟩
  · obtain ⟨rfl, hlast⟩ := List.append_inj' heq rfl
    cases hlast
    exact hfinds
  · have hcut : operations ++ [operation] = (before ++ next :: later) ++ [last] := by
      simpa using heq
    obtain ⟨rfl, -⟩ := List.append_inj' hcut rfl
    exact h before next later rfl

lemma runFindsPairs_nil (createdAt : String) : RunFindsPairs platform sha createdAt [] := by
  intro before operation after heq
  simp at heq

/-- In every state of a run whose operations find the relations of the pairs they write, a pair
has one relation at most and every relation ends in the graph; and an extraction leaves every
entity within its cap. -/
theorem graph_invariant_of_run {createdAt : String} {operations : List GraphOperation}
    (h : RunFindsPairs platform sha createdAt operations) :
    (∀ before after, operations = before ++ after →
        GraphInvariant (runGraph platform sha createdAt before)) ∧
      ∀ before input options after next,
        operations = before ++ .extraction input options :: after →
        (GraphOperation.extraction input options).apply platform sha
          (runGraph platform sha createdAt before) = some next →
        WithinEdgeCap
          (edgeCap (options.maxGraphEdgesPerEntity.getD MAX_GRAPH_EDGES_PER_ENTITY_DEFAULT))
          next.edges := by
  constructor
  · intro before after heq
    exact (graphSound_runGraph (h.of_prefix heq)).invariant
  · intro before input options after next heq happly
    have hsound := graphSound_runGraph (h.of_prefix heq)
    exact hsound.withinEdgeCap_apply (h before _ after heq) happly

/-! ## A question before the names come up together -/

def acmeDigests : List (String × String) :=
  [("\x7b\"canonicalName\":\"acme corp\",\"disambiguator\":\"\"," ++
        "\"entityType\":\"org\"\x7d",
      "b130f979187d5cc771cef4a077bfeffc9b5a455671168698d1a37db2e7d67bc4"),
    ("\x7b\"canonicalName\":\"atlas labs\",\"disambiguator\":\"\"," ++
        "\"entityType\":\"org\"\x7d",
      "37fac5ab85c75ddb580f05f9344d2a8af91df3e74e1d39433575b051ec4bdf8a"),
    ("\x7b\"ordered\":[\"entity_37fac5ab85c75ddb580f\",\"entity_b130f979187d5cc771ce\"]\x7d",
      "b898d34f2196a1c8759e13570464afef8cbbf5ff11dabb347814a23df043b23a"),
    ("\x7b\"candidateId\":\"bridge_entity_37fac5ab85c75ddb580f_entity_b130f979187d5cc771ce\"," ++
        "\"observedAt\":\"2026-01-01T00:00:00.000Z\"," ++
        "\"sourceEntityKey\":\"entity_37fac5ab85c75ddb580f\"," ++
        "\"targetEntityKey\":\"entity_b130f979187d5cc771ce\"\x7d",
      "9b1e370ae9a538f2ce21559b2fa75ae26c8d11bba47af35e1c8a3cde9e1ba37e")]

def acmeSha : Sha256 :=
  Sha256.ofTable acmeDigests
    ((((validTable_nil.cons (by decide) (by decide)).cons (by decide) (by decide)).cons
      (by decide) (by decide)).cons (by decide) (by decide))

def acmePlatform : BridgePlatform :=
  .ofDates [("2026-01-01T00:00:00.000Z", 1767225600000),
    ("2026-01-15T00:00:00.000Z", 1768435200000)] (by decide +kernel)

def acmeText (text : String) : Stage686EntityExtractionInput where
  text := text
  observedAt := "2026-01-01T00:00:00.000Z"
  evidenceRef := "turn:1"
  domainHint := none
  entityTypeHints := []
  entityDomainHints := []

def acmeMention (text : String) : GraphOperation := .extraction (acmeText text) ⟨none, none⟩

def acmeTogether : GraphOperation := acmeMention "Atlas Labs called. Acme Corp called."

def acmeRefs : List (Option String) :=
  [some "entity_b130f979187d5cc771ce", some "entity_37fac5ab85c75ddb580f"]

def acmeQuestion : GraphOperation :=
  .bridgeQuestion acmeRefs [] "telegram:1" "2026-01-01T00:00:00.000Z" []

/-- Both names come up together, and the question about them finds their relation. -/
theorem graph_invariant_of_acme_run :
    GraphInvariant (runGraph acmePlatform acmeSha "2026-01-01T00:00:00.000Z"
      [acmeTogether, acmeQuestion]) := by
  have hfirst : RunFindsPairs acmePlatform acmeSha "2026-01-01T00:00:00.000Z" [acmeTogether] := by
    refine (runFindsPairs_nil _).concat fun extraction _ pair _ => Or.inr ?_
    intro edge hedge
    cases hedge
  have hends : ∀ pair ∈ askedPair acmePlatform acmeRefs,
      hasEdgeOfPair acmePlatform (runGraph acmePlatform acmeSha "2026-01-01T00:00:00.000Z"
        [acmeTogether]).edges
        (orderedPair acmePlatform.toGraphPlatform pair.1 pair.2) = true := by
    decide +kernel
  have hrun : RunFindsPairs acmePlatform acmeSha "2026-01-01T00:00:00.000Z"
      [acmeTogether, acmeQuestion] :=
    hfirst.concat fun pair hpair => Or.inl (hends pair hpair)
  exact (graph_invariant_of_run hrun).1 _ [] (List.append_nil _).symm

/-- The relation of the question is not found when a text names both, so the pair gets a second. -/
theorem question_leaves_two_edges :
    ¬ ((runGraph acmePlatform acmeSha "2026-01-01T00:00:00.000Z"
      [acmeMention "Acme Corp called.", acmeMention "Atlas Labs called.", acmeQuestion,
        acmeTogether]).edges.map edgePair).Nodup := by
  decide +kernel

end AgentBigBrain.Core
