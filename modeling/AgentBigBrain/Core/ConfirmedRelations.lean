import AgentBigBrain.Core.OneEdgePerPair

/-!
# Relations that the user has confirmed

A confirmation sets the type and the status of the relation of a pair. Extractions only count
one more mention of it, but a profile sync writes its associations over whatever stands under
their keys. This module says when a confirmed relation stands for as long as it is retained.
-/
namespace AgentBigBrain.Core

open AgentBigBrain.Js AgentBigBrain.Lib

variable (platform : BridgePlatform) (sha : Sha256)

/-! ## Observations -/

/-- What is written into the graph without the user being asked. -/
inductive GraphObservation where
  | extraction (input : Stage686EntityExtractionInput)
      (options : Stage686EntityGraphMutationOptions)
  | continuitySync (claims : List ProfileMemoryGraphClaim) (observedAt : String)

def GraphObservation.operation : GraphObservation → GraphOperation
  | .extraction input options => .extraction input options
  | .continuitySync claims observedAt => .continuitySync claims observedAt

def GraphObservation.step (graph : EntityGraphV1) (observation : GraphObservation) :
    EntityGraphV1 :=
  observation.operation.step platform sha graph

/-! ## Confirmed relations -/

def IsRetained (edgeKey : String) (graph : EntityGraphV1) : Prop :=
  ∃ edge ∈ graph.edges, edge.edgeKey = edgeKey

def IsConfirmedAs (edgeKey : String) (relationType : RelationTypeV1) (graph : EntityGraphV1) :
    Prop :=
  ∀ edge ∈ graph.edges, edge.edgeKey = edgeKey →
    edge.relationType = relationType ∧ edge.status = .confirmed

instance (edgeKey : String) (graph : EntityGraphV1) : Decidable (IsRetained edgeKey graph) :=
  inferInstanceAs (Decidable (∃ edge ∈ graph.edges, edge.edgeKey = edgeKey))

instance (edgeKey : String) (relationType : RelationTypeV1) (graph : EntityGraphV1) :
    Decidable (IsConfirmedAs edgeKey relationType graph) :=
  inferInstanceAs (Decidable (∀ edge ∈ graph.edges, edge.edgeKey = edgeKey →
    edge.relationType = relationType ∧ edge.status = .confirmed))

/-- The relation is confirmed as that type in every state up to the one that gives it up. -/
def RemainsConfirmed (edgeKey : String) (relationType : RelationTypeV1) :
    EntityGraphV1 → List GraphObservation → Prop
  | graph, [] => IsConfirmedAs edgeKey relationType graph
  | graph, observation :: rest =>
      IsConfirmedAs edgeKey relationType graph ∧
        (IsRetained edgeKey (observation.step platform sha graph) →
          RemainsConfirmed edgeKey relationType (observation.step platform sha graph) rest)

/-! ## Where a sync writes -/

/-- The entities after an association, with the keys of the person and of the target in them. -/
def resolveAssociation (observedAt : String) (entities : List EntityNodeV1)
    (association : ContinuityAssociationClaim) : List EntityNodeV1 × String × String :=
  let evidenceRef := PROFILE_MEMORY_CONTINUITY_EVIDENCE_PREFIX ++ association.claimId
  let personNode := upsertContinuityEntityNode platform.toGraphPlatform sha entities
    association.contactName .person observedAt evidenceRef
  let targetNode := upsertContinuityEntityNode platform.toGraphPlatform sha personNode.written
    association.targetName association.targetType observedAt evidenceRef
  (targetNode.written, personNode.key, targetNode.key)

/-- One of the associations is written under the key. The entities alone decide that: a name
is looked up among those that the associations before it have left. -/
def WritesEdge (edgeKey observedAt : String) : List EntityNodeV1 →
    List ContinuityAssociationClaim → Prop
  | _, [] => False
  | entities, association :: rest =>
      let (written, source, target) :=
        resolveAssociation platform sha observedAt entities association
      buildContinuityAssociationEdgeKey platform.toGraphPlatform sha source target = edgeKey ∨
        WritesEdge edgeKey observedAt written rest

/-- The observation leaves the relation alone: only a sync that is stored and writes an
association under its key does not, and that only where the relation is of another type. -/
def LeavesRelation (edgeKey : String) (relationType : RelationTypeV1) (graph : EntityGraphV1) :
    GraphObservation → Prop
  | .extraction _ _ => True
  | .continuitySync claims observedAt =>
      relationType = .other ∨
        (GraphOperation.continuitySync claims observedAt).apply platform sha graph = none ∨
        ¬ WritesEdge platform sha edgeKey observedAt (startSync graph).entities
          (collectContinuityAssociationClaims platform.toGraphPlatform claims)

/-- Every observation leaves the relation alone, up to the one that gives it up. -/
def LeaveRelation (edgeKey : String) (relationType : RelationTypeV1) :
    EntityGraphV1 → List GraphObservation → Prop
  | _, [] => True
  | graph, observation :: rest =>
      LeavesRelation platform sha edgeKey relationType graph observation ∧
        (IsRetained edgeKey (observation.step platform sha graph) →
          LeaveRelation edgeKey relationType (observation.step platform sha graph) rest)

variable {platform} {sha} {edgeKey : String} {relationType : RelationTypeV1}

/-! ## The relation under a key -/

/-- The relation that a map holds under the key is confirmed as that type. -/
def HoldsConfirmed (edgeKey : String) (relationType : RelationTypeV1)
    (edges : List RelationEdgeV1) : Prop :=
  ∃ edge, edgesByKey.find edgeKey edges = some edge ∧ edge.relationType = relationType ∧
    edge.status = .confirmed

/-- A copy of confirmed relations holds one of them. -/
lemma holdsConfirmed_copy {graph : EntityGraphV1} (hretained : IsRetained edgeKey graph)
    (hconfirmed : IsConfirmedAs edgeKey relationType graph) :
    HoldsConfirmed edgeKey relationType (edgesByKey.collect [] graph.edges) := by
  obtain ⟨edge, hedge, hkey⟩ := hretained
  have hmem : edgeKey ∈ (edgesByKey.collect [] graph.edges).map edgesByKey.key :=
    (edgesByKey.mem_keys_collect [] graph.edges).mpr
      (Or.inr (List.mem_map.mpr ⟨edge, hedge, hkey⟩))
  cases hfound : edgesByKey.find edgeKey (edgesByKey.collect [] graph.edges) with
  | none => exact absurd hmem (edgesByKey.find_eq_none_iff.mp hfound)
  | some kept =>
      obtain ⟨hkept, hkeptKey⟩ := edgesByKey.mem_of_find hfound
      exact ⟨kept, hfound, hconfirmed kept (mem_of_mem_edgeCopy kept hkept) hkeptKey⟩

/-- Every relation under the key is the one that a map holds. -/
lemma HoldsConfirmed.all {edges : List RelationEdgeV1} (hdistinct : edgesByKey.Distinct edges)
    (h : HoldsConfirmed edgeKey relationType edges) :
    ∀ edge ∈ edges, edge.edgeKey = edgeKey →
      edge.relationType = relationType ∧ edge.status = .confirmed := by
  intro edge hedge hkey
  obtain ⟨held, hheld, hconfirmed⟩ := h
  have hfound := edgesByKey.find_eq_some_of_mem hdistinct hedge
  rw [edgesByKey_key, hkey, hheld] at hfound
  rw [← Option.some.inj hfound]
  exact hconfirmed

/-! ## Mentions -/

/-- One more mention leaves the type and the status of every relation. -/
lemma HoldsConfirmed.mentionPair {entities : List EntityNodeV1} {observedAt evidenceRef : String}
    {edges next : List RelationEdgeV1} {pair : String × String}
    (h : HoldsConfirmed edgeKey relationType edges) (hdistinct : edgesByKey.Distinct edges)
    (hnext : mentionPair platform.toGraphPlatform sha entities observedAt evidenceRef edges pair =
      some next) :
    HoldsConfirmed edgeKey relationType next ∧ edgesByKey.Distinct next := by
  obtain ⟨held, hheld, htype, hstatus⟩ := h
  unfold AgentBigBrain.Core.mentionPair at hnext
  split at hnext
  · obtain rfl := Option.some.inj hnext
    exact ⟨⟨held, hheld, htype, hstatus⟩, hdistinct⟩
  · split at hnext
    · rename_i hnone
      obtain rfl := Option.some.inj hnext
      refine ⟨⟨held, ?_, htype, hstatus⟩, edgesByKey.distinct_upsert hdistinct⟩
      rw [find_upsert_edge, if_neg, hheld]
      rintro rfl
      exact Option.some_ne_none held (hheld.symm.trans hnone)
    · rename_i existing hexisting
      obtain ⟨increment, -, hresult⟩ := Option.bind_eq_some_iff.mp hnext
      obtain rfl := Option.some.inj hresult
      refine ⟨?_, edgesByKey.distinct_upsert hdistinct⟩
      by_cases hkey : existing.edgeKey = edgeKey
      · have hsame : existing = held := by
          have hfound := hexisting
          rw [← (edgesByKey.mem_of_find hexisting).2, edgesByKey_key, hkey, hheld] at hfound
          exact (Option.some.inj hfound).symm
        subst hsame
        exact ⟨_, (find_upsert_edge _ _ _).trans (if_pos hkey), htype, hstatus⟩
      · refine ⟨held, ?_, htype, hstatus⟩
        rw [find_upsert_edge, ← hheld]
        exact if_neg hkey

lemma HoldsConfirmed.mentionPairs {entities : List EntityNodeV1}
    {observedAt evidenceRef : String} (pairs : List (String × String)) :
    ∀ {edges next : List RelationEdgeV1}, HoldsConfirmed edgeKey relationType edges →
      edgesByKey.Distinct edges →
      pairs.foldlM (AgentBigBrain.Core.mentionPair platform.toGraphPlatform sha entities observedAt
        evidenceRef) edges = some next →
      HoldsConfirmed edgeKey relationType next ∧ edgesByKey.Distinct next := by
  induction pairs with
  | nil =>
      intro edges next h hdistinct hnext
      obtain rfl := Option.some.inj hnext
      exact ⟨h, hdistinct⟩
  | cons pair pairs ih =>
      intro edges next h hdistinct hnext
      rw [List.foldlM_cons] at hnext
      obtain ⟨middle, hmiddle, hrest⟩ := Option.bind_eq_some_iff.mp hnext
      obtain ⟨hholds, hmiddleDistinct⟩ := h.mentionPair hdistinct hmiddle
      exact ih hholds hmiddleDistinct hrest

/-! ## Associations -/

/-- An association decides what is under its own key and nothing else. -/
lemma find_upsertContinuityAssociationEdge (edgeKey : String) (edges : List RelationEdgeV1)
    (source target evidenceRef observedAt : String) :
    edgesByKey.find edgeKey (upsertContinuityAssociationEdge platform.toGraphPlatform sha edges
        source target evidenceRef observedAt).written =
      if buildContinuityAssociationEdgeKey platform.toGraphPlatform sha source target = edgeKey then
        some (continuityEdge platform.toGraphPlatform sha (edgesByKey.find edgeKey edges) source
          target evidenceRef observedAt)
      else edgesByKey.find edgeKey edges := by
  unfold upsertContinuityAssociationEdge
  dsimp only
  by_cases hkey : buildContinuityAssociationEdgeKey platform.toGraphPlatform sha source target =
    edgeKey
  · subst hkey
    rw [if_pos rfl]
    split_ifs with hsame
    · exact hsame
    · exact (find_upsert_edge _ _ _).trans (if_pos rfl)
  · rw [if_neg hkey]
    split_ifs with hsame
    · rfl
    · exact (find_upsert_edge _ _ _).trans (if_neg hkey)

/-- The entities of a sync do not depend on its relations. -/
lemma entities_writeAssociation (observedAt : String) (sync : ContinuitySync)
    (association : ContinuityAssociationClaim) :
    (sync.writeAssociation platform.toGraphPlatform sha observedAt association).entities =
      (resolveAssociation platform sha observedAt sync.entities association).1 := by
  rw [ContinuitySync.writeAssociation, resolveAssociation]

lemma edges_writeAssociation (observedAt : String) (sync : ContinuitySync)
    (association : ContinuityAssociationClaim) :
    (sync.writeAssociation platform.toGraphPlatform sha observedAt association).edges =
      (upsertContinuityAssociationEdge platform.toGraphPlatform sha sync.edges
        (resolveAssociation platform sha observedAt sync.entities association).2.1
        (resolveAssociation platform sha observedAt sync.entities association).2.2
        (PROFILE_MEMORY_CONTINUITY_EVIDENCE_PREFIX ++ association.claimId) observedAt).written := by
  rw [ContinuitySync.writeAssociation, resolveAssociation]

lemma writesEdge_cons (observedAt : String) (sync : ContinuitySync)
    (association : ContinuityAssociationClaim) (rest : List ContinuityAssociationClaim) :
    WritesEdge platform sha edgeKey observedAt sync.entities (association :: rest) ↔
      buildContinuityAssociationEdgeKey platform.toGraphPlatform sha
          (resolveAssociation platform sha observedAt sync.entities association).2.1
          (resolveAssociation platform sha observedAt sync.entities association).2.2 = edgeKey ∨
        WritesEdge platform sha edgeKey observedAt
          (sync.writeAssociation platform.toGraphPlatform sha observedAt association).entities
          rest := by
  rw [entities_writeAssociation, WritesEdge]

lemma distinct_upsertContinuityAssociationEdge {edges : List RelationEdgeV1}
    (hdistinct : edgesByKey.Distinct edges) (source target evidenceRef observedAt : String) :
    edgesByKey.Distinct (upsertContinuityAssociationEdge platform.toGraphPlatform sha edges source
      target evidenceRef observedAt).written := by
  unfold upsertContinuityAssociationEdge
  dsimp only
  split_ifs
  · exact hdistinct
  · exact edgesByKey.distinct_upsert hdistinct

lemma distinct_writeAssociations {observedAt : String}
    {associations : List ContinuityAssociationClaim} {sync : ContinuitySync}
    (hdistinct : edgesByKey.Distinct sync.edges) :
    edgesByKey.Distinct (associations.foldl (ContinuitySync.writeAssociation
      platform.toGraphPlatform sha observedAt) sync).edges := by
  induction associations generalizing sync with
  | nil => exact hdistinct
  | cons association rest ih =>
      rw [List.foldl_cons]
      refine ih ?_
      rw [edges_writeAssociation]
      exact distinct_upsertContinuityAssociationEdge hdistinct _ _ _ _

/-- Associations that are not written under the key leave what is there. -/
lemma find_of_not_writesEdge {observedAt : String}
    {associations : List ContinuityAssociationClaim} {sync : ContinuitySync}
    (h : ¬ WritesEdge platform sha edgeKey observedAt sync.entities associations) :
    edgesByKey.find edgeKey (associations.foldl (ContinuitySync.writeAssociation
        platform.toGraphPlatform sha observedAt) sync).edges =
      edgesByKey.find edgeKey sync.edges := by
  induction associations generalizing sync with
  | nil => rfl
  | cons association rest ih =>
      rw [writesEdge_cons, not_or] at h
      rw [List.foldl_cons, ih h.2, edges_writeAssociation, find_upsertContinuityAssociationEdge,
        if_neg h.1]

/-- After an association under the key, a confirmed relation of no particular type is there. -/
lemma holdsConfirmed_of_writesEdge {observedAt : String}
    {associations : List ContinuityAssociationClaim} {sync : ContinuitySync}
    (h : WritesEdge platform sha edgeKey observedAt sync.entities associations) :
    HoldsConfirmed edgeKey .other (associations.foldl (ContinuitySync.writeAssociation
      platform.toGraphPlatform sha observedAt) sync).edges := by
  induction associations generalizing sync with
  | nil => exact absurd h id
  | cons association rest ih =>
      rw [List.foldl_cons]
      by_cases hrest : WritesEdge platform sha edgeKey observedAt
          (sync.writeAssociation platform.toGraphPlatform sha observedAt association).entities rest
      · exact ih hrest
      · have hfirst := ((writesEdge_cons observedAt sync association rest).mp h).resolve_right hrest
        unfold HoldsConfirmed
        rw [find_of_not_writesEdge hrest, edges_writeAssociation,
          find_upsertContinuityAssociationEdge, if_pos hfirst]
        exact ⟨_, rfl, rfl, rfl⟩

/-! ## Persisting -/

/-- What the confirmation of a relation is read off. -/
def edgeVerdict (edge : RelationEdgeV1) : String × RelationTypeV1 × MemoryStatusV1 :=
  (edge.edgeKey, edge.relationType, edge.status)

lemma isRetained_iff {graph : EntityGraphV1} :
    IsRetained edgeKey graph ↔ edgeKey ∈ (graph.edges.map edgeVerdict).map Prod.fst := by
  simp [IsRetained, edgeVerdict]

lemma isConfirmedAs_iff {graph : EntityGraphV1} :
    IsConfirmedAs edgeKey relationType graph ↔
      ∀ verdict ∈ graph.edges.map edgeVerdict, verdict.1 = edgeKey →
        verdict.2 = (relationType, .confirmed) := by
  simp [IsConfirmedAs, edgeVerdict]

lemma perm_edgeVerdict_of_normalize {graph stored : EntityGraphV1}
    (h : normalizeEntityGraph platform.toGraphPlatform graph = some stored) :
    (stored.edges.map edgeVerdict).Perm (graph.edges.map edgeVerdict) := by
  have hedge : ∀ edge kept, normalizeRelationEdge platform.toGraphPlatform edge = some kept →
      edgeVerdict kept = edgeVerdict edge := by
    intro edge kept hkept
    unfold normalizeRelationEdge at hkept
    split at hkept
    · cases hkept
      rfl
    · cases hkept
  unfold normalizeEntityGraph at h
  split at h
  · obtain ⟨entities, -, h⟩ := Option.bind_eq_some_iff.mp h
    obtain ⟨edges, hedges, h⟩ := Option.bind_eq_some_iff.mp h
    obtain ⟨records, -, h⟩ := Option.bind_eq_some_iff.mp h
    cases h
    have hsame : edges.map edgeVerdict = graph.edges.map edgeVerdict := map_eq_of_mapM hedge hedges
    rw [← hsame]
    exact ((edgeOrder platform.toGraphPlatform).sort_perm edges).map _
  · cases h

lemma IsConfirmedAs.persist {graph stored : EntityGraphV1}
    (hconfirmed : IsConfirmedAs edgeKey relationType graph)
    (h : normalizeEntityGraph platform.toGraphPlatform graph = some stored) :
    IsConfirmedAs edgeKey relationType stored := by
  rw [isConfirmedAs_iff] at hconfirmed ⊢
  exact fun verdict hverdict =>
    hconfirmed verdict ((perm_edgeVerdict_of_normalize h).mem_iff.mp hverdict)

lemma IsRetained.persist {graph stored : EntityGraphV1} (hretained : IsRetained edgeKey graph)
    (h : normalizeEntityGraph platform.toGraphPlatform graph = some stored) :
    IsRetained edgeKey stored := by
  rw [isRetained_iff] at hretained ⊢
  exact ((perm_edgeVerdict_of_normalize h).map Prod.fst).mem_iff.mpr hretained

/-- A sorted map of relations under their keys. -/
lemma HoldsConfirmed.sorted {graph : EntityGraphV1} {edges : List RelationEdgeV1}
    (h : HoldsConfirmed edgeKey relationType edges) (hdistinct : edgesByKey.Distinct edges)
    (hgraph : graph.edges = sortRelationEdges platform.toGraphPlatform edges) :
    IsRetained edgeKey graph ∧ IsConfirmedAs edgeKey relationType graph := by
  have hmem : ∀ edge, edge ∈ graph.edges ↔ edge ∈ edges := by
    intro edge
    rw [hgraph]
    exact ((edgeOrder platform.toGraphPlatform).sort_perm edges).mem_iff
  constructor
  · obtain ⟨held, hheld, -⟩ := h
    obtain ⟨hin, hkey⟩ := edgesByKey.mem_of_find hheld
    exact ⟨held, (hmem held).mpr hin, hkey⟩
  · exact fun edge hedge => h.all hdistinct edge ((hmem edge).mp hedge)

/-! ## One observation -/

lemma IsConfirmedAs.extraction {graph next : EntityGraphV1}
    (hconfirmed : IsConfirmedAs edgeKey relationType graph) (hretained : IsRetained edgeKey graph)
    {input : Stage686EntityExtractionInput} {options : Stage686EntityGraphMutationOptions}
    (h : (GraphOperation.extraction input options).apply platform sha graph = some next) :
    IsConfirmedAs edgeKey relationType next := by
  obtain ⟨written, hwritten, hstored⟩ := Option.bind_eq_some_iff.mp h
  obtain ⟨extraction, -, hwritten⟩ := Option.bind_eq_some_iff.mp hwritten
  obtain ⟨result, hresult, hwritten⟩ := Option.bind_eq_some_iff.mp hwritten
  cases hwritten
  refine IsConfirmedAs.persist ?_ hstored
  unfold applyEntityExtractionToGraph at hresult
  split at hresult
  · obtain ⟨edges, hedges, hresult⟩ := Option.bind_eq_some_iff.mp hresult
    obtain ⟨hholds, hdistinct⟩ := HoldsConfirmed.mentionPairs extraction.coMentionPairs
      (holdsConfirmed_copy hretained hconfirmed) (distinct_edgeCopy graph.edges) hedges
    have hsub := enforceEdgeCaps_sublist platform.toGraphPlatform edges
      (options.maxGraphEdgesPerEntity.getD MAX_GRAPH_EDGES_PER_ENTITY_DEFAULT)
    cases hresult
    intro edge hedge
    have hkept := ((edgeOrder platform.toGraphPlatform).sort_perm _).mem_iff.mp hedge
    exact hholds.all hdistinct edge (hsub.subset hkept)
  · cases hresult

/-- What a stored sync leaves in the graph. -/
lemma sync_cases {graph next : EntityGraphV1} {claims : List ProfileMemoryGraphClaim}
    {observedAt : String}
    (h : (GraphOperation.continuitySync claims observedAt).apply platform sha graph = some next) :
    ∃ written : EntityGraphV1,
      written.edges = sortRelationEdges platform.toGraphPlatform
        ((collectContinuityAssociationClaims platform.toGraphPlatform claims).foldl
          (ContinuitySync.writeAssociation platform.toGraphPlatform sha observedAt)
          (startSync graph)).edges ∧
      normalizeEntityGraph platform.toGraphPlatform written = some next := by
  obtain ⟨written, hwritten, hstored⟩ := Option.bind_eq_some_iff.mp h
  refine ⟨written, ?_, hstored⟩
  unfold syncInto at hwritten
  dsimp only at hwritten
  split_ifs at hwritten with hchanged
  cases hwritten
  unfold applyResolvedCurrentProfileClaimsToEntityGraph at hchanged ⊢
  dsimp only at hchanged ⊢
  rw [if_pos hchanged]

/-- One observation keeps a confirmed relation exactly where it leaves the relation alone. -/
lemma step_keeps_confirmed_iff {graph : EntityGraphV1} (hretained : IsRetained edgeKey graph)
    (hconfirmed : IsConfirmedAs edgeKey relationType graph) (observation : GraphObservation) :
    (IsRetained edgeKey (observation.step platform sha graph) →
        IsConfirmedAs edgeKey relationType (observation.step platform sha graph)) ↔
      LeavesRelation platform sha edgeKey relationType graph observation := by
  cases happly : observation.operation.apply platform sha graph with
  | none =>
      have hsame : observation.step platform sha graph = graph := by
        simp [GraphObservation.step, GraphOperation.step, happly]
      rw [hsame]
      refine iff_of_true (fun _ => hconfirmed) ?_
      cases observation with
      | extraction input options => trivial
      | continuitySync claims observedAt => exact Or.inr (Or.inl happly)
  | some next =>
      have hnext : observation.step platform sha graph = next := by
        simp [GraphObservation.step, GraphOperation.step, happly]
      rw [hnext]
      cases observation with
      | extraction input options =>
          exact iff_of_true (fun _ => hconfirmed.extraction hretained happly) trivial
      | continuitySync claims observedAt =>
          obtain ⟨written, hedges, hstored⟩ := sync_cases happly
          have hdistinct : edgesByKey.Distinct
              ((collectContinuityAssociationClaims platform.toGraphPlatform claims).foldl
                (ContinuitySync.writeAssociation platform.toGraphPlatform sha observedAt)
                (startSync graph)).edges :=
            distinct_writeAssociations (distinct_edgeCopy graph.edges)
          by_cases hwrites : WritesEdge platform sha edgeKey observedAt (startSync graph).entities
              (collectContinuityAssociationClaims platform.toGraphPlatform claims)
          · have hother := (holdsConfirmed_of_writesEdge hwrites).sorted hdistinct hedges
            have hnextRetained := hother.1.persist hstored
            have hnextOther := hother.2.persist hstored
            constructor
            · intro hkept
              obtain ⟨edge, hedge, hkey⟩ := hnextRetained
              have htype := (hkept ⟨edge, hedge, hkey⟩ edge hedge hkey).1
              exact Or.inl (htype.symm.trans (hnextOther edge hedge hkey).1)
            · rintro (rfl | hnone | hnot)
              · exact fun _ => hnextOther
              · exact absurd (hnone.symm.trans happly) (Option.some_ne_none next).symm
              · exact absurd hwrites hnot
          · refine iff_of_true (fun _ => ?_) (Or.inr (Or.inr hwrites))
            obtain ⟨held, hheld, hkept⟩ := holdsConfirmed_copy hretained hconfirmed
            have hholds : HoldsConfirmed edgeKey relationType
                ((collectContinuityAssociationClaims platform.toGraphPlatform claims).foldl
                  (ContinuitySync.writeAssociation platform.toGraphPlatform sha observedAt)
                  (startSync graph)).edges :=
              ⟨held, (find_of_not_writesEdge hwrites).trans hheld, hkept⟩
            exact (hholds.sorted hdistinct hedges).2.persist hstored

/-! ## Runs -/

lemma staysConfirmed_iff {graph : EntityGraphV1} (hretained : IsRetained edgeKey graph)
    (hconfirmed : IsConfirmedAs edgeKey relationType graph)
    (observations : List GraphObservation) :
    RemainsConfirmed platform sha edgeKey relationType graph observations ↔
      LeaveRelation platform sha edgeKey relationType graph observations := by
  induction observations generalizing graph with
  | nil => exact iff_of_true hconfirmed trivial
  | cons observation rest ih =>
      have hstep := @step_keeps_confirmed_iff platform sha edgeKey relationType graph hretained
        hconfirmed observation
      constructor
      · rintro ⟨-, hrest⟩
        have hhead : ∀ {state : EntityGraphV1} {later : List GraphObservation},
            RemainsConfirmed platform sha edgeKey relationType state later →
              IsConfirmedAs edgeKey relationType state := by
          intro state later hstays
          cases later with
          | nil => exact hstays
          | cons _ _ => exact hstays.1
        exact ⟨hstep.mp fun hnext => hhead (hrest hnext),
          fun hnext => (ih hnext (hhead (hrest hnext))).mp (hrest hnext)⟩
      · rintro ⟨hleaves, hrest⟩
        exact ⟨hconfirmed, fun hnext =>
          (ih hnext (hstep.mpr hleaves hnext)).mpr (hrest hnext)⟩

/-- A promotion confirms every relation under its key, and there is one. -/
lemma confirmed_of_promotion {graph : EntityGraphV1} {input : Stage686RelationPromotionInput}
    {result : Stage686RelationPromotionResult}
    (hpromoted : promoteRelationEdgeWithConfirmation platform sha graph input = some result)
    (hkey : result.edgeKey = some edgeKey) :
    IsRetained edgeKey result.graph ∧
      IsConfirmedAs edgeKey input.relationType.relationType result.graph := by
  have hmem : ∀ edges edge, edge ∈ sortRelationEdges platform.toGraphPlatform edges ↔
      edge ∈ edges := fun edges _ => ((edgeOrder platform.toGraphPlatform).sort_perm edges).mem_iff
  unfold promoteRelationEdgeWithConfirmation at hpromoted
  dsimp only at hpromoted
  split_ifs at hpromoted with hinvalid hunconfirmed hany
  · cases hpromoted
    exact absurd hkey (Option.some_ne_none _).symm
  · cases hpromoted
    exact absurd hkey (Option.some_ne_none _).symm
  · cases hpromoted
    obtain rfl := Option.some.inj hkey
    constructor
    · simp only [Bool.not_eq_true', Bool.not_eq_false, List.any_eq_true, decide_eq_true_eq] at hany
      obtain ⟨edge, hedge, hedgeKey⟩ := hany
      refine ⟨_, (hmem _ _).mpr (List.mem_map_of_mem hedge), ?_⟩
      rw [if_neg (not_not.mpr hedgeKey)]
      exact hedgeKey
    · intro edge hedge hedgeKey
      obtain ⟨before, -, rfl⟩ := List.mem_map.mp ((hmem _ _).mp hedge)
      split_ifs at hedgeKey ⊢ with hother
      · exact absurd hedgeKey hother
      · exact ⟨rfl, rfl⟩

/-- A relation that the user has confirmed keeps its type and its status for as long as it is
retained exactly when no stored sync writes an association over it, or it is `other` anyway. -/
theorem confirmed_relation_kept_iff {graph : EntityGraphV1}
    {input : Stage686RelationPromotionInput} {result : Stage686RelationPromotionResult}
    (hpromoted : promoteRelationEdgeWithConfirmation platform sha graph input = some result)
    (hkey : result.edgeKey = some edgeKey) (observations : List GraphObservation) :
    RemainsConfirmed platform sha edgeKey input.relationType.relationType result.graph
        observations ↔
      LeaveRelation platform sha edgeKey input.relationType.relationType result.graph
        observations := by
  obtain ⟨hretained, hconfirmed⟩ := confirmed_of_promotion hpromoted hkey
  exact staysConfirmed_iff hretained hconfirmed observations

/-! ## A colleague whom the profile places at the same firm -/

def marenDigests : List (String × String) :=
  [("\x7b\"canonicalName\":\"maren\",\"disambiguator\":\"\",\"entityType\":\"thing\"\x7d",
      "a0d4c8c67dab1179dec4c280aae0c3d25946b9010b7430cb3157ed12138a895b"),
    ("\x7b\"canonicalName\":\"acme corp\",\"disambiguator\":\"\",\"entityType\":\"org\"\x7d",
      "b130f979187d5cc771cef4a077bfeffc9b5a455671168698d1a37db2e7d67bc4"),
    ("\x7b\"ordered\":[\"entity_a0d4c8c67dab1179dec4\",\"entity_b130f979187d5cc771ce\"]\x7d",
      "94e61c91efa2f293f277f4d26bad6719d2957a975b5b6a241d84625e4bcbf871")]

def marenSha : Sha256 :=
  Sha256.ofTable marenDigests
    (((validTable_nil.cons (by decide) (by decide)).cons (by decide) (by decide)).cons
      (by decide) (by decide))

lemma validDates_maren : ValidDates [("2026-01-01T00:00:00.000Z", 1767225600000),
    ("2026-01-15T00:00:00.000Z", 1768435200000)] := by
  decide +kernel

def marenPlatform : BridgePlatform :=
  .ofDates [("2026-01-01T00:00:00.000Z", 1767225600000),
    ("2026-01-15T00:00:00.000Z", 1768435200000)] validDates_maren

def marenTurn (observedAt evidenceRef : String) : GraphObservation :=
  .extraction
    { text := "Maren called Acme Corp."
      observedAt := observedAt
      evidenceRef := evidenceRef
      domainHint := none
      entityTypeHints := []
      entityDomainHints := [] } ⟨none, none⟩

def marenEdgeKey : String := "edge_94e61c91efa2f293f277"

def marenEntity (entityKey name : String) (entityType : EntityTypeV1) : EntityNodeV1 where
  entityKey := entityKey
  canonicalName := name
  entityType := entityType
  disambiguator := none
  domainHint := none
  aliases := [name]
  firstSeenAt := "2026-01-01T00:00:00.000Z"
  lastSeenAt := "2026-01-01T00:00:00.000Z"
  salience := 1
  evidenceRefs := ["turn:1"]

/-- Maren and Acme Corp have come up together once. -/
def marenGraph : EntityGraphV1 where
  updatedAt := "2026-01-01T00:00:00.000Z"
  entities :=
    [marenEntity "entity_a0d4c8c67dab1179dec4" "Maren" .thing,
      marenEntity "entity_b130f979187d5cc771ce" "Acme Corp" .org]
  edges :=
    [{ edgeKey := marenEdgeKey
       sourceEntityKey := "entity_a0d4c8c67dab1179dec4"
       targetEntityKey := "entity_b130f979187d5cc771ce"
       relationType := .coMentioned
       status := .uncertain
       coMentionCount := 1
       strength := 1
       firstObservedAt := "2026-01-01T00:00:00.000Z"
       lastObservedAt := "2026-01-01T00:00:00.000Z"
       evidenceRefs := ["turn:1"] }]
  decisionRecords := []

def marenConfirmation : Stage686RelationPromotionInput where
  sourceEntityKey := "entity_a0d4c8c67dab1179dec4"
  targetEntityKey := "entity_b130f979187d5cc771ce"
  relationType := .coworker
  explicitUserConfirmation := true
  observedAt := "2026-01-15T00:00:00.000Z"
  evidenceRef := "turn:2"

def marenPromotion : Stage686RelationPromotionResult :=
  (promoteRelationEdgeWithConfirmation marenPlatform marenSha marenGraph marenConfirmation).getD
    (promotionDenied marenGraph)

def marenName : ProfileMemoryGraphClaim :=
  ⟨"claim_name", some "contact.maren.name", some "Maren"⟩

def marenWork : ProfileMemoryGraphClaim :=
  ⟨"claim_work", some "contact.maren.work_association", some "Acme Corp"⟩

def marenSync (claims : List ProfileMemoryGraphClaim) : GraphObservation :=
  .continuitySync claims "2026-01-15T00:00:00.000Z"

/-- A turn that names both and a sync without associations leave the confirmed relation. -/
theorem maren_stays_a_coworker :
    RemainsConfirmed marenPlatform marenSha marenEdgeKey .coworker marenPromotion.graph
      [marenTurn "2026-01-15T00:00:00.000Z" "turn:3", marenSync [marenName]] := by
  have hkey : marenPromotion.edgeKey = some marenEdgeKey := by decide +kernel
  have hpromoted : promoteRelationEdgeWithConfirmation marenPlatform marenSha marenGraph
      marenConfirmation = some marenPromotion := by
    cases hresult : promoteRelationEdgeWithConfirmation marenPlatform marenSha marenGraph
      marenConfirmation with
    | none =>
        rw [marenPromotion, hresult] at hkey
        exact absurd hkey.symm (Option.some_ne_none marenEdgeKey)
    | some result => rw [marenPromotion, hresult, Option.getD_some]
  have hnone : collectContinuityAssociationClaims marenPlatform.toGraphPlatform [marenName] = [] :=
    List.isEmpty_iff.mp (by decide +kernel)
  refine (confirmed_relation_kept_iff hpromoted hkey _).mpr
    ⟨trivial, fun _ => ⟨?_, fun _ => trivial⟩⟩
  refine Or.inr (Or.inr ?_)
  rw [hnone]
  exact id

/-- The profile places Maren at Acme Corp, and the sync makes a relation of no particular type out
of the coworker that the user has confirmed. -/
theorem maren_no_longer_a_coworker :
    ¬ RemainsConfirmed marenPlatform marenSha marenEdgeKey .coworker marenPromotion.graph
      [marenSync [marenName, marenWork]] := by
  rintro ⟨-, hsynced⟩
  have hwritten : IsRetained marenEdgeKey
        ((marenSync [marenName, marenWork]).step marenPlatform marenSha marenPromotion.graph) ∧
      ¬ IsConfirmedAs marenEdgeKey .coworker
        ((marenSync [marenName, marenWork]).step marenPlatform marenSha marenPromotion.graph) := by
    decide +kernel
  exact hwritten.2 (hsynced hwritten.1)

end AgentBigBrain.Core
