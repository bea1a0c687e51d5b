import AgentBigBrain.Core.EntityGraphExtraction

/-!
# Who owns an alias

An extraction gives an alias to the entity that asks for it unless the index names another
owner. The index is built from canonical names as well as aliases, and the last entity of a
name wins, so it need not name the entity that has the alias. This module says when it does
for every alias an extraction touches, and that ownership is kept exactly then.
-/
namespace AgentBigBrain.Core

open AgentBigBrain.Js AgentBigBrain.Lib

variable {platform : GraphPlatform} {sha : Sha256}

/-! ## Statements about a list of entities -/

structure WellKeyed (entities : List EntityNodeV1) : Prop where
  distinct : entitiesByKey.Distinct entities
  nonempty : ∀ entity ∈ entities, entity.entityKey ≠ ""

/-- No alias key belongs to two entities. -/
def AliasesOwnedOnce (platform : GraphPlatform) (entities : List EntityNodeV1) : Prop :=
  ∀ entity ∈ entities, ∀ other ∈ entities, ∀ aliasKey ∈ aliasKeys platform entity,
    aliasKey ∈ aliasKeys platform other → entity.entityKey = other.entityKey

/-- Every alias key of an entity is still one of that entity's. -/
def AliasesKept (platform : GraphPlatform) (before after : List EntityNodeV1) : Prop :=
  ∀ entity ∈ before, ∀ aliasKey ∈ aliasKeys platform entity, ∃ kept ∈ after,
    kept.entityKey = entity.entityKey ∧ aliasKey ∈ aliasKeys platform kept

/-- The alias keys an incoming node asks for on behalf of an entity. -/
def offeredKeys (platform : GraphPlatform) (options : Stage686EntityGraphMutationOptions)
    (entity incoming : EntityNodeV1) : List String :=
  (offeredAliases platform options entity incoming).map (normalizeAliasKey platform)

/-- The keys an entity is indexed under: its canonical name and its aliases. -/
def nameKeys (platform : GraphPlatform) (entity : EntityNodeV1) : List String :=
  normalizeAliasKey platform entity.canonicalName :: aliasKeys platform entity

/-- The last entity that has a key among its names. -/
def lastNamed (platform : GraphPlatform) (entities : List EntityNodeV1) (aliasKey : String) :
    Option String :=
  ((entities.filter fun entity => aliasKey ∈ nameKeys platform entity).getLast?).map
    EntityNodeV1.entityKey

/-- The right entity comes last wherever the extraction looks: an entity that is named again
asks for every alias it has and is the last to be named so, and it is not the last to be named
like an alias of another entity that it asks for. -/
structure OwnersIndexed (platform : GraphPlatform) (options : Stage686EntityGraphMutationOptions)
    (entities nodes : List EntityNodeV1) : Prop where
  kept : ∀ node ∈ nodes, ∀ entity ∈ entities, entity.entityKey = node.entityKey →
    ∀ aliasKey ∈ aliasKeys platform entity,
      aliasKey ∈ offeredKeys platform options entity node ∧
        lastNamed platform entities aliasKey = some entity.entityKey
  alone : ∀ node ∈ nodes, ∀ entity ∈ entities, entity.entityKey = node.entityKey →
    ∀ aliasKey ∈ offeredKeys platform options entity node,
      lastNamed platform entities aliasKey = some entity.entityKey →
      ∀ other ∈ entities, aliasKey ∈ aliasKeys platform other →
        other.entityKey = entity.entityKey

/-! ## The index of the stored entities -/

lemma AliasIndex.set_apply (index : AliasIndex) (aliasKey entityKey other : String) :
    index.set aliasKey entityKey other =
      if other = aliasKey then some entityKey else index other := by
  simp [AliasIndex.set, Function.update_apply]

lemma foldl_set_apply (keys : List String) (entityKey : String) (index : AliasIndex)
    (other : String) :
    keys.foldl (fun index aliasKey => index.set aliasKey entityKey) index other =
      if other ∈ keys then some entityKey else index other := by
  induction keys generalizing index with
  | nil => simp
  | cons key keys ih =>
      rw [List.foldl_cons, ih, AliasIndex.set_apply]
      by_cases hkey : other = key <;> by_cases hkeys : other ∈ keys <;> simp [hkey, hkeys]

lemma foldl_indexEntity_apply (entities : List EntityNodeV1) (index : AliasIndex)
    (aliasKey : String) :
    entities.foldl (indexEntity platform) index aliasKey =
      (lastNamed platform entities aliasKey).or (index aliasKey) := by
  induction entities generalizing index with
  | nil => rfl
  | cons entity entities ih =>
      have hentity : indexEntity platform index entity aliasKey =
          if aliasKey ∈ nameKeys platform entity then some entity.entityKey else index aliasKey :=
        foldl_set_apply _ _ _ _
      rw [List.foldl_cons, ih, hentity]
      unfold lastNamed
      by_cases hnamed : aliasKey ∈ nameKeys platform entity
      · rw [List.filter_cons_of_pos (by simpa using hnamed), List.getLast?_cons, if_pos hnamed]
        cases (entities.filter fun entity => aliasKey ∈ nameKeys platform entity).getLast? <;> rfl
      · rw [List.filter_cons_of_neg (by simpa using hnamed), if_neg hnamed]

lemma buildAliasIndex_apply (entities : List EntityNodeV1) (aliasKey : String) :
    buildAliasIndex platform entities aliasKey = lastNamed platform entities aliasKey := by
  rw [buildAliasIndex, foldl_indexEntity_apply, Option.or_none]

lemma owner_of_lastNamed {entities : List EntityNodeV1} {aliasKey owner : String}
    (h : lastNamed platform entities aliasKey = some owner) :
    ∃ entity ∈ entities, entity.entityKey = owner := by
  obtain ⟨entity, hlast, rfl⟩ := Option.map_eq_some_iff.mp h
  exact ⟨entity, List.mem_of_mem_filter (List.mem_of_getLast? hlast), rfl⟩

/-- An alias of an entity is indexed, if not always under that entity. -/
lemma exists_lastNamed {entities : List EntityNodeV1} {entity : EntityNodeV1}
    (hentity : entity ∈ entities) {aliasKey : String}
    (halias : aliasKey ∈ aliasKeys platform entity) :
    ∃ owner, lastNamed platform entities aliasKey = some owner := by
  unfold lastNamed
  cases hlast : (entities.filter fun entity => aliasKey ∈ nameKeys platform entity).getLast? with
  | some last => exact ⟨last.entityKey, rfl⟩
  | none =>
      have hnone := List.getLast?_eq_none_iff.mp hlast
      have hmem : entity ∈ entities.filter fun entity => aliasKey ∈ nameKeys platform entity :=
        List.mem_filter.mpr ⟨hentity, by simp [nameKeys, halias]⟩
      rw [hnone] at hmem
      cases hmem

/-! ## Offering aliases -/

/-- No alias key is indexed under the empty entity key. -/
def Settled (index : AliasIndex) : Prop :=
  ∀ aliasKey owner, index aliasKey = some owner → owner ≠ ""

lemma settled_buildAliasIndex {entities : List EntityNodeV1} (h : WellKeyed entities) :
    Settled (buildAliasIndex platform entities) := by
  intro aliasKey owner howner
  rw [buildAliasIndex_apply] at howner
  obtain ⟨entity, hentity, rfl⟩ := owner_of_lastNamed howner
  exact h.nonempty entity hentity

/-- What offering names on behalf of `entityKey` does to an index and to the accepted keys. -/
structure Offered (platform : GraphPlatform) (entityKey : String) (names : List String)
    (before after : AliasMerge) : Prop where
  settled : Settled after.aliasIndex
  keeps : ∀ aliasKey owner, before.aliasIndex aliasKey = some owner →
    after.aliasIndex aliasKey = some owner
  fresh : ∀ aliasKey owner, after.aliasIndex aliasKey = some owner →
    before.aliasIndex aliasKey = some owner ∨ owner = entityKey
  owned : ∀ aliasKey ∈ names.map (normalizeAliasKey platform), aliasKey ≠ "" →
    ∃ owner, after.aliasIndex aliasKey = some owner
  accepted : ∀ aliasKey,
    aliasKey ∈ after.acceptedAliases.map (normalizeAliasKey platform) ↔
      aliasKey ∈ before.acceptedAliases.map (normalizeAliasKey platform) ∨
        aliasKey ≠ "" ∧ aliasKey ∈ names.map (normalizeAliasKey platform) ∧
          after.aliasIndex aliasKey = some entityKey

lemma otherOwner_eq_none_iff {index : AliasIndex} (h : Settled index)
    {entityKey aliasKey : String} :
    otherOwner index entityKey aliasKey = none ↔
      index aliasKey = none ∨ index aliasKey = some entityKey := by
  unfold otherOwner
  cases howner : index aliasKey with
  | none => simp
  | some owner => simp [Option.filter, h aliasKey owner howner]

lemma offer_of_empty {entityKey name : String} (merge : AliasMerge)
    (h : normalizeAliasKey platform name = "") : merge.offer platform entityKey name = merge := by
  simp [AliasMerge.offer, h]

lemma offer_of_other {entityKey name owner : String} {merge : AliasMerge}
    (h : normalizeAliasKey platform name ≠ "")
    (howner : otherOwner merge.aliasIndex entityKey (normalizeAliasKey platform name) =
      some owner) :
    merge.offer platform entityKey name =
      { merge with aliasConflicts := merge.aliasConflicts ++ [⟨name, owner, entityKey⟩] } := by
  simp [AliasMerge.offer, h, howner]

lemma offer_of_free {entityKey name : String} {merge : AliasMerge}
    (h : normalizeAliasKey platform name ≠ "")
    (hfree : otherOwner merge.aliasIndex entityKey (normalizeAliasKey platform name) = none) :
    merge.offer platform entityKey name =
      { merge with
        aliasIndex := merge.aliasIndex.set (normalizeAliasKey platform name) entityKey
        acceptedAliases := merge.acceptedAliases ++ [name] } := by
  simp [AliasMerge.offer, h, hfree]

lemma offered_of_empty {entityKey name : String} {merge : AliasMerge}
    (h : Settled merge.aliasIndex) (hname : normalizeAliasKey platform name = "") :
    Offered platform entityKey [name] merge merge where
  settled := h
  keeps _ _ howner := howner
  fresh _ _ howner := Or.inl howner
  owned aliasKey hkey hne := by
    rw [List.map_singleton, List.mem_singleton] at hkey
    exact absurd (hkey.trans hname) hne
  accepted aliasKey := by
    rw [List.map_singleton, List.mem_singleton, hname]
    constructor
    · exact Or.inl
    · rintro (hold | ⟨hne, hempty, -⟩)
      · exact hold
      · exact absurd hempty hne

lemma offered_of_other {entityKey name : String} {merge : AliasMerge}
    (h : Settled merge.aliasIndex) (conflicts : List Stage686AliasConflict)
    (hother : ¬ (merge.aliasIndex (normalizeAliasKey platform name) = none ∨
      merge.aliasIndex (normalizeAliasKey platform name) = some entityKey)) :
    Offered platform entityKey [name] merge { merge with aliasConflicts := conflicts } where
  settled := h
  keeps _ _ howner := howner
  fresh _ _ howner := Or.inl howner
  owned aliasKey hkey _ := by
    rw [List.map_singleton, List.mem_singleton] at hkey
    subst hkey
    exact Option.ne_none_iff_exists'.mp fun hnone => hother (Or.inl hnone)
  accepted aliasKey := by
    rw [List.map_singleton, List.mem_singleton]
    constructor
    · exact Or.inl
    · rintro (hold | ⟨-, rfl, hown⟩)
      · exact hold
      · exact absurd (Or.inr hown) hother

lemma offered_of_free {entityKey name : String} (hne : entityKey ≠ "") {merge : AliasMerge}
    (h : Settled merge.aliasIndex) (hname : normalizeAliasKey platform name ≠ "")
    (hfree : merge.aliasIndex (normalizeAliasKey platform name) = none ∨
      merge.aliasIndex (normalizeAliasKey platform name) = some entityKey) :
    Offered platform entityKey [name] merge
      { merge with
        aliasIndex := merge.aliasIndex.set (normalizeAliasKey platform name) entityKey
        acceptedAliases := merge.acceptedAliases ++ [name] } where
  settled aliasKey owner howner := by
    dsimp only at howner
    rw [AliasIndex.set_apply] at howner
    split_ifs at howner with hkey
    · exact Option.some.inj howner ▸ hne
    · exact h aliasKey owner howner
  keeps aliasKey owner howner := by
    dsimp only
    rw [AliasIndex.set_apply]
    split_ifs with hkey
    · subst hkey
      rcases hfree with hfree | hfree
      · rw [hfree] at howner
        cases howner
      · rw [← howner, hfree]
    · exact howner
  fresh aliasKey owner howner := by
    dsimp only at howner
    rw [AliasIndex.set_apply] at howner
    split_ifs at howner with hkey
    · exact Or.inr (Option.some.inj howner).symm
    · exact Or.inl howner
  owned aliasKey hkey _ := by
    rw [List.map_singleton, List.mem_singleton] at hkey
    exact ⟨entityKey, by simp [AliasIndex.set_apply, hkey]⟩
  accepted aliasKey := by
    simp only [List.map_append, List.mem_append, List.map_singleton, List.mem_singleton,
      AliasIndex.set_apply]
    by_cases hkey : aliasKey = normalizeAliasKey platform name
    · simp [hkey, hname]
    · simp [hkey]

variable (platform) in
lemma offered_offer {entityKey : String} (hne : entityKey ≠ "") {merge : AliasMerge}
    (h : Settled merge.aliasIndex) (name : String) :
    Offered platform entityKey [name] merge (merge.offer platform entityKey name) := by
  by_cases hname : normalizeAliasKey platform name = ""
  · rw [offer_of_empty merge hname]
    exact offered_of_empty h hname
  · cases howner : otherOwner merge.aliasIndex entityKey (normalizeAliasKey platform name) with
    | none =>
        rw [offer_of_free hname howner]
        exact offered_of_free hne h hname ((otherOwner_eq_none_iff h).mp howner)
    | some owner =>
        rw [offer_of_other hname howner]
        refine offered_of_other h _ fun hfree => ?_
        rw [(otherOwner_eq_none_iff h).mpr hfree] at howner
        cases howner

lemma Offered.trans {entityKey : String} {names more : List String} {m₁ m₂ m₃ : AliasMerge}
    (h₁₂ : Offered platform entityKey names m₁ m₂) (h₂₃ : Offered platform entityKey more m₂ m₃) :
    Offered platform entityKey (names ++ more) m₁ m₃ where
  settled := h₂₃.settled
  keeps aliasKey owner h := h₂₃.keeps aliasKey owner (h₁₂.keeps aliasKey owner h)
  fresh aliasKey owner h := by
    rcases h₂₃.fresh aliasKey owner h with h | h
    · exact h₁₂.fresh aliasKey owner h
    · exact Or.inr h
  owned aliasKey hkey hne := by
    rw [List.map_append, List.mem_append] at hkey
    rcases hkey with hkey | hkey
    · obtain ⟨owner, howner⟩ := h₁₂.owned aliasKey hkey hne
      exact ⟨owner, h₂₃.keeps aliasKey owner howner⟩
    · exact h₂₃.owned aliasKey hkey hne
  accepted aliasKey := by
    rw [h₂₃.accepted, h₁₂.accepted, List.map_append, List.mem_append]
    constructor
    · rintro ((h | ⟨hne, hname, hown⟩) | ⟨hne, hname, hown⟩)
      · exact Or.inl h
      · exact Or.inr ⟨hne, Or.inl hname, h₂₃.keeps aliasKey entityKey hown⟩
      · exact Or.inr ⟨hne, Or.inr hname, hown⟩
    · rintro (h | ⟨hne, hname | hname, hown⟩)
      · exact Or.inl (Or.inl h)
      · -- the key had an owner after the first names, and owners do not change
        obtain ⟨owner, howner⟩ := h₁₂.owned aliasKey hname hne
        have hsame := (h₂₃.keeps aliasKey owner howner).symm.trans hown
        exact Or.inl (Or.inr ⟨hne, hname, howner.trans hsame⟩)
      · exact Or.inr ⟨hne, hname, hown⟩

lemma offered_foldl {entityKey : String} (hne : entityKey ≠ "") (names : List String)
    {merge : AliasMerge} (h : Settled merge.aliasIndex) :
    Offered platform entityKey names merge
      (names.foldl (AliasMerge.offer platform entityKey) merge) := by
  induction names generalizing merge with
  | nil =>
      rw [List.foldl_nil]
      exact ⟨h, fun _ _ hold => hold, fun _ _ hold => Or.inl hold, by simp, by simp⟩
  | cons name names ih =>
      have hfirst := offered_offer platform hne h name
      have hrest : Offered platform entityKey names (merge.offer platform entityKey name)
          (names.foldl (AliasMerge.offer platform entityKey)
            (merge.offer platform entityKey name)) := ih hfirst.settled
      have hboth := hfirst.trans hrest
      rwa [List.singleton_append, ← List.foldl_cons] at hboth

/-! ## Merging the nodes of an extraction -/

lemma extractionCandidate_key (entities : List EntityNodeV1) (observedAt evidenceRef : String)
    (incoming : EntityNodeV1) :
    (extractionCandidate entities observedAt evidenceRef incoming).entityKey =
      incoming.entityKey := by
  unfold extractionCandidate
  split
  · rename_i existing hfound
    exact (entitiesByKey.mem_of_find hfound).2
  · rfl

lemma extractionCandidate_congr {entities others : List EntityNodeV1} {incoming : EntityNodeV1}
    (observedAt evidenceRef : String)
    (h : entitiesByKey.find incoming.entityKey entities =
      entitiesByKey.find incoming.entityKey others) :
    extractionCandidate entities observedAt evidenceRef incoming =
      extractionCandidate others observedAt evidenceRef incoming := by
  unfold extractionCandidate
  rw [h]

lemma ne_empty_of_offered {options : Stage686EntityGraphMutationOptions}
    {entity incoming : EntityNodeV1} {aliasKey : String}
    (h : aliasKey ∈ offeredKeys platform options entity incoming) : aliasKey ≠ "" := by
  obtain ⟨name, hname, rfl⟩ := List.mem_map.mp h
  have hsorted := (platform.locale.mem_sort).mp (List.mem_of_mem_take hname)
  refine (textsByAliasKey platform).forall_collect (P := fun text =>
    normalizeAliasKey platform text ≠ "") (by simp) ?_ (fun existing _ _ hold _ => hold) name hsorted
  intro text htext
  have := (List.mem_filter.mp htext).2
  simpa using this

/-- The state after some nodes of an extraction. -/
structure NodesMerged (platform : GraphPlatform) (options : Stage686EntityGraphMutationOptions)
    (observedAt evidenceRef : String) (entities merged : List EntityNodeV1)
    (state : ExtractionState) : Prop where
  distinct : entitiesByKey.Distinct state.entities
  settled : Settled state.aliasIndex
  keeps : ∀ aliasKey owner, lastNamed platform entities aliasKey = some owner →
    state.aliasIndex aliasKey = some owner
  others : ∀ entityKey, entityKey ∉ merged.map EntityNodeV1.entityKey →
    entitiesByKey.find entityKey state.entities = entitiesByKey.find entityKey entities
  renewed : ∀ node ∈ merged, ∃ entity,
    entitiesByKey.find node.entityKey state.entities = some entity ∧
      ∀ aliasKey, aliasKey ∈ aliasKeys platform entity ↔
        aliasKey ∈ offeredKeys platform options
            (extractionCandidate entities observedAt evidenceRef node) node ∧
          state.aliasIndex aliasKey = some node.entityKey

section MergedNodes

variable {options : Stage686EntityGraphMutationOptions} {observedAt evidenceRef : String}
  {entities merged : List EntityNodeV1} {state : ExtractionState}

variable (platform options observedAt evidenceRef) in
lemma offered_mergeNode (h : Settled state.aliasIndex) {node : EntityNodeV1}
    (hne : node.entityKey ≠ "") :
    ∃ merge : AliasMerge,
      Offered platform node.entityKey
          (offeredAliases platform options
            (extractionCandidate state.entities observedAt evidenceRef node) node)
          ⟨state.aliasIndex, [], state.aliasConflicts⟩ merge ∧
        (state.mergeNode platform options observedAt evidenceRef node).aliasIndex =
          merge.aliasIndex ∧
        (state.mergeNode platform options observedAt evidenceRef node).entities =
          entitiesByKey.upsert (mergedEntity platform observedAt evidenceRef
            (extractionCandidate state.entities observedAt evidenceRef node) node
            merge.acceptedAliases) state.entities := by
  have hkey := extractionCandidate_key state.entities observedAt evidenceRef node
  refine ⟨_, ?_, rfl, rfl⟩
  rw [hkey]
  exact offered_foldl hne _ h

/-- One more node: its own entity is renewed, and nothing else changes. -/
lemma NodesMerged.mergeNode
    (h : NodesMerged platform options observedAt evidenceRef entities merged state)
    {node : EntityNodeV1} (hne : node.entityKey ≠ "")
    (hnew : node.entityKey ∉ merged.map EntityNodeV1.entityKey) :
    NodesMerged platform options observedAt evidenceRef entities (merged ++ [node])
      (state.mergeNode platform options observedAt evidenceRef node) := by
  obtain ⟨merge, hoffered, hindex, hentities⟩ :=
    offered_mergeNode platform options observedAt evidenceRef h.settled hne
  have hcandidate := extractionCandidate_congr observedAt evidenceRef (h.others _ hnew)
  rw [hcandidate] at hoffered hentities
  generalize hrenewed : mergedEntity platform observedAt evidenceRef
    (extractionCandidate entities observedAt evidenceRef node) node merge.acceptedAliases =
    renewedEntity at hentities
  have hmergedKey : renewedEntity.entityKey = node.entityKey := by
    rw [← hrenewed]
    exact extractionCandidate_key entities observedAt evidenceRef node
  have hmergedAliases : aliasKeys platform renewedEntity =
      merge.acceptedAliases.map (normalizeAliasKey platform) := by
    rw [← hrenewed]
    rfl
  constructor
  · rw [hentities]
    exact entitiesByKey.distinct_upsert h.distinct
  · rw [hindex]
    exact hoffered.settled
  · intro aliasKey owner howner
    rw [hindex]
    exact hoffered.keeps aliasKey owner (h.keeps aliasKey owner howner)
  · intro entityKey hmem
    rw [List.map_append, List.mem_append, not_or, List.map_singleton, List.mem_singleton] at hmem
    have hother : ¬ node.entityKey = entityKey := fun hsame => hmem.2 hsame.symm
    rw [hentities, find_upsert_entity, hmergedKey, if_neg hother, h.others entityKey hmem.1]
  · intro earlier hearlier
    rw [List.mem_append, List.mem_singleton] at hearlier
    rcases hearlier with hearlier | rfl
    · obtain ⟨entity, hfound, haliases⟩ := h.renewed earlier hearlier
      have hdiff : node.entityKey ≠ earlier.entityKey := fun hsame =>
        hnew (hsame ▸ List.mem_map_of_mem hearlier)
      refine ⟨entity, ?_, fun aliasKey => ?_⟩
      · rw [hentities, find_upsert_entity, hmergedKey, if_neg hdiff, hfound]
      · rw [haliases, hindex]
        constructor
        · rintro ⟨hkeys, hown⟩
          exact ⟨hkeys, hoffered.keeps aliasKey _ hown⟩
        · rintro ⟨hkeys, hown⟩
          rcases hoffered.fresh aliasKey _ hown with hold | hsame
          · exact ⟨hkeys, hold⟩
          · exact absurd hsame.symm hdiff
    · refine ⟨renewedEntity, ?_, fun aliasKey => ?_⟩
      · rw [hentities, find_upsert_entity, hmergedKey, if_pos rfl]
      · rw [hindex, hmergedAliases, hoffered.accepted]
        constructor
        · rintro (hold | ⟨-, hkeys, hown⟩)
          · simp at hold
          · exact ⟨hkeys, hown⟩
        · rintro ⟨hkeys, hown⟩
          exact Or.inr ⟨ne_empty_of_offered hkeys, hkeys, hown⟩

lemma nodesMerged_foldl {nodes : List EntityNodeV1}
    (h : NodesMerged platform options observedAt evidenceRef entities merged state)
    (hkeyed : ∀ node ∈ nodes, node.entityKey ≠ "")
    (hdistinct : entitiesByKey.Distinct (merged ++ nodes)) :
    NodesMerged platform options observedAt evidenceRef entities (merged ++ nodes)
      (nodes.foldl (ExtractionState.mergeNode platform options observedAt evidenceRef) state) := by
  induction nodes generalizing merged state with
  | nil => simpa using h
  | cons node nodes ih =>
      have hnew : node.entityKey ∉ merged.map EntityNodeV1.entityKey := by
        intro hmem
        have hnodup : ((merged ++ node :: nodes).map EntityNodeV1.entityKey).Nodup := hdistinct
        rw [List.map_append, List.map_cons] at hnodup
        exact (List.nodup_append.mp hnodup).2.2 _ hmem _ List.mem_cons_self rfl
      have hstep := h.mergeNode (hkeyed node List.mem_cons_self) hnew
      have hrest := ih hstep (fun later hlater => hkeyed later (List.mem_cons_of_mem node hlater))
        (by simpa using hdistinct)
      simpa using hrest

variable (platform options observedAt evidenceRef) in
lemma nodesMerged_mergeNodes {graph : EntityGraphV1} (hkeys : WellKeyed graph.entities)
    (extraction : Stage686EntityExtractionResult) :
    NodesMerged platform options observedAt evidenceRef graph.entities extraction.nodes
      (mergeNodes platform options observedAt evidenceRef graph extraction.nodes) := by
  have hcopy : entitiesByKey.collect [] graph.entities = graph.entities :=
    entitiesByKey.collect_nil_of_distinct hkeys.distinct
  unfold mergeNodes
  rw [hcopy]
  have hstart : NodesMerged platform options observedAt evidenceRef graph.entities []
      ⟨graph.entities, buildAliasIndex platform graph.entities, [], []⟩ :=
    { distinct := hkeys.distinct
      settled := settled_buildAliasIndex hkeys
      keeps := fun aliasKey _ howner => (buildAliasIndex_apply _ aliasKey).trans howner
      others := fun _ _ => rfl
      renewed := by simp }
  exact nodesMerged_foldl hstart extraction.nodes_keyed extraction.nodes_distinct

lemma extractionCandidate_of_mem (hkeys : WellKeyed entities) {entity node : EntityNodeV1}
    (hentity : entity ∈ entities) (hkey : entity.entityKey = node.entityKey) :
    extractionCandidate entities observedAt evidenceRef node = entity := by
  have hfound := entitiesByKey.find_eq_some_of_mem hkeys.distinct hentity
  rw [entitiesByKey_key, hkey] at hfound
  unfold extractionCandidate
  rw [hfound]

/-- An entity that is named again has the aliases asked for that it is indexed under. -/
lemma NodesMerged.aliases_of_named {nodes : List EntityNodeV1}
    (h : NodesMerged platform options observedAt evidenceRef entities nodes state)
    (hkeys : WellKeyed entities) {entity node kept : EntityNodeV1} (hnode : node ∈ nodes)
    (hentity : entity ∈ entities) (hkey : entity.entityKey = node.entityKey)
    (hkept : kept ∈ state.entities) (hkeptKey : kept.entityKey = node.entityKey)
    (aliasKey : String) :
    aliasKey ∈ aliasKeys platform kept ↔
      aliasKey ∈ offeredKeys platform options entity node ∧
        state.aliasIndex aliasKey = some node.entityKey := by
  obtain ⟨renewed, hfound, haliases⟩ := h.renewed node hnode
  have hsame : renewed = kept := by
    have hfind := entitiesByKey.find_eq_some_of_mem h.distinct hkept
    rw [entitiesByKey_key, hkeptKey, hfound] at hfind
    exact Option.some.inj hfind
  rw [← hsame, haliases, extractionCandidate_of_mem hkeys hentity hkey]

lemma NodesMerged.named_or_stored {nodes : List EntityNodeV1}
    (h : NodesMerged platform options observedAt evidenceRef entities nodes state)
    {kept : EntityNodeV1} (hkept : kept ∈ state.entities) :
    (∃ node ∈ nodes, node.entityKey = kept.entityKey) ∨ kept ∈ entities := by
  by_cases hnamed : kept.entityKey ∈ nodes.map EntityNodeV1.entityKey
  · obtain ⟨node, hnode, hkey⟩ := List.mem_map.mp hnamed
    exact Or.inl ⟨node, hnode, hkey⟩
  · have hfound := entitiesByKey.find_eq_some_of_mem h.distinct hkept
    rw [entitiesByKey_key, h.others _ hnamed] at hfound
    exact Or.inr (entitiesByKey.mem_of_find hfound).1

lemma NodesMerged.index_of_alias {nodes : List EntityNodeV1}
    (h : NodesMerged platform options observedAt evidenceRef entities nodes state)
    {entity : EntityNodeV1} (hentity : entity ∈ entities) {aliasKey owner : String}
    (halias : aliasKey ∈ aliasKeys platform entity)
    (howner : state.aliasIndex aliasKey = some owner) :
    lastNamed platform entities aliasKey = some owner := by
  obtain ⟨first, hfirst⟩ := exists_lastNamed hentity halias
  rw [hfirst, ← howner, h.keeps aliasKey first hfirst]

lemma NodesMerged.index_of_named {nodes : List EntityNodeV1}
    (h : NodesMerged platform options observedAt evidenceRef entities nodes state)
    {node kept : EntityNodeV1} (hnode : node ∈ nodes) (hkept : kept ∈ state.entities)
    (hkey : node.entityKey = kept.entityKey) {aliasKey : String}
    (halias : aliasKey ∈ aliasKeys platform kept) :
    state.aliasIndex aliasKey = some kept.entityKey := by
  obtain ⟨renewed, hfound, haliases⟩ := h.renewed node hnode
  have hfind := entitiesByKey.find_eq_some_of_mem h.distinct hkept
  rw [entitiesByKey_key, ← hkey, hfound, Option.some.injEq] at hfind
  subst hfind
  exact hkey ▸ ((haliases aliasKey).mp halias).2

lemma NodesMerged.ownersIndexed {nodes : List EntityNodeV1}
    (h : NodesMerged platform options observedAt evidenceRef entities nodes state)
    (hkeys : WellKeyed entities) (hkept : AliasesKept platform entities state.entities)
    (honce : AliasesOwnedOnce platform state.entities) :
    OwnersIndexed platform options entities nodes where
  kept node hnode entity hentity hkey aliasKey halias := by
    obtain ⟨kept, hmem, hsame, hkeptAlias⟩ := hkept entity hentity aliasKey halias
    have hboth := (h.aliases_of_named hkeys hnode hentity hkey hmem (hsame.trans hkey) aliasKey).mp
      hkeptAlias
    exact ⟨hboth.1, hkey ▸ h.index_of_alias hentity halias hboth.2⟩
  alone node hnode entity hentity hkey aliasKey hoffered hindex other hother halias := by
    obtain ⟨renewed, hfound, -⟩ := h.renewed node hnode
    obtain ⟨hrenewed, hrenewedKey⟩ := entitiesByKey.mem_of_find hfound
    have hrenewedAlias := (h.aliases_of_named hkeys hnode hentity hkey hrenewed hrenewedKey
      aliasKey).mpr ⟨hoffered, hkey ▸ h.keeps aliasKey _ hindex⟩
    obtain ⟨kept, hmem, hsame, hkeptAlias⟩ := hkept other hother aliasKey halias
    calc
      other.entityKey = kept.entityKey := hsame.symm
      _ = renewed.entityKey := honce kept hmem renewed hrenewed aliasKey hkeptAlias hrenewedAlias
      _ = entity.entityKey := hrenewedKey.trans hkey.symm

lemma NodesMerged.aliasesKept {nodes : List EntityNodeV1}
    (h : NodesMerged platform options observedAt evidenceRef entities nodes state)
    (hkeys : WellKeyed entities) (howners : OwnersIndexed platform options entities nodes) :
    AliasesKept platform entities state.entities := by
  intro entity hentity aliasKey halias
  by_cases hnamed : entity.entityKey ∈ nodes.map EntityNodeV1.entityKey
  · obtain ⟨node, hnode, hkey⟩ := List.mem_map.mp hnamed
    obtain ⟨renewed, hfound, -⟩ := h.renewed node hnode
    obtain ⟨hrenewed, hrenewedKey⟩ := entitiesByKey.mem_of_find hfound
    obtain ⟨hoffered, hindex⟩ := howners.kept node hnode entity hentity hkey.symm aliasKey halias
    refine ⟨renewed, hrenewed, hrenewedKey.trans hkey, ?_⟩
    refine (h.aliases_of_named hkeys hnode hentity hkey.symm hrenewed hrenewedKey aliasKey).mpr ?_
    exact ⟨hoffered, hkey.symm ▸ h.keeps aliasKey _ hindex⟩
  · have hfound := entitiesByKey.find_eq_some_of_mem hkeys.distinct hentity
    rw [entitiesByKey_key, ← h.others _ hnamed] at hfound
    exact ⟨entity, (entitiesByKey.mem_of_find hfound).1, rfl, halias⟩

/-- A named entity shares no alias with one the extraction leaves alone. -/
lemma NodesMerged.apart {nodes : List EntityNodeV1}
    (h : NodesMerged platform options observedAt evidenceRef entities nodes state)
    (hkeys : WellKeyed entities) (howners : OwnersIndexed platform options entities nodes)
    {node kept other : EntityNodeV1} (hnode : node ∈ nodes) (hkept : kept ∈ state.entities)
    (hkey : node.entityKey = kept.entityKey) (hother : other ∈ entities) {aliasKey : String}
    (halias : aliasKey ∈ aliasKeys platform kept)
    (hotherAlias : aliasKey ∈ aliasKeys platform other) :
    other.entityKey = kept.entityKey := by
  have hindex := h.index_of_named hnode hkept hkey halias
  have hstored := h.index_of_alias hother hotherAlias hindex
  obtain ⟨entity, hentity, hentityKey⟩ := owner_of_lastNamed hstored
  have hnodeKey : entity.entityKey = node.entityKey := hentityKey.trans hkey.symm
  have hoffered := ((h.aliases_of_named hkeys hnode hentity hnodeKey hkept hkey.symm aliasKey).mp
    halias).1
  have hsame := howners.alone node hnode entity hentity hnodeKey aliasKey hoffered
    (hentityKey.symm ▸ hstored) other hother hotherAlias
  exact hsame.trans hentityKey

lemma NodesMerged.aliasesOwnedOnce {nodes : List EntityNodeV1}
    (h : NodesMerged platform options observedAt evidenceRef entities nodes state)
    (hkeys : WellKeyed entities) (honce : AliasesOwnedOnce platform entities)
    (howners : OwnersIndexed platform options entities nodes) :
    AliasesOwnedOnce platform state.entities := by
  intro entity hentity other hother aliasKey halias hotherAlias
  rcases h.named_or_stored hentity with ⟨node, hnode, hkey⟩ | hstored
  · rcases h.named_or_stored hother with ⟨otherNode, hotherNode, hotherKey⟩ | hotherStored
    · have hindex := h.index_of_named hnode hentity hkey halias
      have hotherIndex := h.index_of_named hotherNode hother hotherKey hotherAlias
      exact Option.some.inj (hindex.symm.trans hotherIndex)
    · exact (h.apart hkeys howners hnode hentity hkey hotherStored halias hotherAlias).symm
  · rcases h.named_or_stored hother with ⟨otherNode, hotherNode, hotherKey⟩ | hotherStored
    · exact h.apart hkeys howners hotherNode hother hotherKey hstored hotherAlias halias
    · exact honce entity hstored other hotherStored aliasKey halias hotherAlias

end MergedNodes

/-! ## Ownership across an extraction -/

lemma entities_of_applyEntityExtractionToGraph {graph : EntityGraphV1}
    {extraction : Stage686EntityExtractionResult} {observedAt evidenceRef : String}
    {options : Stage686EntityGraphMutationOptions} {result : Stage686EntityGraphMutationResult}
    (h : applyEntityExtractionToGraph platform sha graph extraction observedAt evidenceRef options =
      some result) :
    result.graph.entities = sortEntityNodes platform
      (mergeNodes platform options observedAt evidenceRef graph extraction.nodes).entities := by
  unfold applyEntityExtractionToGraph at h
  split at h
  · simp only [Option.bind_eq_bind, Option.bind_eq_some_iff, Option.some.injEq] at h
    obtain ⟨edges, -, rfl⟩ := h
    rfl
  · cases h

/-- An extraction leaves every alias with its entity, and no alias with two, exactly when the
right entity comes last wherever the extraction looks. -/
theorem aliases_stable_iff {graph : EntityGraphV1} (hkeys : WellKeyed graph.entities)
    (honce : AliasesOwnedOnce platform graph.entities)
    {extraction : Stage686EntityExtractionResult} {observedAt evidenceRef : String}
    {options : Stage686EntityGraphMutationOptions} {result : Stage686EntityGraphMutationResult}
    (h : applyEntityExtractionToGraph platform sha graph extraction observedAt evidenceRef options =
      some result) :
    AliasesKept platform graph.entities result.graph.entities ∧
        AliasesOwnedOnce platform result.graph.entities ↔
      OwnersIndexed platform options graph.entities extraction.nodes := by
  have hmerged := nodesMerged_mergeNodes platform options observedAt evidenceRef hkeys extraction
  have hmem : ∀ entity, entity ∈ result.graph.entities ↔ entity ∈
      (mergeNodes platform options observedAt evidenceRef graph extraction.nodes).entities := by
    intro entity
    rw [entities_of_applyEntityExtractionToGraph h]
    exact mem_sortEntityNodes platform
  have hkept : AliasesKept platform graph.entities result.graph.entities ↔
      AliasesKept platform graph.entities
        (mergeNodes platform options observedAt evidenceRef graph extraction.nodes).entities := by
    simp only [AliasesKept, hmem]
  have hsole : AliasesOwnedOnce platform result.graph.entities ↔
      AliasesOwnedOnce platform
        (mergeNodes platform options observedAt evidenceRef graph extraction.nodes).entities := by
    simp only [AliasesOwnedOnce, hmem]
  rw [hkept, hsole]
  constructor
  · rintro ⟨hkeeps, hafter⟩
    exact hmerged.ownersIndexed hkeys hkeeps hafter
  · intro howners
    exact ⟨hmerged.aliasesKept hkeys howners, hmerged.aliasesOwnedOnce hkeys honce howners⟩

/-! ## A name that is a thing and then a person -/

instance (entities : List EntityNodeV1) : Decidable (WellKeyed entities) :=
  decidable_of_iff (entitiesByKey.Distinct entities ∧ ∀ entity ∈ entities, entity.entityKey ≠ "")
    ⟨fun h => ⟨h.1, h.2⟩, fun h => ⟨h.distinct, h.nonempty⟩⟩

instance (platform : GraphPlatform) (entities : List EntityNodeV1) :
    Decidable (AliasesOwnedOnce platform entities) :=
  inferInstanceAs (Decidable (∀ entity ∈ entities, ∀ other ∈ entities, ∀ aliasKey ∈ _, _ → _))

def rileyDigests : List (String × String) :=
  [("\x7b\"canonicalName\":\"riley\",\"disambiguator\":\"\",\"entityType\":\"thing\"\x7d",
      "030ddb853c6f2eb0ef697d0e2262b11402845677801f9394dadd4e057b753c9d"),
    ("\x7b\"canonicalName\":\"riley\",\"disambiguator\":\"\",\"entityType\":\"person\"\x7d",
      "1683cb18a8476768e4b28436f46278f65ecc362099daf57fb0f8498a89dc10c6")]

def rileySha : Sha256 :=
  Sha256.ofTable rileyDigests
    ((validTable_nil.cons (by decide) (by decide)).cons (by decide) (by decide))

def rileyPlatform : GraphPlatform :=
  .ofDates [("2026-01-01T00:00:00.000Z", 1767225600000)]

/-- What a mention of "Riley" leaves: a single word is taken for a thing. -/
def rileyThing : EntityNodeV1 where
  entityKey := "entity_030ddb853c6f2eb0ef69"
  canonicalName := "Riley"
  entityType := .thing
  disambiguator := none
  domainHint := none
  aliases := ["Riley"]
  firstSeenAt := "2026-01-01T00:00:00.000Z"
  lastSeenAt := "2026-01-01T00:00:00.000Z"
  salience := 1
  evidenceRefs := ["turn:1"]

def rileyGraph (entities : List EntityNodeV1) : EntityGraphV1 where
  updatedAt := "2026-01-01T00:00:00.000Z"
  entities := entities
  edges := []
  decisionRecords := []

def rileyMention (hints : List Stage686EntityTypeHint) : Stage686EntityExtractionInput where
  text := "Riley called."
  observedAt := "2026-01-01T00:00:00.000Z"
  evidenceRef := "turn:3"
  domainHint := none
  entityTypeHints := hints
  entityDomainHints := []

def rileyExtraction : Stage686EntityExtractionResult :=
  (extractEntityCandidates rileyPlatform rileySha (rileyMention [])).get (by decide)

theorem aliases_stable_iff_of_riley :
    ∃ result, applyEntityExtractionToGraph rileyPlatform rileySha (rileyGraph [rileyThing])
        rileyExtraction "2026-01-01T00:00:00.000Z" "turn:2" ⟨none, none⟩ = some result ∧
      (AliasesKept rileyPlatform [rileyThing] result.graph.entities ∧
          AliasesOwnedOnce rileyPlatform result.graph.entities ↔
        OwnersIndexed rileyPlatform ⟨none, none⟩ [rileyThing] rileyExtraction.nodes) := by
  have hdone : (applyEntityExtractionToGraph rileyPlatform rileySha (rileyGraph [rileyThing])
      rileyExtraction "2026-01-01T00:00:00.000Z" "turn:2" ⟨none, none⟩).isSome = true := by
    decide
  obtain ⟨result, hresult⟩ := Option.isSome_iff_exists.mp hdone
  have hkeys : WellKeyed (rileyGraph [rileyThing]).entities := by decide
  have honce : AliasesOwnedOnce rileyPlatform (rileyGraph [rileyThing]).entities := by
    decide
  exact ⟨result, hresult, aliases_stable_iff hkeys honce hresult⟩

/-- The graph after a mention. -/
def afterMention (entities : List EntityNodeV1) (hints : List Stage686EntityTypeHint) :
    Option (List EntityNodeV1) := do
  let extraction ← extractEntityCandidates rileyPlatform rileySha (rileyMention hints)
  let result ← applyEntityExtractionToGraph rileyPlatform rileySha (rileyGraph entities)
    extraction (rileyMention hints).observedAt (rileyMention hints).evidenceRef ⟨none, none⟩
  some result.graph.entities

/-- The person is denied the alias of the thing, but its canonical name is indexed after it, so
the next mention of the person takes the alias as well. -/
theorem second_mention_shares_alias :
    ∃ thing ∈ afterMention [] [], ∃ both ∈ afterMention thing [⟨"Riley", .person⟩],
      WellKeyed both ∧ AliasesOwnedOnce rileyPlatform both ∧
        ∃ after ∈ afterMention both [⟨"Riley", .person⟩],
          ¬ AliasesOwnedOnce rileyPlatform after := by
  decide +kernel

end AgentBigBrain.Core
