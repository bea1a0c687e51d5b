import AgentBigBrain.Core.AliasOwnership

/-!
# Reconciling an alias candidate

A proposed alias is written to an entity if its form is allowed, it shares a term with the names
of the entity and nobody owns it. The merged aliases are sorted and cut off at a limit, so an
alias may be reported as accepted and not be stored, or push out one that was.
-/
namespace AgentBigBrain.Core

open AgentBigBrain.Js AgentBigBrain.Lib

variable (platform : GraphPlatform)

/-! ## The form of a candidate -/

def MAX_VALIDATED_ENTITY_ALIAS_LENGTH : ℕ := 80

def MAX_VALIDATED_ENTITY_ALIAS_TOKENS : ℕ := 6

/-- `/[\r\n\\/]/` and ``/[`$=<>{}\[\]()]/``. -/
def REFUSED_ALIAS_CHARACTERS : List Char :=
  "\r\n\\/".toList ++ "`$=<>\x7b\x7d[]()".toList

def isAliasJoiner (c : Char) : Bool :=
  c = '&' || c = '.' || c = '\'' || c = '-'

/-- `/^[\p{L}\p{N}]+(?:[&.'-][\p{L}\p{N}]+)*$/u`. -/
def isEntityAliasToken (token : List Char) : Bool :=
  (token.splitOnP isAliasJoiner).all fun part =>
    !part.isEmpty && part.all platform.isLetterOrNumber

/-- What is written of a candidate. A candidate with an address has a slash, which is refused
anyway. -/
def validateEntityAliasCandidateValue (candidateValue : String) : Option String :=
  let normalized := normalizeWhitespace candidateValue
  let tokens := normalized.toList.splitOn ' '
  if normalized = "" || decide (MAX_VALIDATED_ENTITY_ALIAS_LENGTH < utf16Length normalized) ||
      normalized.toList.any (fun c => decide (c ∈ REFUSED_ALIAS_CHARACTERS)) then
    none
  else if tokens.length ≤ MAX_VALIDATED_ENTITY_ALIAS_TOKENS &&
      tokens.all (isEntityAliasToken platform) then
    some normalized
  else
    none

def getEntityLookupTerms (canonicalName : String) (aliases : List String) : List String :=
  platform.locale.sort <| uniqueValues <|
    ((canonicalName :: aliases).flatMap fun value =>
      ((normalizeAliasKey platform value).toList.splitOn ' ').map fun term =>
        trim (String.ofList term)).filter fun term => 3 ≤ utf16Length term

def hasEntityAliasTermOverlap (entity : EntityNodeV1) (aliasCandidate : String) : Bool :=
  (getEntityLookupTerms platform aliasCandidate [aliasCandidate]).any fun term =>
    decide (term ∈ getEntityLookupTerms platform entity.canonicalName entity.aliases)

/-! ## Writing a candidate -/

structure Stage686EntityAliasCandidateInput where
  entityKey : String
  aliasCandidate : String
  observedAt : String
  evidenceRef : String

structure Stage686EntityAliasMutationOptions where
  entityMaxAliases : Option ℚ

inductive AliasRejectionReason where
  | entityNotFound
  | invalidAliasCandidate
  | aliasAlreadyPresent
  | aliasCollision
  | aliasNoTermOverlap
  deriving DecidableEq

structure Stage686EntityAliasMutationResult where
  graph : EntityGraphV1
  entityKey : String
  acceptedAlias : Option String
  aliasConflicts : List Stage686AliasConflict
  rejectionReason : Option AliasRejectionReason
  deriving DecidableEq

def buildAliasOwnerIndex (graph : EntityGraphV1) : AliasIndex :=
  buildAliasIndex platform graph.entities

/-- The entities of a graph by their keys, the last one of each key. -/
def entityMap (graph : EntityGraphV1) : List EntityNodeV1 :=
  entitiesByKey.collect [] graph.entities

def rejectedAlias (graph : EntityGraphV1) (input : Stage686EntityAliasCandidateInput)
    (aliasConflicts : List Stage686AliasConflict) (reason : AliasRejectionReason) :
    Stage686EntityAliasMutationResult where
  graph := graph
  entityKey := input.entityKey
  acceptedAlias := none
  aliasConflicts := aliasConflicts
  rejectionReason := some reason

def aliasLimit (options : Stage686EntityAliasMutationOptions) : ℕ :=
  boundedLimit (options.entityMaxAliases.getD ENTITY_MAX_ALIASES_DEFAULT)

/-- The entity with the new alias among its merged ones. -/
def aliasedEntity (input : Stage686EntityAliasCandidateInput)
    (options : Stage686EntityAliasMutationOptions) (candidate : EntityNodeV1)
    (validatedAlias : String) : EntityNodeV1 :=
  { candidate with
    aliases := mergeStringList platform candidate.aliases [validatedAlias] (aliasLimit options)
    lastSeenAt := input.observedAt
    salience := max 1 (toFixed4 (candidate.salience + 1))
    evidenceRefs := mergeStringList platform candidate.evidenceRefs [input.evidenceRef] 64 }

def acceptedAliasResult (graph : EntityGraphV1) (input : Stage686EntityAliasCandidateInput)
    (options : Stage686EntityAliasMutationOptions) (candidate : EntityNodeV1)
    (validatedAlias : String) : Stage686EntityAliasMutationResult where
  graph :=
    { updatedAt := input.observedAt
      entities := sortEntityNodes platform
        (entitiesByKey.upsert (aliasedEntity platform input options candidate validatedAlias)
          (entityMap graph))
      edges := sortRelationEdges platform graph.edges
      decisionRecords := graph.decisionRecords }
  entityKey := input.entityKey
  acceptedAlias := some validatedAlias
  aliasConflicts := []
  rejectionReason := none

/-- Where an alias candidate ends up; `none` where the time does not parse. -/
def applyEntityAliasCandidateToGraph (graph : EntityGraphV1)
    (input : Stage686EntityAliasCandidateInput) (options : Stage686EntityAliasMutationOptions) :
    Option Stage686EntityAliasMutationResult :=
  if isValidIsoTimestamp platform input.observedAt then
    match entitiesByKey.find input.entityKey (entityMap graph) with
    | none => some (rejectedAlias graph input [] .entityNotFound)
    | some candidate =>
        match validateEntityAliasCandidateValue platform input.aliasCandidate with
        | none => some (rejectedAlias graph input [] .invalidAliasCandidate)
        | some validatedAlias =>
            if !hasEntityAliasTermOverlap platform candidate validatedAlias then
              some (rejectedAlias graph input [] .aliasNoTermOverlap)
            else
              let index := buildAliasOwnerIndex platform graph
              let aliasKey := normalizeAliasKey platform validatedAlias
              if index aliasKey = some input.entityKey then
                some (rejectedAlias graph input [] .aliasAlreadyPresent)
              else
                -- an owner with the empty key counts as no owner
                match otherOwner index input.entityKey aliasKey with
                | some owner =>
                    some (rejectedAlias graph input [⟨validatedAlias, owner, input.entityKey⟩]
                      .aliasCollision)
                | none =>
                    some (acceptedAliasResult platform graph input options candidate
                      validatedAlias)
  else none

/-! ## What an alias candidate does -/

variable {platform}

/-- The candidate is one that the entity takes. -/
structure TakesAlias (platform : GraphPlatform) (graph : EntityGraphV1)
    (input : Stage686EntityAliasCandidateInput) (entity : EntityNodeV1) (validatedAlias : String) :
    Prop where
  time : isValidIsoTimestamp platform input.observedAt = true
  found : entitiesByKey.find input.entityKey (entityMap graph) = some entity
  valid : validateEntityAliasCandidateValue platform input.aliasCandidate = some validatedAlias
  overlaps : hasEntityAliasTermOverlap platform entity validatedAlias = true
  absent : buildAliasOwnerIndex platform graph (normalizeAliasKey platform validatedAlias) ≠
    some input.entityKey
  unowned : otherOwner (buildAliasOwnerIndex platform graph) input.entityKey
    (normalizeAliasKey platform validatedAlias) = none

variable {graph : EntityGraphV1} {input : Stage686EntityAliasCandidateInput}
  {options : Stage686EntityAliasMutationOptions} {entity : EntityNodeV1} {validatedAlias : String}

lemma TakesAlias.apply_eq (h : TakesAlias platform graph input entity validatedAlias) :
    applyEntityAliasCandidateToGraph platform graph input options =
      some (acceptedAliasResult platform graph input options entity validatedAlias) := by
  simp [applyEntityAliasCandidateToGraph, h.time, h.found, h.valid, h.overlaps, h.absent,
    h.unowned]

/-- A candidate is turned down and the graph stands, or the entity takes it. -/
lemma applyEntityAliasCandidateToGraph_cases {result : Stage686EntityAliasMutationResult}
    (h : applyEntityAliasCandidateToGraph platform graph input options = some result) :
    (∃ conflicts reason, result = rejectedAlias graph input conflicts reason) ∨
      ∃ entity validatedAlias, TakesAlias platform graph input entity validatedAlias ∧
        result = acceptedAliasResult platform graph input options entity validatedAlias := by
  unfold applyEntityAliasCandidateToGraph at h
  by_cases htime : isValidIsoTimestamp platform input.observedAt = true
  · rw [if_pos htime] at h
    cases hfound : entitiesByKey.find input.entityKey (entityMap graph) with
    | none =>
        rw [hfound] at h
        exact Or.inl ⟨_, _, (Option.some.inj h).symm⟩
    | some entity =>
        rw [hfound] at h
        cases hvalid : validateEntityAliasCandidateValue platform input.aliasCandidate with
        | none =>
            rw [hvalid] at h
            exact Or.inl ⟨_, _, (Option.some.inj h).symm⟩
        | some validatedAlias =>
            simp only [hvalid] at h
            split_ifs at h with hoverlaps habsent
            · exact Or.inl ⟨_, _, (Option.some.inj h).symm⟩
            · exact Or.inl ⟨_, _, (Option.some.inj h).symm⟩
            · cases hunowned : otherOwner (buildAliasOwnerIndex platform graph) input.entityKey
                  (normalizeAliasKey platform validatedAlias) with
              | some owner =>
                  rw [hunowned] at h
                  exact Or.inl ⟨_, _, (Option.some.inj h).symm⟩
              | none =>
                  rw [hunowned] at h
                  refine Or.inr ⟨entity, validatedAlias, ?_, (Option.some.inj h).symm⟩
                  exact ⟨htime, hfound, hvalid, by simpa using hoverlaps, habsent, hunowned⟩
  · rw [if_neg htime] at h
    cases h

lemma entityKey_of_found {entityKey : String}
    (h : entitiesByKey.find entityKey (entityMap graph) = some entity) :
    entity.entityKey = entityKey :=
  (entitiesByKey.mem_of_find h).2

/-- A validated alias is written as it is. -/
lemma normalizeWhitespace_of_validated {candidateValue : String}
    (h : validateEntityAliasCandidateValue platform candidateValue = some validatedAlias) :
    normalizeWhitespace validatedAlias = validatedAlias := by
  unfold validateEntityAliasCandidateValue at h
  dsimp only at h
  split_ifs at h
  obtain rfl := Option.some.inj h
  exact normalizeWhitespace_idem candidateValue

/-- An alias that shares a term with something has a key. -/
lemma normalizeAliasKey_ne_of_overlap
    (h : hasEntityAliasTermOverlap platform entity validatedAlias = true) :
    normalizeAliasKey platform validatedAlias ≠ "" := by
  intro hempty
  have hterms : getEntityLookupTerms platform validatedAlias [validatedAlias] = [] := by
    have hshort : ¬ 3 ≤ utf16Length (trim (String.ofList [])) := by decide
    have hsplit : "".toList.splitOn ' ' = [[]] := List.splitOn_nil _
    simp only [getEntityLookupTerms, hempty, List.flatMap_cons, List.flatMap_nil, hsplit,
      List.map_cons, List.map_nil, List.append_nil, List.cons_append, List.nil_append]
    simp [hshort, uniqueValues, Comparator.sort]
  rw [hasEntityAliasTermOverlap, hterms] at h
  cases h

/-! ## What a merged list keeps -/

/-- Texts that a merged list can hold side by side. -/
structure FitTogether (platform : GraphPlatform) (texts : List String) (limit : ℕ) : Prop where
  written : ∀ text ∈ texts,
    normalizeWhitespace text = text ∧ normalizeAliasKey platform text ≠ ""
  apart : ∀ text ∈ texts, ∀ other ∈ texts,
    normalizeAliasKey platform text = normalizeAliasKey platform other → text = other
  room : (uniqueValues texts).length ≤ limit

/-- The texts of the map that `mergeStringList` sorts and cuts off. -/
def mergedTexts (platform : GraphPlatform) (texts : List String) : List String :=
  (textsByAliasKey platform).collect [] (keyedTexts platform texts)

lemma distinct_mergedTexts (texts : List String) :
    (textsByAliasKey platform).Distinct (mergedTexts platform texts) :=
  (textsByAliasKey platform).distinct_collect List.nodup_nil

lemma nodup_mergedTexts (texts : List String) : (mergedTexts platform texts).Nodup :=
  (distinct_mergedTexts texts).of_map _

/-- A merged text is a text of the lists, written with single blanks, and has a key. -/
lemma of_mem_mergedTexts {texts : List String} {text : String}
    (h : text ∈ mergedTexts platform texts) :
    (∃ source ∈ texts, normalizeWhitespace source = text) ∧
      normalizeAliasKey platform text ≠ "" := by
  have hkeyed : ∀ merged ∈ mergedTexts platform texts, merged ∈ keyedTexts platform texts :=
    (textsByAliasKey platform).forall_collect (by simp) (fun _ hmem => hmem)
      fun _ _ _ hmem _ => hmem
  obtain ⟨hmem, hkey⟩ := List.mem_filter.mp (hkeyed text h)
  exact ⟨List.mem_map.mp hmem, by simpa using hkey⟩

lemma mem_mergeStringList {left right : List String} {limit : ℚ} {text : String}
    (h : text ∈ mergeStringList platform left right limit) :
    text ∈ mergedTexts platform (left ++ right) :=
  (platform.locale.mem_sort).mp (List.mem_of_mem_take h)

/-- Texts that fit together are merged as they are. -/
lemma mem_mergedTexts_of_fit {texts : List String} {limit : ℕ}
    (h : FitTogether platform texts limit) {text : String} :
    text ∈ mergedTexts platform texts ↔ text ∈ texts := by
  constructor
  · intro hmem
    obtain ⟨⟨source, hsource, hwritten⟩, -⟩ := of_mem_mergedTexts hmem
    rw [← hwritten, (h.written source hsource).1]
    exact hsource
  · intro hmem
    have hkeyed : text ∈ keyedTexts platform texts := by
      obtain ⟨hwritten, hkey⟩ := h.written text hmem
      exact List.mem_filter.mpr ⟨List.mem_map.mpr ⟨text, hmem, hwritten⟩, by simpa using hkey⟩
    have hkeyOf : normalizeAliasKey platform text ∈
        (keyedTexts platform texts).map (textsByAliasKey platform).key :=
      List.mem_map_of_mem hkeyed
    have hkey := ((textsByAliasKey platform).mem_keys_collect [] _).mpr (Or.inr hkeyOf)
    obtain ⟨merged, hmerged, hsame⟩ := List.mem_map.mp hkey
    obtain ⟨⟨source, hsource, hwritten⟩, -⟩ := of_mem_mergedTexts hmerged
    rw [(h.written source hsource).1] at hwritten
    have hsource' : source = text := h.apart source hsource text hmem (hwritten ▸ hsame)
    rw [← hsource', hwritten]
    exact hmerged

/-- Every text is kept exactly where all of them fit together. -/
theorem mergeStringList_keeps_iff (left right : List String) (limit : ℚ) :
    (∀ text ∈ left ++ right, text ∈ mergeStringList platform left right limit) ↔
      FitTogether platform (left ++ right) (boundedLimit limit) := by
  constructor
  · intro hkept
    have hmerged : ∀ text ∈ left ++ right, text ∈ mergedTexts platform (left ++ right) :=
      fun text htext => mem_mergeStringList (hkept text htext)
    refine ⟨fun text htext => ?_, fun text htext other hother hkey => ?_, ?_⟩
    · obtain ⟨⟨source, -, rfl⟩, hkey⟩ := of_mem_mergedTexts (hmerged text htext)
      exact ⟨normalizeWhitespace_idem source, hkey⟩
    · exact (textsByAliasKey platform).eq_of_distinct (distinct_mergedTexts _)
        (hmerged text htext) (hmerged other hother) hkey
    · have hsubset : uniqueValues (left ++ right) ⊆ mergeStringList platform left right limit :=
        fun text htext => hkept text (mem_uniqueValues.mp htext)
      have hle := ((nodup_uniqueValues (left ++ right)).subperm hsubset).length_le
      exact hle.trans (List.length_take_le _ _)
  · intro hfit text htext
    have hsame : (mergedTexts platform (left ++ right)).Perm (uniqueValues (left ++ right)) := by
      refine (List.perm_ext_iff_of_nodup (nodup_mergedTexts _) (nodup_uniqueValues _)).mpr ?_
      intro merged
      rw [mem_mergedTexts_of_fit hfit, mem_uniqueValues]
    have hlength : (platform.locale.sort (mergedTexts platform (left ++ right))).length ≤
        boundedLimit limit := by
      rw [(platform.locale.sort_perm _).length_eq, hsame.length_eq]
      exact hfit.room
    have hwhole : mergeStringList platform left right limit =
        platform.locale.sort (mergedTexts platform (left ++ right)) :=
      List.take_of_length_le hlength
    rw [hwhole, platform.locale.mem_sort, mem_mergedTexts_of_fit hfit]
    exact htext

/-! ## Accepted aliases are kept -/

/-- An accepted alias is stored beside every alias of its entity; a rejection leaves the
entities alone. -/
structure KeepsAliases (graph : EntityGraphV1) (result : Stage686EntityAliasMutationResult) :
    Prop where
  accepted : ∀ acceptedAlias, result.acceptedAlias = some acceptedAlias →
    ∃ target ∈ result.graph.entities, target.entityKey = result.entityKey ∧
      acceptedAlias ∈ target.aliases ∧
      ∀ entity ∈ graph.entities, entity.entityKey = result.entityKey →
        ∀ stored ∈ entity.aliases, stored ∈ target.aliases
  rejected : result.rejectionReason ≠ none → result.graph.entities = graph.entities

/-- There is room for one more alias beside those of the entity. -/
structure HasRoomFor (platform : GraphPlatform) (graph : EntityGraphV1)
    (options : Stage686EntityAliasMutationOptions) (entity : EntityNodeV1)
    (validatedAlias : String) : Prop where
  fit : FitTogether platform (entity.aliases ++ [validatedAlias]) (aliasLimit options)
  /-- An entity that is stored twice has its aliases in the last place. -/
  last : ∀ other ∈ graph.entities, other.entityKey = entity.entityKey →
    ∀ stored ∈ other.aliases, stored ∈ entity.aliases ++ [validatedAlias]

lemma keepsAliases_rejectedAlias (conflicts : List Stage686AliasConflict)
    (reason : AliasRejectionReason) :
    KeepsAliases graph (rejectedAlias graph input conflicts reason) where
  accepted acceptedAlias h := by cases h
  rejected _ := rfl

lemma boundedLimit_natCast_boundedLimit (limit : ℚ) :
    boundedLimit (boundedLimit limit : ℕ) = boundedLimit limit := by
  have hfloor : ⌊((boundedLimit limit : ℕ) : ℚ)⌋ = (boundedLimit limit : ℤ) :=
    Int.floor_natCast _
  unfold boundedLimit at hfloor ⊢
  rw [hfloor, MAX_ENTITY_MAX_ALIASES]
  omega

lemma mem_acceptedAliasResult {other : EntityNodeV1} :
    other ∈ (acceptedAliasResult platform graph input options entity
        validatedAlias).graph.entities ↔
      other ∈ entitiesByKey.upsert (aliasedEntity platform input options entity validatedAlias)
        (entityMap graph) :=
  mem_sortEntityNodes platform

/-- The entity of the accepted alias is the merged one. -/
lemma eq_aliasedEntity {target : EntityNodeV1} (hkey : target.entityKey = entity.entityKey)
    (h : target ∈ (acceptedAliasResult platform graph input options entity
      validatedAlias).graph.entities) :
    target = aliasedEntity platform input options entity validatedAlias := by
  have hdistinct : entitiesByKey.Distinct (entitiesByKey.upsert
      (aliasedEntity platform input options entity validatedAlias) (entityMap graph)) :=
    entitiesByKey.distinct_upsert (entitiesByKey.distinct_collect List.nodup_nil)
  have hfound := entitiesByKey.find_eq_some_of_mem hdistinct (mem_acceptedAliasResult.mp h)
  have hsame : (aliasedEntity platform input options entity validatedAlias).entityKey =
      target.entityKey := hkey.symm
  rw [entitiesByKey_key, find_upsert_entity, if_pos hsame] at hfound
  exact (Option.some.inj hfound).symm

lemma aliasedEntity_mem :
    aliasedEntity platform input options entity validatedAlias ∈
      (acceptedAliasResult platform graph input options entity
        validatedAlias).graph.entities := by
  have hfound : entitiesByKey.find entity.entityKey (entitiesByKey.upsert
      (aliasedEntity platform input options entity validatedAlias) (entityMap graph)) =
        some (aliasedEntity platform input options entity validatedAlias) := by
    rw [find_upsert_entity]
    exact if_pos rfl
  exact mem_acceptedAliasResult.mpr (entitiesByKey.mem_of_find hfound).1

lemma mem_of_found {entityKey : String}
    (h : entitiesByKey.find entityKey (entityMap graph) = some entity) :
    entity ∈ graph.entities :=
  entitiesByKey.forall_collect (by simp) (fun _ hmem => hmem) (fun _ _ _ _ hmem => hmem) entity
    (entitiesByKey.mem_of_find h).1

/-- An alias that is taken is kept with the others exactly where there is room for it. -/
lemma keepsAliases_acceptedAliasResult_iff
    (h : TakesAlias platform graph input entity validatedAlias) :
    KeepsAliases graph (acceptedAliasResult platform graph input options entity validatedAlias) ↔
      HasRoomFor platform graph options entity validatedAlias := by
  have hkey : entity.entityKey = input.entityKey := entityKey_of_found h.found
  have hmerged := @mergeStringList_keeps_iff platform entity.aliases [validatedAlias]
    (aliasLimit options : ℕ)
  have hlimit : boundedLimit (aliasLimit options : ℕ) = aliasLimit options :=
    boundedLimit_natCast_boundedLimit _
  rw [hlimit] at hmerged
  constructor
  · intro hkeeps
    obtain ⟨target, htarget, htargetKey, hstored, hothers⟩ := hkeeps.accepted validatedAlias rfl
    obtain rfl := eq_aliasedEntity (htargetKey.trans hkey.symm) htarget
    have hfit : FitTogether platform (entity.aliases ++ [validatedAlias]) (aliasLimit options) := by
      refine hmerged.mp fun text htext => ?_
      rcases List.mem_append.mp htext with htext | htext
      · exact hothers entity (mem_of_found h.found) hkey text htext
      · obtain rfl := List.mem_singleton.mp htext
        exact hstored
    refine ⟨hfit, fun other hother hotherKey stored hmem => ?_⟩
    have hkept := hothers other hother (hotherKey.trans hkey) stored hmem
    exact (mem_mergedTexts_of_fit hfit).mp (mem_mergeStringList hkept)
  · intro hroom
    have hkept := hmerged.mpr hroom.fit
    refine ⟨fun acceptedAlias haccepted => ?_, fun hreason => absurd rfl hreason⟩
    obtain rfl := Option.some.inj haccepted
    refine ⟨_, aliasedEntity_mem, hkey, hkept _ (by simp), fun other hother hotherKey stored hmem =>
      hkept stored (hroom.last other hother (hotherKey.trans hkey.symm) stored hmem)⟩

/-- Accepted aliases are kept exactly where every alias that is taken has room. -/
theorem acceptedAliases_kept_iff (graph : EntityGraphV1)
    (input : Stage686EntityAliasCandidateInput) (options : Stage686EntityAliasMutationOptions) :
    (∀ result, applyEntityAliasCandidateToGraph platform graph input options = some result →
        KeepsAliases graph result) ↔
      ∀ entity validatedAlias, TakesAlias platform graph input entity validatedAlias →
        HasRoomFor platform graph options entity validatedAlias := by
  constructor
  · intro h entity validatedAlias htakes
    exact (keepsAliases_acceptedAliasResult_iff htakes).mp (h _ htakes.apply_eq)
  · intro h result hresult
    rcases applyEntityAliasCandidateToGraph_cases hresult with
      ⟨conflicts, reason, rfl⟩ | ⟨entity, validatedAlias, htakes, rfl⟩
    · exact keepsAliases_rejectedAlias conflicts reason
    · exact (keepsAliases_acceptedAliasResult_iff htakes).mpr (h entity validatedAlias htakes)

/-! ### Graphs as they are stored -/

/-- An alias that is taken is new to its entity. -/
lemma TakesAlias.fresh (h : TakesAlias platform graph input entity validatedAlias)
    (hgraph : WellKeyed graph.entities) :
    normalizeAliasKey platform validatedAlias ∉ aliasKeys platform entity := by
  intro hmem
  obtain ⟨owner, howner⟩ := exists_lastNamed (mem_of_found h.found) hmem
  have hindex : buildAliasOwnerIndex platform graph (normalizeAliasKey platform validatedAlias) =
      some owner := (buildAliasIndex_apply _ _).trans howner
  have hfree := (otherOwner_eq_none_iff (settled_buildAliasIndex hgraph)).mp h.unowned
  rcases hfree with hnone | hown
  · exact Option.some_ne_none owner (hindex.symm.trans hnone)
  · exact h.absent hown

/-- Where the aliases of an entity are stored in their form and under keys of their own, there
is room below the limit. -/
theorem TakesAlias.hasRoomFor_iff (h : TakesAlias platform graph input entity validatedAlias)
    (hgraph : WellKeyed graph.entities)
    (hwritten : ∀ stored ∈ entity.aliases,
      normalizeWhitespace stored = stored ∧ normalizeAliasKey platform stored ≠ "")
    (hdistinct : (textsByAliasKey platform).Distinct entity.aliases) :
    HasRoomFor platform graph options entity validatedAlias ↔
      entity.aliases.length < aliasLimit options := by
  have hfresh := h.fresh hgraph
  have hnew : (textsByAliasKey platform).Distinct (entity.aliases ++ [validatedAlias]) := by
    have hkeys : ((entity.aliases ++ [validatedAlias]).map (normalizeAliasKey platform)).Nodup := by
      rw [List.map_append, List.nodup_append]
      refine ⟨hdistinct, List.nodup_singleton _, ?_⟩
      rintro key hkey other hother rfl
      rw [List.map_singleton, List.mem_singleton] at hother
      exact hfresh (hother ▸ hkey)
    exact hkeys
  have hlength : (uniqueValues (entity.aliases ++ [validatedAlias])).length =
      entity.aliases.length + 1 := by
    have hnodup : (entity.aliases ++ [validatedAlias]).Nodup := hnew.of_map _
    rw [uniqueValues_of_nodup hnodup, List.length_append, List.length_singleton]
  constructor
  · intro hroom
    have hle := hroom.fit.room
    omega
  · intro hlt
    refine ⟨⟨fun text htext => ?_, fun text htext other hother hkey => ?_, by omega⟩, ?_⟩
    · rcases List.mem_append.mp htext with htext | htext
      · exact hwritten text htext
      · obtain rfl := List.mem_singleton.mp htext
        exact ⟨normalizeWhitespace_of_validated h.valid, normalizeAliasKey_ne_of_overlap h.overlaps⟩
    · exact (textsByAliasKey platform).eq_of_distinct hnew htext hother hkey
    · intro other hother hkey stored hstored
      have hsame : other = entity :=
        entitiesByKey.eq_of_distinct hgraph.distinct hother (mem_of_found h.found) hkey
      rw [hsame] at hstored
      exact List.mem_append_left _ hstored

/-! ### A full entity -/

/-- An entity with as many aliases as it may have. -/
def fullEntity : EntityNodeV1 where
  entityKey := "entity_ada"
  canonicalName := "Ada"
  entityType := .person
  disambiguator := none
  domainHint := none
  aliases := ["ada a", "ada b", "ada c", "ada d", "ada e", "ada f", "ada g", "ada h"]
  firstSeenAt := "2026-01-01"
  lastSeenAt := "2026-01-01"
  salience := 1
  evidenceRefs := []

def fullGraph : EntityGraphV1 where
  updatedAt := "2026-01-01"
  entities := [fullEntity]
  edges := []
  decisionRecords := []

def lateAlias : Stage686EntityAliasCandidateInput where
  entityKey := "entity_ada"
  aliasCandidate := "ada z"
  observedAt := "2026-01-01"
  evidenceRef := "turn 1"

/-- The ninth alias is reported as accepted and cut off. -/
theorem accepted_alias_cut_off :
    ¬ ∀ result, applyEntityAliasCandidateToGraph (GraphPlatform.ofDates [("2026-01-01", 0)])
        fullGraph lateAlias ⟨none⟩ = some result → KeepsAliases fullGraph result := by
  intro h
  have hreported : ∃ result,
      applyEntityAliasCandidateToGraph (GraphPlatform.ofDates [("2026-01-01", 0)]) fullGraph
          lateAlias ⟨none⟩ = some result ∧
        result.acceptedAlias = some "ada z" ∧
        ∀ target ∈ result.graph.entities, "ada z" ∉ target.aliases := by
    decide +kernel
  obtain ⟨result, hresult, haccepted, hmissing⟩ := hreported
  obtain ⟨target, htarget, -, hstored, -⟩ := (h result hresult).accepted _ haccepted
  exact hmissing target htarget hstored

end AgentBigBrain.Core
